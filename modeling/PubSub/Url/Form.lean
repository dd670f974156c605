import PubSub.Url.Percent

/-!
# Option lists

The query of a URL is a list of pairs: an ampersand between two pairs, an equals sign between a name and its value,
a plus sign for a space, and percent-encoded bytes.

* `Url.formPairs`: the pairs of a query.
-/

namespace PubSub.Url

/-- Splits a list at every `sep`. -/
def splitOn (sep : Char) (s : List Char) : List (List Char) :=
  s.foldr (fun c acc =>
    if c = sep then [] :: acc
    else match acc with
      | [] => [[c]]
      | w :: ws => (c :: w) :: ws) [[]]

/-- A name or a value as it is meant. -/
def formDecode (cs : List Char) : String :=
  let spaced := cs.map fun c => if c = '+' then ' ' else c
  Text.ofBytesLossy (percentDecode (bytesOf spaced))

/-- One pair; without an equals sign the value is empty. -/
def formPair (cs : List Char) : String × String :=
  let name := cs.takeWhile (· ≠ '=')
  (formDecode name, formDecode (cs.drop (name.length + 1)))

/-- The pairs of a query, in order; empty stretches between ampersands are none. -/
def formPairs (query : List Char) : List (String × String) :=
  ((splitOn '&' query).filter fun s => !s.isEmpty).map formPair

end PubSub.Url
