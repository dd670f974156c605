/-!
# Sets of characters

A set of characters is a sorted list of inclusive, disjoint, non-adjacent ranges of code points. Sets are
built from arbitrary ranges by `CharSet.ofRanges`, which brings them into this form, so the set operations
below may assume it.

* `CharSet.contains`: membership, by binary search.
* `CharSet.union`, `CharSet.inter`, `CharSet.compl`, `CharSet.diff`, `CharSet.symmDiff`.
* `CharSet.ofHex`: reads a set from a table such as `9-d 20 85`.
-/

namespace PubSub.Unicode

/-- The largest code point. -/
def maxCodePoint : Nat := 0x10FFFF

/-- Sorted, disjoint, non-adjacent inclusive ranges of code points. -/
structure CharSet where
  /-- The ranges, lowest first. -/
  ranges : Array (Nat × Nat)
  deriving BEq, Inhabited

namespace CharSet

/-! ## Membership -/

/-- Whether `c` lies in one of the ranges numbered `lo` up to, not including, `hi`. -/
def search (ranges : Array (Nat × Nat)) (c lo hi : Nat) : Bool :=
  if lo < hi then
    let mid := (lo + hi) / 2
    match ranges[mid]? with
    | none => false
    | some (a, b) =>
      if c < a then search ranges c lo mid
      else if b < c then search ranges c (mid + 1) hi
      else true
  else false
termination_by hi - lo

/-- Whether the code point `c` is in the set. -/
def containsNat (s : CharSet) (c : Nat) : Bool :=
  search s.ranges c 0 s.ranges.size

/-- Whether the character `c` is in the set. -/
def contains (s : CharSet) (c : Char) : Bool :=
  s.containsNat c.toNat

/-! ## Construction -/

/-- Joins neighbours of a list of ranges sorted by lower end. -/
def mergeSorted : List (Nat × Nat) → List (Nat × Nat)
  | [] => []
  | [r] => [r]
  | (a, b) :: (c, d) :: rest =>
    if c ≤ b + 1 then mergeSorted ((a, max b d) :: rest)
    else (a, b) :: mergeSorted ((c, d) :: rest)
termination_by l => l.length

/-- The set of all code points in some of the given ranges; a range whose ends are out of order is empty. -/
def ofRanges (rs : List (Nat × Nat)) : CharSet :=
  let sorted := (rs.filter fun r => r.1 ≤ r.2).mergeSort fun r s => r.1 ≤ s.1
  ⟨(mergeSorted sorted).toArray⟩

/-- The empty set. -/
def empty : CharSet := ⟨#[]⟩

/-- Every code point. -/
def all : CharSet := ⟨#[(0, maxCodePoint)]⟩

/-- The set of one character. -/
def singleton (c : Char) : CharSet := ⟨#[(c.toNat, c.toNat)]⟩

/-- The characters from `a` to `b`. -/
def range (a b : Char) : CharSet := ofRanges [(a.toNat, b.toNat)]

/-- Whether the set has no member. -/
def isEmpty (s : CharSet) : Bool := s.ranges.isEmpty

/-! ## Operations -/

/-- The code points in `s` or in `t`. -/
def union (s t : CharSet) : CharSet := ofRanges (s.ranges.toList ++ t.ranges.toList)

/-- The gaps of a sorted list of ranges, from `lo` on. -/
def gaps (lo : Nat) : List (Nat × Nat) → List (Nat × Nat)
  | [] => if lo ≤ maxCodePoint then [(lo, maxCodePoint)] else []
  | (a, b) :: rest => if lo < a then (lo, a - 1) :: gaps (b + 1) rest else gaps (b + 1) rest

/-- The code points that are not in `s`. -/
def compl (s : CharSet) : CharSet := ⟨(gaps 0 s.ranges.toList).toArray⟩

/-- The code points in both `s` and `t`. -/
def inter (s t : CharSet) : CharSet := (s.compl.union t.compl).compl

/-- The code points in `s` but not in `t`. -/
def diff (s t : CharSet) : CharSet := s.inter t.compl

/-- The code points in exactly one of `s` and `t`. -/
def symmDiff (s t : CharSet) : CharSet := (s.union t).diff (s.inter t)

/-- The union of a list of sets. -/
def unions (ss : List CharSet) : CharSet := ofRanges (ss.flatMap fun s => s.ranges.toList)

/-! ## Tables -/

/-- The value of a hexadecimal digit. -/
def hexDigit? (c : Char) : Option Nat :=
  if '0' ≤ c ∧ c ≤ '9' then some (c.toNat - 48)
  else if 'a' ≤ c ∧ c ≤ 'f' then some (c.toNat - 87)
  else if 'A' ≤ c ∧ c ≤ 'F' then some (c.toNat - 55)
  else none

/-- The number that the hexadecimal digits of `s` write; other characters are passed over. -/
def hexValue (s : List Char) : Nat :=
  s.foldl (fun v c => match hexDigit? c with | some d => v * 16 + d | none => v) 0

/-- Splits a list at every `sep`. -/
def splitAt (sep : Char) (s : List Char) : List (List Char) :=
  s.foldr (fun c acc =>
    if c = sep then [] :: acc
    else match acc with
      | [] => [[c]]
      | w :: ws => (c :: w) :: ws) [[]]

/-- One entry of a table: `a-b`, or `a` for a range of one. -/
def hexRange (s : List Char) : Nat × Nat :=
  match splitAt '-' s with
  | [a, b] => (hexValue a, hexValue b)
  | _ => (hexValue s, hexValue s)

/-- The set written as ranges of hexadecimal code points with a space between two of them. -/
def ofHex (table : String) : CharSet :=
  ofRanges (((splitAt ' ' table.toList).filter fun w => !w.isEmpty).map hexRange)

end CharSet
end PubSub.Unicode
