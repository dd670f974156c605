import PubSub.Bytes
import PubSub.Text.Decimal
import PubSub.Unicode.CharSet

/-!
# Internet addresses

* `Ipv4.ofDotted?`: four decimal numbers below 256 without leading zeros.
* `Ipv4.ofHost?`: the forms that a host may have: up to four numbers, each decimal, octal or hexadecimal, the last
  one filling the bytes that are left.
* `Ipv6.ofText?`, `Ipv6.text`: eight words in hexadecimal, with one stretch of zeros left out.
-/

namespace PubSub.Url

open Unicode.CharSet (hexDigit? splitAt)

/-! ## Version 4 -/

/-- An address of four bytes. -/
structure Ipv4 where
  /-- The address as a number, its first byte the most significant. -/
  value : UInt32
  deriving DecidableEq, Inhabited

namespace Ipv4

/-- The four bytes. -/
def bytes (a : Ipv4) : List UInt8 := Bytes.digits 4 a.value.toNat

/-- Four decimal numbers with points between them. -/
def text (a : Ipv4) : String :=
  String.intercalate "." (a.bytes.map fun b => toString b.toNat)

/-- Whether the address names a group of hosts. -/
def isMulticast (a : Ipv4) : Bool :=
  let first := a.value.toNat / Bytes.span 3
  224 ≤ first && first ≤ 239

/-- A decimal number below 256 without leading zeros. -/
def octet? (cs : List Char) : Option Nat :=
  if cs.length ≤ 3 ∧ (cs.head? ≠ some '0' ∨ cs.length = 1) then (Text.digits? cs).filter (· < 256) else none

/-- Four such numbers with points between them. -/
def ofDotted? (s : String) : Option Ipv4 :=
  match (splitAt '.' s.toList).map octet? with
  | [some a, some b, some c, some d] => some ⟨UInt32.ofNat (((a * 256 + b) * 256 + c) * 256 + d)⟩
  | _ => none

/-- A number as it may stand in a host: `0x` before hexadecimal digits, `0` before octal ones. -/
def number? (cs : List Char) : Option Nat :=
  let value (base : Nat) (ds : List Char) : Option Nat :=
    ds.foldl (fun v c => do
      let v ← v
      let d ← hexDigit? c
      if d < base then some (v * base + d) else none) (some 0)
  match cs with
  | [] => none
  | '0' :: 'x' :: ds => value 16 ds
  | '0' :: 'X' :: ds => value 16 ds
  | '0' :: ds => value 8 ds
  | ds => value 10 ds

/-- The parts of a host between its points; one point at the end is nothing. -/
def parts (host : List Char) : List (List Char) :=
  let ps := splitAt '.' host
  if ps.getLast? = some [] then ps.dropLast else ps

/-- Whether the last part of a host is a number, so that the host is to be an address. -/
def endsInNumber (host : List Char) : Bool :=
  match (parts host).getLast? with
  | none => false
  | some last => (last ≠ [] && last.all Text.isDigit) || (number? last).isSome

/-- The address that a host writes. -/
def ofHost? (host : List Char) : Option Ipv4 := do
  let ps := parts host
  let numbers ← ps.mapM number?
  let last ← numbers.getLast?
  let first := numbers.dropLast
  if 3 < first.length ∨ Bytes.span (4 - first.length) ≤ last ∨ first.any (fun n => 255 < n) then none
  else
    let high := first.foldl (fun v n => v * 256 + n) 0
    some ⟨UInt32.ofNat (high * Bytes.span (4 - first.length) + last)⟩

end Ipv4

/-! ## Version 6 -/

/-- An address of eight words. -/
structure Ipv6 where
  /-- The words, the first one the most significant. -/
  words : List Nat
  deriving DecidableEq, Inhabited

namespace Ipv6

/-- The words read so far, the last one first, and how many of them came before the stretch that is left out. That
stretch has at least one word, which is counted with those before it. -/
structure Reading where
  /-- The words, the last one first. -/
  words : List Nat := []
  /-- The number of words up to the first one left out. -/
  gap : Option Nat := none

/-- Up to four hexadecimal digits: their value and what follows them. -/
def takeWord : Nat → Nat → List Char → Nat × List Char
  | 0, v, cs => (v, cs)
  | _ + 1, v, [] => (v, [])
  | n + 1, v, c :: cs =>
    match hexDigit? c with
    | some d => takeWord n (v * 16 + d) cs
    | none => (v, c :: cs)

theorem length_takeWord_le (n v : Nat) (cs : List Char) : (takeWord n v cs).2.length ≤ cs.length := by
  induction n generalizing v cs with
  | zero => exact Nat.le_refl _
  | succ n ih =>
    cases cs with
    | nil => exact Nat.le_refl _
    | cons c cs =>
      unfold takeWord
      split
      · exact Nat.le_succ_of_le (ih _ _)
      · exact Nat.le_refl _

/-- The last two words, written as a dotted address. -/
def tail (r : Reading) (cs : List Char) : Option Reading :=
  match (splitAt '.' cs).map Ipv4.octet? with
  | [some a, some b, some c, some d] =>
    if r.words.length ≤ 6 then some { r with words := (c * 256 + d) :: (a * 256 + b) :: r.words } else none
  | _ => none

/-- Reads the rest of an address. -/
def read (r : Reading) (cs : List Char) : Option Reading :=
  match cs with
  | [] => some r
  | c :: rest =>
    if r.words.length = 8 then none
    else if c = ':' then
      if r.gap.isSome then none
      else read { words := 0 :: r.words, gap := some (r.words.length + 1) } rest
    else
      let word := takeWord 4 0 (c :: rest)
      match _h : word.2 with
      | [] => if (hexDigit? c).isSome then some { r with words := word.1 :: r.words } else none
      | ':' :: more =>
        if more = [] then none
        else if (hexDigit? c).isSome then read { r with words := word.1 :: r.words } more
        else none
      | '.' :: _ => if (hexDigit? c).isSome then tail r (c :: rest) else none
      | _ :: _ => none
termination_by cs.length
decreasing_by
  · simp
  · have hl := length_takeWord_le 4 0 (c :: rest)
    have hw : (takeWord 4 0 (c :: rest)).2 = ':' :: more := _h
    rw [hw] at hl
    simp only [List.length_cons] at hl ⊢
    omega

/-- The eight words of a reading: the words left out are zeros. -/
def Reading.finish (r : Reading) : Option Ipv6 :=
  let words := r.words.reverse
  match r.gap with
  | none => if words.length = 8 then some ⟨words⟩ else none
  | some g =>
    if words.length ≤ 8 then some ⟨words.take g ++ List.replicate (8 - words.length) 0 ++ words.drop g⟩ else none

/-- Reads an address. -/
def ofText? (cs : List Char) : Option Ipv6 :=
  match cs with
  | [] => none
  | [_] => none
  | ':' :: ':' :: rest => (read { words := [0], gap := some 1 } rest).bind Reading.finish
  | ':' :: _ => none
  | _ => (read {} cs).bind Reading.finish

/-- The length of the stretch of zeros at the start of a list. -/
def zeroRun (ws : List Nat) : Nat := (ws.takeWhile (· == 0)).length

/-- Where the longest stretch of zeros starts, the first one of several, and its length. -/
def longestZeros (ws : List Nat) : Nat × Nat :=
  (List.range ws.length).foldl (fun best i =>
    let run := zeroRun (ws.drop i)
    if best.2 < run then (i, run) else best) (0, 0)

/-- Words in hexadecimal with colons between them. -/
def wordsText (ws : List Nat) : String :=
  String.intercalate ":" (ws.map fun w => String.ofList (Nat.toDigits 16 w))

/-- The address with its longest stretch of two or more zeros left out. -/
def text (a : Ipv6) : String :=
  let (start, run) := longestZeros a.words
  if run < 2 then wordsText a.words
  else wordsText (a.words.take start) ++ "::" ++ wordsText (a.words.drop (start + run))

end Ipv6
end PubSub.Url
