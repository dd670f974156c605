import Std.Data.HashSet
import PubSub.Pattern.Expr

/-!
# The size of a pattern

A pattern is held to a size, counted on an automaton that reads the bytes of a name from its end to its start: 32 bytes
for each state and 4 for each way out of a state with several. Repetitions count as often as they repeat.

* `ByteRow`: characters with UTF-8 forms of one pattern.
* `Expr.size`: the size of an expression.
-/

namespace PubSub.Pattern

open Unicode (CharSet)

/-- A range of bytes for each place of a UTF-8 form. -/
abbrev ByteRow := List (Nat × Nat)

namespace ByteRow

/-- The bytes of the UTF-8 form of a code point, leading byte first. -/
def utf8 (c : Nat) : List Nat :=
  if c < 0x80 then [c]
  else if c < 0x800 then [0xC0 + c / 64, 0x80 + c % 64]
  else if c < 0x10000 then [0xE0 + c / 4096, 0x80 + c / 64 % 64, 0x80 + c % 64]
  else [0xF0 + c / 262144, 0x80 + c / 4096 % 64, 0x80 + c / 64 % 64, 0x80 + c % 64]

/-- The places where a range of code points is cut so that the forms in it differ, from some byte on, in all ways: the
last code point of the first part. `places` are the numbers of code points that share all bytes but the last ones. -/
def cut? (a b : Nat) : (places : List Nat) → Option Nat
  | [] => none
  | p :: rest =>
    if a / p = b / p then cut? a b rest
    else if a % p ≠ 0 then some (a / p * p + (p - 1))
    else if b % p ≠ p - 1 then some (b / p * p - 1)
    else cut? a b rest

/-- The lengths of forms change after these code points. -/
def lengthEnds : List Nat := [0x7F, 0x7FF, 0xFFFF]

/-- Cuts a range of code points into rows; `n` cuts at most. -/
def ofRange : (n : Nat) → (a b : Nat) → List ByteRow
  | 0, _, _ => []
  | n + 1, a, b =>
    let places := if b < 0x80 then [] else [64, 4096, 262144]
    match (lengthEnds.find? fun e => a ≤ e && e < b).or (cut? a b places) with
    | some e => ofRange n a e ++ ofRange n (e + 1) b
    | none => [(utf8 a).zip (utf8 b)]

/-- No range needs more cuts, one inside another. -/
def maxCuts : Nat := 24

/-- The rows of a set of characters. -/
def ofSet (s : CharSet) : List ByteRow :=
  let surrogates : CharSet := ⟨#[(0xD800, 0xDFFF)]⟩
  (s.diff surrogates).ranges.toList.flatMap fun r => ofRange maxCuts r.1 r.2

/-- All beginnings of rows, each once. -/
def beginnings (rows : List ByteRow) : Std.HashSet ByteRow :=
  rows.foldl (fun found row => (List.range row.length).foldl (fun found i => found.insert (row.take (i + 1))) found) ∅

end ByteRow

/-- The bytes of a state. -/
def stateSize : Nat := 32

/-- The bytes of a way out of a state with several. -/
def wayOutSize : Nat := 4

/-- The bytes of a way out by a byte. -/
def byteStepSize : Nat := 8

/-- The size of a set of characters. -/
def setSize (s : CharSet) : Nat :=
  match s.ranges.toList with
  | [] => stateSize
  | [(a, b)] =>
    if a = b then (ByteRow.utf8 a).length * stateSize
    else if b < 0x80 then 2 * stateSize
    else highSetSize
  | rs =>
    if rs.all fun r => r.2 < 0x80 then 2 * stateSize + rs.length * byteStepSize
    else highSetSize
where
  /-- The size of a set with characters beyond ASCII. -/
  highSetSize : Nat :=
    let rows := ByteRow.ofSet s
    2 * stateSize + rows.length * wayOutSize + (ByteRow.beginnings rows).size * stateSize

/-- The size of an expression. -/
def Expr.size : Expr → Nat
  | .empty => stateSize
  | .set s => setSize s
  | .look _ => stateSize
  | .cat a b => a.size + b.size
  | .alt a b => a.size + b.size + 2 * stateSize + 2 * wayOutSize
  | .rep e least most =>
    let fork := stateSize + 2 * wayOutSize
    match most with
    | none => max least 1 * e.size + fork
    | some m =>
      if m ≤ least then max (least * e.size) stateSize
      else least * e.size + (m - least) * (e.size + fork) + stateSize

end PubSub.Pattern
