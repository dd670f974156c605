import PubSub.Text.Decimal

/-!
# Labels beyond ASCII

A label of a domain name that is not in ASCII is written with its ASCII characters first, then a hyphen, then the
others as numbers: for each, in the order of code points, how many insertions are passed over since the last one.
The numbers have digits of varying weight, and the weights adapt to the numbers seen.

* `Punycode.encode`: the ASCII form of a label.
* `Punycode.decode?`: the label of an ASCII form.
-/

namespace PubSub.Url.Punycode

/-- The character of a digit below 36. -/
def digitChar (d : Nat) : Char := if d < 26 then Char.ofNat (97 + d) else Char.ofNat (22 + d)

/-- The digit of a character. -/
def digitValue? (c : Char) : Option Nat :=
  if 'a' ≤ c ∧ c ≤ 'z' then some (c.toNat - 97)
  else if 'A' ≤ c ∧ c ≤ 'Z' then some (c.toNat - 65)
  else if Text.isDigit c then some (c.toNat - 22)
  else none

/-- The least digit that does not end a number, at place `k`. -/
def threshold (k bias : Nat) : Nat := if k ≤ bias then 1 else min (k - bias) 26

/-- Divides by 35 until at most 455 is left, adding 36 for each division. -/
def reduceDelta (delta k : Nat) : Nat × Nat :=
  if 455 < delta then reduceDelta (delta / 35) (k + 36) else (delta, k)
termination_by delta
decreasing_by exact Nat.div_lt_self (by omega) (by omega)

/-- The bias after the number `delta`, when `count` characters are in place. -/
def adapt (delta count : Nat) (first : Bool) : Nat :=
  let d := if first then delta / 700 else delta / 2
  let (d, k) := reduceDelta (d + d / count) 0
  k + 36 * d / (d + 38)

/-- A number in digits from place `k` on. -/
def writeNumber (bias k q : Nat) : List Char :=
  let t := threshold k bias
  if q < t then [digitChar q]
  else digitChar (t + (q - t) % (36 - t)) :: writeNumber bias (k + 36) ((q - t) / (36 - t))
termination_by q
decreasing_by
  have ht : 1 ≤ threshold k bias := by unfold threshold; split <;> omega
  exact Nat.lt_of_le_of_lt (Nat.div_le_self _ _) (by omega)

/-- What the writing of one code point after the other goes on with. -/
structure Writer where
  /-- What is written. -/
  out : List Char
  /-- The insertions passed over since the last number. -/
  delta : Nat
  /-- The bias for the next number. -/
  bias : Nat
  /-- How many characters are in place. -/
  placed : Nat

/-- Passes one character of the label while code point `m` is written. -/
def Writer.pass (basic m : Nat) (w : Writer) (c : Char) : Writer :=
  if c.toNat < m then { w with delta := w.delta + 1 }
  else if c.toNat = m then
    { out := w.out ++ writeNumber w.bias 36 w.delta
      delta := 0
      bias := adapt w.delta (w.placed + 1) (w.placed = basic)
      placed := w.placed + 1 }
  else w

/-- The ASCII form of a label, without the mark before it. -/
def encode (label : List Char) : List Char :=
  let basic := label.filter fun c => c.toNat < 128
  let points := ((label.filter fun c => 128 ≤ c.toNat).map Char.toNat).mergeSort.eraseDups
  let start : Writer := { out := [], delta := 0, bias := 72, placed := basic.length }
  let done := points.foldl (fun (s : Writer × Nat) m =>
    let w := { s.1 with delta := s.1.delta + (m - s.2) * (s.1.placed + 1) }
    let w := label.foldl (Writer.pass basic.length m) w
    ({ w with delta := w.delta + 1 }, m + 1)) (start, 128)
  (if basic.isEmpty then [] else basic ++ ['-']) ++ done.1.out

/-- Reads a number from place `k` on: its value and what follows. -/
def readNumber (bias k weight value : Nat) : List Char → Option (Nat × List Char)
  | [] => none
  | c :: rest =>
    match digitValue? c with
    | none => none
    | some d =>
      let t := threshold k bias
      let value := value + d * weight
      if d < t then some (value, rest) else readNumber bias (k + 36) (weight * (36 - t)) value rest

theorem length_readNumber_lt {bias k weight value : Nat} {cs : List Char} {r : Nat × List Char}
    (h : readNumber bias k weight value cs = some r) : r.2.length < cs.length := by
  induction cs generalizing k weight value with
  | nil => simp [readNumber] at h
  | cons c rest ih =>
    unfold readNumber at h
    split at h
    · cases h
    · dsimp only at h
      split at h
      · cases h; exact Nat.lt_succ_self _
      · exact Nat.lt_succ_of_lt (ih h)

/-- Puts the characters that the numbers in `cs` tell into `out`. -/
def readNumbers (out : List Char) (code place bias : Nat) (cs : List Char) : Option (List Char) :=
  match cs with
  | [] => some out
  | c :: rest =>
    match _h : readNumber bias 36 1 0 (c :: rest) with
    | none => none
    | some (value, rest') =>
      let count := out.length + 1
      let total := place + value
      let code := code + total / count
      if code.isValidChar then
        let spot := total % count
        readNumbers (out.take spot ++ [Char.ofNat code] ++ out.drop spot) code (spot + 1)
          (adapt value count (place = 0)) rest'
      else none
termination_by cs.length
decreasing_by exact length_readNumber_lt _h

/-- The label of an ASCII form without the mark before it. A hyphen without ASCII characters before it is no digit. -/
def decode? (cs : List Char) : Option (List Char) :=
  match cs.reverse.span (· ≠ '-') with
  | (numbers, []) => readNumbers [] 128 0 72 numbers.reverse
  | (_, [_]) => none
  | (numbers, _ :: basic) => readNumbers basic.reverse 128 0 72 numbers.reverse

end PubSub.Url.Punycode
