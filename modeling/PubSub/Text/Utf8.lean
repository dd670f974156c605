/-!
# Reading bytes as text

Bytes that are not UTF-8 are read with the replacement character U+FFFD in the place of each longest stretch that
begins a character and is not finished, or of a byte that begins none.

* `Text.step`: the first character of a list of bytes, or the stretch to be replaced.
* `Text.ofBytesLossy`: the text of a list of bytes.
-/

namespace PubSub.Text

/-- The replacement character. -/
def replacement : Char := '\ufffd'

/-- Whether `b` continues a character. -/
def isContinuation (b : UInt8) : Bool := 0x80 ≤ b && b ≤ 0xBF

/-- For the first byte of a character: how many bytes follow it, the bits it gives to the code point, and the
bounds on the byte after it, which keep out long forms, surrogates and numbers that are no code points. -/
def lead? (b : UInt8) : Option (Nat × Nat × UInt8 × UInt8) :=
  if b < 0x80 then some (0, b.toNat, 0x80, 0xBF)
  else if 0xC2 ≤ b ∧ b ≤ 0xDF then some (1, b.toNat - 0xC0, 0x80, 0xBF)
  else if b = 0xE0 then some (2, 0, 0xA0, 0xBF)
  else if b = 0xED then some (2, 0xD, 0x80, 0x9F)
  else if 0xE1 ≤ b ∧ b ≤ 0xEF then some (2, b.toNat - 0xE0, 0x80, 0xBF)
  else if b = 0xF0 then some (3, 0, 0x90, 0xBF)
  else if 0xF1 ≤ b ∧ b ≤ 0xF3 then some (3, b.toNat - 0xF0, 0x80, 0xBF)
  else if b = 0xF4 then some (3, 4, 0x80, 0x8F)
  else none

/-- Reads up to `n` more bytes of a character, the first of them between `lo` and `hi`. Gives the character, or the
replacement character where a byte is missing, and what is left. -/
def follow (n code : Nat) (lo hi : UInt8) (bs : List UInt8) : Char × List UInt8 :=
  match n, bs with
  | 0, bs => (Char.ofNat code, bs)
  | _ + 1, [] => (replacement, [])
  | n + 1, b :: rest =>
    if lo ≤ b ∧ b ≤ hi then follow n (code * 64 + (b.toNat - 0x80)) 0x80 0xBF rest
    else (replacement, b :: rest)

/-- The first character, or the replacement character for bytes that form none, and what is left. -/
def step (b : UInt8) (rest : List UInt8) : Char × List UInt8 :=
  match lead? b with
  | none => (replacement, rest)
  | some (n, code, lo, hi) => follow n code lo hi rest

theorem length_follow_le (n code : Nat) (lo hi : UInt8) (bs : List UInt8) :
    (follow n code lo hi bs).2.length ≤ bs.length := by
  induction n generalizing code lo hi bs with
  | zero => simp [follow]
  | succ n ih =>
    cases bs with
    | nil => simp [follow]
    | cons b rest =>
      unfold follow
      split
      · exact Nat.le_succ_of_le (ih _ _ _ _)
      · exact Nat.le_refl _

theorem length_step_le (b : UInt8) (rest : List UInt8) : (step b rest).2.length ≤ rest.length := by
  unfold step
  split
  · exact Nat.le_refl _
  · exact length_follow_le _ _ _ _ _

/-- The characters of a list of bytes. -/
def charsOfBytes : List UInt8 → List Char
  | [] => []
  | b :: rest => (step b rest).1 :: charsOfBytes (step b rest).2
termination_by bs => bs.length
decreasing_by exact Nat.lt_succ_of_le (length_step_le b rest)

/-- The text of a list of bytes. -/
def ofBytesLossy (bs : List UInt8) : String := String.ofList (charsOfBytes bs)

/-- The text of a byte string. -/
def ofByteArrayLossy (b : ByteArray) : String :=
  match String.fromUTF8? b with
  | some s => s
  | none => ofBytesLossy b.data.toList

end PubSub.Text
