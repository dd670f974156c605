import PubSub.Text.Utf8

/-!
# Percent-encoding

A byte may be written as a percent sign and two hexadecimal digits.

* `Url.percentEncode`: writes the bytes of a text, those of the given characters so encoded.
* `Url.percentDecode`: reads encoded bytes back; a percent sign without two digits stands for itself.
-/

namespace PubSub.Url

/-- The upper-case hexadecimal digit of `n`, below 16. -/
def upperHexDigit (n : Nat) : Char :=
  if n < 10 then Char.ofNat (48 + n) else Char.ofNat (55 + n)

/-- A byte as a percent sign and two digits. -/
def encodeByte (b : UInt8) : List Char :=
  ['%', upperHexDigit (b.toNat / 16), upperHexDigit (b.toNat % 16)]

/-- Control characters and all beyond ASCII, which are encoded everywhere. -/
def isControlOrHigh (c : Char) : Bool := c < ' ' || '~' < c

/-- The characters encoded in a path: controls, high characters, spaces, quotes and some brackets. -/
def isPathEncoded (c : Char) : Bool :=
  isControlOrHigh c || c == ' ' || c == '"' || c == '<' || c == '>' || c == '\x60' ||
    c == '#' || c == '?' || c == '\x7b' || c == '\x7d'

/-- One character, encoded where `test` says so. -/
def encodeChar (test : Char → Bool) (c : Char) : List Char :=
  if test c then c.toString.toUTF8.data.toList.flatMap encodeByte else [c]

/-- A text with the characters that pass `test` encoded. -/
def percentEncode (test : Char → Bool) (cs : List Char) : List Char :=
  cs.flatMap (encodeChar test)

/-- The value of a byte that is a hexadecimal digit. -/
def byteHexDigit? (b : UInt8) : Option UInt8 :=
  if 48 ≤ b ∧ b ≤ 57 then some (b - 48)
  else if 97 ≤ b ∧ b ≤ 102 then some (b - 87)
  else if 65 ≤ b ∧ b ≤ 70 then some (b - 55)
  else none

/-- The bytes that encoded bytes stand for. -/
def percentDecode : List UInt8 → List UInt8
  | [] => []
  | [b] => [b]
  | [b, c] => [b, c]
  | b :: c :: d :: rest =>
    if b = 37 then
      match byteHexDigit? c, byteHexDigit? d with
      | some h, some l => (h * 16 + l) :: percentDecode rest
      | _, _ => b :: percentDecode (c :: d :: rest)
    else b :: percentDecode (c :: d :: rest)
termination_by bs => bs.length

/-- The UTF-8 bytes of a list of characters. -/
def bytesOf (cs : List Char) : List UInt8 := (String.ofList cs).toUTF8.data.toList

end PubSub.Url
