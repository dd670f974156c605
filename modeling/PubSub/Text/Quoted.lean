import PubSub.Unicode.Property

/-!
# Quoted text

Text inside messages for people is put between double quotes. Quotes and backslashes are escaped, the common
control characters have letter escapes, and every other character that would not show by itself, or would
change the look of its neighbour, is written as its code point in hexadecimal digits between braces.

* `Text.isPrintable`: whether a character shows by itself.
* `Text.quoted`: the quoted form of a text.
-/

namespace PubSub.Text

open Unicode

/-- Whether a character shows by itself: it is assigned, and neither a control, a format character nor, the
space apart, a separator. -/
def isPrintable (c : Char) : Bool :=
  let k := Category.ofChar c
  c == ' ' || !(k.major == 'C' || k.major == 'Z')

/-- The lower-case hexadecimal digits of `n`, without leading zeros. -/
def hexDigits (n : Nat) : List Char := Nat.toDigits 16 n

/-- The escape of a character by its code point. -/
def codePointEscape (c : Char) : List Char :=
  ['\\', 'u', '{'] ++ hexDigits c.toNat ++ ['}']

/-- How one character is written between the quotes. -/
def quotedChar (c : Char) : List Char :=
  if c = '\x00' then ['\\', '0']
  else if c = '\t' then ['\\', 't']
  else if c = '\r' then ['\\', 'r']
  else if c = '\n' then ['\\', 'n']
  else if c = '"' then ['\\', '"']
  else if c = '\\' then ['\\', '\\']
  else if ' ' ≤ c ∧ c ≤ '~' then [c]
  else if isPrintable c && !Property.graphemeExtend.contains c then [c]
  else codePointEscape c

/-- `s` between double quotes, with what does not show escaped. -/
def quoted (s : String) : String :=
  String.ofList ('"' :: s.toList.flatMap quotedChar ++ ['"'])

end PubSub.Text
