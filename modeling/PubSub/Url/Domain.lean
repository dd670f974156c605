import PubSub.Unicode.Category
import PubSub.Unicode.Direction
import PubSub.Unicode.Folding
import PubSub.Unicode.Joining
import PubSub.Url.Form
import PubSub.Url.Percent
import PubSub.Url.Punycode

/-!
# Domain names

A domain name is brought to ASCII: its characters are folded and put together, and each label beyond ASCII gets its
ASCII form behind the mark `xn--`. A label that already has the mark must be such a form. No table is asked about a
character of ASCII.

* `Domain.mapChar?`: what becomes of one character.
* `Domain.isLabel`: whether a label beyond ASCII can stand in a domain name.
* `Domain.toAscii?`: the ASCII form of a domain name.
-/

namespace PubSub.Url.Domain

open Unicode

/-- The ASCII characters that no domain name may hold. -/
def isForbidden (c : Char) : Bool :=
  c ≤ ' ' || c == '\x7f' || "%#/:<>?@[\\]^|".toList.contains c

/-- The mark before the ASCII form of a label. -/
def mark : List Char := ['x', 'n', '-', '-']

/-- Whether a character is beyond ASCII. -/
def isHigh (c : Char) : Bool := 128 ≤ c.toNat

/-! ## Characters -/

/-- Characters that are kept although folding would change them: they tell words apart. -/
def kept : List Char := ['ß', 'ς', Joining.nonJoiner, Joining.joiner]

/-- Characters that are left out. -/
def ignored : CharSet := CharSet.ofHex "ad 34f 180b-180d 180f 200b 2060 2064 fe00-fe0f feff e0100-e01ef"

/-- Characters that are refused although their category is not. -/
def refused : CharSet := CharSet.ofHex "2ff0-2fff fffc-fffd"

/-- The groups of categories that may stand in domain names. -/
def groups : List Char := ['L', 'M', 'N', 'P', 'S']

/-- Whether a character beyond ASCII that folding leaves alone may stand in a domain name. -/
def isAllowed (c : Char) : Bool := groups.contains (Category.ofChar c).major && !refused.contains c

/-- The ideographic full stop. -/
def ideographicStop : Char := '\u3002'

/-- The full stop that is as wide as an ideograph. -/
def wideStop : Char := '\uff0e'

/-- The capital of a letter that is kept. -/
def capitalSharpS : Char := 'ẞ'

/-- What becomes of a character; nothing if it may not stand in a domain name. No characters but the other full stops
go to full stops. -/
def mapChar? (c : Char) : Option (List Char) :=
  if !isHigh c then some [c.toLower]
  else if kept.contains c then some [c]
  else if c = capitalSharpS then some ['ß']
  else if ignored.contains c then some []
  else
    let folded := Folding.fold c
    if folded = [ideographicStop] ∨ c = wideStop then some ['.']
    else if folded.contains '.' then none
    else
      match folded with
      | [] => none
      | [d] => if d = c then if isAllowed c then some [c] else none else some [d]
      | folded => some folded

/-- A text with its characters put together; one of ASCII has nothing to put together. -/
def compose (text : List Char) : List Char := if text.any isHigh then Composition.normalize text else text

/-- What becomes of a text. -/
def map? (text : List Char) : Option (List Char) :=
  (text.mapM mapChar?).map fun cs => compose cs.flatten

/-! ## Labels -/

/-- Whether a label begins as words do, not with a mark that belongs to a character before it. -/
def startsWell : List Char → Bool
  | [] => true
  | c :: _ => (Category.ofChar c).major != 'M'

/-- Whether a label can stand in a domain name. -/
def isLabel (label : List Char) : Bool := startsWell label && Joining.isMeaningful label

/-- Whether a label is one that mapping leaves as it is. -/
def isStable (label : List Char) : Bool :=
  !label.contains '.' && !label.any isForbidden && map? label == some label

/-- A label as it is read, and as it is written in ASCII. -/
structure Label where
  plain : List Char
  ascii : List Char

/-- Reads a label of a text that has been mapped. -/
def readLabel? (label : List Char) : Option Label :=
  if label.take 4 = mark then
    match Punycode.decode? (label.drop 4) with
    | none => none
    | some plain => if plain.any isHigh && isStable plain && isLabel plain then some ⟨plain, label⟩ else none
  else if label.any isHigh then
    if isLabel label then some ⟨label, mark ++ Punycode.encode label⟩ else none
  else some ⟨label, label⟩

/-- Whether a character is one of a right-to-left script. -/
def isRightToLeft (c : Char) : Bool := isHigh c && Direction.isRightToLeft c

/-- Whether labels can stand beside each other. -/
def areOrderly (labels : List Label) : Bool :=
  !labels.any (fun l => l.plain.any isRightToLeft) || labels.all fun l => Direction.isOrderly l.plain

/-- The ASCII form of the domain name with the given UTF-8 bytes. -/
def toAscii? (bytes : List UInt8) : Option (List Char) := do
  let text ← String.fromUTF8? bytes.toByteArray
  let mapped ← map? text.toList
  if mapped.any isForbidden then none
  else
    let labels ← (splitOn '.' mapped).mapM readLabel?
    if areOrderly labels then some (['.'].intercalate (labels.map Label.ascii)) else none

end PubSub.Url.Domain
