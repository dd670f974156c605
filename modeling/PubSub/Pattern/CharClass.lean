import PubSub.Unicode.CaseOrbit
import PubSub.Unicode.Property
import PubSub.Unicode.Script

/-!
# Named sets of characters

The sets that a pattern may call by a name: the letter escapes, the classes of ASCII characters and the Unicode
properties.

* `CharClass.escape?`: the set of a letter escape.
* `CharClass.ascii?`: the set of an ASCII class.
* `CharClass.property?`, `CharClass.propertyValue?`: the set of a property by its name, or by its name and value.
-/

namespace PubSub.Pattern.CharClass

open Unicode

/-! ## ASCII -/

/-- The set of the given ranges of characters. -/
def ofRanges (rs : List (Char × Char)) : CharSet :=
  CharSet.ofRanges (rs.map fun r => (r.1.toNat, r.2.toNat))

/-- The set of an ASCII class. -/
def ascii? (name : String) : Option CharSet :=
  match name with
  | "alnum" => some (ofRanges [('0', '9'), ('A', 'Z'), ('a', 'z')])
  | "alpha" => some (ofRanges [('A', 'Z'), ('a', 'z')])
  | "ascii" => some (ofRanges [('\x00', '\x7f')])
  | "blank" => some (ofRanges [('\t', '\t'), (' ', ' ')])
  | "cntrl" => some (ofRanges [('\x00', '\x1f'), ('\x7f', '\x7f')])
  | "digit" => some (ofRanges [('0', '9')])
  | "graph" => some (ofRanges [('!', '~')])
  | "lower" => some (ofRanges [('a', 'z')])
  | "print" => some (ofRanges [(' ', '~')])
  | "punct" => some (ofRanges [('!', '/'), (':', '@'), ('[', '\x60'), ('\x7b', '~')])
  | "space" => some (ofRanges [('\t', '\r'), (' ', ' ')])
  | "upper" => some (ofRanges [('A', 'Z')])
  | "word" => some (ofRanges [('0', '9'), ('A', 'Z'), ('_', '_'), ('a', 'z')])
  | "xdigit" => some (ofRanges [('0', '9'), ('A', 'F'), ('a', 'f')])
  | _ => none

/-- The ASCII set of a letter escape. -/
def asciiEscape (letter : Char) : CharSet :=
  let name := if letter == 'd' then "digit" else if letter == 's' then "space" else "word"
  (ascii? name).getD CharSet.empty

/-- The set of a letter escape: digits, white space or word characters. -/
def escape (letter : Char) : CharSet :=
  if letter == 'd' then Property.digit else if letter == 's' then Property.whiteSpace else Property.word

/-! ## Properties -/

/-- A name without case, separators, characters beyond ASCII and a leading `is`. -/
def plainName (name : String) : String :=
  let cs := name.toList
  let isPart := (cs.take 2).map Char.toLower == ['i', 's']
  let rest := (if isPart then cs.drop 2 else cs).filterMap fun c =>
    if c == ' ' || c == '_' || c == '-' || 127 < c.toNat then none else some c.toLower
  if isPart && rest == ['c'] then "isc" else String.ofList rest

/-- The entry of a list of names that has the given name, its first name. -/
def findName (entries : List (List String)) (plain : String) : Option String :=
  (entries.find? fun names => (names.map plainName).contains plain).bind List.head?

/-- The set of a general category. -/
def category? (plain : String) : Option CharSet :=
  match plain with
  | "any" => some CharSet.all
  | "ascii" => ascii? "ascii"
  | "assigned" => some (Category.set fun k => !Category.listed ["Cn"] k)
  | _ =>
    match findName Category.nameList plain with
    | none => none
    | some "Cs" => none
    | some "LC" => some (Category.set (Category.listed ["Lu", "Ll", "Lt"]))
    | some code => some (Category.set (Category.listed [code]))

/-- The set of a script. -/
def script? (plain : String) : Option CharSet :=
  match findName Script.nameList plain with
  | none => none
  | some "Zzzz" => none
  | some code => some (Script.set code)

/-- The set of a binary property. -/
def binary? (plain : String) : Option CharSet :=
  (Property.table.find? fun p => (p.names.map plainName).contains plain).map Property.set

/-- The set called by one name: a binary property, a general category or a script. -/
def property? (name : String) : Option CharSet :=
  let plain := plainName name
  let binary := if ["cf", "sc", "lc"].contains plain then none else binary? plain
  binary <|> category? plain <|> script? plain

/-- The set called by the name of a property and one of its values. -/
def propertyValue? (name value : String) : Option CharSet :=
  match plainName name with
  | "gc" | "generalcategory" => category? (plainName value)
  | "sc" | "script" => script? (plainName value)
  | "scx" | "scriptextensions" => (findName Script.nameList (plainName value)).map Script.usedIn
  | _ => none

end PubSub.Pattern.CharClass
