import PubSub.Pattern.CharClass
import PubSub.Pattern.Expr
import PubSub.Pattern.Flags
import PubSub.Text.Decimal

/-!
# Escapes

What a backslash and the characters behind it stand for, within brackets and outside.

* `Primitive`: a character, a set of characters or a condition.
* `readEscape`: reads an escape behind its backslash.
-/

namespace PubSub.Pattern

open Unicode

/-- The smallest parts of a pattern. -/
inductive Primitive
  /-- A character. One that is `raw` was written as the number of a byte. -/
  | literal (c : Char) (raw : Bool)
  /-- One character of a set. -/
  | set (s : CharSet)
  /-- A condition. -/
  | look (l : Look)

/-! ## Numbers of characters -/

/-- The character with the given hexadecimal number. -/
def charOfHex? (digits : List Char) : Option Char :=
  let n := CharSet.hexValue digits
  if digits ≠ [] ∧ n.isValidChar then some (Char.ofNat n) else none

/-- Reads hexadecimal digits up to a closing brace. -/
def readHexBraced (f : Flags) (digits : List Char) (cs : List Char) : Option (List Char × List Char) :=
  match _h : f.skip cs with
  | [] => none
  | c :: rest =>
    if c = '\x7d' then some (digits.reverse, rest)
    else if (CharSet.hexDigit? c).isSome then readHexBraced f (c :: digits) rest
    else none
termination_by cs.length
decreasing_by
  have hl := f.length_skip_le cs
  rw [_h, List.length_cons] at hl
  exact hl

/-- Reads exactly `n` hexadecimal digits. -/
def readHexDigits (f : Flags) : Nat → List Char → List Char → Option (List Char × List Char)
  | 0, digits, cs => some (digits.reverse, cs)
  | n + 1, digits, cs =>
    match f.skip cs with
    | [] => none
    | c :: rest => if (CharSet.hexDigit? c).isSome then readHexDigits f n (c :: digits) rest else none

/-- Reads the number of a character behind `x`, `u` or `U`, where `width` is the number of digits that do without
braces. -/
def readHex (f : Flags) (width : Nat) (cs : List Char) : Option (Primitive × List Char) :=
  match f.skip cs with
  | [] => none
  | '\x7b' :: rest => do
    let (digits, rest) ← readHexBraced f [] rest
    let c ← charOfHex? digits
    return (.literal c false, rest)
  | cs => do
    let (digits, rest) ← readHexDigits f width [] cs
    let c ← charOfHex? digits
    return (.literal c (width = 2), rest)

/-! ## Properties -/

/-- Reads a name up to a closing brace. -/
def readBraced (f : Flags) (name : List Char) (cs : List Char) : Option (List Char × List Char) :=
  match _h : f.skip cs with
  | [] => none
  | c :: rest => if c = '\x7d' then some (name.reverse, rest) else readBraced f (c :: name) rest
termination_by cs.length
decreasing_by
  have hl := f.length_skip_le cs
  rw [_h, List.length_cons] at hl
  exact hl

/-- Splits a name before the first place where `mark` stands. -/
def splitMark (mark : List Char) : List Char → Option (List Char × List Char)
  | [] => none
  | c :: cs =>
    if mark.isPrefixOf (c :: cs) then some ([], (c :: cs).drop mark.length)
    else (splitMark mark cs).map fun r => (c :: r.1, r.2)

/-- The set that the text between the braces calls, and whether it is to be turned around. -/
def propertySet? (name : List Char) : Option (CharSet × Bool) :=
  let value (r : List Char × List Char) : Option CharSet :=
    CharClass.propertyValue? (String.ofList r.1) (String.ofList r.2)
  match splitMark ['!', '='] name with
  | some r => (value r).map fun s => (s, true)
  | none =>
    match splitMark [':'] name with
    | some r => (value r).map fun s => (s, false)
    | none =>
      match splitMark ['='] name with
      | some r => (value r).map fun s => (s, false)
      | none => (CharClass.property? (String.ofList name)).map fun s => (s, false)

/-- A set with the other case of its members where case is ignored. Without Unicode only ASCII letters have another
case. -/
def foldCase (f : Flags) (s : CharSet) : CharSet :=
  if !f.ignoreCase then s
  else if f.unicode then CaseOrbit.close s
  else (CaseOrbit.close s).inter (CharSet.range '\x00' '\x7f')

/-- A set with the other case of its members where case is ignored, turned around if `negated`. -/
def foldAndNegate (f : Flags) (negated : Bool) (s : CharSet) : CharSet :=
  if negated then (foldCase f s).compl else foldCase f s

/-- Reads a property behind `p`, or behind `P` if `negated`. -/
def readProperty (f : Flags) (negated : Bool) (cs : List Char) : Option (Primitive × List Char) :=
  if !f.unicode then none
  else match f.skip cs with
    | [] => none
    | '\x7b' :: rest => do
      let (name, rest) ← readBraced f [] rest
      let (s, turned) ← propertySet? name
      return (.set (foldAndNegate f (negated != turned) s), rest)
    | c :: rest =>
      if c = '\\' then none
      else (CharClass.property? c.toString).map fun s => (.set (foldAndNegate f negated s), rest)

/-! ## Letters -/

/-- The set of a letter escape in lower case, turned around if `negated`. Without Unicode there are only the ASCII
sets, which cannot be turned around. -/
def letterSet? (f : Flags) (letter : Char) (negated : Bool) : Option CharSet :=
  if f.unicode then
    let s := CharClass.escape letter
    some (if negated then s.compl else s)
  else if negated then none
  else some (CharClass.asciiEscape letter)

/-- Whether a character is allowed in the name of a word condition. -/
def isConditionChar (c : Char) : Bool := c.isAlpha || c == '-'

/-- Reads the name of a word condition up to what cannot belong to it. -/
def readCondition (f : Flags) (name : List Char) (cs : List Char) : List Char × List Char :=
  match _h : f.skip cs with
  | [] => (name.reverse, [])
  | c :: rest => if isConditionChar c then readCondition f (c :: name) rest else (name.reverse, c :: rest)
termination_by cs.length
decreasing_by
  have hl := f.length_skip_le cs
  rw [_h, List.length_cons] at hl
  exact hl

/-- Reads what follows `\b`: the name of a word condition between braces, or nothing. -/
def readBoundary (f : Flags) (cs : List Char) : Option (Primitive × List Char) :=
  let ascii := !f.unicode
  match cs with
  | '\x7b' :: rest =>
    match f.skip rest with
    | [] => none
    | c :: more =>
      if isConditionChar c then
        match readCondition f [] (c :: more) with
        | (name, '\x7d' :: rest) =>
          match String.ofList name with
          | "start" => some (.look (.wordStart ascii), rest)
          | "end" => some (.look (.wordStop ascii), rest)
          | "start-half" => some (.look (.noWordBefore ascii), rest)
          | "end-half" => some (.look (.noWordAfter ascii), rest)
          | _ => none
        | _ => none
      else some (.look (.wordBoundary ascii), cs)
  | _ => some (.look (.wordBoundary ascii), cs)

/-- Whether an escaped character may stand for itself: ASCII, and neither a letter, a digit nor an angle bracket. -/
def standsForItself (c : Char) : Bool :=
  c.toNat < 128 && !c.isAlphanum && c != '<' && c != '>'

/-- Reads an escape behind its backslash. -/
def readEscape (f : Flags) (cs : List Char) : Option (Primitive × List Char) :=
  match cs with
  | [] => none
  | c :: rest =>
    let literal (d : Char) : Option (Primitive × List Char) := some (.literal d false, rest)
    let look (l : Look) : Option (Primitive × List Char) := some (.look l, rest)
    let letter (d : Char) (negated : Bool) : Option (Primitive × List Char) :=
      (letterSet? f d negated).map fun s => (.set s, rest)
    if standsForItself c then literal c
    else match c with
      | 'x' => readHex f 2 rest
      | 'u' => readHex f 4 rest
      | 'U' => readHex f 8 rest
      | 'p' => readProperty f false rest
      | 'P' => readProperty f true rest
      | 'd' => letter 'd' false
      | 's' => letter 's' false
      | 'w' => letter 'w' false
      | 'D' => letter 'd' true
      | 'S' => letter 's' true
      | 'W' => letter 'w' true
      | 'a' => literal '\x07'
      | 'f' => literal '\x0c'
      | 't' => literal '\t'
      | 'n' => literal '\n'
      | 'r' => literal '\r'
      | 'v' => literal '\x0b'
      | 'A' => look .start
      | 'z' => look .stop
      | 'b' => readBoundary f rest
      | 'B' => look (.notWordBoundary (!f.unicode))
      | '<' => look (.wordStart (!f.unicode))
      | '>' => look (.wordStop (!f.unicode))
      | _ => none

end PubSub.Pattern
