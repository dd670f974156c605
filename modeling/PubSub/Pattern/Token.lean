import PubSub.Pattern.Brackets

/-!
# Tokens

The text of a pattern as a list of tokens. Flags take effect here: a token already says what it means under the flags
in force, which an opening parenthesis saves and the closing one brings back.

* `Token.ofText?`: the tokens of a text; none if some part of it means nothing.
-/

namespace PubSub.Pattern

open Unicode

/-- A token of a pattern. -/
inductive Token
  /-- An opening parenthesis, with what belongs to it. -/
  | opening
  /-- A closing parenthesis. -/
  | closing
  /-- The bar between two alternatives. -/
  | bar
  /-- A change of flags up to the end of the group. -/
  | flags
  /-- An expression that needs no parentheses, and how deeply its text is nested. -/
  | unit (e : Expr) (depth : Nat)
  /-- How often the expression before is repeated. -/
  | rep (least : Nat) (most : Option Nat)

namespace Token

/-- What the reading of one token leaves for the next. -/
structure State where
  /-- The flags in force. -/
  flags : Flags := {}
  /-- The flags outside each open group, the innermost first. -/
  saved : List Flags := []
  /-- The names of groups. -/
  names : List (List Char) := []

/-! ## Units -/

/-- The dot. -/
def dot? (f : Flags) : Option Expr :=
  if !f.unicode then none
  else
    let ends := if f.dotAll then CharSet.empty
      else if f.returns then CharSet.ofRanges [(10, 10), (13, 13)]
      else CharSet.singleton '\n'
    some (.set ends.compl)

/-- A character that stands for itself. -/
def literal? (f : Flags) (c : Char) (raw : Bool) : Option Expr :=
  if f.unicode then some (.set (foldCase f (CharSet.singleton c)))
  else if raw ∧ 127 < c.toNat then none
  else if f.ignoreCase ∧ c.isAlpha then
    some (.set ((CharSet.singleton c.toLower).union (CharSet.singleton c.toUpper)))
  else some (.set (CharSet.singleton c))

/-- What a primitive means outside brackets. -/
def unit? (f : Flags) : Primitive → Option Expr
  | .literal c raw => literal? f c raw
  | .set s => some (.set s)
  | .look l => some (.look l)

/-! ## Groups -/

/-- Whether a character may stand in the name of a group. -/
def isNameChar (first : Bool) (c : Char) : Bool :=
  c == '_' || Property.alphabetic.contains c ||
    (!first && (c == '.' || c == '[' || c == ']' || (Category.ofChar c).major == 'N'))

/-- Reads the name of a group up to the closing angle bracket. -/
def readName? (cs : List Char) : Option (List Char × List Char) :=
  let name := cs.takeWhile (· ≠ '>')
  match name, cs.drop name.length with
  | c :: rest, _ :: after => if isNameChar true c ∧ rest.all (isNameChar false) then some (c :: rest, after) else none
  | _, _ => none

/-- Opens a group whose inside has the flags `f`. -/
def State.enter (st : State) (f : Flags) : State := { st with flags := f, saved := st.flags :: st.saved }

/-- Reads a named group behind the opening angle bracket. -/
def readNamed (st : State) (cs : List Char) : Option (Token × State × List Char) := do
  let (name, rest) ← readName? cs
  if st.names.contains name then none
  else return (.opening, { st.enter st.flags with names := name :: st.names }, rest)

/-- Reads a group behind its opening parenthesis, or a change of flags. -/
def readGroup (st : State) (cs : List Char) : Option (Token × State × List Char) :=
  match st.flags.skip cs with
  | '?' :: '=' :: _ => none
  | '?' :: '!' :: _ => none
  | '?' :: '<' :: '=' :: _ => none
  | '?' :: '<' :: '!' :: _ => none
  | '?' :: 'P' :: '<' :: rest => readNamed st rest
  | '?' :: '<' :: rest => readNamed st rest
  | '?' :: rest => do
    let change ← st.flags.read [] true rest
    if change.stop = ':' then return (.opening, st.enter change.flags, change.rest)
    else if change.isEmpty then none
    else return (.flags, { st with flags := change.flags }, change.rest)
  | rest => some (.opening, st.enter st.flags, rest)

/-! ## Repetitions -/

/-- Reads decimal digits, between which there may be blanks that mean nothing. -/
def readDigits (f : Flags) (value : Option Nat) (cs : List Char) : Option Nat × List Char :=
  match _h : f.skip cs with
  | [] => (value, [])
  | c :: rest =>
    if Text.isDigit c then readDigits f (some (value.getD 0 * 10 + (c.toNat - 48))) rest else (value, c :: rest)
termination_by cs.length
decreasing_by
  have hl := f.length_skip_le cs
  rw [_h, List.length_cons] at hl
  exact hl

/-- Reads a number with white space around it. -/
def readNumber? (f : Flags) (cs : List Char) : Option (Nat × List Char) :=
  match readDigits f none (cs.dropWhile Text.isBlank) with
  | (some n, rest) => if n < UInt32.size then some (n, f.skip (rest.dropWhile Text.isBlank)) else none
  | (none, _) => none

/-- Passes over the question mark that makes a repetition prefer less, which does not change what it matches. -/
def dropLazy : List Char → List Char
  | '?' :: rest => rest
  | cs => cs

/-- Reads a counted repetition behind its opening brace. -/
def readCount? (f : Flags) (cs : List Char) : Option (Token × List Char) := do
  let (least, rest) ← readNumber? f (f.skip cs)
  match rest with
  | '\x7d' :: rest => return (.rep least (some least), dropLazy (f.skip rest))
  | ',' :: rest =>
    match f.skip rest with
    | '\x7d' :: rest => return (.rep least none, dropLazy (f.skip rest))
    | rest =>
      let (most, rest) ← readNumber? f rest
      match rest with
      | '\x7d' :: rest => if least ≤ most then return (.rep least (some most), dropLazy (f.skip rest)) else none
      | _ => none
  | _ => none

/-! ## All tokens -/

/-- Reads the token that starts with `c`. -/
def readOne (st : State) (c : Char) (rest : List Char) : Option (Token × State × List Char) :=
  let f := st.flags
  match c with
  | '(' => readGroup st rest
  | ')' =>
    match st.saved with
    | [] => none
    | outer :: saved => some (.closing, { st with flags := outer, saved }, rest)
  | '|' => some (.bar, st, rest)
  | '?' => some (.rep 0 (some 1), st, dropLazy rest)
  | '*' => some (.rep 0 none, st, dropLazy rest)
  | '+' => some (.rep 1 none, st, dropLazy rest)
  | '\x7b' => (readCount? f rest).map fun r => (r.1, st, r.2)
  | '[' => (readBrackets f rest).map fun r => (.unit (.set r.1.set) r.1.depth, st, r.2)
  | '.' => (dot? f).map fun e => (.unit e 0, st, rest)
  | '^' => some (.unit (.look (if f.multiLine then .lineStart f.returns else .start)) 0, st, rest)
  | '$' => some (.unit (.look (if f.multiLine then .lineStop f.returns else .stop)) 0, st, rest)
  | '\\' => do
    let (p, rest) ← readEscape f rest
    let e ← unit? f p
    return (.unit e 0, st, rest)
  | c => (literal? f c false).map fun e => (.unit e 0, st, rest)

/-- Reads all tokens. Each takes at least one character. -/
def readAll : Nat → State → List Char → Option (List Token)
  | 0, _, _ => none
  | fuel + 1, st, cs =>
    match st.flags.skip cs with
    | [] => some []
    | c :: rest => do
      let (t, st, rest) ← readOne st c rest
      let ts ← readAll fuel st rest
      return t :: ts

/-- The tokens of a text. -/
def ofText? (cs : List Char) : Option (List Token) := readAll (cs.length + 1) {} cs

end Token
end PubSub.Pattern
