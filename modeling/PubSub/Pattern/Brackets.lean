import PubSub.Pattern.Escape

/-!
# Sets in brackets

Brackets hold characters, ranges, escapes, named ASCII classes and further brackets; what stands side by side is
joined, and `&&`, `--` and `~~` between two such unions intersect, subtract and take what is in one only.

* `readBrackets`: reads a set behind its opening bracket, with the depth to which it is nested.
-/

namespace PubSub.Pattern

open Unicode

/-- A set and how deeply its text is nested. -/
structure SetNode where
  /-- The set. -/
  set : CharSet
  /-- The depth. -/
  depth : Nat

/-- An operation between two sets. -/
inductive SetOp
  | inter
  | diff
  | symmDiff

namespace SetNode

/-- What stands side by side, the last one first. -/
def union : List SetNode → SetNode
  | [] => ⟨CharSet.empty, 0⟩
  | [n] => n
  | ns => ⟨CharSet.unions (ns.map SetNode.set), 1 + (ns.map SetNode.depth).foldl max 0⟩

/-- Two sets with an operation between them. Where case is ignored, both are completed first. -/
def combine (f : Flags) (op : SetOp) (a b : SetNode) : SetNode :=
  let s := foldCase f a.set
  let t := foldCase f b.set
  let set := match op with
    | .inter => s.inter t
    | .diff => s.diff t
    | .symmDiff => s.symmDiff t
  ⟨set, 1 + max a.depth b.depth⟩

/-- A set behind the operation before it, if there is one. -/
def finish (f : Flags) (before : Option (SetOp × SetNode)) (n : SetNode) : SetNode :=
  match before with
  | none => n
  | some (op, a) => combine f op a n

end SetNode

/-- The character of a primitive that is one; without Unicode only ASCII will do. -/
def Primitive.char? (f : Flags) : Primitive → Option Char
  | .literal c _ => if f.unicode || c.toNat < 128 then some c else none
  | _ => none

/-- The set of a primitive. -/
def Primitive.set? (f : Flags) : Primitive → Option CharSet
  | .set s => some s
  | .look _ => none
  | p => (p.char? f).map CharSet.singleton

/-- Reads one character or escape. -/
def readSetItem (f : Flags) : List Char → Option (Primitive × List Char)
  | [] => none
  | '\\' :: rest => readEscape f rest
  | c :: rest => some (.literal c false, rest)

/-- Reads one item or a range between two. A minus sign behind which a look ahead finds a closing bracket or another
minus sign does not make a range. -/
def readRange (f : Flags) (cs : List Char) : Option (CharSet × List Char) := do
  let (first, rest) ← readSetItem f cs
  match f.skip rest with
  | [] => none
  | '-' :: more =>
    if f.peek more = some ']' ∨ f.peek more = some '-' then
      let s ← first.set? f
      return (s, f.skip rest)
    else
      let (last, rest) ← readSetItem f (f.skip more)
      let a ← first.char? f
      let b ← last.char? f
      if a ≤ b then return (CharSet.range a b, rest) else none
  | rest =>
    let s ← first.set? f
    return (s, rest)

/-- The name of an ASCII class behind an opening bracket, whether it is turned around, and what follows. -/
def asciiName? (cs : List Char) : Option (CharSet × Bool × List Char) :=
  match cs with
  | ':' :: rest =>
    let (negated, rest) := match rest with
      | '^' :: r => (true, r)
      | r => (false, r)
    let name := rest.takeWhile (· ≠ ':')
    match rest.drop name.length with
    | ':' :: ']' :: rest => (CharClass.ascii? (String.ofList name)).map fun s => (s, negated, rest)
    | _ => none
  | _ => none

/-- Reads minus signs at the start of a set, which stand for themselves. -/
def readDashes (f : Flags) (items : List SetNode) (cs : List Char) : List SetNode × List Char :=
  match _h : f.skip cs with
  | '-' :: rest => readDashes f (⟨CharSet.singleton '-', 0⟩ :: items) rest
  | rest => (items, rest)
termination_by cs.length
decreasing_by
  have hl := f.length_skip_le cs
  rw [_h, List.length_cons] at hl
  exact hl

/-- Reads what may stand first in a set: a caret, which turns the set around, minus signs, and a closing bracket
that stands for itself. -/
def readStart (f : Flags) (cs : List Char) : Bool × List SetNode × List Char :=
  let (negated, cs) := match f.skip cs with
    | '^' :: rest => (true, rest)
    | rest => (false, rest)
  match readDashes f [] cs with
  | ([], ']' :: rest) => (negated, [⟨CharSet.singleton ']', 0⟩], rest)
  | (items, rest) => (negated, items, rest)

/-- A set with its case and its sense; without Unicode no set can be turned around. -/
def close? (f : Flags) (negated : Bool) (n : SetNode) : Option CharSet :=
  if negated && !f.unicode then none else some (foldAndNegate f negated n.set)

/-- Reads the items of a set up to its closing bracket. `before` is the set and the operation before them, `items`
holds those read already, the last one first. At each step at least one character is read. -/
def readItems (f : Flags) : Nat → Option (SetOp × SetNode) → List SetNode → List Char → Option (SetNode × List Char)
  | 0, _, _, _ => none
  | fuel + 1, before, items, cs =>
    let operate (op : SetOp) (rest : List Char) : Option (SetNode × List Char) :=
      readItems f fuel (some (op, SetNode.finish f before (SetNode.union items))) [] rest
    match f.skip cs with
    | [] => none
    | ']' :: rest => some (SetNode.finish f before (SetNode.union items), rest)
    | '&' :: '&' :: rest => operate .inter rest
    | '-' :: '-' :: rest => operate .diff rest
    | '~' :: '~' :: rest => operate .symmDiff rest
    | '[' :: rest =>
      match asciiName? rest with
      | some (s, negated, rest) => do
        let s ← close? f negated ⟨s, 0⟩
        readItems f fuel before (⟨s, 0⟩ :: items) rest
      | none => do
        let (negated, first, rest) := readStart f rest
        let (inner, rest) ← readItems f fuel none first rest
        let s ← close? f negated inner
        readItems f fuel before (⟨s, inner.depth + 1⟩ :: items) rest
    | cs => do
      let (s, rest) ← readRange f cs
      readItems f fuel before (⟨s, 0⟩ :: items) rest

/-- Reads a set behind its opening bracket. -/
def readBrackets (f : Flags) (cs : List Char) : Option (SetNode × List Char) := do
  let (negated, first, rest) := readStart f cs
  let (inner, rest) ← readItems f (cs.length + 1) none first rest
  let s ← close? f negated inner
  return (⟨s, inner.depth + 1⟩, rest)

end PubSub.Pattern
