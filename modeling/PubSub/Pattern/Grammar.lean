import PubSub.Pattern.Token

/-!
# From tokens to expressions

Alternatives bind less than sequences, and those less than repetitions; parentheses group. How deeply a pattern is
nested is counted along, because there is a limit to it.

* `Node.ofTokens?`: the expression of a list of tokens.
-/

namespace PubSub.Pattern

/-- An expression, how deeply its text is nested, and whether it may be repeated. -/
structure Node where
  /-- The expression. -/
  expr : Expr
  /-- The depth. -/
  depth : Nat
  /-- Whether a repetition may follow: not so for a change of flags. -/
  repeatable : Bool := true

namespace Node

/-- One deeper than the deepest of some nodes. -/
def above (ns : List Node) : Nat := 1 + (ns.map Node.depth).foldl max 0

/-- Nodes one behind the other. -/
def sequence : List Node → Node
  | [] => ⟨.empty, 0, true⟩
  | [n] => n
  | ns => ⟨Expr.cats (ns.map Node.expr), above ns, true⟩

/-- Alternatives. -/
def choice : List Node → Node
  | [] => ⟨.empty, 0, true⟩
  | [n] => n
  | ns => ⟨Expr.alts (ns.map Node.expr), above ns, true⟩

/-- Whether an expression matches empty stretches only, for all that its form tells. -/
def onlyEmpty : Expr → Bool
  | .empty => true
  | .look _ => true
  | .set _ => false
  | .cat a b => onlyEmpty a && onlyEmpty b
  | .alt a b => onlyEmpty a && onlyEmpty b
  | .rep e _ _ => onlyEmpty e

/-- A node repeated. Repeating what is empty more than once adds nothing. -/
def repetition (n : Node) (least : Nat) (most : Option Nat) : Node :=
  if onlyEmpty n.expr then ⟨.rep n.expr (min least 1) (some (min (most.getD 1) 1)), n.depth + 1, true⟩
  else ⟨.rep n.expr least most, n.depth + 1, true⟩

/-- What is read of a group that is still open. -/
structure Group where
  /-- The nodes since the last bar, the last one first. -/
  items : List Node := []
  /-- The alternatives before it, the last one first. -/
  branches : List Node := []

/-- The node of a group. -/
def Group.node (g : Group) : Node :=
  choice ((sequence g.items.reverse :: g.branches).reverse)

/-- A group with one node more. -/
def Group.push (g : Group) (n : Node) : Group := { g with items := n :: g.items }

/-- Reads tokens: `g` is the innermost open group and `outer` holds those around it, the innermost first. -/
def readTokens (g : Group) (outer : List Group) : List Token → Option Node
  | [] => if outer.isEmpty then some g.node else none
  | .opening :: ts => readTokens {} (g :: outer) ts
  | .closing :: ts =>
    match outer with
    | [] => none
    | h :: outer => readTokens (h.push { g.node with depth := g.node.depth + 1, repeatable := true }) outer ts
  | .bar :: ts => readTokens { items := [], branches := sequence g.items.reverse :: g.branches } outer ts
  | .flags :: ts => readTokens (g.push ⟨.empty, 0, false⟩) outer ts
  | .unit e depth :: ts => readTokens (g.push ⟨e, depth, true⟩) outer ts
  | .rep least most :: ts =>
    match g.items with
    | n :: items =>
      if n.repeatable then readTokens { g with items := n.repetition least most :: items } outer ts else none
    | [] => none

/-- The expression of a list of tokens. -/
def ofTokens? (ts : List Token) : Option Node := readTokens {} [] ts

/-- The expression that a text writes. -/
def ofText? (cs : List Char) : Option Node := (Token.ofText? cs).bind ofTokens?

end Node
end PubSub.Pattern
