import PubSub.Pattern.Grammar
import PubSub.Pattern.Search
import PubSub.Pattern.Size

/-!
# Engines for regular expressions

What patterns ask of a library of regular expressions: to compile the text of an expression, and to look through a text
for a stretch that the expression matches.

* `Engine`: such a library.
* `Engine.standard`: the one that is used.
-/

namespace PubSub.Pattern

/-- A library of regular expressions. -/
structure Engine where
  /-- Compiled expressions. -/
  Regex : Type
  /-- The operation `new`: the expression that a text writes; none if the text writes none or goes beyond the limits. -/
  compile : String → Option Regex
  /-- The operation `is_match`: whether the expression matches some stretch of a text. -/
  isMatch : Regex → String → Bool

namespace Engine

/-- The most that the parts of an expression may be nested. -/
def maxDepth : Nat := 250

/-- The most that an expression may take. -/
def maxSize : Nat := 10 * 1024 * 1024

/-- The engine that is used: expressions are read token by token, and followed from all positions at once. -/
def standard : Engine where
  Regex := Expr
  compile text :=
    match Node.ofText? text.toList with
    | none => none
    | some n => if n.depth ≤ maxDepth ∧ n.expr.size ≤ maxSize then some n.expr else none
  isMatch e text := e.occurs text.toList.toArray

end Engine
end PubSub.Pattern
