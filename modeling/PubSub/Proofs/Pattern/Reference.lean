import PubSub.Pattern.Basic

/-!
# What is laid down of regular expressions

What a text means as a regular expression is for an engine to say. Taken of it here is what engines lay down: most
characters stand for themselves, `^` and `$` hold at the ends of a text, parentheses group an expression, and what
stands one behind the other matches stretches one behind the other. An engine compiles what is an expression within its
limits, and looks for a match anywhere in a text.

* `Reference`: which texts are expressions, and what these match.
* `Reference.Sequence`: characters, conditions and a group, one behind the other.
* `Reference.Laws`, `Engine.Implements`: what is taken of expressions, and of engines.
-/

namespace PubSub.Pattern

/-- What is laid down of the regular expressions of an engine. -/
structure Reference where
  /-- The text writes an expression, whatever its size. -/
  IsExpr : String → Prop
  /-- The expression is within the limits on nesting and size. -/
  Fits : String → Prop
  /-- `Spans text before stretch after`: the expression that `text` writes matches `stretch`, where that has `before`
  before it and `after` behind it. -/
  Spans (text before stretch after : String) : Prop

/-- The characters with a meaning of their own. White space, number signs and what only means something in brackets are
not among them. -/
def metacharacters : List Char := ['\\', '.', '+', '*', '?', '(', ')', '|', '[', '\x7b', '^', '$']

/-- A text in parentheses that name nothing and change no flags. -/
def grouped (text : String) : String := "(?:" ++ text ++ ")"

/-- A character that stands for itself, or the condition that a text starts or ends. -/
inductive Simple : String → Prop
  | start : Simple "^"
  | stop : Simple "$"
  | literal {c : Char} : c ∉ metacharacters → Simple (String.singleton c)

namespace Reference

variable (ref : Reference)

/-- The text writes an expression with a comment at its end, in which a parenthesis behind it is lost. -/
def Hides (text : String) : Prop := ref.IsExpr text ∧ ref.IsExpr (text ++ ")")

/-- Characters and conditions one behind the other, with an expression in parentheses among them or without one. Two
groups might give one name to different parts. -/
inductive Sequence : String → Prop
  | empty : Sequence ""
  | group {text : String} : ref.IsExpr text → ¬ ref.Hides text → Sequence (grouped text)
  | before {a s : String} : Simple a → Sequence s → Sequence (a ++ s)
  | after {s a : String} : Sequence s → Simple a → Sequence (s ++ a)

/-- What is taken of expressions. -/
structure Laws : Prop where
  /-- Sequences are expressions. -/
  sequence {s : String} : ref.Sequence s → ref.IsExpr s
  /-- A group that is opened is closed behind an expression. -/
  opened {a rest : String} : Simple a → ref.IsExpr (a ++ "(?:" ++ rest) →
    ∃ text after, rest = text ++ ")" ++ after ∧ ref.IsExpr text ∧ ¬ ref.Hides text
  /-- Behind an expression there is no group that a parenthesis could close. -/
  unopened {text rest : String} : ref.IsExpr text → ¬ ref.Hides text → ¬ ref.IsExpr (text ++ ")" ++ rest)
  /-- No text matches the empty stretch. -/
  spans_empty {before stretch after : String} : ref.Spans "" before stretch after ↔ stretch = ""
  /-- A text starts where nothing is before. -/
  spans_start {before stretch after : String} : ref.Spans "^" before stretch after ↔ stretch = "" ∧ before = ""
  /-- A text ends where nothing is behind. -/
  spans_stop {before stretch after : String} : ref.Spans "$" before stretch after ↔ stretch = "" ∧ after = ""
  /-- Other characters stand for themselves. -/
  spans_literal {c : Char} {before stretch after : String} : c ∉ metacharacters →
    (ref.Spans (String.singleton c) before stretch after ↔ stretch = String.singleton c)
  /-- A group matches what is matched without the parentheses. -/
  spans_group {text before stretch after : String} : ref.IsExpr text → ¬ ref.Hides text →
    (ref.Spans (grouped text) before stretch after ↔ ref.Spans text before stretch after)
  /-- A stretch is matched in two parts. -/
  spans_before {a s before stretch after : String} : Simple a → ref.Sequence s →
    (ref.Spans (a ++ s) before stretch after ↔ ∃ x y, stretch = x ++ y ∧
      ref.Spans a before x (y ++ after) ∧ ref.Spans s (before ++ x) y after)
  /-- A stretch is matched in two parts. -/
  spans_after {s a before stretch after : String} : ref.Sequence s → Simple a →
    (ref.Spans (s ++ a) before stretch after ↔ ∃ x y, stretch = x ++ y ∧
      ref.Spans s before x (y ++ after) ∧ ref.Spans a (before ++ x) y after)

end Reference

/-- What is taken of engines. -/
structure Engine.Implements (engine : Engine) (ref : Reference) : Prop where
  /-- Expressions within the limits are compiled, and nothing else is. -/
  compiles (text : String) : (∃ r, engine.compile text = some r) ↔ ref.IsExpr text ∧ ref.Fits text
  /-- A match is looked for anywhere in a text. -/
  searches {text : String} {r : engine.Regex} : engine.compile text = some r → ∀ name,
    (engine.isMatch r name = true ↔
      ∃ before stretch after, name = before ++ stretch ++ after ∧ ref.Spans text before stretch after)

end PubSub.Pattern
