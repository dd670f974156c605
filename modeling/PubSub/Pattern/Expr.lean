import PubSub.Unicode.CharSet
import PubSub.Unicode.Property

/-!
# Regular expressions

What a pattern means: an expression matches a stretch of a text, from one position to a later one, and may look at
the characters around the stretch.

* `Look.holds`: the conditions on a position.
* `Expr.Matches`: which stretches an expression matches.
* `Expr.Occurs`: whether it matches some stretch of a text.
-/

namespace PubSub.Pattern

open Unicode (CharSet)

/-- A condition on a position in a text. Word conditions go by all word characters or, where `ascii`, by letters,
digits and the underscore. -/
inductive Look
  /-- The text starts here. -/
  | start
  /-- The text ends here. -/
  | stop
  /-- A line starts here. Lines end with a line feed or, where `returns`, with a carriage return as well. -/
  | lineStart (returns : Bool)
  /-- A line ends here. -/
  | lineStop (returns : Bool)
  /-- A word starts or ends here. -/
  | wordBoundary (ascii : Bool)
  /-- No word starts or ends here. -/
  | notWordBoundary (ascii : Bool)
  /-- A word starts here. -/
  | wordStart (ascii : Bool)
  /-- A word ends here. -/
  | wordStop (ascii : Bool)
  /-- No word character comes before. -/
  | noWordBefore (ascii : Bool)
  /-- No word character comes after. -/
  | noWordAfter (ascii : Bool)
  deriving DecidableEq

/-- A regular expression. -/
inductive Expr
  /-- The empty stretch. -/
  | empty
  /-- One character of a set. -/
  | set (s : CharSet)
  /-- The empty stretch, where a condition holds. -/
  | look (l : Look)
  /-- A stretch of the first followed by one of the second. -/
  | cat (a b : Expr)
  /-- A stretch of the first or of the second. -/
  | alt (a b : Expr)
  /-- At least `least` stretches, one behind the other, and at most `most` of them. -/
  | rep (e : Expr) (least : Nat) (most : Option Nat)

/-! ## Conditions -/

/-- Letters, digits and the underscore. -/
def isAsciiWord (c : Char) : Bool := c.isAlphanum || c == '_'

/-- Whether a character belongs to words. -/
def isWord (ascii : Bool) (c : Char) : Bool :=
  if ascii then isAsciiWord c else Unicode.Property.word.contains c

namespace Look

/-- The character before position `i`. -/
def before? (text : Array Char) (i : Nat) : Option Char := if i = 0 then none else text[i - 1]?

/-- Whether a word character stands before position `i`. -/
def wordBefore (ascii : Bool) (text : Array Char) (i : Nat) : Bool := (before? text i).any (isWord ascii)

/-- Whether a word character stands at position `i`. -/
def wordAfter (ascii : Bool) (text : Array Char) (i : Nat) : Bool := text[i]?.any (isWord ascii)

/-- Whether a condition holds at position `i` of a text. -/
def holds (text : Array Char) (i : Nat) : Look → Bool
  | .start => i == 0
  | .stop => i == text.size
  | .lineStart false => i == 0 || before? text i == some '\n'
  | .lineStart true =>
    i == 0 || before? text i == some '\n' || (before? text i == some '\r' && text[i]? != some '\n')
  | .lineStop false => i == text.size || text[i]? == some '\n'
  | .lineStop true =>
    i == text.size || text[i]? == some '\r' || (text[i]? == some '\n' && before? text i != some '\r')
  | .wordBoundary ascii => wordBefore ascii text i != wordAfter ascii text i
  | .notWordBoundary ascii => wordBefore ascii text i == wordAfter ascii text i
  | .wordStart ascii => !wordBefore ascii text i && wordAfter ascii text i
  | .wordStop ascii => wordBefore ascii text i && !wordAfter ascii text i
  | .noWordBefore ascii => !wordBefore ascii text i
  | .noWordAfter ascii => !wordAfter ascii text i

end Look

/-! ## Meaning -/

namespace Expr

mutual

/-- `Matches text e i j`: expression `e` matches the stretch of `text` from position `i` to position `j`. -/
inductive Matches (text : Array Char) : Expr → Nat → Nat → Prop
  | empty {i : Nat} : i ≤ text.size → Matches text .empty i i
  | set {s : CharSet} {i : Nat} {c : Char} : text[i]? = some c → s.contains c = true → Matches text (.set s) i (i + 1)
  | look {l : Look} {i : Nat} : i ≤ text.size → l.holds text i = true → Matches text (.look l) i i
  | cat {a b : Expr} {i j k : Nat} : Matches text a i j → Matches text b j k → Matches text (.cat a b) i k
  | altLeft {a b : Expr} {i j : Nat} : Matches text a i j → Matches text (.alt a b) i j
  | altRight {a b : Expr} {i j : Nat} : Matches text b i j → Matches text (.alt a b) i j
  | rep {e : Expr} {least n : Nat} {most : Option Nat} {i j : Nat} :
      least ≤ n → (∀ m, most = some m → n ≤ m) → Times text e n i j → Matches text (.rep e least most) i j

/-- `Times text e n i j`: `n` stretches of `e`, one behind the other, lead from `i` to `j`. -/
inductive Times (text : Array Char) : Expr → Nat → Nat → Nat → Prop
  | zero {e : Expr} {i : Nat} : i ≤ text.size → Times text e 0 i i
  | succ {e : Expr} {n i j k : Nat} : Matches text e i j → Times text e n j k → Times text e (n + 1) i k

end

/-- Whether the expression matches some stretch of the text. -/
def Occurs (e : Expr) (text : Array Char) : Prop := ∃ i j, Matches text e i j

/-- The expression of a list of expressions one behind the other. -/
def cats : List Expr → Expr
  | [] => .empty
  | [e] => e
  | e :: es => .cat e (cats es)

/-- The expression of a list of alternatives. -/
def alts : List Expr → Expr
  | [] => .empty
  | [e] => e
  | e :: es => .alt e (alts es)

end Expr
end PubSub.Pattern
