import PubSub.Error
import PubSub.Pattern.Engine

/-!
# Channel patterns

A channel pattern is a regular expression for whole channel names: it is put into a group between the conditions that
the text starts and that it ends, and what comes of that is given to an engine for regular expressions.

* `Pattern.Matcher`: a pattern that an engine has compiled.
* `Matcher.ofText`: reads a pattern.
* `Matcher.accepts`: whether a channel name matches a pattern.
* `Pattern`: the patterns of the engine that is used.
-/

namespace PubSub

namespace Pattern

/-- A channel pattern that an engine has compiled. -/
structure Matcher (engine : Engine) where
  /-- The pattern as it was given. -/
  text : String
  /-- What is looked for in a channel name. -/
  regex : engine.Regex

/-- A pattern between the conditions that tie it to the start and the end of a name. -/
def anchored (text : String) : String := "^(?:" ++ text ++ ")$"

/-- Reads a pattern: the operation `new`. -/
def Matcher.ofText (engine : Engine) (text : String) : Except Error (Matcher engine) :=
  match engine.compile (anchored text) with
  | none => .error (.invalidArgument (.pattern text))
  | some regex => .ok { text, regex }

/-- Whether a channel name matches: the operation `matches`. -/
def Matcher.accepts {engine : Engine} (p : Matcher engine) (channel : String) : Bool :=
  engine.isMatch p.regex channel

end Pattern

/-- A channel pattern. -/
abbrev Pattern := Pattern.Matcher .standard

namespace Pattern

/-- Reads a pattern. -/
def ofText (text : String) : Except Error Pattern := Matcher.ofText .standard text

/-- Whether a channel name matches. -/
def accepts (p : Pattern) (channel : String) : Bool := Matcher.accepts p channel

end Pattern
end PubSub
