/-!
# Notices

What the library reports about its own working, beside the results of the calls.
-/

namespace PubSub

/-- How severe a notice is. -/
inductive Notice.Level
  | warn
  | debug
  | trace
  deriving DecidableEq

/-- The name of a level. -/
def Notice.Level.name : Notice.Level → String
  | .warn => "warn"
  | .debug => "debug"
  | .trace => "trace"

/-- The place of a level, the most severe first. -/
def Notice.Level.rank : Notice.Level → Nat
  | .warn => 0
  | .debug => 1
  | .trace => 2

/-- One report. -/
structure Notice where
  /-- How severe it is. -/
  level : Notice.Level
  /-- What it says. -/
  text : String
  deriving DecidableEq

namespace Notice

/-- A report of something amiss. -/
def warn (text : String) : Notice := ⟨.warn, text⟩

/-- A report of a step taken. -/
def debug (text : String) : Notice := ⟨.debug, text⟩

/-- A report of a single message's fate. -/
def trace (text : String) : Notice := ⟨.trace, text⟩

end Notice
end PubSub
