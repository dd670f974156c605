import PubSub.Unicode.CharSet

/-!
# Tables of runs

A property that has a value for every code point is kept as a table of runs: `41Lu 5bPs` says that the code points
from `41` up to, not including, `5b` have the value written `Lu`. Code points are written in hexadecimal digits with
small letters.

* `Runs.ofText`: reads a table.
* `Runs.at?`: the value of a code point.
* `Runs.set`: the code points whose value passes a test.
-/

namespace PubSub.Unicode

/-- The starts of the runs, lowest first, each with the value of its run. -/
structure Runs (α : Type) where
  starts : Array (Nat × α)

namespace Runs

variable {α : Type}

/-- The digits at the start of an entry of a table, and the rest. -/
def splitEntry (entry : List Char) : Nat × List Char :=
  let isDigit (c : Char) : Bool := (CharSet.hexDigit? c).isSome && !c.isUpper
  (CharSet.hexValue (entry.takeWhile isDigit), entry.dropWhile isDigit)

/-- Reads a table; `read` reads the value of an entry. -/
def ofText (read : List Char → α) (table : String) : Runs α :=
  ⟨((CharSet.splitAt ' ' table.toList).map fun entry =>
    let (start, value) := splitEntry entry
    (start, read value)).toArray⟩

/-- The number of the last of the runs `lo` up to, not including, `hi` that starts at or before `c`. -/
def find (r : Runs α) (c lo hi : Nat) : Nat :=
  if lo + 1 < hi then
    let mid := (lo + hi) / 2
    if (r.starts[mid]?.map (fun s => decide (s.1 ≤ c))).getD false then r.find c mid hi
    else r.find c lo mid
  else lo
termination_by hi - lo

/-- The value of a code point. -/
def at? (r : Runs α) (c : Nat) : Option α :=
  r.starts[r.find c 0 r.starts.size]?.map Prod.snd

/-- The stretch of code points from the start of each run to the start of the next. -/
def stretches : List (Nat × α) → List (Nat × Nat × α)
  | [] => []
  | [(a, k)] => [(a, maxCodePoint, k)]
  | (a, k) :: (b, l) :: rest => (a, b - 1, k) :: stretches ((b, l) :: rest)

/-- The code points whose value passes `test`. -/
def set (r : Runs α) (test : α → Bool) : CharSet :=
  CharSet.ofRanges ((stretches r.starts.toList).filterMap fun (a, b, k) => if test k then some (a, b) else none)

end Runs
end PubSub.Unicode
