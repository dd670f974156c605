import PubSub.Message

/-!
# Clocks

A clock tells the time of a message. Nothing is laid down about its readings: they may stand still, and go forward or
back by different steps.

* `Clock.read`: asks a clock.
* `Clock.exists_reading`: the readings of clocks are all sequences of times.
-/

namespace PubSub

/-- How far a clock moves from each of its readings to the next. -/
def Clock.Course := Nat → Int64

instance : Inhabited Clock.Course := ⟨fun _ => 0⟩

/-- Even steps. -/
instance : Coe Int64 Clock.Course := ⟨fun step _ => step⟩

/-- A clock by its next reading, and by how far it moves from then on. -/
structure Clock where
  /-- What it will tell when it is next asked. -/
  next : Timestamp := 0
  /-- How far it then moves, time after time. -/
  course : Clock.Course := default
  deriving Inhabited

namespace Clock

/-- Asks a clock (`now_us`). -/
def read (c : Clock) : Timestamp × Clock := (c.next, ⟨c.next + c.course 0, fun n => c.course (n + 1)⟩)

/-- What a clock tells the time it is asked after `n` others. -/
def reading (c : Clock) : Nat → Timestamp
  | 0 => c.read.1
  | n + 1 => c.read.2.reading n

/-- Any sequence of times is told by a clock. -/
theorem exists_reading (times : Nat → Timestamp) : ∃ c : Clock, ∀ n, c.reading n = times n := by
  refine ⟨⟨times 0, fun n => times (n + 1) - times n⟩, fun n => ?_⟩
  induction n generalizing times with
  | zero => rfl
  | succ n ih =>
    have hread : (⟨times 0, fun n => times (n + 1) - times n⟩ : Clock).read.2 =
        ⟨times 1, fun n => times (n + 2) - times (n + 1)⟩ := by
      rw [read, Int64.add_comm, Int64.sub_add_cancel]
    rw [reading, hread]
    exact ih fun n => times (n + 1)

end Clock
end PubSub
