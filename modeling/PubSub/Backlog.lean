import PubSub.Message

/-!
# Backlogs

The messages routed to one subscription and not yet handled, first in first out. A bounded backlog that is full
rejects what comes and keeps what it has.

Results:

* `Backlog.push_accepted_iff`: a push is accepted exactly when the bound leaves room.
* `Backlog.toList_push`, `Backlog.toList_pop`, `Backlog.toList_clear`, `Backlog.toList_retain`: each operation on the
  waiting messages.
* `Backlog.dropped_push`: rejections, and only they, are counted.
-/

namespace PubSub

/-- Waiting messages with an optional bound on their number (`SubscriptionQueue`). -/
structure Backlog where
  /-- The older part of the waiting messages, oldest first. -/
  front : List Message := []
  /-- The newer part, newest first. -/
  back : List Message := []
  /-- How many messages wait. -/
  size : Nat := 0
  /-- The most that may wait; none for no bound. -/
  capacity : Option Nat := none
  /-- How many messages were rejected so far. They are counted one at a time, so that 64 bits hold the number: one each
  nanosecond would fill them after more than five centuries. -/
  dropped : Nat := 0
  /-- The count is kept in step with the messages. -/
  size_eq : size = front.length + back.length := by rfl

namespace Backlog

/-- An empty backlog (`SubscriptionQueue.new`). -/
def new (capacity : Option Nat) : Backlog := { capacity }

instance : Inhabited Backlog := ⟨new none⟩

/-- The waiting messages, oldest first. -/
def toList (q : Backlog) : List Message := q.front ++ q.back.reverse

/-- Whether one more message fits. -/
def hasRoom (q : Backlog) : Bool :=
  match q.capacity with
  | none => true
  | some c => q.size < c

/-- Adds a message at the end, or counts it as dropped; says whether it was added (`SubscriptionQueue.push`). -/
def push (q : Backlog) (m : Message) : Bool × Backlog :=
  if q.hasRoom then
    (true, { q with back := m :: q.back, size := q.size + 1,
                    size_eq := by have := q.size_eq; simp only [List.length_cons]; omega })
  else (false, { q with dropped := q.dropped + 1 })

/-- Takes the oldest message (`SubscriptionQueue.pop`). -/
def pop (q : Backlog) : Option (Message × Backlog) :=
  match hf : q.front with
  | m :: rest =>
    some (m, { q with front := rest, size := q.size - 1,
                      size_eq := by have := q.size_eq; rw [hf, List.length_cons] at this; omega })
  | [] =>
    match hb : q.back.reverse with
    | m :: rest =>
      some (m, { q with front := rest, back := [], size := q.size - 1,
                        size_eq := by
                          have h := q.size_eq
                          have hl : q.back.length = rest.length + 1 := by
                            rw [← List.length_reverse, hb, List.length_cons]
                          rw [hf, List.length_nil] at h
                          simp only [List.length_nil]
                          omega })
    | [] => none

/-- Changes the bound (`SubscriptionQueue.set_capacity`). Messages beyond it stay. -/
def setCapacity (q : Backlog) (capacity : Option Nat) : Backlog := { q with capacity }

/-- Discards the waiting messages (`SubscriptionQueue.clear`). -/
def clear (q : Backlog) : Backlog := { q with front := [], back := [], size := 0, size_eq := rfl }

/-- Keeps the waiting messages that `keep` holds of. -/
def retain (q : Backlog) (keep : Message → Bool) : Backlog :=
  let front := q.front.filter keep
  let back := q.back.filter keep
  { q with front, back, size := front.length + back.length, size_eq := rfl }

/-! ## What the operations do to the waiting messages -/

theorem length_toList (q : Backlog) : q.toList.length = q.size := by
  simp [toList, q.size_eq]

@[simp] theorem toList_new (c : Option Nat) : (new c).toList = [] := rfl

theorem hasRoom_iff (q : Backlog) : q.hasRoom = true ↔ ∀ c, q.capacity = some c → q.toList.length < c := by
  rw [length_toList]
  unfold hasRoom
  cases q.capacity <;> simp

theorem push_accepted_iff (q : Backlog) (m : Message) :
    (q.push m).1 = true ↔ ∀ c, q.capacity = some c → q.toList.length < c := by
  rw [← hasRoom_iff]
  unfold push
  split <;> simp_all

theorem toList_push (q : Backlog) (m : Message) :
    (q.push m).2.toList = if q.hasRoom then q.toList ++ [m] else q.toList := by
  unfold push
  split <;> simp [toList]

theorem dropped_push (q : Backlog) (m : Message) :
    (q.push m).2.dropped = if q.hasRoom then q.dropped else q.dropped + 1 := by
  unfold push
  split <;> rfl

theorem toList_pop (q : Backlog) : (q.pop).map (fun r => r.1 :: r.2.toList) =
    if q.toList.isEmpty then none else some q.toList := by
  unfold pop
  split
  · rename_i m rest hf
    simp [toList, hf]
  · rename_i hf
    split
    · rename_i m rest hb
      simp [toList, hf, hb]
    · rename_i hb
      simp [toList, hf, hb]

@[simp] theorem toList_clear (q : Backlog) : q.clear.toList = [] := rfl

@[simp] theorem toList_retain (q : Backlog) (keep : Message → Bool) :
    (q.retain keep).toList = q.toList.filter keep := by
  simp [retain, toList]

theorem size_of_pop {q r : Backlog} {m : Message} (h : q.pop = some (m, r)) : q.size = r.size + 1 := by
  have hp := toList_pop q
  rw [h] at hp
  split at hp
  · cases hp
  · rw [← length_toList, ← length_toList, ← Option.some.inj hp]
    rfl

theorem toList_of_pop {q r : Backlog} {m : Message} (h : q.pop = some (m, r)) : q.toList = m :: r.toList := by
  have hp := toList_pop q
  rw [h] at hp
  split at hp
  · cases hp
  · exact (Option.some.inj hp).symm

theorem pop_eq_none_iff {q : Backlog} : q.pop = none ↔ q.toList = [] := by
  have hp := toList_pop q
  cases h : q.pop with
  | none => simpa [h] using hp
  | some r => simp [toList_of_pop h]

@[simp] theorem toList_setCapacity (q : Backlog) (c : Option Nat) : (q.setCapacity c).toList = q.toList := rfl

/-! ## The bound -/

@[simp] theorem capacity_push (q : Backlog) (m : Message) : (q.push m).2.capacity = q.capacity := by
  unfold push
  split <;> rfl

theorem capacity_of_pop {q r : Backlog} {m : Message} (h : q.pop = some (m, r)) : r.capacity = q.capacity := by
  unfold pop at h
  split at h
  · cases h
    rfl
  · split at h
    · cases h
      rfl
    · cases h

theorem dropped_of_pop {q r : Backlog} {m : Message} (h : q.pop = some (m, r)) : r.dropped = q.dropped := by
  unfold pop at h
  split at h
  · cases h
    rfl
  · split at h
    · cases h
      rfl
    · cases h

@[simp] theorem capacity_retain (q : Backlog) (keep : Message → Bool) : (q.retain keep).capacity = q.capacity := rfl

@[simp] theorem capacity_clear (q : Backlog) : q.clear.capacity = q.capacity := rfl

theorem size_push_of_rejected {q : Backlog} {m : Message} (h : (q.push m).1 ≠ true) : (q.push m).2.size = q.size := by
  unfold push at h ⊢
  split
  · rename_i hr
    simp [hr] at h
  · rfl

/-- A push onto a backlog without a bound is accepted. -/
theorem push_of_unbounded {q : Backlog} (hq : q.capacity = none) (m : Message) :
    (q.push m).1 = true ∧ (q.push m).2.toList = q.toList ++ [m] := by
  have hr : q.hasRoom = true := by simp [hasRoom, hq]
  exact ⟨by simp [push_accepted_iff, hq], by rw [toList_push, hr]; rfl⟩

end Backlog
end PubSub
