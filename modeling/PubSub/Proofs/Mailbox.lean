import Mathlib.Tactic.Common
import PubSub.Transport.Mailbox

/-!
# What mailboxes let in and give out

Results:

* `Mailbox.filter_takeWanted`: of the messages that a receiver still cares for, taking one neither loses nor reorders
  any.
* `Mailbox.toList_put`, `Mailbox.toList_retain`, `Mailbox.filter_wanted`: what comes in goes to the end, and what is
  thrown away nobody cares for.
* `Mailbox.alert_put`, `Mailbox.alert_taken`, `Mailbox.alert_retain`: the signal is up exactly while messages wait.
* `Mailbox.takeWanted_eq`: what is taken, and what is left, as lists.
* `Mailbox.Holds.put`, `Mailbox.Holds.take_open`, `Mailbox.Holds.retain`, `Mailbox.Holds.close`: a mailbox is a list of
  messages that is open or not.
* `Mailbox.idle_take`, `Mailbox.idle_retain`, `Mailbox.shut_close`: nothing comes out of a mailbox that is empty, and
  one that has been closed is empty.
-/

namespace PubSub.Mailbox

variable {wants : String → Bool}

/-! ## Settling -/

@[simp] theorem waiting_settle (box : Mailbox) : box.settle.waiting = box.waiting := by
  unfold settle
  split <;> rfl

@[simp] theorem closed_settle (box : Mailbox) : box.settle.closed = box.closed := by
  unfold settle
  split <;> rfl

/-! ## Messages that come in -/

theorem toList_put {box : Mailbox} (hu : box.waiting.capacity = none) (m : Message) :
    (box.put wants m).1.waiting.toList =
      box.waiting.toList ++ if box.closed = false ∧ wants m.channel = true then [m] else [] := by
  unfold put
  split
  · split <;> simp_all [Backlog.push_of_unbounded hu]
  · simp_all

@[simp] theorem closed_put (box : Mailbox) (m : Message) : (box.put wants m).1.closed = box.closed := by
  unfold put
  split
  · split <;> simp_all
  · rfl

@[simp] theorem capacity_put (box : Mailbox) (m : Message) :
    (box.put wants m).1.waiting.capacity = box.waiting.capacity := by
  unfold put
  split
  · split <;> simp
  · rfl

/-! ## Messages that go out -/

/-- A message that is given out is wanted. -/
theorem wants_of_takeWanted {q : Backlog} {m : Message} (h : (takeWanted wants q).1 = some m) :
    wants m.channel = true := by
  fun_induction takeWanted wants q with
  | case1 q _ => cases h
  | case2 q m' rest _ hw => cases h; exact hw
  | case3 q m' rest _ _ _ ih => exact ih h

/-- Taking a message keeps, of the messages that `keep` holds of, all the others in their order, if none of them is
unwanted. -/
theorem filter_takeWanted {keep : Message → Bool} (hk : ∀ m, keep m = true → wants m.channel = true) (q : Backlog) :
    q.toList.filter keep =
      (takeWanted wants q).1.toList.filter keep ++ (takeWanted wants q).2.1.toList.filter keep := by
  fun_induction takeWanted wants q with
  | case1 q _ => simp
  | case2 q m rest hp _ =>
    rw [Backlog.toList_of_pop hp]
    cases hm : keep m <;> simp [hm]
  | case3 q m rest hp hw _ ih =>
    have hm : keep m = false := by
      by_contra hne
      exact hw (hk m (by simpa using hne))
    rw [Backlog.toList_of_pop hp, List.filter_cons, hm]
    exact ih

@[simp] theorem capacity_takeWanted (q : Backlog) : (takeWanted wants q).2.1.capacity = q.capacity := by
  fun_induction takeWanted wants q with
  | case1 q _ => rfl
  | case2 q m rest hp _ => exact Backlog.capacity_of_pop hp
  | case3 q m rest hp _ _ ih => exact ih.trans (Backlog.capacity_of_pop hp)

/-- A mailbox that is open gives out its first wanted message, or wants to be waited for. -/
theorem take_of_open {box : Mailbox} (hc : box.closed = false) :
    box.take wants =
      (.ok (match (takeWanted wants box.waiting).1 with
        | some m => .message m
        | none => .later none),
      settle { box with waiting := (takeWanted wants box.waiting).2.1 }, (takeWanted wants box.waiting).2.2) := by
  rw [take, hc]
  rfl

/-- A mailbox that is closed gives an error and stays as it is. -/
theorem take_of_closed {box : Mailbox} (hc : box.closed = true) (wants : String → Bool) :
    box.take wants = (.error .closed, box, []) := by
  rw [take, if_pos hc]

/-! ## Messages that are thrown away -/

@[simp] theorem closed_retain (box : Mailbox) : (box.retain wants).1.closed = box.closed := by
  simp [retain]

@[simp] theorem capacity_retain (box : Mailbox) :
    (box.retain wants).1.waiting.capacity = box.waiting.capacity := by
  simp [retain]

theorem toList_retain (box : Mailbox) :
    (box.retain wants).1.waiting.toList = box.waiting.toList.filter fun m => wants m.channel := by
  simp [retain]

/-- Of the messages that a receiver still cares for none is thrown away. -/
theorem filter_wanted {keep : Message → Bool} (hk : ∀ m, keep m = true → wants m.channel = true) (ms : List Message) :
    (ms.filter fun m => wants m.channel).filter keep = ms.filter keep := by
  rw [List.filter_filter]
  congr 1
  funext m
  cases hm : keep m <;> simp [hk, hm]

/-! ## Signals -/

/-- The signal is up exactly while messages wait. -/
structure Alert (box : Mailbox) : Prop where
  raised : box.signal.raised = true ↔ box.waiting.toList ≠ []
  consistent : box.signal.Consistent

theorem alert_settle {box : Mailbox} (hr : box.waiting.toList ≠ [] → box.signal.raised = true)
    (hc : box.signal.Consistent) : box.settle.Alert := by
  unfold settle
  split
  · rename_i hsize
    have hnil : box.waiting.toList = [] := List.length_eq_zero_iff.1 ((Backlog.length_toList _).trans hsize)
    exact ⟨iff_of_false (by simp) (by simp [hnil]), Signal.consistent_lower hc⟩
  · rename_i hsize
    have hne : box.waiting.toList ≠ [] := fun hnil => hsize (by rw [← Backlog.length_toList, hnil]; rfl)
    exact ⟨iff_of_true (hr hne) hne, hc⟩

theorem alert_put {box : Mailbox} (h : box.Alert) (hu : box.waiting.capacity = none) (m : Message) :
    (box.put wants m).1.Alert := by
  unfold put
  split
  · split
    · exact h
    · exact ⟨iff_of_true (Signal.raised_raise _) (by simp [Backlog.push_of_unbounded hu]),
        Signal.consistent_raise h.consistent⟩
  · exact h

/-- The signal of a mailbox from which something was taken away is brought up to date. -/
theorem alert_taken {box : Mailbox} (h : box.Alert) {q : Backlog} (hq : q.toList ≠ [] → box.waiting.toList ≠ []) :
    (settle { box with waiting := q }).Alert :=
  alert_settle (fun hne => h.raised.2 (hq hne)) h.consistent

theorem alert_retain {box : Mailbox} (h : box.Alert) : (box.retain wants).1.Alert :=
  alert_taken h fun hne hnil => hne (by rw [Backlog.toList_retain, hnil]; rfl)

/-! ## Lists of messages -/

/-- The messages from the first wanted one on. -/
def skip (wants : String → Bool) (ms : List Message) : List Message := ms.dropWhile fun m => !wants m.channel

theorem skip_of_wanted {ms : List Message} (h : ∀ m ∈ ms, wants m.channel = true) : skip wants ms = ms := by
  cases ms with
  | nil => rfl
  | cons m ms => exact List.dropWhile_cons_of_neg (by simp [h m List.mem_cons_self])

/-- The first wanted message is taken, and the ones before it are dropped. -/
theorem takeWanted_eq (wants : String → Bool) (q : Backlog) :
    (takeWanted wants q).1 = (skip wants q.toList).head? ∧
      (takeWanted wants q).2.1.toList = (skip wants q.toList).tail := by
  fun_induction takeWanted wants q with
  | case1 q hpop => simp [Backlog.pop_eq_none_iff.1 hpop, skip]
  | case2 q m rest hpop hm =>
    rw [Backlog.toList_of_pop hpop, skip, List.dropWhile_cons_of_neg (by simp [hm])]
    exact ⟨rfl, rfl⟩
  | case3 q m rest hpop hm _ ih =>
    rw [Backlog.toList_of_pop hpop, skip, List.dropWhile_cons_of_pos (by simpa using hm)]
    exact ih

/-- Of messages that are all wanted the first one is taken. -/
theorem takeWanted_of_wanted {q : Backlog} (h : ∀ m ∈ q.toList, wants m.channel = true) :
    (takeWanted wants q).1 = q.toList.head? ∧ (takeWanted wants q).2.1.toList = q.toList.tail := by
  have htaken := takeWanted_eq wants q
  rwa [skip_of_wanted h] at htaken

/-- A mailbox without a bound, and what waits in it. -/
structure Holds (box : Mailbox) (ms : List Message) (isOpen : Bool) : Prop where
  toList : box.waiting.toList = ms
  unbounded : box.waiting.capacity = none
  closed : box.closed = !isOpen

section Holds

variable {box : Mailbox} {ms : List Message} {isOpen : Bool}

theorem holds_new : Holds {} [] true := ⟨rfl, rfl, rfl⟩

/-- A message comes in if the mailbox is open and the message is wanted. -/
theorem Holds.put (h : box.Holds ms isOpen) (wants : String → Bool) (m : Message) :
    (box.put wants m).1.Holds (if isOpen = true ∧ wants m.channel = true then ms ++ [m] else ms) isOpen := by
  refine ⟨?_, (capacity_put ..).trans h.unbounded, (closed_put ..).trans h.closed⟩
  rw [toList_put h.unbounded, h.toList, h.closed]
  cases isOpen <;> cases wants m.channel <;> simp

theorem Holds.retain (h : box.Holds ms isOpen) (wants : String → Bool) :
    (box.retain wants).1.Holds (ms.filter fun m => wants m.channel) isOpen :=
  ⟨by rw [toList_retain, h.toList], (capacity_retain box).trans h.unbounded, (closed_retain box).trans h.closed⟩

theorem Holds.close (h : box.Holds ms isOpen) : box.close.Holds [] false := ⟨rfl, h.unbounded, rfl⟩

/-- A mailbox that is open gives out its first wanted message. -/
theorem Holds.take_open (h : box.Holds ms true) (wants : String → Bool) :
    (box.take wants).1 = .ok ((skip wants ms).head?.elim (.later none) .message) ∧
      (box.take wants).2.1.Holds (skip wants ms).tail true := by
  obtain ⟨hfirst, hrest⟩ := takeWanted_eq wants box.waiting
  rw [h.toList] at hfirst hrest
  rw [take_of_open h.closed, hfirst]
  refine ⟨?_, ?_, ?_, ?_⟩
  · cases (skip wants ms).head? <;> rfl
  · rw [waiting_settle]
    exact hrest
  · rw [waiting_settle]
    exact (capacity_takeWanted box.waiting).trans h.unbounded
  · exact (closed_settle _).trans h.closed

end Holds

/-! ## Empty mailboxes -/

/-- Nothing waits, and the signal is down. -/
structure Idle (box : Mailbox) : Prop where
  empty : box.waiting.size = 0
  low : box.signal.raised = false

/-- A mailbox that has been closed. -/
structure Shut (box : Mailbox) : Prop extends Idle box where
  closed : box.closed = true

variable {box : Mailbox}

theorem idle_settle (h : box.waiting.size = 0) : box.settle.Idle := by
  rw [settle, if_pos h]
  exact ⟨h, Signal.raised_lower _⟩

theorem takeWanted_of_empty {q : Backlog} (h : q.size = 0) : takeWanted wants q = (none, q, []) := by
  have hpop : q.pop = none :=
    Backlog.pop_eq_none_iff.2 (List.length_eq_zero_iff.1 ((Backlog.length_toList q).trans h))
  unfold takeWanted
  split
  · rfl
  · rename_i hsome
    cases hpop.symm.trans hsome

/-- An empty mailbox stays empty when a message is asked for. -/
theorem idle_take (h : box.Idle) (wants : String → Bool) : (box.take wants).2.1.Idle := by
  unfold take
  split
  · exact h
  · rw [takeWanted_of_empty h.empty]
    exact idle_settle h.empty

theorem closed_take (box : Mailbox) (wants : String → Bool) : (box.take wants).2.1.closed = box.closed := by
  unfold take
  split
  · rfl
  · exact closed_settle _

theorem idle_retain (h : box.Idle) (wants : String → Bool) : (box.retain wants).1.Idle := by
  refine idle_settle ?_
  have hnil : box.waiting.toList = [] := List.length_eq_zero_iff.1 ((Backlog.length_toList _).trans h.empty)
  show (box.waiting.retain fun m => wants m.channel).size = 0
  rw [← Backlog.length_toList, Backlog.toList_retain, hnil]
  rfl

theorem Shut.retain (h : box.Shut) (wants : String → Bool) : (box.retain wants).1.Shut :=
  ⟨idle_retain h.toIdle wants, (closed_retain box).trans h.closed⟩

theorem shut_close (box : Mailbox) : box.close.Shut := ⟨⟨rfl, Signal.raised_lower _⟩, rfl⟩

end PubSub.Mailbox
