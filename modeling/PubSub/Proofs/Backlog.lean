import Mathlib.Data.List.Perm.Basic
import PubSub.Backlog

/-!
# Calls to a backlog

Any calls to a backlog, in any order, and what they come to. No message is lost or doubled: whoever was let in has been
taken out, has been discarded or still waits, and all leave in the order in which they came.

* `Backlog.Call`, `Backlog.Turn`: a call, and what it comes to.
* `Backlog.answer`, `Backlog.answerAll`: one call, and any number of calls.
* `Backlog.entered`, `Backlog.popped`, `Backlog.discarded`, `Backlog.removed`: the messages that came and those that
  left.
* `Backlog.boundAfter`: the bound that calls leave.

Results:

* `Backlog.removed_append_toList`: the messages that left and those that wait are those that came, in this order.
* `Backlog.dropped_answerAll`: the rejections, and only they, are counted.
* `Backlog.length_answerAll_le`: a backlog does not grow beyond its bound.
* `Backlog.balance`: all this, of every backlog that calls lead to.
-/

namespace PubSub.Backlog

/-- A call to a backlog. -/
inductive Call
  | push (m : Message)
  | pop
  | setCapacity (capacity : Option Nat)
  | clear

/-- What a call comes to. -/
inductive Turn
  | accepted (m : Message)
  | rejected (m : Message)
  /-- The message that was taken out, if one waited. -/
  | popped (m : Option Message)
  | bounded
  /-- The messages that were discarded. -/
  | cleared (ms : List Message)

/-- A backlog is called. -/
def answer (q : Backlog) : Call → Turn × Backlog
  | .push m => (if (q.push m).1 then .accepted m else .rejected m, (q.push m).2)
  | .pop =>
    match q.pop with
    | some (m, rest) => (.popped (some m), rest)
    | none => (.popped none, q)
  | .setCapacity capacity => (.bounded, q.setCapacity capacity)
  | .clear => (.cleared q.toList, q.clear)

/-- A backlog is called several times. -/
def answerAll (q : Backlog) : List Call → List Turn × Backlog
  | [] => ([], q)
  | call :: calls =>
    let (turn, r) := q.answer call
    let (turns, r) := r.answerAll calls
    (turn :: turns, r)

/-! ## What happened -/

/-- The message that a turn has let in. -/
def Turn.entered : Turn → List Message
  | .accepted m => [m]
  | _ => []

/-- The message that a turn has taken out. -/
def Turn.popped? : Turn → List Message
  | .popped m => m.toList
  | _ => []

/-- The messages that a turn has discarded. -/
def Turn.discarded : Turn → List Message
  | .cleared ms => ms
  | _ => []

/-- Whether a turn has rejected a message. -/
def Turn.isRejection : Turn → Bool
  | .rejected _ => true
  | _ => false

/-- The messages that were let in, in the order in which they came. -/
def entered (turns : List Turn) : List Message := turns.flatMap Turn.entered

/-- The messages that were taken out one by one. -/
def popped (turns : List Turn) : List Message := turns.flatMap Turn.popped?

/-- The messages that were discarded. -/
def discarded (turns : List Turn) : List Message := turns.flatMap Turn.discarded

/-- The messages that left in either way, in the order in which they did. -/
def removed (turns : List Turn) : List Message := turns.flatMap fun turn => turn.popped? ++ turn.discarded

/-- The bound that a call leaves. -/
def boundAfter (capacity : Option Nat) : List Call → Option Nat
  | [] => capacity
  | .setCapacity capacity :: calls => boundAfter capacity calls
  | _ :: calls => boundAfter capacity calls

variable {q : Backlog}

/-! ## One call -/

theorem answer_push (q : Backlog) (m : Message) :
    q.answer (.push m) = if q.hasRoom then (.accepted m, (q.push m).2) else (.rejected m, (q.push m).2) := by
  have hpush : (q.push m).1 = q.hasRoom := by
    unfold push
    split <;> simp_all
  rw [answer, hpush]
  split <;> rfl

/-- A message is let in if there is no bound, or if fewer messages wait than it allows. -/
theorem answer_push_accepted_iff (q : Backlog) (m : Message) :
    (q.answer (.push m)).1 = .accepted m ↔
      q.capacity = none ∨ ∃ bound, q.capacity = some bound ∧ q.toList.length < bound := by
  have hroom : q.hasRoom = true ↔ q.capacity = none ∨ ∃ bound, q.capacity = some bound ∧ q.toList.length < bound := by
    rw [length_toList, hasRoom]
    cases q.capacity <;> simp
  rw [← hroom, answer_push]
  split
  · rename_i hin
    exact ⟨fun _ => hin, fun _ => rfl⟩
  · rename_i hin
    refine ⟨fun he => ?_, fun h => absurd h hin⟩
    cases he

/-- What waited and what comes is what leaves and what waits then. -/
theorem answer_balance (q : Backlog) (call : Call) :
    q.toList ++ (q.answer call).1.entered =
      ((q.answer call).1.popped? ++ (q.answer call).1.discarded) ++ (q.answer call).2.toList := by
  cases call with
  | push m =>
    have hlist := toList_push q m
    rw [answer_push]
    split
    · rename_i hroom
      rw [if_pos hroom] at hlist
      exact hlist.symm
    · rename_i hroom
      rw [if_neg hroom] at hlist
      exact (List.append_nil _).trans hlist.symm
  | pop =>
    rw [answer]
    cases hp : q.pop with
    | none => exact List.append_nil _
    | some r => exact (List.append_nil _).trans (toList_of_pop hp)
  | setCapacity => exact List.append_nil _
  | clear => rfl

theorem dropped_answer (q : Backlog) (call : Call) :
    (q.answer call).2.dropped = q.dropped + [(q.answer call).1].countP Turn.isRejection := by
  cases call with
  | push m =>
    have hdropped := dropped_push q m
    rw [answer_push]
    split
    · rename_i hroom
      rwa [if_pos hroom] at hdropped
    · rename_i hroom
      rwa [if_neg hroom] at hdropped
  | pop =>
    rw [answer]
    cases hp : q.pop with
    | none => rfl
    | some r => exact dropped_of_pop hp
  | setCapacity => rfl
  | clear => rfl

theorem capacity_answer (q : Backlog) (call : Call) : (q.answer call).2.capacity = boundAfter q.capacity [call] := by
  cases call with
  | push m => exact capacity_push q m
  | pop =>
    rw [answer]
    cases hp : q.pop with
    | none => rfl
    | some r => exact capacity_of_pop hp
  | setCapacity => rfl
  | clear => rfl

/-- A call lets a message in only if the bound leaves room for it. -/
theorem length_answer_le {bound : Nat} (hbound : q.capacity = some bound) (call : Call) :
    (q.answer call).2.toList.length ≤ max q.toList.length bound := by
  cases call with
  | push m =>
    show (q.push m).2.toList.length ≤ _
    rw [toList_push]
    split
    · rename_i hroom
      have hlt := (hasRoom_iff q).1 hroom bound hbound
      rw [List.length_append, List.length_singleton]
      exact Nat.le_trans hlt (Nat.le_max_right _ _)
    · exact Nat.le_max_left _ _
  | pop =>
    rw [answer]
    cases hp : q.pop with
    | none => exact Nat.le_max_left _ _
    | some r =>
      have hlength := congrArg List.length (toList_of_pop hp)
      rw [List.length_cons] at hlength
      exact Nat.le_trans (Nat.le_of_lt (hlength ▸ Nat.lt_succ_self _)) (Nat.le_max_left _ _)
  | setCapacity => exact Nat.le_max_left _ _
  | clear => exact Nat.zero_le _

/-! ## Any number of calls -/

theorem answerAll_cons (q : Backlog) (call : Call) (calls : List Call) :
    q.answerAll (call :: calls) =
      ((q.answer call).1 :: ((q.answer call).2.answerAll calls).1, ((q.answer call).2.answerAll calls).2) := rfl

/-- The messages that left and those that wait are those that waited and those that came, in this order. -/
theorem removed_append_toList (q : Backlog) (calls : List Call) :
    removed (q.answerAll calls).1 ++ (q.answerAll calls).2.toList = q.toList ++ entered (q.answerAll calls).1 := by
  induction calls generalizing q with
  | nil => exact (List.append_nil _).symm
  | cons call calls ih =>
    have hrest := ih (q.answer call).2
    simp only [removed, entered] at hrest
    simp only [answerAll_cons, removed, entered, List.flatMap_cons]
    rw [List.append_assoc, hrest, ← List.append_assoc, ← answer_balance, List.append_assoc]

theorem dropped_answerAll (q : Backlog) (calls : List Call) :
    (q.answerAll calls).2.dropped = q.dropped + (q.answerAll calls).1.countP Turn.isRejection := by
  induction calls generalizing q with
  | nil => rfl
  | cons call calls ih =>
    rw [answerAll_cons, ih, dropped_answer, Nat.add_assoc, ← List.countP_append, List.singleton_append]

theorem capacity_answerAll (q : Backlog) (calls : List Call) :
    (q.answerAll calls).2.capacity = boundAfter q.capacity calls := by
  induction calls generalizing q with
  | nil => rfl
  | cons call calls ih =>
    rw [answerAll_cons, ih, capacity_answer]
    cases call <;> rfl

/-- As long as nobody changes the bound, a backlog does not grow beyond it. -/
theorem length_answerAll_le {bound : Nat} (hbound : q.capacity = some bound) {calls : List Call}
    (hcalls : ∀ capacity, .setCapacity capacity ∉ calls) :
    (q.answerAll calls).2.toList.length ≤ max q.toList.length bound := by
  induction calls generalizing q with
  | nil => exact Nat.le_max_left _ _
  | cons call calls ih =>
    have hfirst := length_answer_le hbound call
    have hsame : (q.answer call).2.capacity = some bound := by
      rw [capacity_answer]
      cases call with
      | setCapacity capacity => exact absurd List.mem_cons_self (hcalls capacity)
      | _ => exact hbound
    have hrest := ih hsame fun capacity hmem => hcalls capacity (List.mem_cons_of_mem _ hmem)
    simp only [answerAll_cons]
    omega

/-- Whoever has left was taken out or discarded. -/
theorem perm_removed (turns : List Turn) : (popped turns ++ discarded turns).Perm (removed turns) :=
  List.flatMap_append_perm turns Turn.popped? Turn.discarded

/-- Messages are taken out in the order in which they leave. -/
theorem popped_sublist_removed (turns : List Turn) : (popped turns).Sublist (removed turns) := by
  induction turns with
  | nil => exact .slnil
  | cons turn turns ih =>
    rw [popped, removed, List.flatMap_cons, List.flatMap_cons]
    exact (List.sublist_append_left _ _).append ih

/-! ## The balance -/

/-- Whatever calls a new backlog has got, the messages that were taken out, those that were discarded and those that
wait are together those that were accepted, each once, and they are taken out in the order in which they were pushed.
The rejected pushes are counted. A push is accepted then if there is no bound, or if fewer messages wait than the bound
that was set last. Setting another bound changes nothing about the messages; and unless a bound is set, no calls let
more messages wait than the bound, or than waited already. -/
theorem balance (capacity : Option Nat) (calls : List Call) :
    ∃ turns q, (new capacity).answerAll calls = (turns, q) ∧
      (popped turns ++ discarded turns ++ q.toList).Perm (entered turns) ∧
      (popped turns).Sublist (entered turns) ∧
      removed turns ++ q.toList = entered turns ∧
      q.dropped = turns.countP Turn.isRejection ∧
      (∀ m, (q.answer (.push m)).1 = .accepted m ↔ boundAfter capacity calls = none ∨
        ∃ bound, boundAfter capacity calls = some bound ∧ q.toList.length < bound) ∧
      (∀ bound, (q.answer (.setCapacity bound)).2.toList = q.toList) ∧
      ∀ bound more, boundAfter capacity calls = some bound → (∀ other, .setCapacity other ∉ more) →
        (q.answerAll more).2.toList.length ≤ max q.toList.length bound := by
  have hbalance := removed_append_toList (new capacity) calls
  have hdropped := dropped_answerAll (new capacity) calls
  have hcapacity := capacity_answerAll (new capacity) calls
  generalize (new capacity).answerAll calls = r at hbalance hdropped hcapacity
  obtain ⟨turns, q⟩ := r
  have hentered : removed turns ++ q.toList = entered turns := hbalance
  refine ⟨turns, q, rfl, ?_, ?_, hentered, hdropped.trans (Nat.zero_add _), fun m => ?_, fun _ => rfl,
    fun bound more hbound hmore => length_answerAll_le (hcapacity.trans hbound) hmore⟩
  · exact hentered ▸ (perm_removed turns).append_right q.toList
  · exact hentered ▸ (popped_sublist_removed turns).trans (List.sublist_append_left _ _)
  · rw [← show q.capacity = boundAfter capacity calls from hcapacity]
    exact answer_push_accepted_iff q m

/-- The bound is set below what waits, and a message is rejected. -/
def squeezed : List Call :=
  [.push ⟨"c", .empty, 1⟩, .push ⟨"c", .empty, 2⟩, .push ⟨"c", .empty, 3⟩, .pop, .setCapacity (some 1),
    .push ⟨"c", .empty, 4⟩]

theorem balance_squeezed :
    ∃ turns q, (new none).answerAll squeezed = (turns, q) ∧ q.dropped = 1 ∧
      (popped turns ++ discarded turns ++ q.toList).Perm (entered turns) ∧ (entered turns).length = 3 ∧
      (q.answerAll [.push ⟨"c", .empty, 5⟩, .clear, .push ⟨"c", .empty, 6⟩]).2.toList.length ≤ max 2 1 := by
  obtain ⟨turns, q, hrun, hperm, -, -, -, -, -, hgrowth⟩ := balance none squeezed
  have hlength := hgrowth 1 [.push ⟨"c", .empty, 5⟩, .clear, .push ⟨"c", .empty, 6⟩] rfl fun _ hmem => by simp at hmem
  obtain ⟨rfl, rfl⟩ := Prod.mk.inj hrun
  exact ⟨_, _, rfl, rfl, hperm, rfl, hlength⟩

end PubSub.Backlog
