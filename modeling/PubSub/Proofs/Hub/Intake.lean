import PubSub.Proofs.Hub.Delivering
import PubSub.Proofs.Hub.Undisturbed

/-!
# What a dispatch takes in

The first half of a dispatch until a deadline, whatever the broker's transport is and whatever it answers. The
transport is asked for one message after another and each is routed. That ends when the transport has no message or an
error, or without another question: when the batch is full, or when too many messages were taken by nobody.

* `Hub.Rounds`: the messages that were received and routed; `Hub.Ending`: how that ended.
* `Hub.Enough`: the messages for which a dispatch ends without another question.
* `Hub.Collects`: the same for either kind of dispatch.
* `Hub.takenAt`: whether somebody takes the message at a place in a sequence; `Hub.Suffices`: which messages are enough,
  told by this.
* `Act.verdict`: what the dispatch comes to.

Results:

* `Hub.Rounds.fed`: each subscription was fed all messages.
* `Backlog.toList_pushAll_upTo`, `Backlog.dropped_pushAll`: a backlog keeps what its bound allows and counts the rest.
* `Hub.Rounds.count_eq`: how many messages somebody took.
* `Hub.Enough.suffices`: a dispatch ends without another question only for messages that suffice.
* `Act.dispatchWithin_rounds`: a dispatch is such rounds, their ending, and a delivery; `Act.dispatchHeld_collects`: so
  much of it holds of a dispatch of one message too.
-/

namespace PubSub

variable {η : Type}

/-- The first elements of a list, as many as a bound allows; all if there is none. -/
def upTo {α : Type} (bound : Option Nat) (l : List α) : List α :=
  match bound with
  | none => l
  | some c => l.take c

namespace Backlog

/-! ## Backlogs that are fed -/

/-- How many more messages a backlog has room for. -/
def space (q : Backlog) : Option Nat := q.capacity.map (· - q.size)

theorem space_of_empty {q : Backlog} (hq : q.size = 0) : q.space = q.capacity := by
  rw [space, hq]
  cases q.capacity <;> rfl

theorem upTo_space_cons (q : Backlog) (m : Message) (ms : List Message) :
    upTo q.space (m :: ms) = if q.hasRoom then m :: upTo (q.push m).2.space ms else [] := by
  cases hc : q.capacity with
  | none =>
    have hroom : q.hasRoom = true := by rw [hasRoom, hc]
    rw [if_pos hroom, space, space, capacity_push, hc]
    rfl
  | some c =>
    by_cases hroom : q.size < c
    · have hpush : (q.push m).2.size = q.size + 1 := by
        rw [size_push, if_pos (by rw [push_fst, hasRoom, hc]; exact decide_eq_true hroom)]
      rw [if_pos (by rw [hasRoom, hc]; exact decide_eq_true hroom), space, space, capacity_push, hpush, hc]
      simp only [Option.map_some, upTo]
      rw [show c - q.size = (c - (q.size + 1)) + 1 by omega, List.take_succ_cons]
    · rw [if_neg (by rw [hasRoom, hc]; simpa using hroom), space, hc]
      simp only [Option.map_some, upTo]
      rw [Nat.sub_eq_zero_of_le (Nat.not_lt.1 hroom), List.take_zero]

theorem space_push_of_full {q : Backlog} (hq : ¬ q.hasRoom = true) (m : Message) : (q.push m).2.space = q.space := by
  rw [space, space, capacity_push, size_push_of_rejected (by rw [push_fst]; exact hq)]

theorem upTo_space_of_full {q : Backlog} (hq : ¬ q.hasRoom = true) (ms : List Message) : upTo q.space ms = [] := by
  cases ms with
  | nil => cases h : q.space <;> simp [upTo]
  | cons m ms => rw [upTo_space_cons, if_neg hq]

/-- A backlog keeps what it has room for. -/
theorem toList_pushAll_upTo (q : Backlog) (ms : List Message) :
    (q.pushAll ms).toList = q.toList ++ upTo q.space ms := by
  induction ms generalizing q with
  | nil => cases h : q.space <;> simp [pushAll, upTo]
  | cons m ms ih =>
    refine (ih (q.push m).2).trans ?_
    rw [toList_push]
    by_cases hroom : q.hasRoom = true
    · rw [if_pos hroom, upTo_space_cons, if_pos hroom, List.append_assoc, List.singleton_append]
    · rw [if_neg hroom, upTo_space_of_full hroom, space_push_of_full hroom, upTo_space_of_full hroom]

/-- It counts the messages that it does not keep. -/
theorem dropped_pushAll (q : Backlog) (ms : List Message) :
    (q.pushAll ms).dropped = q.dropped + (ms.length - (upTo q.space ms).length) := by
  induction ms generalizing q with
  | nil => simp [pushAll]
  | cons m ms ih =>
    refine (ih (q.push m).2).trans ?_
    rw [dropped_push]
    by_cases hroom : q.hasRoom = true
    · rw [if_pos hroom, upTo_space_cons, if_pos hroom, List.length_cons, List.length_cons]
      omega
    · rw [if_neg hroom, upTo_space_of_full hroom, space_push_of_full hroom, upTo_space_of_full hroom, List.length_cons]
      simp only [List.length_nil]
      omega

/-- An empty backlog that was fed has room as long as it was fed less than its bound. -/
theorem hasRoom_pushAll {q : Backlog} (hq : q.size = 0) (ms : List Message) :
    (q.pushAll ms).hasRoom = q.capacity.all fun c => ms.length < c := by
  have hlist : (q.pushAll ms).toList = upTo q.capacity ms := by
    rw [toList_pushAll_upTo, space_of_empty hq, List.eq_nil_of_length_eq_zero ((length_toList q).trans hq),
      List.nil_append]
  rw [hasRoom, capacity_pushAll, ← length_toList, hlist]
  cases q.capacity with
  | none => rfl
  | some c =>
    simp only [upTo, List.length_take, Option.all_some]
    exact decide_eq_decide.2 (by omega)

end Backlog

namespace Hub

/-! ## Subscriptions that are fed -/

/-- The messages of a sequence that match a subscription. -/
def matched (h : Hub η) (s : Nat) (ms : List Message) : List Message :=
  ms.filter fun m => (h.subscription s).pattern.accepts m.channel

variable {h g : Hub η} {b : Nat}

theorem Undisturbed.fed (hg : Undisturbed h g) (b : Nat) (T : List Nat) : Fed b [] T T h g where
  brokers := hg.brokers
  desk := hg.desk
  size := by rw [hg.subscriptions]
  member s _ := by rw [hg.subscription, fed_nil]
  stranger s _ := hg.subscription s
  touched s := by simp [load, hg.subscription]

/-- Whatever a transport answers, it disturbs nothing. -/
theorem Undisturbed.of_receive {t : Nat} {deadline : Option Nat} {still : Bool} {r : Except Halt Reception}
    (received : Act.receive t deadline still h = (r, g)) : Undisturbed h g := by
  have hg := Act.receive_undisturbed t deadline still h
  rwa [received] at hg

/-! ## Rounds -/

/-- Until when a dispatch waits for its next message: for the deadline until somebody has taken a message, and then not
at all. -/
def patience (deadline : Nat) (T : List Nat) (h : Hub η) : Nat := if T = [] then deadline else h.now

/-- What broker `b` has taken in from transport `t` since `h`: the messages `ms`, one after another, of which somebody
took `n`. The subscriptions that had taken messages before are `T`, and those that have now are `T'`. -/
inductive Rounds (b t deadline : Nat) (T : List Nat) (h : Hub η) : List Message → Nat → List Nat → Hub η → Prop
  | start : Rounds b t deadline T h [] 0 T h
  | round {ms : List Message} {n : Nat} {T' T'' : List Nat} {f k g : Hub η} {m : Message} {a : Bool}
    (before : Rounds b t deadline T h ms n T' f)
    (received : Act.receive t (some (patience deadline T' f)) false f = (.ok (.message m), k))
    (routed : Act.route b m T' k = (.ok (T'', a), g)) :
    Rounds b t deadline T h (ms ++ [m]) (n + a.toNat) T'' g

/-- How rounds end: without another question to the transport, where `stop` holds; because it has no message; or with
its error. -/
inductive Ending (t deadline : Nat) (T : List Nat) (stop : Prop) (h : Hub η) : Option Error → Hub η → Prop
  | enough (reached : stop) : Ending t deadline T stop h none h
  | nothing {g : Hub η}
    (received : Act.receive t (some (patience deadline T h)) false h = (.ok .nothing, g)) :
    Ending t deadline T stop h none g
  | failure {g : Hub η} {e : Error}
    (received : Act.receive t (some (patience deadline T h)) false h = (.error (.failed e), g)) :
    Ending t deadline T stop h (some e) g

/-- The messages that broker `b` has taken in since `h` are enough: from the first one that somebody took on they are a
full batch, or nobody took any, they are a batch at least, and the deadline has passed. -/
inductive Enough (b t deadline : Nat) (h : Hub η) : List Message → Hub η → Prop
  | full {init more : List Message} {m : Message} {n : Nat} {T T' : List Nat} {k k' f : Hub η}
    (missed : Rounds b t deadline [] h init 0 [] k) (taken : Rounds b t deadline [] k [m] 1 T k')
    (filled : Rounds b t deadline T k' more n T' f) (size : more.length + 1 = batchLimit) :
    Enough b t deadline h (init ++ m :: more) f
  | late {ms : List Message} {f : Hub η} (missed : Rounds b t deadline [] h ms 0 [] f)
    (size : batchLimit ≤ ms.length) (passed : deadline ≤ f.now) : Enough b t deadline h ms f

/-- A dispatch of broker `b` has received the messages `ms` from its transport since `h`, and routed them. The
subscriptions that have taken messages are `T`. -/
inductive Collects (b : Nat) (h : Hub η) : Dispatch → List Message → List Nat → Hub η → Prop
  | one {n : Nat} {m : Message} {T : List Nat} {a : Bool} {k f : Hub η}
    (supplied : Act.supply (h.lineOf b) h = (.ok n, h))
    (received : Act.nextWanted (h.broker b) false (n + 1) h = (.ok (some m), k))
    (routed : Act.route b m [] k = (.ok (T, a), f)) : Collects b h .one [m] T f
  /-- There was no message that anybody wants. -/
  | none {n : Nat} {r : Except Halt (Option Message)} {k : Hub η}
    (supplied : Act.supply (h.lineOf b) h = (.ok n, h))
    (received : Act.nextWanted (h.broker b) false (n + 1) h = (r, k)) (missed : ∀ m, r ≠ .ok (some m)) :
    Collects b h .one [] [] k
  | within {milliseconds : Int} {ms : List Message} {n : Nat} {T : List Nat} {f k : Hub η} {last : Option Error}
    (rounds : Rounds b (h.lineOf b) (h.now + milliseconds.toNat * 1000) [] h ms n T f)
    (ending : Ending (h.lineOf b) (h.now + milliseconds.toNat * 1000) T
      (Enough b (h.lineOf b) (h.now + milliseconds.toNat * 1000) h ms f) f last k) (notices : List Notice) :
    Collects b h (.within milliseconds) ms T (k.report notices)

variable {h f g : Hub η} {b t deadline n n' : Nat} {ms ns : List Message} {T T' T'' : List Nat} {last : Option Error}
  {stop stop' : Prop}

theorem Rounds.trans (hf : Rounds b t deadline T h ms n T' f) (hg : Rounds b t deadline T' f ns n' T'' g) :
    Rounds b t deadline T h (ms ++ ns) (n + n') T'' g := by
  induction hg with
  | start => simpa using hf
  | round _ received routed ih =>
    rw [← List.append_assoc, ← Nat.add_assoc]
    exact ih.round received routed

theorem Ending.undisturbed (he : Ending t deadline T stop h last g) : Undisturbed h g := by
  cases he with
  | enough => exact .rfl
  | nothing received => exact Undisturbed.of_receive received
  | failure received => exact Undisturbed.of_receive received

theorem Ending.mono (he : Ending t deadline T stop h last g) (hstop : stop → stop') :
    Ending t deadline T stop' h last g := by
  cases he with
  | enough reached => exact .enough (hstop reached)
  | nothing received => exact .nothing received
  | failure received => exact .failure received

/-- In some rounds, the subscriptions of the broker are fed all messages. -/
theorem Rounds.fed (hs : h.Seated b) (hg : Rounds b t deadline T h ms n T' g) : Fed b ms T T' h g := by
  induction hg with
  | start => exact Undisturbed.rfl.fed b T
  | @round ms n T' T'' f k g m a _ received routed ih =>
    have hk := ih.trans ((Undisturbed.of_receive received).fed b T')
    rw [List.append_nil] at hk
    exact hk.trans (Fed.of_route (hk.seated hs) routed).1

theorem Rounds.count_le (hg : Rounds b t deadline T h ms n T' g) : n ≤ ms.length := by
  induction hg with
  | start => exact Nat.le_refl _
  | @round _ n _ _ _ _ _ _ a _ _ _ ih =>
    rw [List.length_append, List.length_singleton]
    exact Nat.add_le_add ih (Bool.toNat_le a)

/-- Who has taken a message is touched, and nobody else. -/
theorem Fed.touched_eq_nil_iff (hg : Fed b ms T T' h g) : T' = [] ↔ T = [] ∧ ¬ ∃ s, h.load s < g.load s := by
  simp only [List.eq_nil_iff_forall_not_mem, hg.touched, not_or, forall_and, not_exists]

theorem Rounds.touched_eq_nil_iff (hs : h.Seated b) (hg : Rounds b t deadline T h ms n T' g) :
    T' = [] ↔ T = [] ∧ n = 0 := by
  induction hg with
  | start => simp
  | @round ms n T' T'' f k g m a before received routed ih =>
    have hk := (before.fed hs).trans ((Undisturbed.of_receive received).fed b T')
    obtain ⟨hg, ha⟩ := Fed.of_route (hk.seated hs) routed
    rw [hg.touched_eq_nil_iff, ih, hg.grown_iff, ← ha]
    cases a <;> simp

/-! ## How many messages are taken -/

/-- Whether somebody takes the message at place `i` of a sequence if nothing waits before the first one: a subscription
that it matches was given fewer messages than its bound. -/
def takenAt (h : Hub η) (b : Nat) (ms : List Message) (i : Nat) : Bool :=
  (h.members b).any fun s => (ms[i]?.any fun m => (h.subscription s).pattern.accepts m.channel) &&
    (h.subscription s).backlog.capacity.all fun c => (h.matched s (ms.take i)).length < c

theorem takenAt_append {i : Nat} (hi : i < ms.length) (ns : List Message) :
    h.takenAt b (ms ++ ns) i = h.takenAt b ms i := by
  rw [takenAt, takenAt, List.getElem?_append_left hi, List.take_append_of_le_length (Nat.le_of_lt hi)]

/-- After messages were fed to empty backlogs, somebody has room for one more if it is taken behind them. -/
theorem Fed.takes_iff (hempty : ∀ s ∈ h.members b, h.load s = 0) (hg : Fed b ms T T' h g) (m : Message) :
    g.Takes b m ↔ h.takenAt b (ms ++ [m]) ms.length = true := by
  rw [Takes, takenAt, List.any_eq_true]
  simp only [hg.members, List.getElem?_concat_length, Option.any_some, List.take_left, Bool.and_eq_true]
  refine exists_congr fun s => and_congr_right fun hs => ?_
  rw [hg.member s hs, Subscription.fed, Backlog.hasRoom_pushAll (hempty s hs)]
  rfl

theorem Rounds.count_eq (hs : h.Seated b) (hempty : ∀ s ∈ h.members b, h.load s = 0)
    (hg : Rounds b t deadline T h ms n T' g) : n = (List.range ms.length).countP (h.takenAt b ms) := by
  induction hg with
  | start => rfl
  | @round ms n T' T'' f k g m a before received routed ih =>
    have hk := (before.fed hs).trans ((Undisturbed.of_receive received).fed b T')
    rw [List.append_nil] at hk
    have ha := (Fed.of_route (hk.seated hs) routed).2.trans (hk.takes_iff hempty m)
    have hold : (List.range ms.length).countP (h.takenAt b (ms ++ [m])) =
        (List.range ms.length).countP (h.takenAt b ms) :=
      List.countP_congr fun i hi => by rw [takenAt_append (List.mem_range.1 hi)]
    rw [List.length_append, List.length_singleton, List.range_succ, List.countP_append, hold, ← ih,
      List.countP_singleton, Bool.eq_iff_iff.2 ha]
    cases h.takenAt b (ms ++ [m]) ms.length <;> rfl

/-- If nobody has taken a message of the first rounds, the messages that somebody takes come later. -/
theorem Rounds.le_of_takenAt (hs : h.Seated b) (hempty : ∀ s ∈ h.members b, h.load s = 0)
    (hg : Rounds b t deadline T h ms 0 T' g) {i : Nat} (htaken : h.takenAt b (ms ++ ns) i = true) : ms.length ≤ i := by
  by_contra hearly
  have hi : i < ms.length := Nat.not_le.1 hearly
  have hnone := List.countP_eq_zero.1 (hg.count_eq hs hempty).symm i (List.mem_range.2 hi)
  rw [takenAt_append hi] at htaken
  exact hnone htaken

/-- The messages are a full batch from the first one on that somebody takes; or nobody takes any, they are a batch at
least, and at the time `now` the deadline has passed. -/
def Suffices (h : Hub η) (b deadline now : Nat) (ms : List Message) : Prop :=
  (∃ i, h.takenAt b ms i = true ∧ (∀ j < i, h.takenAt b ms j = false) ∧ ms.length = i + batchLimit) ∨
    (∀ j < ms.length, h.takenAt b ms j = false) ∧ batchLimit ≤ ms.length ∧ deadline ≤ now

theorem Enough.suffices (hs : h.Seated b) (hempty : ∀ s ∈ h.members b, h.load s = 0)
    (he : Enough b t deadline h ms f) : h.Suffices b deadline f.now ms := by
  have hmissed : ∀ {init : List Message} {k : Hub η}, Rounds b t deadline [] h init 0 [] k → ∀ more,
      ∀ j < init.length, h.takenAt b (init ++ more) j = false := fun hk more j hj =>
    Bool.eq_false_iff.2 fun htaken => absurd (hk.le_of_takenAt hs hempty htaken) (Nat.not_le.2 hj)
  cases he with
  | @full init more m _ _ _ k _ _ missed taken _ size =>
    refine Or.inl ⟨init.length, ?_, hmissed missed (m :: more), ?_⟩
    · -- of the messages up to this one somebody took one, and it was none of the earlier ones
      have hcount := (missed.trans taken).count_eq hs hempty
      rw [List.length_append, List.length_singleton, List.range_succ, List.countP_append,
        List.countP_singleton] at hcount
      have hnone : (List.range init.length).countP (h.takenAt b (init ++ [m])) = 0 :=
        List.countP_eq_zero.2 fun j hj => Bool.eq_false_iff.1 (hmissed missed [m] j (List.mem_range.1 hj))
      have hone : h.takenAt b (init ++ [m]) init.length = true := by
        by_contra hnot
        rw [hnone, if_neg hnot] at hcount
        cases hcount
      rwa [← takenAt_append (by simp) more, List.append_assoc, List.singleton_append] at hone
    · rw [List.length_append, List.length_cons, size]
  | late missed size passed =>
    refine Or.inr ⟨fun j hj => ?_, size, passed⟩
    have hlate := hmissed missed [] j hj
    rwa [List.append_nil] at hlate

end Hub

namespace Act

open Hub

variable {h : Hub η} {b t : Nat}

/-! ## The loops of a dispatch -/

/-- Waiting for the first message that somebody takes: some rounds in which nobody takes one, and then one more in
which somebody does, or an end. -/
theorem firstAccepted_rounds (hs : h.Seated b) (deadline n discarded : Nat) (hn : h.stock t < n) :
    ∃ ms f, Rounds b t deadline [] h ms 0 [] f ∧
      ((∃ m T g, Rounds b t deadline [] f [m] 1 T g ∧
          firstAccepted b t deadline false n discarded h = (.ok (.accepted T), g)) ∨
        ∃ last g, Ending t deadline [] (batchLimit ≤ discarded + ms.length ∧ deadline ≤ f.now) f last g ∧
          firstAccepted b t deadline false n discarded h =
            (match last with | none => .ok .none | some e => .error (.failed e), g)) := by
  induction n generalizing h discarded with
  | zero => exact absurd hn (Nat.not_lt_zero _)
  | succ n ih =>
    obtain ⟨k, hk, ⟨m, hreceive⟩ | hreceive | ⟨e, hreceive⟩⟩ := receive_answers t deadline h
    · have hseated := (hk.fed b []).seated hs
      obtain ⟨T, a, g, hroute, hg, -⟩ := route_fed hseated m []
      have hround : Rounds b t deadline [] h [m] a.toNat T g := by
        simpa using Rounds.start.round hreceive hroute
      have hless : g.stock t < n := by
        have hstock := stock_route b m [] k t
        rw [hroute] at hstock
        rw [hstock]
        exact Nat.lt_of_lt_of_le (stock_lt_of_receive hreceive) (Nat.le_of_lt_succ hn)
      simp only [firstAccepted, bind_apply, hreceive, hroute, ite_apply, get_apply, pure_apply]
      cases a with
      | true => exact ⟨[], h, .start, Or.inl ⟨m, T, g, hround, rfl⟩⟩
      | false =>
        obtain rfl : T = [] := (hround.touched_eq_nil_iff hs).2 ⟨rfl, rfl⟩
        rw [if_neg Bool.false_ne_true]
        by_cases hstop : batchLimit ≤ discarded + 1 ∧ deadline ≤ g.now
        · rw [if_pos hstop]
          exact ⟨[m], g, hround, Or.inr ⟨none, g, .enough hstop, rfl⟩⟩
        · rw [if_neg hstop]
          obtain ⟨ms, f, hf, hout⟩ := ih (hg.seated hseated) (discarded + 1) hless
          rw [Nat.add_assoc] at hout
          refine ⟨[m] ++ ms, f, hround.trans hf, ?_⟩
          rwa [List.length_append, List.length_singleton]
    · refine ⟨[], h, .start, Or.inr ⟨none, k, .nothing hreceive, ?_⟩⟩
      simp only [firstAccepted, bind_apply, hreceive, pure_apply]
    · refine ⟨[], h, .start, Or.inr ⟨some e, k, .failure hreceive, ?_⟩⟩
      simp only [firstAccepted, bind_apply, hreceive]

/-- The error that is told when the messages that were taken have been handed on: one that the transport goes on
reporting is left to the next dispatch. -/
def deferred : Option Error → Option Error
  | none => none
  | some e => if e.isSticky then none else some e

/-- Taking in what the transport has already, `n` messages at most, once somebody has taken a message. -/
theorem fillBatch_rounds (hs : h.Seated b) (deadline n : Nat) {T : List Nat} (hT : T ≠ []) (count : Nat) :
    ∃ ms taken T' f last g notices, Rounds b t deadline T h ms taken T' f ∧
      Ending t deadline T' (ms.length = n) f last g ∧ ms.length ≤ n ∧
      fillBatch b t n T count h = (.ok ⟨T', count + taken, deferred last⟩, g.report notices) := by
  induction n generalizing h T count with
  | zero => exact ⟨[], 0, T, h, none, h, [], .start, .enough rfl, Nat.le_refl _, rfl⟩
  | succ n ih =>
    have hpatience : patience deadline T h = h.now := if_neg hT
    obtain ⟨k, hk, ⟨m, hreceive⟩ | hreceive | ⟨e, hreceive⟩⟩ := receive_answers t h.now h
    · have hseated := (hk.fed b T).seated hs
      obtain ⟨T', a, g, hroute, hg, -⟩ := route_fed hseated m T
      have hround : Rounds b t deadline T h [m] a.toNat T' g := by
        simpa using Rounds.start.round (by rw [hpatience]; exact hreceive) hroute
      have hT' : T' ≠ [] := fun hnil => hT ((hround.touched_eq_nil_iff hs).1 hnil).1
      obtain ⟨ms, taken, T'', f, last, g', notices, hf, hend, hlength, hfill⟩ :=
        ih (hg.seated hseated) hT' (count + a.toNat)
      have hmore : ([m] ++ ms).length = ms.length + 1 := rfl
      refine ⟨[m] ++ ms, a.toNat + taken, T'', f, last, g', notices, hround.trans hf, hend.mono fun hfull => ?_, ?_, ?_⟩
      · rw [hmore, hfull]
      · rw [hmore]
        exact Nat.succ_le_succ hlength
      · have hcount : (if a = true then count + 1 else count) = count + a.toNat := by cases a <;> rfl
        simp only [fillBatch, bind_apply, get_apply, attempt_apply, hreceive, hroute, hcount, hfill, Nat.add_assoc]
    · refine ⟨[], 0, T, h, none, k, [], .start, .nothing (by rw [hpatience]; exact hreceive), Nat.zero_le _, ?_⟩
      simp only [fillBatch, bind_apply, get_apply, attempt_apply, hreceive, pure_apply]
      rfl
    · refine ⟨[], 0, T, h, some e, k, ?_, .start, .failure (by rw [hpatience]; exact hreceive), Nat.zero_le _, ?_⟩
      · exact if e.isSticky then [.trace s!"broker: batch ended early: {e.message}"]
          else [.warn s!"broker: receive failed mid-batch after {count} messages: {e.message}"]
      · simp only [fillBatch, bind_apply, get_apply, attempt_apply, hreceive, ite_apply, report_apply, pure_apply]
        cases hsticky : e.isSticky <;> simp [deferred, hsticky]

/-- What a dispatch until a deadline comes to in which somebody took `n` messages, and which this error has ended, if
one has. -/
def verdict (n : Nat) (last : Option Error) : Except Error Dispatched :=
  match if n = 0 then last else deferred last with
  | none => .ok (.count n)
  | some e => .error e

theorem verdict_none (n : Nat) : verdict n none = .ok (.count n) := by
  rw [verdict, show deferred none = none from rfl, ite_self]

/-- An error is told at once if nobody has taken a message. -/
theorem verdict_zero (e : Error) : verdict 0 (some e) = .error e := rfl

theorem verdict_of_pos {n : Nat} (hn : 0 < n) (e : Error) :
    verdict n (some e) = if e.isSticky then .ok (.count n) else .error e := by
  rw [verdict, if_neg (Nat.ne_of_gt hn), deferred]
  cases e.isSticky <;> rfl

/-- A dispatch until a deadline takes in messages and then hands on what was taken. Behind messages that nobody takes,
no more than a batch is taken in. -/
theorem dispatchWithin_rounds (run : Handlers η) (hs : h.Seated b) (deadline : Nat) :
    ∃ ms n T f last g notices,
      Rounds b (h.lineOf b) deadline [] h ms n T f ∧
      Ending (h.lineOf b) deadline T (Enough b (h.lineOf b) deadline h ms f) f last g ∧
      (∃ init more k, ms = init ++ more ∧ Rounds b (h.lineOf b) deadline [] h init 0 [] k ∧ n ≤ more.length ∧
        more.length ≤ batchLimit) ∧
      dispatchWithin run b deadline false h =
        (deliver run T >>= fun _ => orHalt (verdict n last)) (g.report notices) := by
  obtain ⟨supplied, hsupply, hstock⟩ := stock_le_supply (h.lineOf b) h
  simp only [dispatchWithin, bind_apply, get_apply, hsupply]
  obtain ⟨init, k, hk, ⟨m, T, f, hf, hfirst⟩ | ⟨last, g, hend, hfirst⟩⟩ :=
    firstAccepted_rounds hs deadline (supplied + 1) 0 (Nat.lt_succ_of_le hstock)
  · have hseated := (hf.fed ((hk.fed hs).seated hs)).seated ((hk.fed hs).seated hs)
    have hT : T ≠ [] := fun hnil =>
      Nat.one_ne_zero ((hf.touched_eq_nil_iff ((hk.fed hs).seated hs)).1 hnil).2
    obtain ⟨ms, taken, T', f', last, g, notices, hrounds, hend, hlength, hfill⟩ :=
      fillBatch_rounds (t := h.lineOf b) hseated deadline (batchLimit - 1) hT 1
    have henough : ms.length = batchLimit - 1 → Enough b (h.lineOf b) deadline h (init ++ ([m] ++ ms)) f' := by
      intro hfull
      refine .full hk hf hrounds ?_
      show ms.length + 1 = batchLimit
      rw [hfull, batchLimit]
    refine ⟨init ++ ([m] ++ ms), 0 + (1 + taken), T', f', last, g, notices, hk.trans (hf.trans hrounds),
      hend.mono henough, ⟨init, [m] ++ ms, k, rfl, hk, ?_, ?_⟩, ?_⟩
    · have htaken := hrounds.count_le
      rw [List.length_append, List.length_singleton]
      omega
    · rw [List.length_append, List.length_singleton]
      rw [batchLimit] at hlength ⊢
      omega
    · have hpos : 1 + taken ≠ 0 := by omega
      simp only [hfirst, bind_apply, hfill, Nat.zero_add, verdict]
      rw [if_neg hpos]
      rcases deliver run T' (g.report notices) with ⟨e | _, g'⟩
      · rfl
      · cases deferred last <;> rfl
  · have henough : batchLimit ≤ 0 + init.length ∧ deadline ≤ k.now → Enough b (h.lineOf b) deadline h init k := by
      rintro ⟨hmany, hpassed⟩
      exact .late hk (by rwa [Nat.zero_add] at hmany) hpassed
    refine ⟨init, 0, [], k, last, g, [], hk, hend.mono henough,
      ⟨init, [], k, by simp, hk, Nat.le_refl _, Nat.zero_le _⟩, ?_⟩
    rw [hfirst]
    cases last <;> rfl

/-! ## Either kind of dispatch -/

theorem nextWanted_undisturbed (broker : Broker) (still : Bool) (n : Nat) (h : Hub η) :
    Undisturbed h (nextWanted broker still n h).2 := by
  induction n generalizing h with
  | zero => exact .rfl
  | succ n ih =>
    have hk := receive_undisturbed broker.transport none still h
    simp only [nextWanted, bind_apply]
    generalize receive broker.transport none still h = r at hk
    obtain ⟨e | m | _ | _, k⟩ := r
    · exact hk
    · simp only [get_bind_apply, ite_apply]
      split
      · exact hk
      · exact (hk.report _).trans (ih _)
    · exact hk.trans (ih k)
    · exact hk

theorem lives_nextWanted (broker : Broker) (still : Bool) (n : Nat) :
    Lives (nextWanted broker still n : Act η (Option Message)) := by
  induction n with
  | zero => exact lives_pure _
  | succ n ih =>
    refine (lives_receive broker.transport none still).bind fun reception => ?_
    cases reception with
    | message m => exact lives_get.bind fun _ => .ite (lives_pure _) ((lives_report _).bind fun _ => ih)
    | nothing => exact ih
    | waiting => exact lives_pure _

end Act

namespace Hub

variable {h f : Hub η} {b : Nat}

/-- What a dispatch has received it has fed to the subscriptions of its broker. -/
theorem Collects.fed {d : Dispatch} {ms : List Message} {T : List Nat} {f : Hub η} (hs : h.Seated b)
    (hc : Collects b h d ms T f) : Fed b ms [] T h f := by
  have hnext : ∀ {n r k}, Act.nextWanted (h.broker b) false n h = (r, k) → Fed b [] [] [] h k := fun {n r k} he => by
    have hk := Act.nextWanted_undisturbed (h.broker b) false n h
    rw [he] at hk
    exact hk.fed b []
  cases hc with
  | one supplied received routed =>
    have hk := hnext received
    exact hk.trans (Fed.of_route (hk.seated hs) routed).1
  | none supplied received => exact hnext received
  | within rounds ending notices =>
    have hf := (rounds.fed hs).trans ((ending.undisturbed.report notices).fed b T)
    rwa [List.append_nil] at hf

end Hub

namespace Act

open Hub

variable {h : Hub η} {b : Nat}

/-- A dispatch receives some messages, which are routed, and then hands on what was taken. -/
theorem dispatchHeld_collects (run : Handlers η) (hs : h.Seated b) (d : Dispatch) :
    ∃ ms T f r, Collects b h d ms T f ∧
      dispatchHeld run b false d h = (deliver run T >>= fun _ => orHalt r) f := by
  cases d with
  | one =>
    obtain ⟨supplied, hsupply, -⟩ := stock_le_supply (h.lineOf b) h
    have hk := nextWanted_undisturbed (h.broker b) false (supplied + 1) h
    have hlives := lives_nextWanted (h.broker b) false (supplied + 1) h
    simp only [dispatchHeld, dispatchOne, bind_apply, get_apply, hsupply]
    cases hnext : nextWanted (h.broker b) false (supplied + 1) h with
    | mk r k =>
      rw [hnext] at hk hlives
      obtain (e | _) | (_ | m) := r
      · refine ⟨[], [], k, .error e, .none hsupply hnext fun _ he => ?_, rfl⟩
        cases he
      · exact absurd rfl hlives
      · refine ⟨[], [], k, .ok .waiting, .none hsupply hnext fun _ he => ?_, rfl⟩
        cases he
      · obtain ⟨T, a, f, hroute, -⟩ := route_fed ((hk.fed b []).seated hs) m []
        refine ⟨[m], T, f, .ok .done, .one hsupply hnext hroute, ?_⟩
        simp only [bind_apply, hroute, orHalt_ok, pure_apply]
  | within milliseconds =>
    obtain ⟨ms, n, T, f, last, g, notices, hf, hend, -, he⟩ :=
      dispatchWithin_rounds run hs (h.now + milliseconds.toNat * 1000)
    rw [dispatchHeld, get_bind_apply]
    exact ⟨ms, T, _, verdict n last, .within hf hend notices, he⟩

end Act
end PubSub
