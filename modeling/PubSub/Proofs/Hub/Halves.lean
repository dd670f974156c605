import PubSub.Proofs.Hub.Intake

/-!
# The two halves of a dispatch

A dispatch takes messages in, and then it runs the handlers of the subscriptions that have taken some. What handlers do
is not known here; it is known on which hubs they are run.

* `Act.Meets`: however an action ends, it keeps a property of hubs, and something holds of its errors.
* `Act.takeIn`: the first half.
* `Act.Drains`, `Act.Delivers`: what the second half runs handlers on.

Results:

* `Act.dispatchHeld_eq`: a dispatch is one half after the other.
* `Act.meets_takeIn`: the first half keeps what receiving a message, and putting one into a backlog, keep.
* `Act.deliver_keeps`: the second half keeps what is kept whenever it runs a handler.
-/

namespace PubSub

variable {η : Type}

namespace Act

open Hub

/-! ## What actions keep -/

/-- However the action ends, it keeps a property of hubs, and if it fails, something holds of the error. -/
def Meets {α : Type} (P : Hub η → Prop) (E : Error → Hub η → Prop) (x : Act η α) : Prop :=
  ∀ h, P h → P (x h).2 ∧ ∀ e, (x h).1 = .error (.failed e) → E e (x h).2

section Meets

variable {α β : Type} {P : Hub η → Prop} {E : Error → Hub η → Prop} {x y : Act η α}

theorem meets_pure (a : α) : Meets P E (pure a : Act η α) := fun _ hp => ⟨hp, fun _ he => nomatch he⟩

theorem meets_get : Meets P E (get : Act η (Hub η)) := fun _ hp => ⟨hp, fun _ he => nomatch he⟩

/-- An action that comes to a result. -/
theorem meets_of_ok {α : Type} {x : Act η α} (hx : ∀ h, P h → ∃ a g, x h = (.ok a, g) ∧ P g) : Meets P E x := by
  intro h hp
  obtain ⟨a, g, he, hg⟩ := hx h hp
  rw [he]
  exact ⟨hg, fun _ he => nomatch he⟩

theorem Meets.bind (hx : Meets P E x) {f : α → Act η β} (hf : ∀ a, Meets P E (f a)) : Meets P E (x >>= f) := by
  intro h hp
  have hfirst := hx h hp
  rw [bind_apply]
  generalize x h = r at hfirst
  obtain ⟨e | a, k⟩ := r
  · exact ⟨hfirst.1, fun e he => hfirst.2 e (by rw [Except.error.inj he])⟩
  · exact hf a k hfirst.1

theorem Meets.ite {c : Prop} [Decidable c] (hx : Meets P E x) (hy : Meets P E y) :
    Meets P E (if c then x else y) := by
  split
  · exact hx
  · exact hy

end Meets

/-! ## Taking messages in -/

/-- The first half of a dispatch. It gives the subscriptions that have taken messages, and what the dispatch comes to if
none of their handlers dies. -/
def takeIn (b : Nat) : Dispatch → Act η (List Nat × Except Error Dispatched)
  | .one => do
    let broker := (← get).broker b
    match ← nextWanted broker false ((← supply broker.transport) + 1) with
    | none => return ([], .ok .waiting)
    | some m =>
      let (touched, _) ← route b m []
      return (touched, .ok .done)
  | .within milliseconds => do
    let deadline := (← get).now + milliseconds.toNat * 1000
    let t := ((← get).broker b).transport
    match ← firstAccepted b t deadline false ((← supply t) + 1) 0 with
    | .waiting => return ([], .ok .waiting)
    | .none => return ([], .ok (.count 0))
    | .accepted touched =>
      let batch ← fillBatch b t (batchLimit - 1) touched 1
      return (batch.touched, match batch.deferred with
        | some e => .error e
        | none => .ok (.count batch.count))

/-- A dispatch takes messages in and delivers them. -/
theorem dispatchHeld_eq (run : Handlers η) (b : Nat) (d : Dispatch) (h : Hub η) :
    dispatchHeld run b false d h =
      (takeIn b d >>= fun taken => deliver run taken.1 >>= fun _ => orHalt taken.2) h := by
  obtain ⟨supplied, hsupply, -⟩ := stock_le_supply (h.lineOf b) h
  cases d with
  | one =>
    simp only [dispatchHeld, dispatchOne, takeIn, bind_apply, get_apply, hsupply]
    rcases nextWanted (h.broker b) false (supplied + 1) h with ⟨e | _ | m, k⟩
    · rfl
    · rfl
    · simp only [bind_apply]
      rcases route b m [] k with ⟨e | ⟨touched, accepted⟩, f⟩ <;> rfl
  | within milliseconds =>
    simp only [dispatchHeld, dispatchWithin, takeIn, bind_apply, get_apply, hsupply]
    rcases firstAccepted b (h.lineOf b) (h.now + milliseconds.toNat * 1000) false (supplied + 1) 0 h with
      ⟨e | touched | _ | _, k⟩
    · rfl
    · simp only [bind_apply]
      rcases fillBatch b (h.lineOf b) (batchLimit - 1) touched 1 k with ⟨e | ⟨touched, count, deferred⟩, f⟩
      · rfl
      · cases deferred <;> rfl
    · rfl
    · rfl

/-- The properties `P` and `E` are kept by what taking messages in does besides receiving. -/
structure Routine (P : Hub η → Prop) (E : Error → Hub η → Prop) : Prop where
  setBacklog : ∀ {h}, P h → ∀ s q, P (h.setBacklog s q)
  report : ∀ {h}, P h → ∀ notices, P (h.report notices)
  told : ∀ {e h}, E e h → ∀ notices, E e (h.report notices)

section TakeIn

variable {P : Hub η → Prop} {E : Error → Hub η → Prop} {b t : Nat}

theorem meets_report (hr : Routine P E) (notices : List Notice) : Meets P E (report notices) :=
  meets_of_ok fun _ hp => ⟨_, _, report_apply notices _, hr.report hp notices⟩

theorem meets_route (hr : Routine P E) (b : Nat) (m : Message) (touched : List Nat) :
    Meets P E (route b m touched) := by
  have henqueue : ∀ s, Meets P E (enqueue m s) := fun s => meets_of_ok fun h hp => by
    obtain ⟨notices, he⟩ := enqueue_apply m s h
    exact ⟨_, _, he, hr.report (hr.setBacklog hp s _) notices⟩
  have hall : ∀ l touched accepted, Meets P E (enqueueAll m l touched accepted) := by
    intro l
    induction l with
    | nil => exact fun _ _ => meets_pure _
    | cons s l ih => exact fun _ _ => (henqueue s).bind fun _ => .ite (ih _ _) (ih _ _)
  refine meets_get.bind fun h => ?_
  cases (h.broker b).subscriptions.filter fun s => (h.subscription s).pattern.accepts m.channel with
  | nil => exact (meets_report hr _).bind fun _ => meets_pure _
  | cons s l => exact hall (s :: l) touched false

theorem meets_nextWanted (hr : Routine P E) (broker : Broker)
    (receives : ∀ deadline, Meets P E (receive broker.transport deadline false)) (n : Nat) :
    Meets P E (nextWanted broker false n) := by
  induction n with
  | zero => exact meets_pure _
  | succ n ih =>
    refine (receives none).bind fun reception => ?_
    cases reception with
    | message m => exact meets_get.bind fun _ => .ite (meets_pure _) ((meets_report hr _).bind fun _ => ih)
    | nothing => exact ih
    | waiting => exact meets_pure _

theorem meets_firstAccepted (hr : Routine P E) (receives : ∀ deadline, Meets P E (receive t deadline false))
    (deadline n discarded : Nat) : Meets P E (firstAccepted b t deadline false n discarded) := by
  induction n generalizing discarded with
  | zero => exact meets_pure _
  | succ n ih =>
    refine (receives (some deadline)).bind fun reception => ?_
    cases reception with
    | message m =>
      refine (meets_route hr b m []).bind fun routed => .ite (meets_pure _) (meets_get.bind fun _ => ?_)
      exact .ite (meets_pure _) (ih _)
    | nothing => exact meets_pure _
    | waiting => exact meets_pure _

/-- What holds of errors holds of the one that is to be told after the delivery. -/
theorem meets_fillBatch (hr : Routine P E) (receives : ∀ deadline, Meets P E (receive t deadline false)) (n : Nat)
    (touched : List Nat) (count : Nat) {h : Hub η} (hp : P h) :
    P (fillBatch b t n touched count h).2 ∧
      (∀ e, (fillBatch b t n touched count h).1 = .error (.failed e) → E e (fillBatch b t n touched count h).2) ∧
      ∀ batch, (fillBatch b t n touched count h).1 = .ok batch →
        ∀ e ∈ batch.deferred, E e (fillBatch b t n touched count h).2 := by
  induction n generalizing touched count h with
  | zero =>
    refine ⟨hp, (fun _ he => by cases he), fun batch hb e he => ?_⟩
    cases hb
    cases he
  | succ n ih =>
    have hk := receives (some h.now) h hp
    simp only [fillBatch, bind_apply, get_apply, attempt_apply]
    generalize receive t (some h.now) false h = r at hk
    obtain ⟨(e | _) | reception, k⟩ := r
    · -- the transport has failed
      simp only [ite_apply, bind_apply, report_apply, pure_apply]
      split
      · refine ⟨hr.report hk.1 _, (fun _ he => by cases he), fun batch hb e he => ?_⟩
        cases hb
        cases he
      · refine ⟨hr.report hk.1 _, (fun _ he => by cases he), fun batch hb e he => ?_⟩
        cases hb
        cases he
        exact hr.told (hk.2 _ rfl) _
    · exact ⟨hk.1, (fun _ he => by cases he), fun _ hb => by cases hb⟩
    · cases reception with
      | message m =>
        have hg := meets_route hr b m touched k hk.1
        simp only [bind_apply]
        generalize route b m touched k = routed at hg
        obtain ⟨e | ⟨touched', accepted⟩, g⟩ := routed
        · exact ⟨hg.1, fun e he => hg.2 e (by rw [Except.error.inj he]), fun _ hb => by cases hb⟩
        · exact ih _ _ hg.1
      | nothing | waiting =>
        refine ⟨hk.1, (fun _ he => by cases he), fun batch hb e he => ?_⟩
        cases hb
        cases he

/-- Taking messages in keeps what receiving one keeps. What holds of the errors of the transport holds of the error that
it fails with, or that the dispatch is to tell of after the delivery. -/
theorem meets_takeIn (hr : Routine P E) {h : Hub η}
    (receives : ∀ deadline, Meets P E (receive (h.lineOf b) deadline false)) (d : Dispatch) (hp : P h) :
    P (takeIn b d h).2 ∧ (∀ e, (takeIn b d h).1 = .error (.failed e) → E e (takeIn b d h).2) ∧
      ∀ T e, (takeIn b d h).1 = .ok (T, .error e) → E e (takeIn b d h).2 := by
  obtain ⟨supplied, hsupply, -⟩ := stock_le_supply (h.lineOf b) h
  cases d with
  | one =>
    have hk := meets_nextWanted hr (h.broker b) receives (supplied + 1) h hp
    simp only [takeIn, bind_apply, get_apply, hsupply]
    generalize nextWanted (h.broker b) false (supplied + 1) h = r at hk
    obtain ⟨e | _ | m, k⟩ := r
    · exact ⟨hk.1, fun e he => hk.2 e (by rw [Except.error.inj he]), fun _ _ hb => nomatch hb⟩
    · exact ⟨hk.1, (fun _ he => nomatch he), fun _ _ hb => nomatch hb⟩
    · have hg := meets_route hr b m [] k hk.1
      simp only [bind_apply]
      generalize route b m [] k = routed at hg
      obtain ⟨e | ⟨touched, accepted⟩, g⟩ := routed
      · exact ⟨hg.1, fun e he => hg.2 e (by rw [Except.error.inj he]), fun _ _ hb => nomatch hb⟩
      · exact ⟨hg.1, (fun _ he => nomatch he), fun _ _ hb => nomatch hb⟩
  | within milliseconds =>
    have hk := meets_firstAccepted hr (b := b) receives (h.now + milliseconds.toNat * 1000) (supplied + 1) 0 h hp
    simp only [takeIn, bind_apply, get_apply, hsupply]
    generalize firstAccepted b (h.lineOf b) (h.now + milliseconds.toNat * 1000) false (supplied + 1) 0 h = r at hk
    obtain ⟨e | touched | _ | _, k⟩ := r
    · exact ⟨hk.1, fun e he => hk.2 e (by rw [Except.error.inj he]), fun _ _ hb => nomatch hb⟩
    · obtain ⟨hg, herror, hdeferred⟩ := meets_fillBatch hr (b := b) receives (batchLimit - 1) touched 1 hk.1
      simp only [bind_apply]
      generalize fillBatch b (h.lineOf b) (batchLimit - 1) touched 1 k = filled at hg herror hdeferred
      obtain ⟨e | ⟨touched', count, deferred⟩, g⟩ := filled
      · exact ⟨hg, fun e he => herror e (by rw [Except.error.inj he]), fun _ _ hb => nomatch hb⟩
      · refine ⟨hg, (fun _ he => nomatch he), fun T e hb => ?_⟩
        cases deferred with
        | none => cases hb
        | some e' =>
          cases hb
          exact hdeferred _ rfl e rfl
    · exact ⟨hk.1, (fun _ he => nomatch he), fun _ _ hb => nomatch hb⟩
    · exact ⟨hk.1, (fun _ he => nomatch he), fun _ _ hb => nomatch hb⟩

end TakeIn

/-! ## Running handlers -/

/-- Run on what waits for it, `n` times at most, the handler of `s` is once given `m` while the hub is `k`. -/
inductive Drains (run : Handlers η) (s : Nat) : Nat → Hub η → Message → Hub η → Prop
  | now {n : Nat} {h : Hub η} {m : Message} {rest : Backlog} (active : (h.subscription s).active = true)
    (next : (h.subscription s).backlog.pop = some (m, rest)) (whole : (h.subscription s).spoiled = false) :
    Drains run s (n + 1) h m (h.setBacklog s rest)
  | later {n : Nat} {h g k : Hub η} {m m' : Message} {rest : Backlog} (active : (h.subscription s).active = true)
    (next : (h.subscription s).backlog.pop = some (m, rest)) (whole : (h.subscription s).spoiled = false)
    (returned : run s m (h.setBacklog s rest) = (.returned, g)) (after : Drains run s n g m' k) :
    Drains run s (n + 1) h m' k

/-- In a delivery to subscriptions, the handler of `s` is once given `m` while the hub is `k`. -/
inductive Delivers (run : Handlers η) : List Nat → Hub η → Nat → Message → Hub η → Prop
  | now {s : Nat} {rest : List Nat} {h k : Hub η} {m : Message}
    (drains : Drains run s (h.subscription s).backlog.size h m k) : Delivers run (s :: rest) h s m k
  | later {s u : Nat} {rest : List Nat} {h g k : Hub η} {m : Message}
    (drained : drain run s (h.subscription s).backlog.size h = (.ok (), g)) (after : Delivers run rest g u m k) :
    Delivers run (s :: rest) h u m k

section Deliver

variable {P : Hub η → Prop} {run : Handlers η} {h : Hub η} {s : Nat}

/-- A handler that is run is run first on what has waited longest. -/
theorem Drains.first {n : Nat} {k : Hub η} {m : Message} (hd : Drains run s (n + 1) h m k) :
    ∃ m' rest, (h.subscription s).active = true ∧ (h.subscription s).backlog.pop = some (m', rest) ∧
      (h.subscription s).spoiled = false ∧
      (k = h.setBacklog s rest ∨ ∃ g, run s m' (h.setBacklog s rest) = (.returned, g) ∧ Drains run s n g m k) := by
  cases hd with
  | now active next whole => exact ⟨_, _, active, next, whole, Or.inl rfl⟩
  | later active next whole returned after => exact ⟨_, _, active, next, whole, Or.inr ⟨_, returned, after⟩⟩

/-- Running a handler on what waits for it keeps what is kept each time that it is run, and each time this holds. -/
theorem drain_keeps (hset : ∀ k s q, P k → P (k.setBacklog s q))
    (hspoil : ∀ k s, P k → P (k.modifySubscription s fun u => { u with spoiled := true })) {n : Nat}
    (hrun : ∀ m k, Drains run s n h m k → P k → P (run s m k).2) (hp : P h) :
    P (drain run s n h).2 ∧ ∀ m k, Drains run s n h m k → P k := by
  induction n generalizing h with
  | zero => exact ⟨hp, fun m k hk => nomatch hk⟩
  | succ n ih =>
    simp only [drain, bind_apply, get_apply, ite_apply]
    cases ha : (h.subscription s).active with
    | false =>
      refine ⟨hp, fun m k hk => ?_⟩
      obtain ⟨m', rest, active, -⟩ := hk.first
      exact absurd (ha.symm.trans active) Bool.false_ne_true
    | true =>
      rw [if_pos rfl]
      cases hn : (h.subscription s).backlog.pop with
      | none =>
        refine ⟨hp, fun m k hk => ?_⟩
        obtain ⟨m', rest, -, next, -⟩ := hk.first
        cases hn.symm.trans next
      | some r =>
        obtain ⟨m, rest⟩ := r
        have hpopped := hset h s rest hp
        simp only [modify_apply, bind_apply, ite_apply, fail_apply]
        cases hw : (h.subscription s).spoiled with
        | true =>
          refine ⟨hpopped, fun m' k hk => ?_⟩
          obtain ⟨-, -, -, -, whole, -⟩ := hk.first
          exact absurd (whole.symm.trans hw) Bool.false_ne_true
        | false =>
          rw [if_neg Bool.false_ne_true]
          have hfirst := hrun m _ (.now ha hn hw) hpopped
          have hlater : ∀ m' k, Drains run s (n + 1) h m' k → k = h.setBacklog s rest ∨
              ∃ g, run s m (h.setBacklog s rest) = (.returned, g) ∧ Drains run s n g m' k := fun m' k hk => by
            obtain ⟨_, _, -, next, -, hk⟩ := hk.first
            cases hn.symm.trans next
            exact hk
          rw [invoke]
          cases hr : run s m (h.setBacklog s rest) with
          | mk fate g =>
            rw [hr] at hfirst
            cases fate with
            | died =>
              refine ⟨hspoil g s hfirst, fun m' k hk => ?_⟩
              rcases hlater m' k hk with rfl | ⟨g', returned, -⟩
              · exact hpopped
              · cases hr.symm.trans returned
            | returned =>
              obtain ⟨hlast, hall⟩ := ih (fun m' k hk => hrun m' k (.later ha hn hw hr hk)) hfirst
              refine ⟨hlast, fun m' k hk => ?_⟩
              rcases hlater m' k hk with rfl | ⟨g', returned, after⟩
              · exact hpopped
              · cases hr.symm.trans returned
                exact hall m' k after

/-- A delivery keeps what is kept each time that a handler is run, and each time this holds. -/
theorem deliver_keeps (hset : ∀ k s q, P k → P (k.setBacklog s q))
    (hspoil : ∀ k s, P k → P (k.modifySubscription s fun u => { u with spoiled := true })) {T : List Nat}
    (hrun : ∀ s m k, Delivers run T h s m k → P k → P (run s m k).2) (hp : P h) :
    P (deliver run T h).2 ∧ ∀ s m k, Delivers run T h s m k → P k := by
  induction T generalizing h with
  | nil => exact ⟨hp, fun s m k hk => nomatch hk⟩
  | cons s T ih =>
    obtain ⟨hlast, hall⟩ := drain_keeps hset hspoil (fun m k hk => hrun s m k (.now hk)) hp
    simp only [deliver, bind_apply, get_apply]
    cases hd : drain run s (h.subscription s).backlog.size h with
    | mk r g =>
      rw [hd] at hlast
      cases r with
      | error e =>
        refine ⟨hlast, fun u m k hk => ?_⟩
        cases hk with
        | now drains => exact hall m k drains
        | later drained => cases hd.symm.trans drained
      | ok _ =>
        obtain ⟨hend, hrest⟩ := ih (fun u m k hk => hrun u m k (.later hd hk)) hlast
        refine ⟨hend, fun u m k hk => ?_⟩
        cases hk with
        | now drains => exact hall m k drains
        | later drained after =>
          cases hd.symm.trans drained
          exact hrest u m k after

end Deliver

end Act
end PubSub
