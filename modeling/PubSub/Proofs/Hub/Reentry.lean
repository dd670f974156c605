import PubSub.Proofs.Hub.Belonging
import PubSub.Proofs.Hub.Halves
import PubSub.Proofs.Hub.Steering

/-!
# Calls from handlers

All that may be done with brokers: by their users, and by the handlers that a dispatch runs, at any broker and in any
depth. A handler may subscribe and unsubscribe, make brokers and close them, dispatch, and die; it need not be the same
one twice.

* `Reentry.Deed`: one thing that is done and runs no handler.
* `Reentry.Begun`: a dispatch that has taken its messages in.
* `Reentry.Deeds`: what is done in some time, dispatches included.
* `Reentry.Moment`: the hubs that are seen at any time, and the brokers of which a dispatch is in progress then.
* `Reentry.Intact`: what lasts.

Results:

* `Reentry.Deeds.intact`: deeds keep the interests of brokers true to their subscriptions, and the same brokers busy.
* `Reentry.Moment.sound`: so they are at every moment, and a broker is busy while a dispatch of it is in progress.
-/

namespace PubSub.Reentry

open Hub

variable {η : Type}

/-! ## What may be done -/

/-- One thing that is done with a hub and runs no handler. -/
inductive Deed : Hub η → Hub η → Prop
  /-- Something that is no call to a broker: time passes, messages come in, interests and transports are made. -/
  | aside {h g : Hub η} (brokers : g.brokers = h.brokers) (subscriptions : g.subscriptions = h.subscriptions)
    (unsteered : Unsteered h g) : Deed h g
  /-- An interest changes that is no broker's. -/
  | retune (h : Hub η) (i : Nat) (change : Interest → Interest)
    (free : ∀ b < h.brokers.size, (h.broker b).interest ≠ i) : Deed h (h.modifyInterest i change)
  | publish (h : Hub η) (b : Nat) (channel : String) (payload : ByteArray) :
    Deed h (Act.publish b channel payload h).2
  | subscribe (h : Hub η) (b : Nat) (made : b < h.brokers.size) (text : String) : Deed h (Act.subscribe b text h).2
  | unsubscribe (h : Hub η) (b : Nat) (made : b < h.brokers.size) (s : Nat) : Deed h (Act.unsubscribe b s h).2
  | setCapacity (h : Hub η) (s : Nat) (capacity : Option Nat) : Deed h (h.setCapacity s capacity)
  | close (h : Hub η) (b : Nat) (made : b < h.brokers.size) : Deed h (Act.closeBroker b h).2
  | release (h : Hub η) (b : Nat) (made : b < h.brokers.size) : Deed h (Act.releaseBroker b h).2
  /-- A broker is made on an address. -/
  | openAddress (h : Hub η) (a : Address) (exchange : Nat) (clock : Clock) (capacity : Option Nat) :
    Deed h (Act.openAddress a exchange clock capacity h).2
  /-- A broker is made on a transport of any kind. -/
  | attach (h : Hub η) (line : Line) (clock : Clock) (capacity : Option Nat) :
    Deed h (h.enlarged line clock capacity)

/-- A dispatch of an open broker that was not busy has taken its messages in. The hub is `f` then; the handlers of `T`
are about to be run, and if none of them dies the dispatch comes to `r`. -/
structure Begun (b : Nat) (d : Dispatch) (h : Hub η) (T : List Nat) (r : Except Error Dispatched) (f : Hub η) :
    Prop where
  attached : h.Attached b
  idle : (h.broker b).busy = false
  allowed : Act.checkTime d h = (.ok (), h)
  taken : Act.takeIn b d (h.setBusy b true) = (.ok (T, r), f)

/-- What is done with a hub in some time. The handlers that a dispatch runs do such things, each time that they are
run. -/
inductive Deeds : Hub η → Hub η → Prop
  | refl (h : Hub η) : Deeds h h
  | step {h f g : Hub η} (before : Deeds h f) (deed : Deed f g) : Deeds h g
  | dispatch {h f : Hub η} (before : Deeds h f) (run : Handlers η) (b : Nat) (made : b < f.brokers.size) (d : Dispatch)
    (handlers : ∀ T r g, Begun b d f T r g → ∀ s m k, Act.Delivers run T g s m k → Deeds k (run s m k).2) :
    Deeds h (Act.dispatch run b d f).2

/-- The hubs that are seen at any time, from one without brokers on, with the brokers of which a dispatch is in
progress, the last to begin first. These are seen while no handler runs, and by the handlers. -/
inductive Moment : List Nat → Hub η → Prop
  | start {h : Hub η} (brokers : h.brokers = #[]) : Moment [] h
  | deeds {stack : List Nat} {h g : Hub η} (before : Moment stack h) (deeds : Deeds h g) : Moment stack g
  /-- A dispatch has begun and runs a handler. -/
  | handed {stack : List Nat} {h f k : Hub η} {run : Handlers η} {b s : Nat} {d : Dispatch} {T : List Nat}
    {r : Except Error Dispatched} {m : Message} (before : Moment stack h) (begun : Begun b d h T r f)
    (handlers : ∀ s m k, Act.Delivers run T f s m k → Deeds k (run s m k).2) (handed : Act.Delivers run T f s m k) :
    Moment (b :: stack) k

/-! ## What lasts -/

/-- Interests that mirror subscriptions go on doing so, the same brokers are busy, and who has ended has ended. -/
structure Intact (h g : Hub η) : Prop where
  mirrored : h.Mirrored → g.Mirrored
  busy : ∀ b, (g.broker b).busy = (h.broker b).busy
  retired : ∀ s, h.Retired s → g.Retired s

variable {h f g : Hub η} {b s : Nat} {d : Dispatch} {run : Handlers η}

theorem Intact.rfl : Intact h h := ⟨id, fun _ => Eq.refl _, fun _ hr => hr⟩

theorem Intact.trans (hf : Intact h f) (hg : Intact f g) : Intact h g where
  mirrored hm := hg.mirrored (hf.mirrored hm)
  busy b := (hg.busy b).trans (hf.busy b)
  retired s hr := hg.retired s (hf.retired s hr)

theorem intact_of_unaltered (hg : Unaltered h g) (busy : ∀ b, (g.broker b).busy = (h.broker b).busy) : Intact h g where
  mirrored hm := hm.of_unaltered hg
  busy := busy
  retired s hr := ⟨hg.subscriptions_size ▸ hr.made, (hg.subscription s).2.2 ▸ hr.inactive⟩

theorem intact_of_unsteered (hg : Unsteered h g) (brokers : g.brokers = h.brokers)
    (subscriptions : g.subscriptions = h.subscriptions) : Intact h g :=
  intact_of_unaltered (unaltered_of_unsteered hg brokers subscriptions) fun b => by
    rw [broker, brokers, broker]

theorem intact_of_roster (e : g.roster = h.roster) (brokers : g.brokers = h.brokers) : Intact h g :=
  intact_of_unaltered (unaltered_of_roster e) fun b => by rw [broker, brokers, broker]

/-! ### Calls -/

theorem intact_told (h : Hub η) (t : Nat) (notices : List Notice) :
    Intact h ((Act.interestChanged t h).2.report notices) :=
  intact_of_roster (Act.interestChanged_roster t h) (Act.interestChanged_undisturbed t h).brokers

theorem intact_setBacklog (h : Hub η) (s : Nat) (q : Backlog) : Intact h (h.setBacklog s q) :=
  intact_of_roster (roster_of_wiring (wiring_setBacklog h s q)) rfl

/-- A handler has died. -/
theorem intact_spoiled (h : Hub η) (s : Nat) :
    Intact h (h.modifySubscription s fun u => { u with spoiled := true }) := by
  refine intact_of_unaltered ⟨unsteered_of_tables rfl rfl, rfl, fun _ => rfl, Array.size_modify, fun u => ?_⟩
    fun _ => rfl
  rw [subscription_modifySubscription]
  split <;> exact ⟨rfl, rfl, rfl⟩

theorem intact_subscribe (hb : b < h.brokers.size) (text : String) : Intact h (Act.subscribe b text h).2 := by
  rcases Act.subscribe_snd b text h with he | ⟨ho, pattern, notices, he⟩ <;> rw [he]
  · exact .rfl
  · refine Intact.trans ⟨fun hm => hm.enrolled ⟨hb, ho⟩ pattern, busy_enrolled hb pattern, fun s hr => ?_⟩
      (intact_told _ _ notices)
    refine ⟨?_, ?_⟩
    · rw [subscriptions_size_enrolled]
      exact Nat.lt_succ_of_lt hr.made
    · rw [subscription_enrolled, if_neg (Nat.ne_of_lt hr.made)]
      exact hr.inactive

/-- Who is inactive stays so when another one ends. -/
theorem retired_withdrawn (h : Hub η) (b s u : Nat) (hr : h.Retired u) : (h.withdrawn b s).Retired u := by
  refine ⟨(subscriptions_size_withdrawn h b s).symm ▸ hr.made, ?_⟩
  show ((h.modifySubscription s fun u => { u with active := false, backlog := u.backlog.clear }).subscription u).active
    = false
  rw [subscription_modifySubscription]
  split
  · rfl
  · exact hr.inactive

theorem intact_unsubscribe (hb : b < h.brokers.size) (s : Nat) : Intact h (Act.unsubscribe b s h).2 := by
  rcases Act.unsubscribe_snd b s h with ⟨he, -⟩ | ⟨ho, hs, notices, he⟩ <;> rw [he]
  · exact .rfl
  · exact Intact.trans ⟨fun hm => hm.withdrawn ⟨hb, ho⟩ hs, busy_withdrawn hb s, retired_withdrawn h b s⟩
      (intact_told _ _ notices)

theorem intact_close (hb : b < h.brokers.size) : Intact h (Act.closeBroker b h).2 := by
  cases hc : (h.broker b).closed with
  | true =>
    rw [Act.closeBroker_closed hc]
    exact .rfl
  | false =>
    have line := (h.transport (h.lineOf b)).line
    have hunsteered := unsteered_closeBroker h b
    obtain ⟨g, he, hg⟩ := Act.closeBroker_undisturbed ⟨hb, hc⟩ line
    rw [he] at hunsteered ⊢
    refine ⟨fun hm => ?_, fun c => ?_, fun s hr => ⟨?_, ?_⟩⟩
    · -- the transport of the broker serves whom it served
      have hhoused : Housed h (h.ended b line) := housed_ended hb (hm.line_lt b hb)
      refine (hm.ended hb).of_unaltered (unaltered_of_unsteered ⟨?_, fun i hi => ?_, ?_, fun t ht => ?_⟩ hg.brokers
        hg.subscriptions)
      · exact hhoused.interests_size ▸ hunsteered.interests
      · exact (hunsteered.interest i (hhoused.interests_size ▸ hi)).trans (interest_ended i).symm
      · exact hhoused.transports_size ▸ hunsteered.transports
      · exact (hunsteered.serves t (hhoused.transports_size ▸ ht)).trans (hhoused.serves t).symm
    · rw [hg.broker, busy_ended hb]
    · rw [hg.subscriptions, subscriptions_size_ended]
      exact hr.made
    · rw [hg.subscription, subscription_ended]
      split
      · rfl
      · exact hr.inactive

theorem intact_release (hb : b < h.brokers.size) : Intact h (Act.releaseBroker b h).2 := by
  have hclose := intact_close hb
  simp only [Act.releaseBroker, Act.bind_apply, Act.modify_apply]
  generalize Act.closeBroker b h = r at hclose
  obtain ⟨e | _, g⟩ := r
  · exact hclose
  · exact hclose.trans (intact_of_roster (roster_releaseTransport g _) (undisturbed_releaseTransport g _).brokers)

/-- A new broker is not busy. -/
theorem busy_addBroker (h : Hub η) {br : Broker} (idle : br.busy = false) (c : Nat) :
    ((h.addBroker br).1.broker c).busy = (h.broker c).busy := by
  have hbroker : (h.addBroker br).1.broker c = if c = h.brokers.size then br else h.broker c := getD_push ..
  rw [hbroker]
  split
  · rename_i hc
    rw [idle, broker_of_size_le (Nat.le_of_eq hc.symm)]
    rfl
  · rfl

theorem intact_openAddress (h : Hub η) (a : Address) (exchange : Nat) (clock : Clock) (capacity : Option Nat) :
    Intact h (Act.openAddress a exchange clock capacity h).2 := by
  set k := (h.addInterest .nothing).1
  have hunsteered := (unsteered_addInterest h .nothing).trans
    (unsteered_openTransport k a exchange h.interests.size clock)
  rw [Act.openAddress_eq]
  rcases Act.openTransport_cases k a exchange h.interests.size clock with
    ⟨e, g, he, hg, -⟩ | ⟨g, tr, he, hg, hinterests, htransports, htr⟩
  · rw [he] at hunsteered ⊢
    exact intact_of_unsteered hunsteered hg.brokers hg.subscriptions
  · rw [he] at hunsteered ⊢
    have hopened : Intact h g := intact_of_unsteered hunsteered hg.brokers hg.subscriptions
    refine ⟨fun hm => ?_, fun c => (busy_addBroker (g.report _) rfl c).trans (hopened.busy c),
      fun s hr => ⟨(hopened.retired s hr).made, (hopened.retired s hr).inactive⟩⟩
    -- what was made for the broker is nobody else's
    refine Mirrored.addBroker (h := g.report _) ((hopened.mirrored hm).of_unaltered (unaltered_of_roster rfl)) ?_ ?_ ?_
      ?_ fun b hb => ?_
    · show h.transports.size < g.transports.size
      rw [htransports]
      exact Nat.lt_of_lt_of_eq (Nat.lt_succ_self _) (Array.size_push ..).symm
    · show h.interests.size < g.interests.size
      rw [hinterests]
      exact Nat.lt_of_lt_of_eq (Nat.lt_succ_self _) (Array.size_push ..).symm
    · show (g.transports.getD h.transports.size default).interest = h.interests.size
      rw [htransports]
      exact (congrArg Transport.interest ((getD_push h.transports tr default _).trans (if_pos rfl))).trans htr
    · show g.interests.getD h.interests.size .nothing = .nothing
      rw [hinterests]
      exact (getD_push h.interests .nothing .nothing _).trans (if_pos rfl)
    · have hlt : b < h.brokers.size := Nat.lt_of_lt_of_eq hb (congrArg Array.size hg.brokers)
      show (g.broker b).transport ≠ h.transports.size ∧ (g.broker b).interest ≠ h.interests.size
      rw [hg.broker]
      exact ⟨Nat.ne_of_lt (hm.line_lt b hlt), Nat.ne_of_lt (hm.interest_lt b hlt)⟩

theorem intact_attach (h : Hub η) (line : Line) (clock : Clock) (capacity : Option Nat) :
    Intact h (h.enlarged line clock capacity) where
  mirrored hm := hm.enlarged line clock capacity
  busy c := busy_addBroker
    ((h.addInterest .nothing).1.addTransport { line, interest := h.interests.size, clock }).1 rfl c
  retired _ hr := ⟨hr.made, hr.inactive⟩

theorem intact_retune {i : Nat} (change : Interest → Interest)
    (free : ∀ b < h.brokers.size, (h.broker b).interest ≠ i) :
    Intact h (h.modifyInterest i change) where
  mirrored hm :=
    { hm with
      interest_lt := fun b hb => Nat.lt_of_lt_of_eq (hm.interest_lt b hb) Array.size_modify.symm
      patterns := fun b hb => by
        have hb : h.Attached b := ⟨hb.made, hb.isOpen⟩
        refine (interest_modifyInterest h i (h.broker b).interest change).trans ((if_neg ?_).trans (hm.patterns b hb))
        exact fun hi => free b hb.made hi.1.symm }
  busy _ := rfl
  retired _ hr := ⟨hr.made, hr.inactive⟩

theorem Deed.intact (hd : Deed h g) : Intact h g := by
  cases hd with
  | aside brokers subscriptions unsteered => exact intact_of_unsteered unsteered brokers subscriptions
  | retune i change free => exact intact_retune change free
  | publish b channel payload =>
    exact intact_of_roster (Act.publish_roster b channel payload h)
      (Act.publish_undisturbed b channel payload h).brokers
  | subscribe b made text => exact intact_subscribe made text
  | unsubscribe b made s => exact intact_unsubscribe made s
  | setCapacity s capacity => exact intact_of_roster (roster_of_wiring (wiring_setCapacity h s capacity)) rfl
  | close b made => exact intact_close made
  | release b made => exact intact_release made
  | openAddress a exchange clock capacity => exact intact_openAddress h a exchange clock capacity
  | attach line clock capacity => exact intact_attach h line clock capacity

/-! ### Dispatches -/

/-- Taking messages in leaves everything intact. -/
theorem intact_takeIn (b : Nat) (d : Dispatch) (h : Hub η) : Intact h (Act.takeIn b d h).2 := by
  have hroutine : Act.Routine (Intact h) fun _ _ => True :=
    ⟨fun hk s q => hk.trans (intact_setBacklog _ s q), fun hk _ => hk.trans (intact_of_roster rfl rfl),
      fun _ _ => trivial⟩
  refine (Act.meets_takeIn hroutine (fun deadline k hk => ⟨hk.trans ?_, fun _ _ => trivial⟩) d .rfl).1
  exact intact_of_roster (Act.receive_roster _ deadline false k) (Act.receive_undisturbed _ deadline false k).brokers

/-- So does a delivery if the handlers do, and before each of them is run. -/
theorem intact_deliver {T : List Nat}
    (handlers : ∀ s m k, Act.Delivers run T h s m k → Intact k (run s m k).2) :
    Intact h (Act.deliver run T h).2 ∧ ∀ s m k, Act.Delivers run T h s m k → Intact h k :=
  Act.deliver_keeps (P := Intact h) (fun k s q hk => hk.trans (intact_setBacklog k s q))
    (fun k s hk => hk.trans (intact_spoiled k s)) (fun s m k hd hk => hk.trans (handlers s m k hd)) .rfl

theorem intact_dispatchHeld
    (handlers : ∀ T r f, Act.takeIn b d h = (.ok (T, r), f) → ∀ s m k, Act.Delivers run T f s m k →
      Intact k (run s m k).2) : Intact h (Act.dispatchHeld run b false d h).2 := by
  have htaken := intact_takeIn b d h
  rw [Act.dispatchHeld_eq, Act.bind_apply]
  generalize ht : Act.takeIn b d h = taken at htaken
  obtain ⟨e | ⟨T, r⟩, f⟩ := taken
  · exact htaken
  · refine htaken.trans ?_
    have hdelivered := (intact_deliver (handlers T r f ht)).1
    simp only [Act.bind_apply]
    generalize Act.deliver run T f = delivered at hdelivered
    obtain ⟨e | _, g⟩ := delivered
    · exact hdelivered
    · rw [Act.snd_orHalt]
      exact hdelivered

/-- A broker that was not busy is not busy again when a dispatch of it has ended, however that came to be. -/
theorem intact_dispatch (made : b < h.brokers.size)
    (handlers : ∀ T r f, Begun b d h T r f → ∀ s m k, Act.Delivers run T f s m k → Intact k (run s m k).2) :
    Intact h (Act.dispatch run b d h).2 := by
  rcases Act.dispatch_cases run b d h with ⟨e, he, -⟩ | ⟨ht, ho, hi, he⟩
  · rw [he]
    exact .rfl
  · have hheld : Intact (h.setBusy b true) (Act.dispatchHeld run b false d (h.setBusy b true)).2 :=
      intact_dispatchHeld fun T r f taken => handlers T r f ⟨⟨made, ho⟩, hi, ht, taken⟩
    rw [he]
    generalize (Act.dispatchHeld run b false d (h.setBusy b true)).2 = g at hheld
    refine ⟨fun hm => ?_, fun c => ?_, fun s hr => ?_⟩
    · have hg : g.Mirrored := hheld.mirrored (hm.of_unaltered (unaltered_of_roster (roster_setBusy h b true)))
      exact hg.of_unaltered (unaltered_of_roster (roster_setBusy g b false))
    · have hc := hheld.busy c
      rw [broker_setBusy] at hc ⊢
      by_cases hbc : b = c
      · subst hbc
        rw [hi]
        split
        · rfl
        · rename_i hunmade
          rw [broker_of_size_le (Nat.not_lt.1 fun hlt => hunmade ⟨rfl, hlt⟩)]
          rfl
      · rw [if_neg fun hc => hbc hc.1] at hc ⊢
        exact hc
    · have hg := hheld.retired s ⟨hr.made, hr.inactive⟩
      exact ⟨hg.made, hg.inactive⟩

/-- Deeds leave everything intact, whatever handlers do in the course of them. -/
theorem Deeds.intact (hd : Deeds h g) : Intact h g := by
  induction hd with
  | refl h => exact .rfl
  | step before deed ih => exact ih.trans deed.intact
  | dispatch before run b made d handlers ih ihs => exact ih.trans (intact_dispatch made ihs)

/-! ## At every moment -/

/-- What holds at every moment. -/
structure Sound (stack : List Nat) (h : Hub η) : Prop where
  mirrored : h.Mirrored
  nodup : stack.Nodup
  /-- A broker is busy while a dispatch of it is in progress, and at no other time. -/
  busy_iff : ∀ b, (h.broker b).busy = true ↔ b ∈ stack

variable {stack : List Nat}

theorem Sound.intact (hs : Sound stack h) (hg : Intact h g) : Sound stack g :=
  ⟨hg.mirrored hs.mirrored, hs.nodup, fun b => by rw [hg.busy, hs.busy_iff]⟩

theorem Sound.begun {T : List Nat} {r : Except Error Dispatched} (hs : Sound stack h) (begun : Begun b d h T r f) :
    Sound (b :: stack) f := by
  have htaken := intact_takeIn b d (h.setBusy b true)
  rw [begun.taken] at htaken
  have hbusy : Sound (b :: stack) (h.setBusy b true) := by
    refine ⟨hs.mirrored.of_unaltered (unaltered_of_roster (roster_setBusy h b true)), ?_, fun c => ?_⟩
    · refine List.nodup_cons.2 ⟨fun hb => ?_, hs.nodup⟩
      have := (hs.busy_iff b).2 hb
      rw [begun.idle] at this
      cases this
    · rw [broker_setBusy, List.mem_cons, ← hs.busy_iff]
      by_cases hbc : b = c
      · subst hbc
        simp [begun.attached.made]
      · rw [if_neg fun hc => hbc hc.1]
        simp [Ne.symm hbc]
  exact hbusy.intact htaken

theorem Moment.sound (hm : Moment stack h) : Sound stack h := by
  induction hm with
  | start brokers =>
    refine ⟨mirrored_start brokers, List.nodup_nil, fun b => ?_⟩
    rw [broker_of_size_le (by rw [brokers]; exact Nat.zero_le b)]
    exact ⟨fun he => Bool.noConfusion he, fun he => absurd he List.not_mem_nil⟩
  | deeds before deeds ih => exact ih.intact deeds.intact
  | handed before begun handlers handed ih =>
    exact (ih.begun begun).intact ((intact_deliver fun s m k hd => (handlers s m k hd).intact).2 _ _ _ handed)

end PubSub.Reentry
