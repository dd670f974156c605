import PubSub.Proofs.Hub.Wired

/-!
# Taking messages in and routing them

The first half of a dispatch, on a wired hub: a message leaves the mailbox of the broker's transport and goes into the
backlogs of the subscriptions that it matches. The loops of a dispatch do nothing but this, over and over.

* `Hub.Took`: how a mailbox changes when it is asked for a message.
* `Hub.Routed`: how backlogs change when a message is routed.
* `Hub.Steady`: what holds before and after each round of a dispatch.

Results:

* `Act.receive_took`, `Act.route_routed`: receiving and routing are of these forms.
* `Act.firstAccepted_steady`, `Act.fillBatch_steady`, `Act.nextWanted_took`: the loops keep what each round keeps.
-/

namespace PubSub

variable {η : Type}

namespace Hub

/-! ## Receiving -/

/-- `g` is what `h` becomes when the mailbox of transport `t` has given out `m`, or has nothing to give out. -/
structure Took (t : Nat) (m : Option Message) (h g : Hub η) : Prop where
  wiring : g.wiring = h.wiring
  subscription : g.subscription = h.subscription
  desk : g.desk = h.desk
  others : ∀ u ≠ t, g.waiting u = h.waiting u
  /-- Of the messages that somebody may want nothing is lost. -/
  keeps : ∀ keep : Message → Bool, (∀ m, keep m = true → h.wants t m.channel = true) →
    (h.waiting t).filter keep = m.toList.filter keep ++ (g.waiting t).filter keep
  wanted : ∀ m' ∈ m, h.wants t m'.channel = true

theorem Took.rfl {t : Nat} {h : Hub η} : Took t none h h where
  wiring := Eq.refl _
  subscription := Eq.refl _
  desk := Eq.refl _
  others _ _ := Eq.refl _
  keeps _ _ := Eq.refl _
  wanted _ hm := by cases hm

theorem Took.trans {t : Nat} {m : Option Message} {h f g : Hub η} (hf : Took t none h f) (hg : Took t m f g) :
    Took t m h g where
  wiring := hg.wiring.trans hf.wiring
  subscription := hg.subscription.trans hf.subscription
  desk := hg.desk.trans hf.desk
  others u hu := (hg.others u hu).trans (hf.others u hu)
  keeps keep hkeep := by
    have hk : ∀ m, keep m = true → f.wants t m.channel = true := by rwa [wants_of_wiring hf.wiring]
    rw [hf.keeps keep hkeep, hg.keeps keep hk]
    simp
  wanted m' hm' := by
    rw [← wants_of_wiring hf.wiring]
    exact hg.wanted m' hm'

theorem Took.later {t : Nat} {h g : Hub η} (hg : Took t none h g) (time : Nat) :
    Took t none h { g with now := time } :=
  { hg with }

end Hub

/-- The message of a reception, if there is one. -/
def Reception.message? : Reception → Option Message
  | .message m => some m
  | _ => none

namespace Act

open Hub

theorem poll_apply {h : Hub η} {t k : Nat} (hk : h.place t = some k) (patient : Bool) :
    poll t patient h =
      orHalt ((h.box t).take (h.wants t)).1
        ((h.setLine t (.bus k ((h.box t).take (h.wants t)).2.1)).report ((h.box t).take (h.wants t)).2.2) :=
  poll_bus (place_eq_some_iff.1 hk) patient

/-- What remains of the mailbox of an open transport that was asked for a message. -/
theorem took_take {h : Hub η} {t k : Nat} (hk : h.place t = some k) (notices : List Notice) :
    Took t (Mailbox.takeWanted (h.wants t) (h.box t).waiting).1 h
      ((h.setLine t (.bus k (Mailbox.settle
        { h.box t with waiting := (Mailbox.takeWanted (h.wants t) (h.box t).waiting).2.1 }))).report notices) where
  wiring := wiring_setLine hk (by simp) (by simp)
  subscription := rfl
  desk := rfl
  others u hu := by rw [waiting_report, waiting_setLine _ hk, if_neg hu]
  keeps keep hkeep := by
    rw [waiting_report, waiting_setLine _ hk, if_pos rfl, Mailbox.waiting_settle, Hub.waiting,
      Mailbox.filter_takeWanted hkeep]
  wanted m' hm' := Mailbox.wants_of_takeWanted hm'

/-- Asking an open transport on a bus for a message takes one out of its mailbox or finds none. -/
theorem receive_took {h : Hub η} {t k : Nat} (hk : h.place t = some k) (ho : (h.box t).closed = false)
    (deadline : Option Nat) (still : Bool) :
    ∃ r g, receive t deadline still h = (.ok r, g) ∧ Took t r.message? h g := by
  have ht := took_take hk (Mailbox.takeWanted (h.wants t) (h.box t).waiting).2.2
  simp only [receive, bind_apply, poll_apply hk, Mailbox.take_of_open ho, orHalt_ok]
  cases hm : (Mailbox.takeWanted (h.wants t) (h.box t).waiting).1 with
  | some m =>
    rw [hm] at ht
    exact ⟨.message m, _, rfl, ht⟩
  | none =>
    rw [hm] at ht
    simp only [ite_apply, pure_apply]
    cases still with
    | true => exact ⟨.waiting, _, rfl, ht⟩
    | false =>
      cases deadline with
      | none => exact ⟨.waiting, _, rfl, ht⟩
      | some d => exact ⟨.nothing, _, rfl, ht.later _⟩

end Act

/-! ## Routing -/

namespace Hub

/-- The subscriptions of a broker are there, each of them once. -/
structure Seated (h : Hub η) (b : Nat) : Prop where
  nodup : (h.members b).Nodup
  member_lt : ∀ s ∈ h.members b, s < h.subscriptions.size

/-- The subscriptions of a broker that a message matches. -/
def matching (h : Hub η) (b : Nat) (m : Message) : List Nat :=
  (h.members b).filter fun s => (h.subscription s).pattern.accepts m.channel

/-- `g` is what `h` becomes when `m` is put into the backlogs of the subscriptions `l`; those that had taken messages
before are `T`, and those that have now are `T'`. -/
structure Routed (m : Message) (l T T' : List Nat) (h g : Hub η) : Prop where
  wiring : g.wiring = h.wiring
  waiting : g.waiting = h.waiting
  desk : g.desk = h.desk
  others : ∀ s, s ∉ l → g.subscription s = h.subscription s
  backlog : ∀ s ∈ l, (g.subscription s).backlog = ((h.subscription s).backlog.push m).2
  touched : ∀ s, s ∈ T' ↔ s ∈ T ∨ s ∈ l ∧ ((h.subscription s).backlog.push m).1 = true

end Hub

namespace Act

open Hub

theorem enqueue_apply (m : Message) (s : Nat) (h : Hub η) :
    ∃ notices, enqueue m s h = (.ok ((h.subscription s).backlog.push m).1,
      (h.setBacklog s ((h.subscription s).backlog.push m).2).report notices) := by
  simp only [enqueue, bind_apply, get_apply, modify_apply, ite_apply, report_apply, pure_apply]
  split
  · exact ⟨_, rfl⟩
  · exact ⟨[], rfl⟩

theorem mem_touch (T : List Nat) (s u : Nat) (accepted : Bool) :
    u ∈ (if accepted then if T.contains s then T else T ++ [s] else T) ↔ u ∈ T ∨ u = s ∧ accepted = true := by
  cases accepted with
  | false => simp
  | true =>
    by_cases hs : s ∈ T
    · simp only [List.contains_iff_mem, hs, if_true, and_true]
      exact ⟨Or.inl, fun hu => hu.elim id fun hus => hus ▸ hs⟩
    · simp [hs]

/-- A message goes into each of several backlogs, as far as they have room. -/
theorem enqueueAll_routed (m : Message) (l : List Nat) (T : List Nat) (a : Bool) (h : Hub η) (hl : l.Nodup)
    (hlt : ∀ s ∈ l, s < h.subscriptions.size) :
    ∃ T' a' g, enqueueAll m l T a h = (.ok (T', a'), g) ∧ Routed m l T T' h g ∧
      (a' = true ↔ a = true ∨ ∃ s ∈ l, ((h.subscription s).backlog.push m).1 = true) := by
  induction l generalizing T a h with
  | nil => exact ⟨T, a, h, rfl, ⟨rfl, rfl, rfl, fun _ _ => rfl, by simp, by simp⟩, by simp⟩
  | cons s l ih =>
    obtain ⟨hs, hl⟩ := List.nodup_cons.1 hl
    obtain ⟨notices, he⟩ := enqueue_apply m s h
    set q := (h.subscription s).backlog.push m with hq
    set f := (h.setBacklog s q.2).report notices with hf
    have hwf : f.wiring = h.wiring := wiring_setBacklog h s q.2
    have hfs : f.subscription s = { h.subscription s with backlog := q.2 } :=
      (subscription_setBacklog h s s q.2).trans (if_pos ⟨rfl, hlt s List.mem_cons_self⟩)
    have hfu : ∀ u ≠ s, f.subscription u = h.subscription u := fun u hu =>
      (subscription_setBacklog h s u q.2).trans (if_neg fun hc => hu hc.1.symm)
    have hne : ∀ u ∈ l, u ≠ s := fun u hu hus => hs (hus ▸ hu)
    have hltf : ∀ u ∈ l, u < f.subscriptions.size := fun u hu => by
      rw [subscriptions_size_of_wiring hwf]
      exact hlt u (List.mem_cons_of_mem _ hu)
    obtain ⟨T', a', g, hg, hr, ha⟩ :=
      ih (if q.1 then (if T.contains s then T else T ++ [s]) else T) (if q.1 then true else a) f hl hltf
    have hrun : enqueueAll m (s :: l) T a h = (.ok (T', a'), g) := by
      rw [enqueueAll, bind_apply, he]
      dsimp only
      rw [ite_apply, ← hg]
      cases q.1 <;> simp
    refine ⟨T', a', g, hrun, ⟨hr.wiring.trans hwf, hr.waiting, hr.desk, fun u hu => ?_, fun u hu => ?_, fun u => ?_⟩,
      ?_⟩
    · rw [List.mem_cons, not_or] at hu
      rw [hr.others u hu.2, hfu u hu.1]
    · rcases List.mem_cons.1 hu with rfl | hul
      · rw [hr.others u hs, hfs]
      · rw [hr.backlog u hul, hfu u (hne u hul)]
    · rw [hr.touched u, mem_touch]
      by_cases hus : u = s
      · subst hus
        simp [hs, hq]
      · simp [hus, hfu u hus]
    · have hex : (∃ u ∈ l, ((f.subscription u).backlog.push m).1 = true) ↔
          ∃ u ∈ l, ((h.subscription u).backlog.push m).1 = true := by
        constructor <;> rintro ⟨u, hu, hp⟩ <;> refine ⟨u, hu, ?_⟩
        · rwa [hfu u (hne u hu)] at hp
        · rwa [hfu u (hne u hu)]
      rw [ha, hex]
      cases hq1 : q.1 <;> simp [← hq, hq1]

/-- Routing puts a message into the backlogs of the matching subscriptions. -/
theorem route_seated {h : Hub η} {b : Nat} (hs : h.Seated b) (m : Message) (T : List Nat) :
    ∃ T' a g, route b m T h = (.ok (T', a), g) ∧ Routed m (h.matching b m) T T' h g ∧
      (a = true ↔ ∃ s ∈ h.matching b m, ((h.subscription s).backlog.push m).1 = true) := by
  have hl : (h.matching b m).Nodup := hs.nodup.filter _
  have hlt : ∀ s ∈ h.matching b m, s < h.subscriptions.size := fun s hm =>
    hs.member_lt s (List.mem_of_mem_filter hm)
  have hm : ((h.broker b).subscriptions.filter fun s => (h.subscription s).pattern.accepts m.channel) =
      h.matching b m := rfl
  simp only [route, bind_apply, get_apply, hm]
  cases hs : h.matching b m with
  | nil => exact ⟨T, false, _, rfl, ⟨rfl, rfl, rfl, fun _ _ => rfl, by simp, by simp⟩, by simp⟩
  | cons s l =>
    rw [hs] at hl hlt
    obtain ⟨T', a, g, hg, hr, ha⟩ := enqueueAll_routed m (s :: l) T false h hl hlt
    exact ⟨T', a, g, hg, hr, by simpa using ha⟩

theorem route_routed {h : Hub η} {b : Nat} (hs : h.Serving b) (m : Message) (T : List Nat) :
    ∃ T' a g, route b m T h = (.ok (T', a), g) ∧ Routed m (h.matching b m) T T' h g ∧
      (a = true ↔ ∃ s ∈ h.matching b m, ((h.subscription s).backlog.push m).1 = true) :=
  route_seated ⟨hs.nodup, hs.member_lt⟩ m T

/-! ## The loops of a dispatch -/

end Act

namespace Hub

/-- What holds of the subscriptions that have taken messages and of the hub, before and after each round of a dispatch
of broker `b` by way of transport `t`. -/
structure Steady (b t : Nat) (I : List Nat → Hub η → Prop) : Prop where
  wired : ∀ {T h}, I T h → h.Wired
  attached : ∀ {T h}, I T h → h.Attached b
  line : ∀ {T h}, I T h → h.lineOf b = t
  /-- A round in which there is no message. -/
  idle : ∀ {T h g}, I T h → Took t none h g → I T g
  /-- A round in which a message is routed. -/
  round : ∀ {m T T' h f g}, I T h → Took t (some m) h f → Routed m (f.matching b m) T T' f g → I T' g

/-- A transport that serves an open broker can be asked for messages. -/
theorem Steady.receive {b t : Nat} {I : List Nat → Hub η → Prop} (hs : Steady b t I) {T : List Nat} {h : Hub η}
    (hi : I T h) (deadline : Option Nat) (still : Bool) :
    ∃ r g, Act.receive t deadline still h = (.ok r, g) ∧ Took t r.message? h g := by
  have hw := hs.wired hi
  have hb := hs.attached hi
  have ht := hs.line hi
  obtain ⟨k, hk⟩ := hw.placed b hb.made
  have ho := hw.open_box b hb
  rw [ht] at hk ho
  exact Act.receive_took hk ho deadline still

/-- A round that has taken a message in routes it. -/
theorem Steady.route {b t : Nat} {I : List Nat → Hub η → Prop} (hs : Steady b t I) {T : List Nat} {m : Message}
    {h f : Hub η} (hi : I T h) (hf : Took t (some m) h f) (T₀ : List Nat) :
    ∃ T' a g, Act.route b m T₀ f = (.ok (T', a), g) ∧ Routed m (f.matching b m) T₀ T' f g ∧
      (a = true ↔ ∃ s ∈ f.matching b m, ((f.subscription s).backlog.push m).1 = true) :=
  Act.route_routed (((hs.wired hi).of_wiring hf.wiring).enlisted.serving
    ((attached_of_wiring hf.wiring b).2 (hs.attached hi))) m T₀

end Hub

namespace Act

open Hub

theorem firstAccepted_steady {b t : Nat} {I : List Nat → Hub η → Prop} (hs : Steady b t I) (deadline : Nat)
    (still : Bool) (n discarded : Nat) {h : Hub η} (hi : I [] h) :
    ∃ r g, firstAccepted b t deadline still n discarded h = (.ok r, g) ∧
      match r with
      | .accepted T => I T g
      | _ => I [] g := by
  induction n generalizing discarded h with
  | zero => exact ⟨.none, h, rfl, hi⟩
  | succ n ih =>
    obtain ⟨r, f, hr, hf⟩ := hs.receive hi (some deadline) still
    simp only [firstAccepted, bind_apply, hr]
    cases r with
    | waiting => exact ⟨.waiting, f, rfl, hs.idle hi hf⟩
    | nothing => exact ⟨.none, f, rfl, hs.idle hi hf⟩
    | message m =>
      obtain ⟨T', a, g, hg, hrt, ha⟩ := hs.route hi hf []
      have hi' := hs.round hi hf hrt
      simp only [bind_apply, hg, ite_apply, get_apply]
      cases a with
      | true => exact ⟨.accepted T', g, rfl, hi'⟩
      | false =>
        -- nobody has taken the message, so nobody has taken any
        have hT' : T' = [] := by
          refine List.eq_nil_iff_forall_not_mem.2 fun s hsT => ?_
          rcases (hrt.touched s).1 hsT with hnil | ⟨hsm, hp⟩
          · cases hnil
          · exact Bool.false_ne_true (ha.2 ⟨s, hsm, hp⟩)
        rw [hT'] at hi'
        simp only [Bool.false_eq_true, if_false]
        split
        · exact ⟨.none, g, rfl, hi'⟩
        · exact ih (discarded + 1) hi'

theorem fillBatch_steady {b t : Nat} {I : List Nat → Hub η → Prop} (hs : Steady b t I) (n : Nat) (T : List Nat)
    (count : Nat) {h : Hub η} (hi : I T h) :
    ∃ T' count' g, fillBatch b t n T count h = (.ok ⟨T', count', none⟩, g) ∧ I T' g := by
  induction n generalizing T count h with
  | zero => exact ⟨T, count, h, rfl, hi⟩
  | succ n ih =>
    obtain ⟨r, f, hr, hf⟩ := hs.receive hi (some h.now) false
    simp only [fillBatch, bind_apply, get_apply, attempt_apply, hr]
    cases r with
    | waiting => exact ⟨T, count, f, rfl, hs.idle hi hf⟩
    | nothing => exact ⟨T, count, f, rfl, hs.idle hi hf⟩
    | message m =>
      obtain ⟨T', a, g, hg, hrt, _⟩ := hs.route hi hf T
      simp only [bind_apply, hg]
      exact ih T' _ (hs.round hi hf hrt)

/-- Waiting for a wanted message takes one out of the mailbox or finds none. -/
theorem nextWanted_took {h : Hub η} (hw : h.Wired) {b : Nat} (hb : h.Attached b) {broker : Broker}
    (hl : broker.transport = h.lineOf b) (hi : broker.interest = (h.broker b).interest) (still : Bool) (n : Nat) :
    ∃ m g, nextWanted broker still n h = (.ok m, g) ∧ Took (h.lineOf b) m h g := by
  induction n generalizing h with
  | zero => exact ⟨none, h, rfl, Took.rfl⟩
  | succ n ih =>
    obtain ⟨k, hk⟩ := hw.placed b hb.made
    obtain ⟨r, f, hr, hf⟩ := receive_took hk (hw.open_box b hb) none still
    have e := hf.wiring
    simp only [nextWanted, bind_apply, hl, hr]
    cases r with
    | waiting => exact ⟨none, f, rfl, hf⟩
    | nothing =>
      obtain ⟨m, g, hg, hm⟩ := ih (hw.of_wiring e) ((attached_of_wiring e b).2 hb)
        (hl.trans (lineOf_of_wiring e b).symm) (hi.trans (wish_of_wiring e b).symm)
      rw [lineOf_of_wiring e] at hm
      exact ⟨m, g, hg, hf.trans hm⟩
    | message m =>
      have hm : (f.interest broker.interest).wants m.channel = true := by
        have := hf.wanted m rfl
        rwa [wants, hw.serves b hb.made, ← hi, ← interest_of_wiring e] at this
      simp only [bind_apply, get_apply, ite_apply, hm, if_true]
      exact ⟨some m, f, rfl, hf⟩

end Act
end PubSub
