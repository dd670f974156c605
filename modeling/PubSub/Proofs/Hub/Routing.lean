import PubSub.Proofs.Hub.Dispatching
import PubSub.Proofs.Hub.Lines

/-!
# Taking in a batch

The first half of a dispatch takes messages from a transport that is ready and puts each into the backlogs of the
subscriptions that it matches. What the loops of a dispatch do in any number of rounds has one form: some of the
messages that were ahead have been pushed onto backlogs, in order.

* `Backlog.pushAll`: a backlog after pushes.
* `Hub.Fed`: what routing makes of the backlogs; `Hub.load`: how many messages wait in one.
* `Hub.Poured`: what a hub becomes in some rounds.
* `Hub.Takes`: some subscription has room for a message.

Results:

* `Act.route_fed`: routing a message; `Act.round_poured`: one round.
* `Act.firstAccepted_poured`, `Act.fillBatch_poured`, `Act.nextWanted_drew`: the loops.
-/

namespace PubSub

variable {η : Type}

namespace Backlog

/-- A backlog after some messages were pushed onto it. -/
def pushAll (q : Backlog) (ms : List Message) : Backlog := ms.foldl (fun q m => (q.push m).2) q

theorem pushAll_append (q : Backlog) (ms ns : List Message) : q.pushAll (ms ++ ns) = (q.pushAll ms).pushAll ns :=
  List.foldl_append

theorem size_push (q : Backlog) (m : Message) :
    (q.push m).2.size = if (q.push m).1 = true then q.size + 1 else q.size := by
  unfold push
  split <;> rfl

theorem size_le_pushAll (q : Backlog) (ms : List Message) : q.size ≤ (q.pushAll ms).size := by
  induction ms generalizing q with
  | nil => exact Nat.le_refl _
  | cons m ms ih =>
    refine Nat.le_trans ?_ (ih (q.push m).2)
    rw [size_push]
    split <;> omega

theorem capacity_pushAll (q : Backlog) (ms : List Message) : (q.pushAll ms).capacity = q.capacity := by
  induction ms generalizing q with
  | nil => rfl
  | cons m ms ih => exact (ih _).trans (capacity_push q m)

theorem toList_pushAll {q : Backlog} (hq : q.capacity = none) (ms : List Message) :
    (q.pushAll ms).toList = q.toList ++ ms := by
  induction ms generalizing q with
  | nil => exact (List.append_nil _).symm
  | cons m ms ih =>
    refine (ih ((capacity_push q m).trans hq)).trans ?_
    rw [(push_of_unbounded hq m).2, List.append_assoc]
    rfl

theorem push_fst (q : Backlog) (m : Message) : (q.push m).1 = q.hasRoom := by
  unfold push
  split <;> simp_all

theorem hasRoom_congr {q r : Backlog} (hc : q.capacity = r.capacity) (hs : q.size = r.size) :
    q.hasRoom = r.hasRoom := by
  rw [hasRoom, hasRoom, hc, hs]

/-- Messages that are rejected take no room. -/
theorem size_pushAll_of_rejected {q : Backlog} {ms : List Message} (h : ms ≠ [] → ¬ q.hasRoom = true) :
    (q.pushAll ms).size = q.size := by
  induction ms generalizing q with
  | nil => rfl
  | cons m ms ih =>
    have hfull := h (List.cons_ne_nil _ _)
    have hsize : (q.push m).2.size = q.size := size_push_of_rejected (by rw [push_fst]; exact hfull)
    refine (ih fun _ => ?_).trans hsize
    rwa [hasRoom_congr (capacity_push q m) hsize]

end Backlog

namespace Hub

/-- What a subscription does with messages: it pushes those that match onto its backlog. -/
def Subscription.fed (u : Subscription) (ms : List Message) : Subscription :=
  { u with backlog := u.backlog.pushAll (ms.filter fun m => u.pattern.accepts m.channel) }

/-- How many messages wait for the handler of a subscription. -/
def load (h : Hub η) (s : Nat) : Nat := (h.subscription s).backlog.size

/-- `g` is what `h` becomes when broker `b` routes `ms`. The subscriptions that had taken messages before are `T`, and
those that have now are `T'`. -/
structure Fed (b : Nat) (ms : List Message) (T T' : List Nat) (h g : Hub η) : Prop where
  brokers : g.brokers = h.brokers
  desk : g.desk = h.desk
  size : g.subscriptions.size = h.subscriptions.size
  member : ∀ s ∈ h.members b, g.subscription s = Subscription.fed (h.subscription s) ms
  stranger : ∀ s, s ∉ h.members b → g.subscription s = h.subscription s
  touched : ∀ s, s ∈ T' ↔ s ∈ T ∨ h.load s < g.load s

/-- `g` is what `h` becomes when `ms`, which transport `t` had ahead, were routed by broker `b`. The subscriptions that
had taken messages before are `T`, and those that have now are `T'`. -/
structure Poured (b t : Nat) (ms : List Message) (T T' : List Nat) (h g : Hub η) : Prop where
  roster : g.roster = h.roster
  store : g.store = h.store
  broker : g.broker = h.broker
  desk : g.desk = h.desk
  now : h.now ≤ g.now
  others : ∀ u ≠ t, g.transport u = h.transport u
  source : g.source t = h.source t
  ready : g.Ready t
  ahead : h.ahead t = ms ++ g.ahead t
  member : ∀ s ∈ h.members b, g.subscription s = Subscription.fed (h.subscription s) ms
  stranger : ∀ s, s ∉ h.members b → g.subscription s = h.subscription s
  touched : ∀ s, s ∈ T' ↔ s ∈ T ∨ (h.subscription s).backlog.size < (g.subscription s).backlog.size

/-- Some subscription of a broker that a message matches has room for it. -/
def Takes (h : Hub η) (b : Nat) (m : Message) : Prop :=
  ∃ s ∈ h.members b, (h.subscription s).pattern.accepts m.channel = true ∧ (h.subscription s).backlog.hasRoom = true

section Poured

variable {h f g : Hub η} {b t : Nat} {ms ns : List Message} {T T' T'' : List Nat}

theorem fed_nil (u : Subscription) : Subscription.fed u [] = u := rfl

theorem fed_of_pos {u : Subscription} {m : Message} (h : u.pattern.accepts m.channel = true) :
    Subscription.fed u [m] = { u with backlog := (u.backlog.push m).2 } := by
  simp [Subscription.fed, h, Backlog.pushAll]

theorem fed_of_neg {u : Subscription} {m : Message} (h : ¬ u.pattern.accepts m.channel = true) :
    Subscription.fed u [m] = u := by
  simp [Subscription.fed, h, Backlog.pushAll]

/-- The roster and the backlog tell all of a subscription. -/
theorem subscription_of_roster (e : g.roster = h.roster) {s : Nat} {q : Backlog} (hq : (g.subscription s).backlog = q) :
    g.subscription s = { h.subscription s with backlog := q } := by
  have hid := id_of_roster e s
  have hpattern := pattern_of_roster e s
  have hactive := active_of_roster e s
  have hspoiled := spoiled_of_roster e s
  generalize g.subscription s = u at *
  cases u
  simp only at hq hid hpattern hactive hspoiled
  simp only [hq, hid, hpattern, hactive, hspoiled]

theorem fed_append (u : Subscription) (ms ns : List Message) :
    Subscription.fed u (ms ++ ns) = Subscription.fed (Subscription.fed u ms) ns := by
  simp only [Subscription.fed, List.filter_append, Backlog.pushAll_append]

theorem size_le_fed (u : Subscription) (ms : List Message) : u.backlog.size ≤ (Subscription.fed u ms).backlog.size :=
  Backlog.size_le_pushAll _ _

theorem Fed.broker (hg : Fed b ms T T' h g) (c : Nat) : g.broker c = h.broker c := by
  rw [Hub.broker, hg.brokers, Hub.broker]

theorem Fed.members (hg : Fed b ms T T' h g) (c : Nat) : g.members c = h.members c := by
  rw [Hub.members, hg.broker]

theorem Fed.seated (hg : Fed b ms T T' h g) (hs : h.Seated b) : g.Seated b where
  nodup := by
    rw [hg.members]
    exact hs.nodup
  member_lt := by
    rw [hg.members, hg.size]
    exact hs.member_lt

/-- Only backlogs change. -/
theorem Fed.subscription (hg : Fed b ms T T' h g) (s : Nat) :
    ∃ backlog, g.subscription s = { h.subscription s with backlog } := by
  by_cases hs : s ∈ h.members b
  · exact ⟨_, hg.member s hs⟩
  · exact ⟨_, hg.stranger s hs⟩

theorem Fed.load_le (hg : Fed b ms T T' h g) (s : Nat) : h.load s ≤ g.load s := by
  by_cases hs : s ∈ h.members b
  · rw [load, load, hg.member s hs]
    exact size_le_fed _ _
  · rw [load, load, hg.stranger s hs]

theorem Fed.trans (hf : Fed b ms T T' h f) (hg : Fed b ns T' T'' f g) : Fed b (ms ++ ns) T T'' h g where
  brokers := hg.brokers.trans hf.brokers
  desk := hg.desk.trans hf.desk
  size := hg.size.trans hf.size
  member s hs := by rw [hg.member s (hf.members b ▸ hs), hf.member s hs, fed_append]
  stranger s hs := by rw [hg.stranger s (hf.members b ▸ hs), hf.stranger s hs]
  touched s := by
    rw [hg.touched, hf.touched, or_assoc]
    refine or_congr_right ?_
    have h₁ := hf.load_le s
    have h₂ := hg.load_le s
    omega

/-- Somebody has more to do after a message was routed exactly if somebody had room for it. -/
theorem Fed.grown_iff {m : Message} (hg : Fed b [m] T T' h g) : (∃ s, h.load s < g.load s) ↔ h.Takes b m := by
  refine exists_congr fun s => ?_
  by_cases hs : s ∈ h.members b
  · by_cases hm : (h.subscription s).pattern.accepts m.channel = true
    · simp only [load, hg.member s hs, fed_of_pos hm, Backlog.size_push, Backlog.push_fst, hs, hm, true_and]
      by_cases hroom : (h.subscription s).backlog.hasRoom = true <;> simp [hroom]
    · simp [load, hg.member s hs, fed_of_neg hm, hm]
  · simp [load, hg.stranger s hs, hs]

theorem brokers_ext (hsize : g.brokers.size = h.brokers.size) (hb : g.broker = h.broker) : g.brokers = h.brokers := by
  refine Array.ext hsize fun i hg hh => ?_
  have hi := congrFun hb i
  rwa [Hub.broker, Hub.broker, Array.getD_eq_getD_getElem?, Array.getD_eq_getD_getElem?, Array.getElem?_eq_getElem hg,
    Array.getElem?_eq_getElem hh] at hi

theorem Poured.fed (hg : Poured b t ms T T' h g) : Fed b ms T T' h g where
  brokers := brokers_ext (brokers_size_of_roster hg.roster) hg.broker
  desk := hg.desk
  size := subscriptions_size_of_roster hg.roster
  member := hg.member
  stranger := hg.stranger
  touched := hg.touched

/-- A transport that has changed its line without giving anything out. -/
theorem Drew.poured (hg : Drew t ms h g) (hahead : h.ahead t = ms) : Poured b t [] T T h g where
  roster := hg.roster
  store := hg.store
  broker := hg.broker
  desk := hg.desk
  now := hg.now
  others := hg.others
  source := hg.source
  ready := hg.ready
  ahead := by rw [hg.ahead, hahead, List.nil_append]
  member s _ := by rw [hg.subscription, fed_nil]
  stranger s _ := by rw [hg.subscription]
  touched s := by simp [hg.subscription]

theorem Poured.ends (hg : Poured b t ms T T' h g) : g.ends t = h.ends t := congrArg Option.isSome hg.source

theorem Poured.trans (hf : Poured b t ms T T' h f) (hg : Poured b t ns T' T'' f g) :
    Poured b t (ms ++ ns) T T'' h g where
  roster := hg.roster.trans hf.roster
  store := hg.store.trans hf.store
  broker := hg.broker.trans hf.broker
  desk := hg.desk.trans hf.desk
  now := Nat.le_trans hf.now hg.now
  others u hu := (hg.others u hu).trans (hf.others u hu)
  source := hg.source.trans hf.source
  ready := hg.ready
  ahead := by rw [hf.ahead, hg.ahead, List.append_assoc]
  member := (hf.fed.trans hg.fed).member
  stranger := (hf.fed.trans hg.fed).stranger
  touched := (hf.fed.trans hg.fed).touched

end Poured
end Hub

namespace Act

open Hub

variable {h : Hub η} {b t : Nat}

/-! ## One round -/

/-- Routing changes nothing but subscriptions. -/
theorem enqueueAll_frame (m : Message) (l T : List Nat) (a : Bool) (h : Hub η) :
    ∃ subscriptions notices, (enqueueAll m l T a h).2 = { h with subscriptions, notices } := by
  induction l generalizing T a h with
  | nil => exact ⟨h.subscriptions, h.notices, rfl⟩
  | cons s l ih =>
    obtain ⟨notices, he⟩ := enqueue_apply m s h
    simp only [enqueueAll, bind_apply, he, ite_apply]
    split <;>
    · obtain ⟨subscriptions, notices', hrest⟩ := ih _ _ _
      exact ⟨subscriptions, notices', by rw [hrest]; rfl⟩

theorem route_frame (b : Nat) (m : Message) (T : List Nat) (h : Hub η) :
    ∃ subscriptions notices, (route b m T h).2 = { h with subscriptions, notices } := by
  simp only [route, bind_apply, get_apply]
  cases (h.broker b).subscriptions.filter fun s => (h.subscription s).pattern.accepts m.channel with
  | nil => exact ⟨h.subscriptions, _, rfl⟩
  | cons s l => exact enqueueAll_frame m (s :: l) T false h

/-- Routing feeds a message to the subscriptions of a broker. -/
theorem route_fed (hs : h.Seated b) (m : Message) (T : List Nat) :
    ∃ T' a g, route b m T h = (.ok (T', a), g) ∧ Fed b [m] T T' h g ∧ g.wiring = h.wiring ∧
      (a = true ↔ h.Takes b m) := by
  obtain ⟨T', a, g, hroute, hr, ha⟩ := route_seated hs m T
  obtain ⟨subscriptions, notices, hframe⟩ := route_frame b m T h
  have hframe : g = { h with subscriptions, notices } := (congrArg Prod.snd hroute).symm.trans hframe
  have hroster : g.roster = h.roster := roster_of_wiring hr.wiring
  have hmem : ∀ s, s ∈ h.matching b m ↔ s ∈ h.members b ∧ (h.subscription s).pattern.accepts m.channel = true :=
    fun s => by rw [matching, List.mem_filter]
  have hgrown : ∀ s, h.load s < g.load s ↔ s ∈ h.matching b m ∧ ((h.subscription s).backlog.push m).1 = true := by
    intro s
    by_cases hs : s ∈ h.matching b m
    · rw [load, load, hr.backlog s hs, Backlog.size_push]
      by_cases hp : ((h.subscription s).backlog.push m).1 = true <;> simp [hp, hs]
    · simp [load, hr.others s hs, hs]
  refine ⟨T', a, g, hroute, ?_, hr.wiring, ?_⟩
  · constructor
    case brokers => rw [hframe]
    case desk => exact hr.desk
    case size => exact subscriptions_size_of_roster hroster
    case member =>
      intro s hs
      by_cases hm : (h.subscription s).pattern.accepts m.channel = true
      · rw [fed_of_pos hm]
        exact subscription_of_roster hroster (hr.backlog s ((hmem s).2 ⟨hs, hm⟩))
      · rw [fed_of_neg hm]
        exact hr.others s fun hs' => hm ((hmem s).1 hs').2
    case stranger => exact fun s hs => hr.others s fun hs' => hs ((hmem s).1 hs').1
    case touched =>
      intro s
      rw [hr.touched, hgrown]
  · simp only [ha, hmem, Backlog.push_fst, Takes, and_assoc]

/-- Routing a message that a transport has given out. -/
theorem round_poured (hs : h.Serving b) {m : Message} {ms : List Message} {f : Hub η}
    (hahead : h.ahead t = m :: ms) (hf : Drew t ms h f) (T : List Nat) :
    ∃ T' a g, route b m T f = (.ok (T', a), g) ∧ Poured b t [m] T T' h g ∧ (a = true ↔ h.Takes b m) := by
  have hserving := hs.of_roster hf.roster
  have hmembers := members_of_roster hf.roster b
  obtain ⟨T', a, g, hroute, hfed, hwiring, ha⟩ := route_fed ⟨hserving.nodup, hserving.member_lt⟩ m T
  obtain ⟨subscriptions, notices, hframe⟩ := route_frame b m T f
  have hframe : g = { f with subscriptions, notices } := (congrArg Prod.snd hroute).symm.trans hframe
  have hline : g.transport = f.transport := by rw [hframe]; rfl
  have hstore : g.store = f.store := by rw [hframe]
  have hwants := wants_of_wiring hwiring t
  refine ⟨T', a, g, hroute, ?_, ?_⟩
  · constructor
    case roster => exact (roster_of_wiring hwiring).trans hf.roster
    case store => exact hstore.trans hf.store
    case broker => exact (funext hfed.broker).trans hf.broker
    case desk => exact hfed.desk.trans hf.desk
    case now => rw [hframe]; exact hf.now
    case others => exact fun u hu => (congrFun hline u).trans (hf.others u hu)
    case source => rw [← hf.source, Hub.source, hline]; rfl
    case ready => exact hf.ready.of_same (by rw [hline]) hstore hwants
    case ahead => rw [hahead, ahead_of_same (by rw [hline]) hstore hwants, hf.ahead]; rfl
    case member =>
      intro s hs
      rw [hfed.member s (hmembers.symm ▸ hs), hf.subscription]
    case stranger =>
      intro s hs
      rw [hfed.stranger s fun hs' => hs (hmembers ▸ hs'), hf.subscription]
    case touched =>
      intro s
      rw [hfed.touched, load, load, hf.subscription]
  · simp only [ha, Takes, hmembers, hf.subscription]

/-! ## The loops of a dispatch -/

end Act

namespace Hub

variable {h g : Hub η} {b t : Nat} {ms : List Message} {T T' : List Nat}

theorem Fed.of_route (hs : h.Seated b) {m : Message} {a : Bool} (routed : Act.route b m T h = (.ok (T', a), g)) :
    Fed b [m] T T' h g ∧ (a = true ↔ h.Takes b m) := by
  obtain ⟨T₁, a₁, g₁, hroute, hg, -, ha⟩ := Act.route_fed hs m T
  cases hroute.symm.trans routed
  exact ⟨hg, ha⟩

theorem poured_rfl (hr : h.Ready t) : Poured b t [] T T h h :=
  Drew.poured ⟨rfl, rfl, rfl, rfl, rfl, Nat.le_refl _, fun _ _ => rfl, rfl, hr, rfl⟩ rfl

/-- Messages that nobody has room for take no room. -/
theorem Poured.size_of_rejected (hg : Poured b t ms T T' h g) (hms : ∀ m ∈ ms, ¬ h.Takes b m) (s : Nat) :
    (g.subscription s).backlog.size = (h.subscription s).backlog.size := by
  by_cases hs : s ∈ h.members b
  · rw [hg.member s hs]
    refine Backlog.size_pushAll_of_rejected fun hne hroom => ?_
    obtain ⟨m, hm⟩ := List.exists_mem_of_ne_nil _ hne
    obtain ⟨hm, hmatch⟩ := List.mem_filter.1 hm
    exact hms m hm ⟨s, hs, hmatch, hroom⟩
  · rw [hg.stranger s hs]

theorem Poured.capacity (hg : Poured b t ms T T' h g) (s : Nat) :
    (g.subscription s).backlog.capacity = (h.subscription s).backlog.capacity := by
  by_cases hs : s ∈ h.members b
  · rw [hg.member s hs]
    exact Backlog.capacity_pushAll _ _
  · rw [hg.stranger s hs]

theorem Poured.takes_of_rejected (hg : Poured b t ms T T' h g) (hms : ∀ m ∈ ms, ¬ h.Takes b m) (m : Message) :
    g.Takes b m ↔ h.Takes b m := by
  simp only [Takes, members_of_roster hg.roster, pattern_of_roster hg.roster,
    fun s => Backlog.hasRoom_congr (hg.capacity s) (hg.size_of_rejected hms s)]

theorem Poured.touched_of_rejected (hg : Poured b t ms [] T h g) (hms : ∀ m ∈ ms, ¬ h.Takes b m) : T = [] := by
  refine List.eq_nil_iff_forall_not_mem.2 fun s hs => ?_
  rcases (hg.touched s).1 hs with hnil | hgrown
  · cases hnil
  · rw [hg.size_of_rejected hms s] at hgrown
    exact Nat.lt_irrefl _ hgrown

/-- What waiting for the first message of a batch comes to if there is nothing ahead. -/
def idle (h : Hub η) (t : Nat) (still : Bool) : Except Halt Act.First :=
  if h.ends t then .error (.failed .endOfLog) else .ok (if still then .waiting else .none)

end Hub

namespace Act

open Hub

variable {h : Hub η} {b t : Nat}

/-- Waiting for the first message that is taken: those before it are discarded. It is given up when there is nothing
ahead any more, or when too many were discarded and the deadline has passed. -/
theorem firstAccepted_poured (hs : h.Serving b) (hr : h.Ready t) (deadline : Nat) (still : Bool)
    (n discarded : Nat) (hn : (h.ahead t).length < n) (hd : deadline ≤ h.now → discarded < batchLimit) :
    ∃ ms r T g, firstAccepted b t deadline still n discarded h = (r, g) ∧ Poured b t ms [] T h g ∧
      ((∃ init m, ms = init ++ [m] ∧ (∀ x ∈ init, ¬ h.Takes b x) ∧ h.Takes b m ∧ r = .ok (.accepted T) ∧
          (deadline ≤ h.now → discarded + init.length < batchLimit)) ∨
        (∀ x ∈ ms, ¬ h.Takes b x) ∧ T = [] ∧
          (r = .ok .none ∧ batchLimit ≤ discarded + ms.length ∨ g.ahead t = [] ∧ r = h.idle t still)) := by
  induction n generalizing h discarded with
  | zero => exact absurd hn (Nat.not_lt_zero _)
  | succ n ih =>
    cases hahead : h.ahead t with
    | nil =>
      obtain ⟨g, hreceive, hg⟩ := receive_of_nil hr hahead (some deadline) still
      refine ⟨[], h.idle t still, [], g, ?_, hg.poured hahead,
        Or.inr ⟨(fun x hx => nomatch hx), rfl, Or.inr ⟨hg.ahead, rfl⟩⟩⟩
      simp only [firstAccepted, bind_apply, hreceive, drought, Hub.idle]
      cases h.ends t with
      | true => rfl
      | false => cases still <;> rfl
    | cons m ms =>
      obtain ⟨f, hreceive, hf⟩ := receive_of_cons hr hahead (some deadline) still
      obtain ⟨T, a, g, hroute, hg, ha⟩ := round_poured hs hahead hf []
      simp only [firstAccepted, bind_apply, hreceive, hroute, ite_apply, get_apply, pure_apply]
      cases a with
      | true =>
        exact ⟨[m], _, T, g, rfl, hg, Or.inl ⟨[], m, rfl, (fun x hx => nomatch hx), ha.1 rfl, rfl, hd⟩⟩
      | false =>
        have hreject : ∀ x ∈ [m], ¬ h.Takes b x := fun x hx => by
          rw [List.mem_singleton.1 hx, ← ha]
          exact Bool.false_ne_true
        obtain rfl := hg.touched_of_rejected hreject
        rw [if_neg Bool.false_ne_true]
        by_cases hstop : batchLimit ≤ discarded + 1 ∧ deadline ≤ g.now
        · rw [if_pos hstop]
          exact ⟨[m], _, [], g, rfl, hg, Or.inr ⟨hreject, rfl, Or.inl ⟨rfl, hstop.1⟩⟩⟩
        · rw [if_neg hstop]
          have hlength : (g.ahead t).length < n := by
            rw [hg.ahead, List.length_append, List.length_singleton] at hn
            omega
          obtain ⟨ns, r, T, k, hrest, hk, hout⟩ := ih (hs.of_roster hg.roster) hg.ready (discarded + 1) hlength
            (fun hnow => by by_contra hfull; exact hstop ⟨by omega, hnow⟩)
          simp only [hg.takes_of_rejected hreject] at hout
          refine ⟨[m] ++ ns, r, T, k, hrest, hg.trans hk, ?_⟩
          rcases hout with ⟨init, x, rfl, hinit, hx, hr', hlimit⟩ | ⟨hall, hT, hend⟩
          · refine Or.inl ⟨m :: init, x, rfl, fun y hy => ?_, hx, hr', fun hnow => ?_⟩
            · rcases List.mem_cons.1 hy with rfl | hy
              · exact hreject y List.mem_cons_self
              · exact hinit y hy
            · have := hlimit (Nat.le_trans hnow hg.now)
              rw [List.length_cons]
              omega
          · refine Or.inr ⟨fun y hy => ?_, hT, ?_⟩
            · rcases List.mem_append.1 hy with hy | hy
              · exact hreject y hy
              · exact hall y hy
            · rw [List.length_append, List.length_singleton]
              refine hend.imp (fun h => ⟨h.1, by omega⟩) fun h => ⟨h.1, ?_⟩
              rw [h.2, idle, hg.ends, idle]

/-- Taking in what the transport has already, `n` messages at most. -/
theorem fillBatch_poured (hs : h.Serving b) (hr : h.Ready (h.lineOf b)) (n : Nat) (T : List Nat)
    (count : Nat) :
    ∃ ms T' count' g, fillBatch b (h.lineOf b) n T count h = (.ok ⟨T', count', none⟩, g) ∧
      Poured b (h.lineOf b) ms T T' h g ∧ ms.length ≤ n ∧ (ms.length = n ∨ g.ahead (h.lineOf b) = []) ∧
      count ≤ count' ∧
      ((∀ s ∈ h.members b, (h.subscription s).backlog.capacity = none) → count' = count + ms.length) := by
  induction n generalizing h T count with
  | zero => exact ⟨[], T, count, h, rfl, poured_rfl hr, Nat.le_refl _, Or.inl rfl, Nat.le_refl _, fun _ => rfl⟩
  | succ n ih =>
    cases hahead : h.ahead (h.lineOf b) with
    | nil =>
      obtain ⟨g, hreceive, hg⟩ := receive_of_nil hr hahead (some h.now) false
      simp only [fillBatch, bind_apply, get_apply, attempt_apply, hreceive, drought]
      cases h.ends (h.lineOf b) with
      | true =>
        -- the end of a replay is told by the next dispatch
        exact ⟨[], T, count, g.report [.trace s!"broker: batch ended early: {Error.endOfLog.message}"], rfl,
          (hg.report _).poured hahead, Nat.zero_le _, Or.inr hg.ahead, Nat.le_refl _, fun _ => rfl⟩
      | false =>
        exact ⟨[], T, count, g, rfl, hg.poured hahead, Nat.zero_le _, Or.inr hg.ahead, Nat.le_refl _, fun _ => rfl⟩
    | cons m ms =>
      obtain ⟨f, hreceive, hf⟩ := receive_of_cons hr hahead (some h.now) false
      obtain ⟨T', a, g, hroute, hg, ha⟩ := round_poured hs hahead hf T
      have hline : g.lineOf b = h.lineOf b := lineOf_of_roster hg.roster b
      obtain ⟨ns, T'', count', k, hrest, hk, hlength, hend, hle, hexact⟩ := ih (hs.of_roster hg.roster)
        (hline ▸ hg.ready) T' (if a then count + 1 else count)
      rw [hline] at hrest hk hend
      refine ⟨[m] ++ ns, T'', count', k, ?_, hg.trans hk, ?_, ?_, ?_, fun hfree => ?_⟩
      · simp only [fillBatch, bind_apply, get_apply, attempt_apply, hreceive, hroute]
        exact hrest
      · rw [List.length_append, List.length_singleton]
        omega
      · rw [List.length_append, List.length_singleton]
        exact hend.imp_left fun h => by omega
      · refine Nat.le_trans ?_ hle
        split <;> omega
      · -- a message that is ahead is wanted, so that some subscription matches it
        have hwanted := hr.wanted m (by rw [← Hub.ahead, hahead]; exact List.mem_cons_self)
        obtain ⟨s, hsb, hmatch⟩ := (hs.wants_iff m.channel).1 hwanted
        have htaken : a = true := ha.2 ⟨s, hsb, hmatch, by rw [Backlog.hasRoom, hfree s hsb]⟩
        have hcount := hexact fun s hs => (hg.capacity s).trans (hfree s (members_of_roster hg.roster b ▸ hs))
        rw [hcount, if_pos htaken, List.length_append, List.length_singleton]
        omega

end Act
end PubSub
