import PubSub.Proofs.Hub.Wired

/-!
# Subscriptions that come and go

What subscribing and unsubscribing make of a wired hub. The hub stays wired: the interest of the broker follows its
subscriptions, and the mailbox of its transport gives up what nobody wants any more.

* `Hub.enrolled`, `Hub.withdrawn`: the tables with one subscription more, or one less.
* `Hub.Refreshed`: how a mailbox changes when its broker's interest has changed.

Results:

* `Act.subscribe_apply`, `Act.unsubscribe_apply`: what the calls come to.
* `Hub.Mirrored.enrolled`, `Hub.Mirrored.withdrawn`: the hub stays mirrored; `Hub.Enlisted.enrolled`,
  `Hub.Enlisted.withdrawn`, `Hub.Wired.enrolled`, `Hub.Wired.withdrawn`: enlisted, and wired.
-/

namespace PubSub

variable {η : Type}

namespace Hub

/-! ## Mailboxes after a change of interest -/

/-- `g` is what `f` becomes when the mailbox of transport `t` throws away what nobody wants. -/
structure Refreshed (t : Nat) (f g : Hub η) : Prop where
  wiring : g.wiring = f.wiring
  subscription : g.subscription = f.subscription
  desk : g.desk = f.desk
  waiting : ∀ u, g.waiting u = if u = t then (f.waiting t).filter (fun m => f.wants t m.channel) else f.waiting u

theorem Refreshed.report {t : Nat} {f g : Hub η} (hg : Refreshed t f g) (notices : List Notice) :
    Refreshed t f (g.report notices) where
  wiring := (wiring_report g notices).trans hg.wiring
  subscription := hg.subscription
  desk := hg.desk
  waiting := hg.waiting

/-- What somebody may still want is not thrown away. -/
theorem Refreshed.filter_waiting {t : Nat} {f g : Hub η} (hg : Refreshed t f g) {u : Nat} {keep : Message → Bool}
    (hk : u = t → ∀ m, keep m = true → f.wants t m.channel = true) :
    (g.waiting u).filter keep = (f.waiting u).filter keep := by
  rw [hg.waiting u]
  split
  · rename_i hut
    subst hut
    exact Mailbox.filter_wanted (hk rfl) _
  · rfl

end Hub

namespace Act

open Hub

theorem interestChanged_refreshed {f : Hub η} {t k : Nat} (hk : f.place t = some k) :
    ∃ g, interestChanged t f = (.ok (), g) ∧ Refreshed t f g := by
  have hl := place_eq_some_iff.1 hk
  simp only [interestChanged, bind_apply, get_apply, hl, modify_apply]
  refine ⟨_, rfl, wiring_setLine hk (by simp) (by simp), rfl, rfl, fun u => ?_⟩
  rw [waiting_report, waiting_setLine _ hk, Mailbox.toList_retain]
  rfl

end Act

/-! ## One subscription more -/

namespace Hub

/-- The tables with one subscription more. -/
def enrolled (h : Hub η) (b : Nat) (pattern : Pattern) : Hub η :=
  let broker := h.broker b
  (((h.addSubscription { id := broker.nextId, pattern, backlog := .new broker.defaultCapacity }).1.modifyBroker b
    fun br => { br with nextId := broker.nextId + 1, subscriptions := br.subscriptions ++ [h.subscriptions.size] })
      ).modifyInterest broker.interest (·.insert broker.nextId pattern)

theorem subscription_enrolled (h : Hub η) (b : Nat) (pattern : Pattern) (s : Nat) :
    (h.enrolled b pattern).subscription s =
      if s = h.subscriptions.size then
        { id := (h.broker b).nextId, pattern, backlog := .new (h.broker b).defaultCapacity }
      else h.subscription s :=
  subscription_addSubscription ..

theorem broker_enrolled {h : Hub η} {b : Nat} (hb : b < h.brokers.size) (pattern : Pattern) (c : Nat) :
    (h.enrolled b pattern).broker c =
      if c = b then
        { h.broker b with
          nextId := (h.broker b).nextId + 1
          subscriptions := h.members b ++ [h.subscriptions.size] }
      else h.broker c := by
  have hc := broker_modifyBroker h b c fun br =>
    { br with nextId := (h.broker b).nextId + 1, subscriptions := br.subscriptions ++ [h.subscriptions.size] }
  refine Eq.trans ?_ (hc.trans ?_)
  · rfl
  · by_cases hcb : c = b
    · subst hcb
      simp [hb]
    · rw [if_neg hcb, if_neg fun he => hcb he.1.symm]

theorem interest_enrolled {h : Hub η} {b : Nat} (hb : (h.broker b).interest < h.interests.size) (pattern : Pattern)
    (i : Nat) :
    (h.enrolled b pattern).interest i =
      if i = (h.broker b).interest then (h.interest i).insert (h.broker b).nextId pattern else h.interest i := by
  have hi := interest_modifyInterest h (h.broker b).interest i (·.insert (h.broker b).nextId pattern)
  refine Eq.trans ?_ (hi.trans ?_)
  · rfl
  · by_cases hib : i = (h.broker b).interest
    · subst hib
      simp [hb]
    · rw [if_neg hib, if_neg fun he => hib he.1.symm]

theorem brokers_size_enrolled (h : Hub η) (b : Nat) (pattern : Pattern) :
    (h.enrolled b pattern).brokers.size = h.brokers.size :=
  Array.size_modify

theorem subscriptions_size_enrolled (h : Hub η) (b : Nat) (pattern : Pattern) :
    (h.enrolled b pattern).subscriptions.size = h.subscriptions.size + 1 :=
  Array.size_push ..

theorem lineOf_enrolled {h : Hub η} {b : Nat} (hb : b < h.brokers.size) (pattern : Pattern) (c : Nat) :
    (h.enrolled b pattern).lineOf c = h.lineOf c := by
  rw [lineOf, broker_enrolled hb]
  exact kept_of_ite Broker.transport c

theorem members_enrolled {h : Hub η} {b : Nat} (hb : b < h.brokers.size) (pattern : Pattern) (c : Nat) :
    (h.enrolled b pattern).members c =
      if c = b then h.members b ++ [h.subscriptions.size] else h.members c := by
  rw [members, broker_enrolled hb]
  split <;> rfl

theorem mem_members_enrolled {h : Hub η} {b : Nat} (hb : b < h.brokers.size) {pattern : Pattern} {c s : Nat} :
    s ∈ (h.enrolled b pattern).members c ↔ s ∈ h.members c ∨ c = b ∧ s = h.subscriptions.size := by
  rw [members_enrolled hb]
  split
  · rename_i hcb
    simp [hcb]
  · rename_i hcb
    simp [hcb]

theorem attached_enrolled {h : Hub η} {b : Nat} (hb : b < h.brokers.size) (pattern : Pattern) (c : Nat) :
    (h.enrolled b pattern).Attached c ↔ h.Attached c := by
  have hc : ((h.enrolled b pattern).broker c).closed = (h.broker c).closed := by
    rw [broker_enrolled hb]
    exact kept_of_ite Broker.closed c
  rw [← brokers_size_enrolled h b pattern] at hb
  exact ⟨fun ha => ⟨brokers_size_enrolled h b pattern ▸ ha.made, hc ▸ ha.isOpen⟩,
    fun ha => ⟨(brokers_size_enrolled h b pattern).symm ▸ ha.made, hc.symm ▸ ha.isOpen⟩⟩

theorem housed_enrolled {h : Hub η} {b : Nat} (hb : b < h.brokers.size) (pattern : Pattern) :
    Housed h (h.enrolled b pattern) where
  brokers_size := brokers_size_enrolled h b pattern
  transports_size := rfl
  interests_size := Array.size_modify
  line := lineOf_enrolled hb pattern
  interest c := by
    rw [broker_enrolled hb]
    exact kept_of_ite Broker.interest c
  serves _ := rfl

theorem Mirrored.enrolled {h : Hub η} (hm : h.Mirrored) {b : Nat} (hb : h.Attached b) (pattern : Pattern) :
    (h.enrolled b pattern).Mirrored := by
  have hmembers := members_enrolled hb.made pattern
  have hold : ∀ c < h.brokers.size, ∀ s ∈ h.members c, (h.enrolled b pattern).subscription s = h.subscription s :=
    fun c hc s hs => by rw [subscription_enrolled, if_neg (Nat.ne_of_lt (hm.member_lt c hc s hs))]
  have hnew : (h.enrolled b pattern).subscription h.subscriptions.size =
      { id := (h.broker b).nextId, pattern, backlog := .new (h.broker b).defaultCapacity } := by
    rw [subscription_enrolled, if_pos rfl]
  refine hm.housed (housed_enrolled hb.made pattern) ?patterns ?ids_nodup ?id_lt ?member_lt ?member_inj ?active
  case patterns =>
    intro c hc
    have hc := (attached_enrolled hb.made pattern c).1 hc
    rw [interest_enrolled (hm.interest_lt b hb.made), hmembers, hm.patterns c hc]
    have hmap : (h.members c).map (fun s => (((h.enrolled b pattern).subscription s).id,
        ((h.enrolled b pattern).subscription s).pattern)) =
          (h.members c).map fun s => ((h.subscription s).id, (h.subscription s).pattern) :=
      List.map_congr_left fun s hs => by rw [hold c hc.made s hs]
    by_cases hcb : c = b
    · subst hcb
      simp only [if_true, List.map_append, hmap, List.map_cons, List.map_nil, hnew, Interest.insert]
    · rw [if_neg hcb, if_neg fun hi => hcb (hm.interest_inj c hc.made b hb.made hi), hmap]
  case ids_nodup =>
    intro c hc
    have hmap : (h.members c).map (fun s => ((h.enrolled b pattern).subscription s).id) =
        (h.members c).map fun s => (h.subscription s).id :=
      List.map_congr_left fun s hs => by rw [hold c hc s hs]
    rw [hmembers]
    split
    · rename_i hcb
      subst hcb
      rw [List.map_append, hmap, List.map_cons, List.map_nil, hnew]
      refine List.nodup_append.2 ⟨hm.ids_nodup c hc, List.nodup_singleton _, fun i hi j hj => ?_⟩
      obtain ⟨s, hs, rfl⟩ := List.mem_map.1 hi
      rw [List.mem_singleton.1 hj]
      exact Nat.ne_of_lt (hm.id_lt c hc s hs)
    · rw [hmap]
      exact hm.ids_nodup c hc
  case id_lt =>
    intro c hc s hs
    rw [broker_enrolled hb.made]
    rcases (mem_members_enrolled hb.made).1 hs with hs | ⟨rfl, rfl⟩
    · rw [hold c hc s hs]
      have := hm.id_lt c hc s hs
      split
      · rename_i hcb
        subst hcb
        exact Nat.lt_succ_of_lt this
      · exact this
    · rw [if_pos rfl, hnew]
      exact Nat.lt_succ_self _
  case member_lt =>
    intro c hc s hs
    rw [subscriptions_size_enrolled]
    rcases (mem_members_enrolled hb.made).1 hs with hs | ⟨rfl, rfl⟩
    · exact Nat.lt_succ_of_lt (hm.member_lt c hc s hs)
    · exact Nat.lt_succ_self _
  case member_inj =>
    intro c hc d hd s hsc hsd
    -- a subscription made before is not the new one
    have hfresh : ∀ d < h.brokers.size, h.subscriptions.size ∉ h.members d :=
      fun d hd hs => Nat.lt_irrefl _ (hm.member_lt d hd _ hs)
    rcases (mem_members_enrolled hb.made).1 hsc with hc' | ⟨hcb, hs⟩ <;>
      rcases (mem_members_enrolled hb.made).1 hsd with hd' | ⟨hdb, hs'⟩
    · exact hm.member_inj c hc d hd s hc' hd'
    · exact absurd (hs' ▸ hc') (hfresh c hc)
    · exact absurd (hs ▸ hd') (hfresh d hd)
    · exact hcb.trans hdb.symm
  case active =>
    intro c hc s hs
    rcases (mem_members_enrolled hb.made).1 hs with hs | ⟨rfl, rfl⟩
    · rw [hold c hc s hs]
      exact hm.active c hc s hs
    · rw [hnew]

theorem Enlisted.enrolled {h : Hub η} (he : h.Enlisted) {b : Nat} (hb : h.Attached b) (pattern : Pattern) :
    (h.enrolled b pattern).Enlisted :=
  (he.mirrored.enrolled hb pattern).enlisted fun s => by
    rw [subscription_enrolled]
    split
    · rfl
    · exact he.whole s

theorem Wired.enrolled {h : Hub η} (hw : h.Wired) {b : Nat} (hb : h.Attached b) (pattern : Pattern) :
    (h.enrolled b pattern).Wired := by
  refine (hw.enlisted.enrolled hb pattern).wired (fun c hc => ?_) hw.mem_bus hw.bus_nodup hw.bus_lt hw.unbounded
    fun c hc => ?_
  · rw [lineOf_enrolled hb.made]
    exact hw.placed c (brokers_size_enrolled h b pattern ▸ hc)
  · rw [lineOf_enrolled hb.made]
    exact hw.open_box c ((attached_enrolled hb.made pattern c).1 hc)

end Hub

namespace Act

open Hub

/-- Subscribing to an open broker with a pattern that can be read, if its transport takes the change of interest. -/
theorem subscribe_enrolled {h g : Hub η} {b : Nat} {text : String} {pattern : Pattern}
    (ho : (h.broker b).closed = false) (hp : Pattern.ofText text = .ok pattern)
    (hg : interestChanged (h.lineOf b) (h.enrolled b pattern) = (.ok (), g)) :
    subscribe b text h = (.ok h.subscriptions.size,
      g.report [.debug (s!"broker: subscription {(h.broker b).nextId} on " ++ Text.quoted text)]) := by
  have hsize : ∀ u, (h.addSubscription u).2 = h.subscriptions.size := fun _ => rfl
  simp only [enrolled] at hg
  simp only [subscribe, bind_apply, openBroker_apply, ho, Bool.false_eq_true, if_false, hp, orHalt_ok, change_apply,
    modify_apply, hsize, hg, report_apply, pure_apply]

/-- If the transport does not take the change of interest, the subscription stays, and nobody is told of it. -/
theorem subscribe_untold {h g : Hub η} {b : Nat} {text : String} {pattern : Pattern} {e : Halt}
    (ho : (h.broker b).closed = false) (hp : Pattern.ofText text = .ok pattern)
    (hg : interestChanged (h.lineOf b) (h.enrolled b pattern) = (.error e, g)) :
    subscribe b text h = (.error e, g) := by
  have hsize : ∀ u, (h.addSubscription u).2 = h.subscriptions.size := fun _ => rfl
  simp only [enrolled] at hg
  simp only [subscribe, bind_apply, openBroker_apply, ho, Bool.false_eq_true, if_false, hp, orHalt_ok, change_apply,
    modify_apply, hsize, hg]

theorem subscribe_closed {h : Hub η} {b : Nat} (hc : (h.broker b).closed = true) (text : String) :
    subscribe b text h = (.error (.failed .closed), h) := by
  simp only [subscribe, bind_apply, openBroker_apply, hc, if_true]

theorem subscribe_unread {h : Hub η} {b : Nat} {text : String} {e : Error} (ho : (h.broker b).closed = false)
    (hp : Pattern.ofText text = .error e) : subscribe b text h = (.error (.failed e), h) := by
  simp only [subscribe, bind_apply, openBroker_apply, ho, Bool.false_eq_true, if_false, hp, orHalt_error]

/-- Subscribing leaves the hub as it is, or there is one subscription more and the transport is told. -/
theorem subscribe_snd (b : Nat) (text : String) (h : Hub η) :
    (subscribe b text h).2 = h ∨ (h.broker b).closed = false ∧ ∃ pattern notices,
      (subscribe b text h).2 = (interestChanged (h.lineOf b) (h.enrolled b pattern)).2.report notices := by
  cases hc : (h.broker b).closed with
  | true => exact Or.inl (congrArg Prod.snd (subscribe_closed hc text))
  | false =>
    cases hp : Pattern.ofText text with
    | error e => exact Or.inl (congrArg Prod.snd (subscribe_unread hc hp))
    | ok pattern =>
      refine Or.inr ⟨rfl, pattern, ?_⟩
      cases hg : interestChanged (h.lineOf b) (h.enrolled b pattern) with
      | mk told g =>
        cases told with
        | error e => exact ⟨[], congrArg Prod.snd (subscribe_untold hc hp hg)⟩
        | ok _ => exact ⟨_, congrArg Prod.snd (subscribe_enrolled hc hp hg)⟩

/-- What subscribing comes to: a closed broker and a pattern that cannot be read are refused, and otherwise there is one
subscription more. -/
theorem subscribe_apply {h : Hub η} {b k : Nat} (hk : h.place (h.lineOf b) = some k)
    (text : String) :
    if (h.broker b).closed then subscribe b text h = (.error (.failed .closed), h)
    else match Pattern.ofText text with
      | .error e => subscribe b text h = (.error (.failed e), h)
      | .ok pattern => ∃ g, subscribe b text h = (.ok h.subscriptions.size, g) ∧
          Refreshed (h.lineOf b) (h.enrolled b pattern) g := by
  cases hc : (h.broker b).closed with
  | true =>
    rw [if_pos rfl]
    exact subscribe_closed hc text
  | false =>
    rw [if_neg Bool.false_ne_true]
    cases hp : Pattern.ofText text with
    | error e => exact subscribe_unread hc hp
    | ok pattern =>
      obtain ⟨g, hg, hr⟩ := interestChanged_refreshed (f := h.enrolled b pattern) (t := h.lineOf b) hk
      exact ⟨_, subscribe_enrolled hc hp hg, hr.report _⟩

end Act

namespace Hub

/-! ## One subscription less -/

/-- The tables with one subscription less. -/
def withdrawn (h : Hub η) (b s : Nat) : Hub η :=
  ((h.modifyBroker b fun br => { br with subscriptions := br.subscriptions.filter (· != s) }).modifySubscription s
    fun u => { u with active := false, backlog := u.backlog.clear }).modifyInterest (h.broker b).interest
      (·.remove (h.subscription s).id)

theorem subscription_withdrawn {h : Hub η} {s : Nat} (hs : s < h.subscriptions.size) (b u : Nat) :
    (h.withdrawn b s).subscription u =
      if u = s then { h.subscription s with active := false, backlog := (h.subscription s).backlog.clear }
      else h.subscription u := by
  have hu := subscription_modifySubscription h s u fun u => { u with active := false, backlog := u.backlog.clear }
  refine Eq.trans rfl (hu.trans ?_)
  by_cases hus : u = s
  · subst hus
    simp [hs]
  · rw [if_neg hus, if_neg fun he => hus he.1.symm]

theorem broker_withdrawn {h : Hub η} {b : Nat} (hb : b < h.brokers.size) (s c : Nat) :
    (h.withdrawn b s).broker c =
      if c = b then { h.broker b with subscriptions := (h.members b).filter (· != s) } else h.broker c := by
  have hc := broker_modifyBroker h b c fun br => { br with subscriptions := br.subscriptions.filter (· != s) }
  refine Eq.trans rfl (hc.trans ?_)
  by_cases hcb : c = b
  · subst hcb
    simp [hb]
  · rw [if_neg hcb, if_neg fun he => hcb he.1.symm]

theorem interest_withdrawn {h : Hub η} {b : Nat} (hb : (h.broker b).interest < h.interests.size) (s i : Nat) :
    (h.withdrawn b s).interest i =
      if i = (h.broker b).interest then (h.interest i).remove (h.subscription s).id else h.interest i := by
  have hi := interest_modifyInterest h (h.broker b).interest i (·.remove (h.subscription s).id)
  refine Eq.trans rfl (hi.trans ?_)
  by_cases hib : i = (h.broker b).interest
  · subst hib
    simp [hb]
  · rw [if_neg hib, if_neg fun he => hib he.1.symm]

theorem brokers_size_withdrawn (h : Hub η) (b s : Nat) : (h.withdrawn b s).brokers.size = h.brokers.size :=
  Array.size_modify

theorem subscriptions_size_withdrawn (h : Hub η) (b s : Nat) :
    (h.withdrawn b s).subscriptions.size = h.subscriptions.size :=
  Array.size_modify

theorem closed_withdrawn {h : Hub η} {b : Nat} (hb : b < h.brokers.size) (s c : Nat) :
    ((h.withdrawn b s).broker c).closed = (h.broker c).closed := by
  rw [broker_withdrawn hb]
  exact kept_of_ite Broker.closed c

theorem lineOf_withdrawn {h : Hub η} {b : Nat} (hb : b < h.brokers.size) (s c : Nat) :
    (h.withdrawn b s).lineOf c = h.lineOf c := by
  rw [lineOf, broker_withdrawn hb]
  exact kept_of_ite Broker.transport c

theorem members_withdrawn {h : Hub η} {b : Nat} (hb : b < h.brokers.size) (s c : Nat) :
    (h.withdrawn b s).members c = if c = b then (h.members b).filter (· != s) else h.members c := by
  rw [members, broker_withdrawn hb]
  split <;> rfl

theorem mem_members_withdrawn {h : Hub η} {b : Nat} (hb : b < h.brokers.size) {s c u : Nat} :
    u ∈ (h.withdrawn b s).members c ↔ u ∈ h.members c ∧ (c = b → u ≠ s) := by
  rw [members_withdrawn hb]
  split
  · rename_i hcb
    simp [hcb]
  · rename_i hcb
    simp [hcb]

theorem attached_withdrawn {h : Hub η} {b : Nat} (hb : b < h.brokers.size) (s c : Nat) :
    (h.withdrawn b s).Attached c ↔ h.Attached c := by
  have hc := closed_withdrawn hb s c
  exact ⟨fun ha => ⟨brokers_size_withdrawn h b s ▸ ha.made, hc ▸ ha.isOpen⟩,
    fun ha => ⟨(brokers_size_withdrawn h b s).symm ▸ ha.made, hc.symm ▸ ha.isOpen⟩⟩

/-- Taking away the pattern of a subscription leaves the patterns of the others. -/
theorem remove_patterns {l : List Nat} {id : Nat → Nat} {pattern : Nat → Pattern} (hl : (l.map id).Nodup) {s : Nat}
    (hs : s ∈ l) :
    ({ all := false, patterns := l.map fun u => (id u, pattern u) } : Interest).remove (id s) =
      { all := false, patterns := (l.filter (· != s)).map fun u => (id u, pattern u) } := by
  simp only [Interest.remove, List.filter_map, Interest.mk.injEq, true_and]
  congr 1
  refine List.filter_congr fun u hu => ?_
  have : id u = id s ↔ u = s := ⟨fun he => List.inj_on_of_nodup_map hl hu hs he, fun he => he ▸ rfl⟩
  simp [bne, this]

theorem housed_withdrawn {h : Hub η} {b : Nat} (hb : b < h.brokers.size) (s : Nat) :
    Housed h (h.withdrawn b s) where
  brokers_size := brokers_size_withdrawn h b s
  transports_size := rfl
  interests_size := Array.size_modify
  line := lineOf_withdrawn hb s
  interest c := by
    rw [broker_withdrawn hb]
    exact kept_of_ite Broker.interest c
  serves _ := rfl

theorem Mirrored.withdrawn {h : Hub η} (hm : h.Mirrored) {b : Nat} (hb : h.Attached b) {s : Nat}
    (hs : s ∈ h.members b) : (h.withdrawn b s).Mirrored := by
  have hlt := hm.member_lt b hb.made s hs
  have hsub : ∀ u, ((h.withdrawn b s).subscription u).id = (h.subscription u).id ∧
      ((h.withdrawn b s).subscription u).pattern = (h.subscription u).pattern := fun u => by
    rw [subscription_withdrawn hlt]
    exact ⟨kept_of_ite Subscription.id u, kept_of_ite Subscription.pattern u⟩
  refine hm.thinned (housed_withdrawn hb.made s) (subscriptions_size_withdrawn h b s) (fun u => (hsub u).1)
    ?next ?members ?patterns ?active
  case next =>
    intro c
    rw [broker_withdrawn hb.made]
    exact kept_of_ite Broker.nextId c
  case members =>
    intro c
    rw [members_withdrawn hb.made]
    split
    · rename_i hcb
      rw [hcb]
      exact List.filter_sublist
    · exact List.Sublist.refl _
  case patterns =>
    intro c hc
    have ha := (attached_withdrawn hb.made s c).1 hc
    rw [interest_withdrawn (hm.interest_lt b hb.made), hm.patterns c ha]
    simp only [hsub]
    rw [members_withdrawn hb.made]
    by_cases hcb : c = b
    · subst hcb
      rw [if_pos rfl, if_pos rfl, remove_patterns (hm.ids_nodup c ha.made) hs]
    · rw [if_neg fun hi => hcb (hm.interest_inj c ha.made b hb.made hi), if_neg hcb]
  case active =>
    intro c hc u hu
    obtain ⟨huc, hne⟩ := (mem_members_withdrawn hb.made).1 hu
    have hus : u ≠ s := by
      rintro rfl
      exact hne (hm.member_inj c hc b hb.made u huc hs) rfl
    rw [subscription_withdrawn hlt, if_neg hus]
    exact hm.active c hc u huc

theorem Enlisted.withdrawn {h : Hub η} (he : h.Enlisted) {b : Nat} (hb : h.Attached b) {s : Nat}
    (hs : s ∈ h.members b) : (h.withdrawn b s).Enlisted :=
  (he.mirrored.withdrawn hb hs).enlisted fun u => by
    rw [subscription_withdrawn (he.member_lt b hb.made s hs)]
    exact (kept_of_ite Subscription.spoiled u).trans (he.whole u)

theorem Wired.withdrawn {h : Hub η} (hw : h.Wired) {b : Nat} (hb : h.Attached b) {s : Nat} (hs : s ∈ h.members b) :
    (h.withdrawn b s).Wired := by
  refine (hw.enlisted.withdrawn hb hs).wired (fun c hc => ?_) hw.mem_bus hw.bus_nodup hw.bus_lt hw.unbounded
    fun c hc => ?_
  · rw [lineOf_withdrawn hb.made]
    exact hw.placed c (brokers_size_withdrawn h b s ▸ hc)
  · rw [lineOf_withdrawn hb.made]
    exact hw.open_box c ((attached_withdrawn hb.made s c).1 hc)

end Hub

namespace Act

open Hub

/-- Unsubscribing a subscription of an open broker, if its transport takes the change of interest. -/
theorem unsubscribe_withdrawn {h g : Hub η} {b s : Nat} (ho : (h.broker b).closed = false) (hs : s ∈ h.members b)
    (hg : interestChanged (h.lineOf b) (h.withdrawn b s) = (.ok (), g)) :
    unsubscribe b s h = (.ok (), g.report [.debug s!"broker: removed subscription {(h.subscription s).id}"]) := by
  simp only [withdrawn] at hg
  simp only [unsubscribe, bind_apply, openBroker_apply, ho, Bool.false_eq_true, if_false, get_apply,
    List.contains_iff_mem.2 hs, Bool.not_true, modify_apply, hg, report_apply]

/-- If the transport does not take the change of interest, the subscription is gone all the same. -/
theorem unsubscribe_untold {h g : Hub η} {b s : Nat} {e : Halt} (ho : (h.broker b).closed = false)
    (hs : s ∈ h.members b) (hg : interestChanged (h.lineOf b) (h.withdrawn b s) = (.error e, g)) :
    unsubscribe b s h = (.error e, g) := by
  simp only [withdrawn] at hg
  simp only [unsubscribe, bind_apply, openBroker_apply, ho, Bool.false_eq_true, if_false, get_apply,
    List.contains_iff_mem.2 hs, Bool.not_true, modify_apply, hg]

theorem unsubscribe_closed {h : Hub η} {b : Nat} (hc : (h.broker b).closed = true) (s : Nat) :
    unsubscribe b s h = (.error (.failed .closed), h) := by
  simp only [unsubscribe, bind_apply, openBroker_apply, hc, if_true]

theorem unsubscribe_stranger {h : Hub η} {b s : Nat} (ho : (h.broker b).closed = false) (hs : s ∉ h.members b) :
    unsubscribe b s h = (.error (.failed (.invalidArgument (.notRegistered (h.subscription s).id))), h) := by
  have hs' : (h.broker b).subscriptions.contains s = false := by simpa using hs
  simp only [unsubscribe, bind_apply, openBroker_apply, ho, Bool.false_eq_true, if_false, get_apply, hs',
    Bool.not_false, if_true, fail_apply]

/-- Unsubscribing leaves the hub as it is, or there is one subscription less and the transport is told. -/
theorem unsubscribe_snd (b s : Nat) (h : Hub η) :
    (unsubscribe b s h).2 = h ∧ (unsubscribe b s h).1 ≠ .ok () ∨
      (h.broker b).closed = false ∧ s ∈ h.members b ∧ ∃ notices,
        (unsubscribe b s h).2 = (interestChanged (h.lineOf b) (h.withdrawn b s)).2.report notices := by
  cases hc : (h.broker b).closed with
  | true =>
    rw [unsubscribe_closed hc]
    exact Or.inl ⟨rfl, fun he => nomatch he⟩
  | false =>
    by_cases hs : s ∈ h.members b
    · refine Or.inr ⟨rfl, hs, ?_⟩
      cases hg : interestChanged (h.lineOf b) (h.withdrawn b s) with
      | mk told g =>
        cases told with
        | error e => exact ⟨[], congrArg Prod.snd (unsubscribe_untold hc hs hg)⟩
        | ok _ => exact ⟨_, congrArg Prod.snd (unsubscribe_withdrawn hc hs hg)⟩
    · rw [unsubscribe_stranger hc hs]
      exact Or.inl ⟨rfl, fun he => nomatch he⟩

/-- What unsubscribing comes to: a closed broker and a subscription of another are refused, and otherwise there is one
subscription less. -/
theorem unsubscribe_apply {h : Hub η} {b k : Nat} (hk : h.place (h.lineOf b) = some k) (s : Nat) :
    if (h.broker b).closed then unsubscribe b s h = (.error (.failed .closed), h)
    else if s ∈ h.members b then
      ∃ g, unsubscribe b s h = (.ok (), g) ∧ Refreshed (h.lineOf b) (h.withdrawn b s) g
    else unsubscribe b s h = (.error (.failed (.invalidArgument (.notRegistered (h.subscription s).id))), h) := by
  cases hc : (h.broker b).closed with
  | true =>
    rw [if_pos rfl]
    exact unsubscribe_closed hc s
  | false =>
    rw [if_neg Bool.false_ne_true]
    by_cases hs : s ∈ h.members b
    · obtain ⟨g, hg, hr⟩ := interestChanged_refreshed (f := h.withdrawn b s) (t := h.lineOf b) hk
      rw [if_pos hs]
      exact ⟨_, unsubscribe_withdrawn hc hs hg, hr.report _⟩
    · rw [if_neg hs]
      exact unsubscribe_stranger hc hs

end Act
end PubSub
