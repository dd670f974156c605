import PubSub.Proofs.Hub.Intake
import PubSub.Proofs.Hub.Opening

/-!
# Who belongs to whom

Every subscription is made for one broker, and belongs to it until it ends. This holds of brokers on transports of any
kind, also of transports that do not know what their broker wants.

* `Hub.Roll`: which subscriptions there are and whose they are.
* `Hub.Tidy`: the invariant; only the roll decides whether it holds (`Hub.Tidy.of_roll`).
* `Hub.Later`: what lasts while subscriptions come and go.

Results:

* `Hub.Tidy.enrolled`, `Hub.Tidy.withdrawn`, `Hub.Tidy.ended`: a hub stays tidy when a subscription is made, when one is
  taken away, and when a broker is closed.
-/

namespace PubSub.Hub

variable {η : Type}

/-- Which subscriptions there are, whose they are, and who has ended. -/
structure Roll where
  size : Nat
  members : Nat → List Nat
  active : Nat → Bool
  closed : Nat → Bool

/-- The roll of a hub. -/
def roll (h : Hub η) : Roll where
  size := h.subscriptions.size
  members := h.members
  active s := (h.subscription s).active
  closed b := (h.broker b).closed

/-- Every subscription belongs to one broker at most, and is active while it does. Closed brokers have none. -/
structure Tidy (h : Hub η) : Prop where
  nodup : ∀ b, (h.members b).Nodup
  member_lt : ∀ b, ∀ s ∈ h.members b, s < h.subscriptions.size
  member_inj : ∀ b c s, s ∈ h.members b → s ∈ h.members c → b = c
  active : ∀ b, ∀ s ∈ h.members b, (h.subscription s).active = true
  shut : ∀ b, (h.broker b).closed = true → h.members b = []

/-- A subscription that has ended. -/
structure Retired (h : Hub η) (s : Nat) : Prop where
  made : s < h.subscriptions.size
  inactive : (h.subscription s).active = false

/-- What lasts: there are no fewer subscriptions, who has ended has ended, and who belongs to a broker belongs to it or
has ended. -/
structure Later (h g : Hub η) : Prop where
  size_le : h.subscriptions.size ≤ g.subscriptions.size
  retired : ∀ s, h.Retired s → g.Retired s
  member : ∀ b, ∀ s ∈ h.members b, s ∈ g.members b ∨ g.Retired s
  closed : ∀ b, (h.broker b).closed = true → (g.broker b).closed = true

variable {h f g : Hub η} {b c s : Nat}

/-- Only brokers that were made have subscriptions. -/
theorem made_of_member (hs : s ∈ h.members b) : b < h.brokers.size := by
  by_contra hb
  rw [members, broker_of_size_le (Nat.not_lt.1 hb)] at hs
  cases hs

theorem Tidy.seated (ht : h.Tidy) (b : Nat) : h.Seated b := ⟨ht.nodup b, ht.member_lt b⟩

/-- Who belongs to a broker has not ended. -/
theorem Tidy.not_retired (ht : h.Tidy) (hs : s ∈ h.members b) : ¬ h.Retired s := fun hr =>
  Bool.false_ne_true (hr.inactive.symm.trans (ht.active b s hs))

theorem Later.rfl : Later h h := ⟨Nat.le_refl _, fun _ hr => hr, fun _ _ hs => Or.inl hs, fun _ hc => hc⟩

theorem Later.trans (hf : Later h f) (hg : Later f g) : Later h g where
  size_le := Nat.le_trans hf.size_le hg.size_le
  retired s hr := hg.retired s (hf.retired s hr)
  member b s hs := (hf.member b s hs).elim (hg.member b s) fun hr => Or.inr (hg.retired s hr)
  closed b hc := hg.closed b (hf.closed b hc)

/-- Who has belonged to a broker and is active still belongs to it. -/
theorem Later.mem (hg : Later h g) (hs : s ∈ h.members b) (ha : (g.subscription s).active = true) : s ∈ g.members b :=
  (hg.member b s hs).resolve_right fun hr => Bool.false_ne_true (hr.inactive.symm.trans ha)

theorem members_of_roll (e : g.roll = h.roll) (b : Nat) : g.members b = h.members b :=
  congrArg (fun r => r.members b) e

theorem size_of_roll (e : g.roll = h.roll) : g.subscriptions.size = h.subscriptions.size := congrArg Roll.size e

theorem active_of_roll (e : g.roll = h.roll) (s : Nat) : (g.subscription s).active = (h.subscription s).active :=
  congrArg (fun r => r.active s) e

theorem closed_of_roll (e : g.roll = h.roll) (b : Nat) : (g.broker b).closed = (h.broker b).closed :=
  congrArg (fun r => r.closed b) e

theorem Tidy.of_roll (ht : h.Tidy) (e : g.roll = h.roll) : g.Tidy := by
  constructor <;> simp only [members_of_roll e, size_of_roll e, active_of_roll e, closed_of_roll e]
  exacts [ht.nodup, ht.member_lt, ht.member_inj, ht.active, ht.shut]

theorem Later.of_roll (hf : Later h f) (e : g.roll = f.roll) : Later h g := by
  have hretired : ∀ s, f.Retired s → g.Retired s := fun s hr =>
    ⟨(size_of_roll e).symm ▸ hr.made, (active_of_roll e s).trans hr.inactive⟩
  constructor
  case size_le => exact (size_of_roll e).symm ▸ hf.size_le
  case retired => exact fun s hr => hretired s (hf.retired s hr)
  case member =>
    intro b s hs
    rw [members_of_roll e]
    exact (hf.member b s hs).imp_right (hretired s)
  case closed => exact fun b hc => (closed_of_roll e b).trans (hf.closed b hc)

theorem roll_of_roster (e : g.roster = h.roster) : g.roll = h.roll := by
  simp only [roll, subscriptions_size_of_roster e, active_of_roster e, shut_of_roster e, Roll.mk.injEq, and_true,
    true_and]
  exact funext (members_of_roster e)

theorem roll_of_tables (hbrokers : g.brokers = h.brokers) (hsubscriptions : g.subscriptions = h.subscriptions) :
    g.roll = h.roll := by
  have hbroker : g.broker = h.broker := funext fun b => by rw [broker, hbrokers, broker]
  have hsubscription : g.subscription = h.subscription := funext fun s => by
    rw [subscription, hsubscriptions, subscription]
  have hmembers : g.members = h.members := funext fun b => by rw [members, hbroker, members]
  simp only [roll, hsubscriptions, hmembers, hsubscription, hbroker]

theorem Fed.roll {ms : List Message} {T T' : List Nat} (hg : Fed b ms T T' h g) : g.roll = h.roll := by
  have hactive : ∀ s, (g.subscription s).active = (h.subscription s).active := fun s => by
    obtain ⟨backlog, he⟩ := hg.subscription s
    rw [he]
  simp only [Hub.roll, hg.size, hactive, hg.broker, Roll.mk.injEq, and_true, true_and]
  exact funext hg.members

theorem roll_modifySubscription {change : Subscription → Subscription}
    (hactive : (change (h.subscription s)).active = (h.subscription s).active) :
    (h.modifySubscription s change).roll = h.roll := by
  have hsub : ∀ u, ((h.modifySubscription s change).subscription u).active = (h.subscription u).active := fun u => by
    rw [subscription_modifySubscription]
    split
    · rename_i hu
      rw [← hu.1, hactive]
    · rfl
  have hsize : (h.modifySubscription s change).subscriptions.size = h.subscriptions.size := Array.size_modify
  simp only [roll, hsub, hsize, Roll.mk.injEq, true_and]
  exact ⟨rfl, rfl⟩

theorem broker_addBroker (h : Hub η) (transport interest : Nat) (capacity : Option Nat) (b : Nat) :
    (Act.addBroker transport interest capacity h).2.broker b =
      if b = h.brokers.size then { transport, interest, defaultCapacity := capacity } else h.broker b :=
  getD_push ..

/-- A new broker has no subscriptions and is open, like one that was never made. -/
theorem roll_addBroker (h : Hub η) (transport interest : Nat) (capacity : Option Nat) :
    (Act.addBroker transport interest capacity h).2.roll = h.roll := by
  have hunmade : h.broker h.brokers.size = default := broker_of_size_le (Nat.le_refl _)
  have hmembers : (Act.addBroker transport interest capacity h).2.members = h.members := funext fun b => by
    rw [members, broker_addBroker]
    split
    · rename_i hb
      rw [hb, members, hunmade]
      rfl
    · rfl
  have hclosed : ∀ b, ((Act.addBroker transport interest capacity h).2.broker b).closed = (h.broker b).closed :=
    fun b => by
      rw [broker_addBroker]
      split
      · rename_i hb
        rw [hb, hunmade]
        rfl
      · rfl
  simp only [roll, hmembers, hclosed]
  rfl

/-! ## Whether a dispatch is in progress -/

theorem busy_enrolled (hb : b < h.brokers.size) (pattern : Pattern) (c : Nat) :
    ((h.enrolled b pattern).broker c).busy = (h.broker c).busy := by
  rw [broker_enrolled hb]
  exact kept_of_ite Broker.busy c

theorem busy_withdrawn (hb : b < h.brokers.size) (s c : Nat) :
    ((h.withdrawn b s).broker c).busy = (h.broker c).busy := by
  rw [broker_withdrawn hb]
  exact kept_of_ite Broker.busy c

theorem busy_ended (hb : b < h.brokers.size) (line : Line) (c : Nat) :
    ((h.ended b line).broker c).busy = (h.broker c).busy := by
  rw [broker_ended hb]
  exact kept_of_ite Broker.busy c

/-! ## One subscription more or less -/

theorem Tidy.enrolled (ht : h.Tidy) (hb : h.Attached b) (pattern : Pattern) : (h.enrolled b pattern).Tidy := by
  have hfresh : ∀ c, h.subscriptions.size ∉ h.members c := fun c hs => Nat.lt_irrefl _ (ht.member_lt c _ hs)
  constructor
  case nodup =>
    intro c
    rw [members_enrolled hb.made]
    split
    · exact List.nodup_append.2 ⟨ht.nodup b, List.nodup_singleton _, fun s hs u hu hsu =>
        hfresh b (List.mem_singleton.1 hu ▸ hsu ▸ hs)⟩
    · exact ht.nodup c
  case member_lt =>
    intro c s hs
    rw [subscriptions_size_enrolled]
    rcases (mem_members_enrolled hb.made).1 hs with hs | ⟨-, rfl⟩
    · exact Nat.lt_succ_of_lt (ht.member_lt c s hs)
    · exact Nat.lt_succ_self _
  case member_inj =>
    intro c d s hc hd
    rcases (mem_members_enrolled hb.made).1 hc with hc | ⟨hcb, hs⟩ <;>
      rcases (mem_members_enrolled hb.made).1 hd with hd | ⟨hdb, hs'⟩
    · exact ht.member_inj c d s hc hd
    · exact absurd (hs' ▸ hc) (hfresh c)
    · exact absurd (hs ▸ hd) (hfresh d)
    · exact hcb.trans hdb.symm
  case active =>
    intro c s hs
    rw [subscription_enrolled]
    split
    · rfl
    · rename_i hne
      exact ht.active c s (((mem_members_enrolled hb.made).1 hs).resolve_right fun hn => hne hn.2)
  case shut =>
    intro c hc
    rw [broker_enrolled hb.made] at hc
    rw [members_enrolled hb.made]
    split
    · rename_i hcb
      rw [if_pos hcb] at hc
      exact absurd (hb.isOpen.symm.trans hc) Bool.false_ne_true
    · rename_i hcb
      rw [if_neg hcb] at hc
      exact ht.shut c hc

theorem later_enrolled (hb : h.Attached b) (pattern : Pattern) : Later h (h.enrolled b pattern) := by
  constructor
  case size_le =>
    rw [subscriptions_size_enrolled]
    exact Nat.le_succ _
  case retired =>
    intro s hr
    refine ⟨subscriptions_size_enrolled h b pattern ▸ Nat.lt_succ_of_lt hr.made, ?_⟩
    rw [subscription_enrolled, if_neg (Nat.ne_of_lt hr.made)]
    exact hr.inactive
  case member => exact fun c s hs => Or.inl ((mem_members_enrolled hb.made).2 (Or.inl hs))
  case closed =>
    intro c hc
    rw [broker_enrolled hb.made]
    split
    · rename_i hcb
      exact hcb ▸ hc
    · exact hc

theorem Tidy.withdrawn (ht : h.Tidy) (hb : h.Attached b) (hs : s ∈ h.members b) : (h.withdrawn b s).Tidy := by
  have hmem : ∀ {c u}, u ∈ (h.withdrawn b s).members c → u ∈ h.members c ∧ u ≠ s := fun {c u} hu => by
    obtain ⟨hu, hne⟩ := (mem_members_withdrawn hb.made).1 hu
    exact ⟨hu, fun hus => hne (ht.member_inj c b s (hus ▸ hu) hs) hus⟩
  constructor
  case nodup =>
    intro c
    rw [members_withdrawn hb.made]
    split
    · exact (ht.nodup b).filter _
    · exact ht.nodup c
  case member_lt => exact fun c u hu => (subscriptions_size_withdrawn h b s).symm ▸ ht.member_lt c u (hmem hu).1
  case member_inj => exact fun c d u hc hd => ht.member_inj c d u (hmem hc).1 (hmem hd).1
  case active =>
    intro c u hu
    obtain ⟨hu, hne⟩ := hmem hu
    rw [subscription_withdrawn (ht.member_lt b s hs), if_neg hne]
    exact ht.active c u hu
  case shut =>
    intro c hc
    rw [closed_withdrawn hb.made] at hc
    rw [members_withdrawn hb.made]
    split
    · rename_i hcb
      rw [← hcb, ht.shut c hc]
      rfl
    · exact ht.shut c hc

theorem later_withdrawn (ht : h.Tidy) (hb : h.Attached b) (hs : s ∈ h.members b) : Later h (h.withdrawn b s) := by
  have hgone : (h.withdrawn b s).Retired s := by
    refine ⟨(subscriptions_size_withdrawn h b s).symm ▸ ht.member_lt b s hs, ?_⟩
    rw [subscription_withdrawn (ht.member_lt b s hs), if_pos rfl]
  constructor
  case size_le => exact Nat.le_of_eq (subscriptions_size_withdrawn h b s).symm
  case retired =>
    intro u hr
    by_cases hus : u = s
    · exact hus ▸ hgone
    · refine ⟨(subscriptions_size_withdrawn h b s).symm ▸ hr.made, ?_⟩
      rw [subscription_withdrawn (ht.member_lt b s hs), if_neg hus]
      exact hr.inactive
  case member =>
    intro c u hu
    by_cases hus : u = s
    · exact Or.inr (hus ▸ hgone)
    · exact Or.inl ((mem_members_withdrawn hb.made).2 ⟨hu, fun _ => hus⟩)
  case closed => exact fun c hc => (closed_withdrawn hb.made s c).trans hc

theorem Tidy.ended (ht : h.Tidy) (hb : h.Attached b) (line : Line) : (h.ended b line).Tidy := by
  constructor
  case nodup =>
    intro c
    rw [members, broker_ended hb.made]
    split
    · exact List.nodup_nil
    · exact ht.nodup c
  case member_lt =>
    intro c s hs
    rw [subscriptions_size_ended]
    exact ht.member_lt c s ((mem_members_ended hb.made).1 hs).1
  case member_inj =>
    exact fun c d s hc hd =>
      ht.member_inj c d s ((mem_members_ended hb.made).1 hc).1 ((mem_members_ended hb.made).1 hd).1
  case active =>
    intro c s hs
    obtain ⟨hs, hcb⟩ := (mem_members_ended hb.made).1 hs
    rw [subscription_ended, if_neg fun hsb => hcb (ht.member_inj c b s hs hsb.1)]
    exact ht.active c s hs
  case shut =>
    intro c hc
    rw [broker_ended hb.made] at hc
    rw [members, broker_ended hb.made]
    split
    · rfl
    · rename_i hcb
      rw [if_neg hcb] at hc
      exact ht.shut c hc

theorem later_ended (ht : h.Tidy) (hb : h.Attached b) (line : Line) : Later h (h.ended b line) := by
  constructor
  case size_le => exact Nat.le_of_eq subscriptions_size_ended.symm
  case retired =>
    intro s hr
    refine ⟨subscriptions_size_ended.symm ▸ hr.made, ?_⟩
    rw [subscription_ended]
    split
    · rfl
    · exact hr.inactive
  case member =>
    intro c s hs
    have hlt := ht.member_lt c s hs
    by_cases hcb : c = b
    · refine Or.inr ⟨subscriptions_size_ended.symm ▸ hlt, ?_⟩
      rw [subscription_ended, if_pos ⟨hcb ▸ hs, hlt⟩]
    · exact Or.inl ((mem_members_ended hb.made).2 ⟨hs, hcb⟩)
  case closed =>
    intro c hc
    rw [broker_ended hb.made]
    split
    · rfl
    · exact hc

end PubSub.Hub
