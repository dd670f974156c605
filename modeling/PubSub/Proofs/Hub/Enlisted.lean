import Mathlib.Data.List.Nodup
import PubSub.Proofs.Hub.Act
import PubSub.Proofs.Hub.Tables

/-!
# Brokers and their subscriptions

A hub is mirrored when each of its brokers has a transport and an interest of its own and the interest holds the
patterns of the broker's subscriptions and nothing else, whatever the transports are. It is enlisted if besides no
handler has died.

* `Hub.Attached`: a broker of the hub that is open.
* `Hub.Enlisted`, `Hub.Mirrored`: the invariants.
* `Hub.Unsteered`: transports serve whom they served, and what was wanted is wanted.
* `Hub.Unaltered`: besides, brokers and subscriptions are those that there were.
* `Hub.Housed`: brokers that keep their places.
* `Hub.Serving`: what the invariant says of one broker.

Results:

* `Hub.Mirrored.of_unaltered`, `Hub.Enlisted.of_roster`: the invariants depend on the roster alone.
* `Hub.Mirrored.housed`, `Hub.Mirrored.thinned`: brokers that keep their places are mirrored if their subscriptions are
  in order, and so they are if some were lost.
* `Hub.Mirrored.wants_iff`: a transport wants what a subscription of its broker accepts.
-/

namespace PubSub.Hub

variable {η θ : Type}

/-- The subscriptions of a broker are found by its number. -/
abbrev members (h : Hub η) (b : Nat) : List Nat := (h.broker b).subscriptions

/-- The transport of a broker. -/
abbrev lineOf (h : Hub η) (b : Nat) : Nat := (h.broker b).transport

/-- A broker that was made and is still open. -/
structure Attached (h : Hub η) (b : Nat) : Prop where
  made : b < h.brokers.size
  isOpen : (h.broker b).closed = false

/-- Every broker has a transport and an interest of its own. -/
structure Enlisted (h : Hub η) : Prop where
  line_lt : ∀ b < h.brokers.size, h.lineOf b < h.transports.size
  /-- No two brokers share a transport. -/
  line_inj : ∀ b < h.brokers.size, ∀ c < h.brokers.size, h.lineOf b = h.lineOf c → b = c
  /-- No two brokers share an interest. -/
  interest_inj : ∀ b < h.brokers.size, ∀ c < h.brokers.size,
    (h.broker b).interest = (h.broker c).interest → b = c
  interest_lt : ∀ b < h.brokers.size, (h.broker b).interest < h.interests.size
  /-- The transport of a broker serves the broker's interest. -/
  serves : ∀ b < h.brokers.size, (h.transport (h.lineOf b)).interest = (h.broker b).interest
  /-- What a broker wants is what its subscriptions want. -/
  patterns : ∀ b, h.Attached b → h.interest (h.broker b).interest =
    { all := false, patterns := (h.members b).map fun s => ((h.subscription s).id, (h.subscription s).pattern) }
  ids_nodup : ∀ b < h.brokers.size, ((h.members b).map fun s => (h.subscription s).id).Nodup
  id_lt : ∀ b < h.brokers.size, ∀ s ∈ h.members b, (h.subscription s).id < (h.broker b).nextId
  member_lt : ∀ b < h.brokers.size, ∀ s ∈ h.members b, s < h.subscriptions.size
  /-- No two brokers share a subscription. -/
  member_inj : ∀ b < h.brokers.size, ∀ c < h.brokers.size, ∀ s, s ∈ h.members b → s ∈ h.members c → b = c
  active : ∀ b < h.brokers.size, ∀ s ∈ h.members b, (h.subscription s).active = true
  whole : ∀ s, (h.subscription s).spoiled = false

/-- The interests of brokers mirror their subscriptions. The fields are those of `Enlisted`; handlers may have died. -/
structure Mirrored (h : Hub η) : Prop where
  line_lt : ∀ b < h.brokers.size, h.lineOf b < h.transports.size
  line_inj : ∀ b < h.brokers.size, ∀ c < h.brokers.size, h.lineOf b = h.lineOf c → b = c
  interest_inj : ∀ b < h.brokers.size, ∀ c < h.brokers.size,
    (h.broker b).interest = (h.broker c).interest → b = c
  interest_lt : ∀ b < h.brokers.size, (h.broker b).interest < h.interests.size
  serves : ∀ b < h.brokers.size, (h.transport (h.lineOf b)).interest = (h.broker b).interest
  patterns : ∀ b, h.Attached b → h.interest (h.broker b).interest =
    { all := false, patterns := (h.members b).map fun s => ((h.subscription s).id, (h.subscription s).pattern) }
  ids_nodup : ∀ b < h.brokers.size, ((h.members b).map fun s => (h.subscription s).id).Nodup
  id_lt : ∀ b < h.brokers.size, ∀ s ∈ h.members b, (h.subscription s).id < (h.broker b).nextId
  member_lt : ∀ b < h.brokers.size, ∀ s ∈ h.members b, s < h.subscriptions.size
  member_inj : ∀ b < h.brokers.size, ∀ c < h.brokers.size, ∀ s, s ∈ h.members b → s ∈ h.members c → b = c
  active : ∀ b < h.brokers.size, ∀ s ∈ h.members b, (h.subscription s).active = true

theorem Enlisted.mirrored {h : Hub η} (he : h.Enlisted) : h.Mirrored := { he with }

theorem Mirrored.enlisted {h : Hub η} (hm : h.Mirrored) (whole : ∀ s, (h.subscription s).spoiled = false) :
    h.Enlisted :=
  { hm with whole }

theorem mirrored_start {h : Hub η} (brokers : h.brokers = #[]) : h.Mirrored := by
  have hno : ∀ b, ¬ b < h.brokers.size := fun b => by
    rw [brokers]
    exact Nat.not_lt_zero b
  constructor
  case patterns => exact fun b hb => absurd hb.made (hno b)
  all_goals exact fun b hb => absurd hb (hno b)

/-- A hub without brokers. -/
theorem enlisted_start (store : Store) (now : Nat) (desk : η) : Enlisted { store, now, desk : Hub η } :=
  (mirrored_start rfl).enlisted fun _ => rfl

/-! ## The roster decides -/

section Roster

variable {h : Hub η} {g : Hub θ}

theorem serves_of_roster (e : g.roster = h.roster) (t : Nat) : (g.transport t).interest = (h.transport t).interest :=
  congrArg (fun r => r.serves t) e

theorem interest_of_roster (e : g.roster = h.roster) (i : Nat) : g.interest i = h.interest i :=
  congrArg (fun r => r.interest i) e

theorem interests_size_of_roster (e : g.roster = h.roster) : g.interests.size = h.interests.size :=
  congrArg (fun r => r.sizes.1) e

theorem transports_size_of_roster (e : g.roster = h.roster) : g.transports.size = h.transports.size :=
  congrArg (fun r => r.sizes.2.1) e

theorem subscriptions_size_of_roster (e : g.roster = h.roster) : g.subscriptions.size = h.subscriptions.size :=
  congrArg (fun r => r.sizes.2.2.1) e

theorem brokers_size_of_roster (e : g.roster = h.roster) : g.brokers.size = h.brokers.size :=
  congrArg (fun r => r.sizes.2.2.2) e

theorem id_of_roster (e : g.roster = h.roster) (s : Nat) : (g.subscription s).id = (h.subscription s).id :=
  congrArg (fun r => (r.subscription s).1) e

theorem pattern_of_roster (e : g.roster = h.roster) (s : Nat) :
    (g.subscription s).pattern = (h.subscription s).pattern :=
  congrArg (fun r => (r.subscription s).2.1) e

theorem active_of_roster (e : g.roster = h.roster) (s : Nat) : (g.subscription s).active = (h.subscription s).active :=
  congrArg (fun r => (r.subscription s).2.2.1) e

theorem spoiled_of_roster (e : g.roster = h.roster) (s : Nat) :
    (g.subscription s).spoiled = (h.subscription s).spoiled :=
  congrArg (fun r => (r.subscription s).2.2.2) e

theorem lineOf_of_roster (e : g.roster = h.roster) (b : Nat) : g.lineOf b = h.lineOf b :=
  congrArg (fun r => (r.broker b).transport) e

theorem members_of_roster (e : g.roster = h.roster) (b : Nat) : g.members b = h.members b :=
  congrArg (fun r => (r.broker b).subscriptions) e

theorem wish_of_roster (e : g.roster = h.roster) (b : Nat) : (g.broker b).interest = (h.broker b).interest :=
  congrArg (fun r => (r.broker b).interest) e

theorem shut_of_roster (e : g.roster = h.roster) (b : Nat) : (g.broker b).closed = (h.broker b).closed :=
  congrArg (fun r => (r.broker b).closed) e

theorem wants_of_roster (e : g.roster = h.roster) (t : Nat) : g.wants t = h.wants t := by
  simp only [wants, serves_of_roster e, interest_of_roster e]

theorem attached_of_roster (e : g.roster = h.roster) (b : Nat) : g.Attached b ↔ h.Attached b :=
  ⟨fun ha => ⟨brokers_size_of_roster e ▸ ha.made, shut_of_roster e b ▸ ha.isOpen⟩,
    fun ha => ⟨(brokers_size_of_roster e).symm ▸ ha.made, (shut_of_roster e b).symm ▸ ha.isOpen⟩⟩

/-- Transports serve whom they served, and interests are what they were. There may be more of both. -/
structure Unsteered (h : Hub η) (g : Hub θ) : Prop where
  interests : h.interests.size ≤ g.interests.size
  interest : ∀ i < h.interests.size, g.interest i = h.interest i
  transports : h.transports.size ≤ g.transports.size
  serves : ∀ t < h.transports.size, (g.transport t).interest = (h.transport t).interest

/-- Besides, brokers are what they were, but for whether they are busy, and so are subscriptions, but for their
backlogs and their handlers. -/
structure Unaltered (h : Hub η) (g : Hub θ) : Prop extends Unsteered h g where
  brokers_size : g.brokers.size = h.brokers.size
  broker : ∀ b, { g.broker b with busy := false } = { h.broker b with busy := false }
  subscriptions_size : g.subscriptions.size = h.subscriptions.size
  subscription : ∀ s, (g.subscription s).id = (h.subscription s).id ∧
    (g.subscription s).pattern = (h.subscription s).pattern ∧ (g.subscription s).active = (h.subscription s).active

theorem unsteered_of_roster (e : g.roster = h.roster) : Unsteered h g where
  interests := Nat.le_of_eq (interests_size_of_roster e).symm
  interest i _ := interest_of_roster e i
  transports := Nat.le_of_eq (transports_size_of_roster e).symm
  serves t _ := serves_of_roster e t

theorem unaltered_of_roster (e : g.roster = h.roster) : Unaltered h g where
  toUnsteered := unsteered_of_roster e
  brokers_size := brokers_size_of_roster e
  broker b := congrArg (fun r => r.broker b) e
  subscriptions_size := subscriptions_size_of_roster e
  subscription s := ⟨id_of_roster e s, pattern_of_roster e s, active_of_roster e s⟩

theorem Mirrored.of_unaltered (hm : h.Mirrored) (hg : Unaltered h g) : g.Mirrored := by
  have hline : ∀ b, g.lineOf b = h.lineOf b := fun b => (congrArg Broker.transport (hg.broker b) :)
  have hwish : ∀ b, (g.broker b).interest = (h.broker b).interest := fun b => (congrArg Broker.interest (hg.broker b) :)
  have hmembers : ∀ b, g.members b = h.members b := fun b => (congrArg Broker.subscriptions (hg.broker b) :)
  have hnext : ∀ b, (g.broker b).nextId = (h.broker b).nextId := fun b => (congrArg Broker.nextId (hg.broker b) :)
  have hshut : ∀ b, (g.broker b).closed = (h.broker b).closed := fun b => (congrArg Broker.closed (hg.broker b) :)
  constructor <;>
    simp only [hg.brokers_size, hg.subscriptions_size, hg.subscription, hline, hwish, hmembers, hnext]
  case line_lt => exact fun b hb => Nat.lt_of_lt_of_le (hm.line_lt b hb) hg.transports
  case interest_lt => exact fun b hb => Nat.lt_of_lt_of_le (hm.interest_lt b hb) hg.interests
  case serves => exact fun b hb => (hg.serves _ (hm.line_lt b hb)).trans (hm.serves b hb)
  case patterns =>
    intro b hb
    have hb : h.Attached b := ⟨hg.brokers_size ▸ hb.made, hshut b ▸ hb.isOpen⟩
    exact (hg.interest _ (hm.interest_lt b hb.made)).trans (hm.patterns b hb)
  exacts [hm.line_inj, hm.interest_inj, hm.ids_nodup, hm.id_lt, hm.member_lt, hm.member_inj, hm.active]

/-- Only the roster of a hub decides whether it is enlisted. -/
theorem Enlisted.of_roster (he : h.Enlisted) (e : g.roster = h.roster) : g.Enlisted :=
  (he.mirrored.of_unaltered (unaltered_of_roster e)).enlisted fun s => (spoiled_of_roster e s).trans (he.whole s)

end Roster

/-! ## Brokers that keep their places -/

section Housed

variable {h g : Hub η}

/-- The brokers of `g` are those of `h`, with the transports and the interests that they had. -/
structure Housed (h g : Hub η) : Prop where
  brokers_size : g.brokers.size = h.brokers.size
  transports_size : g.transports.size = h.transports.size
  interests_size : g.interests.size = h.interests.size
  line : ∀ b, g.lineOf b = h.lineOf b
  interest : ∀ b, (g.broker b).interest = (h.broker b).interest
  serves : ∀ t, (g.transport t).interest = (h.transport t).interest

/-- Brokers that keep their places are mirrored if their subscriptions are in order. -/
theorem Mirrored.housed (hm : h.Mirrored) (hg : Housed h g)
    (patterns : ∀ b, g.Attached b → g.interest (h.broker b).interest =
      { all := false, patterns := (g.members b).map fun s => ((g.subscription s).id, (g.subscription s).pattern) })
    (ids_nodup : ∀ b < h.brokers.size, ((g.members b).map fun s => (g.subscription s).id).Nodup)
    (id_lt : ∀ b < h.brokers.size, ∀ s ∈ g.members b, (g.subscription s).id < (g.broker b).nextId)
    (member_lt : ∀ b < h.brokers.size, ∀ s ∈ g.members b, s < g.subscriptions.size)
    (member_inj : ∀ b < h.brokers.size, ∀ c < h.brokers.size, ∀ s, s ∈ g.members b → s ∈ g.members c → b = c)
    (active : ∀ b < h.brokers.size, ∀ s ∈ g.members b, (g.subscription s).active = true) : g.Mirrored := by
  constructor <;>
    simp only [hg.brokers_size, hg.transports_size, hg.interests_size, hg.line, hg.interest, hg.serves]
  exacts [hm.line_lt, hm.line_inj, hm.interest_inj, hm.interest_lt, hm.serves, patterns, ids_nodup, id_lt, member_lt,
    member_inj, active]

/-- They may lose subscriptions. -/
theorem Mirrored.thinned (hm : h.Mirrored) (hg : Housed h g) (hsize : g.subscriptions.size = h.subscriptions.size)
    (hid : ∀ s, (g.subscription s).id = (h.subscription s).id)
    (hnext : ∀ b, (g.broker b).nextId = (h.broker b).nextId)
    (hmembers : ∀ b, (g.members b).Sublist (h.members b))
    (patterns : ∀ b, g.Attached b → g.interest (h.broker b).interest =
      { all := false, patterns := (g.members b).map fun s => ((g.subscription s).id, (g.subscription s).pattern) })
    (active : ∀ b < h.brokers.size, ∀ s ∈ g.members b, (g.subscription s).active = true) : g.Mirrored := by
  have hmem : ∀ {b s}, s ∈ g.members b → s ∈ h.members b := fun {b s} hs => (hmembers b).subset hs
  refine hm.housed hg patterns ?ids_nodup ?id_lt ?member_lt ?member_inj active
  case ids_nodup =>
    intro b hb
    simp only [hid]
    exact (hm.ids_nodup b hb).sublist ((hmembers b).map _)
  case id_lt =>
    intro b hb s hs
    rw [hid, hnext]
    exact hm.id_lt b hb s (hmem hs)
  case member_lt =>
    intro b hb s hs
    rw [hsize]
    exact hm.member_lt b hb s (hmem hs)
  case member_inj => exact fun b hb c hc s hsb hsc => hm.member_inj b hb c hc s (hmem hsb) (hmem hsc)

end Housed

/-! ## What a mirrored hub wants -/

/-- The interest of an open broker is in the channels that its subscriptions accept. -/
theorem Mirrored.interest_wants_iff {h : Hub η} (hm : h.Mirrored) {b : Nat} (hb : h.Attached b) (channel : String) :
    (h.interest (h.broker b).interest).wants channel = true ↔
      ∃ s ∈ h.members b, (h.subscription s).pattern.accepts channel = true := by
  simp [hm.patterns b hb, Interest.wants]

theorem Mirrored.wants_iff {h : Hub η} (hm : h.Mirrored) {b : Nat} (hb : h.Attached b) (channel : String) :
    h.wants (h.lineOf b) channel = true ↔ ∃ s ∈ h.members b, (h.subscription s).pattern.accepts channel = true := by
  rw [wants, hm.serves b hb.made]
  exact hm.interest_wants_iff hb channel

theorem Enlisted.members_nodup {h : Hub η} (he : h.Enlisted) {b : Nat} (hb : b < h.brokers.size) :
    (h.members b).Nodup :=
  List.Nodup.of_map _ (he.ids_nodup b hb)

/-! ## One broker -/

/-- A broker is open, its subscriptions are in order, and its transport wants what they accept. A dispatch of the broker
needs no more, whatever the other brokers are like. -/
structure Serving (h : Hub η) (b : Nat) : Prop where
  attached : h.Attached b
  serves : (h.transport (h.lineOf b)).interest = (h.broker b).interest
  nodup : (h.members b).Nodup
  member_lt : ∀ s ∈ h.members b, s < h.subscriptions.size
  active : ∀ s ∈ h.members b, (h.subscription s).active = true
  whole : ∀ s ∈ h.members b, (h.subscription s).spoiled = false
  wants_iff : ∀ channel, h.wants (h.lineOf b) channel = true ↔
    ∃ s ∈ h.members b, (h.subscription s).pattern.accepts channel = true

theorem Enlisted.serving {h : Hub η} (he : h.Enlisted) {b : Nat} (hb : h.Attached b) : h.Serving b where
  attached := hb
  serves := he.serves b hb.made
  nodup := he.members_nodup hb.made
  member_lt := he.member_lt b hb.made
  active := he.active b hb.made
  whole s _ := he.whole s
  wants_iff := he.mirrored.wants_iff hb

theorem Serving.of_roster {h : Hub η} {g : Hub θ} {b : Nat} (hs : h.Serving b) (e : g.roster = h.roster) :
    g.Serving b := by
  constructor <;>
    simp only [attached_of_roster e, serves_of_roster e, wish_of_roster e, members_of_roster e,
      subscriptions_size_of_roster e, active_of_roster e, spoiled_of_roster e, wants_of_roster e, lineOf_of_roster e,
      pattern_of_roster e]
  exacts [hs.attached, hs.serves, hs.nodup, hs.member_lt, hs.active, hs.whole, hs.wants_iff]

end PubSub.Hub
