import PubSub.Proofs.Hub.Enlisted
import PubSub.Proofs.Mailbox

/-!
# Brokers on in-process buses

A hub is wired when each of its brokers has a transport and an interest of its own, the transport has its place on a
bus, and the interest holds the patterns of the broker's subscriptions and nothing else. Calls keep a hub wired.

* `Hub.Wired`: the invariant. It depends on the wiring alone (`Hub.Wired.of_wiring`).

Results:

* `Hub.Wired.wants_of_accepts`: a transport wants what a subscription of its broker accepts.
-/

namespace PubSub.Hub

variable {η θ : Type}

/-- Every broker has its place on a bus. -/
structure Wired (h : Hub η) : Prop where
  /-- The transport of a broker is on a bus. -/
  placed : ∀ b < h.brokers.size, ∃ k, h.place (h.lineOf b) = some k
  /-- A bus knows exactly the transports that are on it. -/
  mem_bus : ∀ k t, t ∈ h.bus k ↔ h.place t = some k
  bus_nodup : ∀ k, (h.bus k).Nodup
  bus_lt : ∀ e, ∀ entry ∈ h.exchange e, entry.2 < h.buses.size
  /-- No two brokers share a transport. -/
  line_inj : ∀ b < h.brokers.size, ∀ c < h.brokers.size, h.lineOf b = h.lineOf c → b = c
  /-- No two brokers share an interest. -/
  interest_inj : ∀ b < h.brokers.size, ∀ c < h.brokers.size,
    (h.broker b).interest = (h.broker c).interest → b = c
  interest_lt : ∀ b < h.brokers.size, (h.broker b).interest < h.interests.size
  /-- The transport of a broker serves the broker's interest. -/
  serves : ∀ b < h.brokers.size, (h.transport (h.lineOf b)).interest = (h.broker b).interest
  unbounded : ∀ t, (h.box t).waiting.capacity = none
  open_box : ∀ b, h.Attached b → (h.box (h.lineOf b)).closed = false
  /-- What a broker wants is what its subscriptions want. -/
  patterns : ∀ b, h.Attached b → h.interest (h.broker b).interest =
    { all := false, patterns := (h.members b).map fun s => ((h.subscription s).id, (h.subscription s).pattern) }
  ids_nodup : ∀ b < h.brokers.size, ((h.members b).map fun s => (h.subscription s).id).Nodup
  id_lt : ∀ b < h.brokers.size, ∀ s ∈ h.members b, (h.subscription s).id < (h.broker b).nextId
  member_lt : ∀ b < h.brokers.size, ∀ s ∈ h.members b, s < h.subscriptions.size
  /-- No two brokers share a subscription. -/
  member_inj : ∀ b < h.brokers.size, ∀ c < h.brokers.size, ∀ s, s ∈ h.members b → s ∈ h.members c → b = c
  active : ∀ b < h.brokers.size, ∀ s ∈ h.members b, (h.subscription s).active = true
  whole : ∀ s, (h.subscription s).spoiled = false

/-! ## The wiring decides -/

section Wiring

variable {h : Hub η} {g : Hub θ}

theorem place_of_wiring (e : g.wiring = h.wiring) (t : Nat) : g.place t = h.place t :=
  congrArg (fun w => (w.transport t).1) e

theorem closed_of_wiring (e : g.wiring = h.wiring) (t : Nat) : (g.box t).closed = (h.box t).closed :=
  congrArg (fun w => (w.transport t).2.1) e

theorem bound_of_wiring (e : g.wiring = h.wiring) (t : Nat) :
    (g.box t).waiting.capacity = (h.box t).waiting.capacity :=
  congrArg (fun w => (w.transport t).2.2.1) e

theorem bus_of_wiring (e : g.wiring = h.wiring) (k : Nat) : g.bus k = h.bus k :=
  congrArg (fun w => w.bus k) e

theorem buses_size_of_wiring (e : g.wiring = h.wiring) : g.buses.size = h.buses.size :=
  congrArg (fun w => w.sizes.2.2.2.2) e

theorem exchange_of_wiring (e : g.wiring = h.wiring) (x : Nat) : g.exchange x = h.exchange x :=
  congrArg (fun w => w.exchange x) e

theorem brokers_size_of_wiring (e : g.wiring = h.wiring) : g.brokers.size = h.brokers.size :=
  brokers_size_of_roster (roster_of_wiring e)

theorem subscriptions_size_of_wiring (e : g.wiring = h.wiring) : g.subscriptions.size = h.subscriptions.size :=
  subscriptions_size_of_roster (roster_of_wiring e)

theorem pattern_of_wiring (e : g.wiring = h.wiring) (s : Nat) :
    (g.subscription s).pattern = (h.subscription s).pattern :=
  pattern_of_roster (roster_of_wiring e) s

theorem lineOf_of_wiring (e : g.wiring = h.wiring) (b : Nat) : g.lineOf b = h.lineOf b :=
  lineOf_of_roster (roster_of_wiring e) b

theorem members_of_wiring (e : g.wiring = h.wiring) (b : Nat) : g.members b = h.members b :=
  members_of_roster (roster_of_wiring e) b

theorem interest_of_wiring (e : g.wiring = h.wiring) (i : Nat) : g.interest i = h.interest i :=
  interest_of_roster (roster_of_wiring e) i

theorem wish_of_wiring (e : g.wiring = h.wiring) (b : Nat) : (g.broker b).interest = (h.broker b).interest :=
  wish_of_roster (roster_of_wiring e) b

theorem wants_of_wiring (e : g.wiring = h.wiring) (t : Nat) : g.wants t = h.wants t :=
  wants_of_roster (roster_of_wiring e) t

theorem attached_of_wiring (e : g.wiring = h.wiring) (b : Nat) : g.Attached b ↔ h.Attached b :=
  attached_of_roster (roster_of_wiring e) b

theorem Wired.enlisted (hw : h.Wired) : h.Enlisted where
  line_lt b hb := by
    obtain ⟨k, hk⟩ := hw.placed b hb
    exact lt_size_of_place hk
  line_inj := hw.line_inj
  interest_inj := hw.interest_inj
  interest_lt := hw.interest_lt
  serves := hw.serves
  patterns := hw.patterns
  ids_nodup := hw.ids_nodup
  id_lt := hw.id_lt
  member_lt := hw.member_lt
  member_inj := hw.member_inj
  active := hw.active
  whole := hw.whole

/-- A hub that is enlisted is wired if its brokers have their places on buses. -/
theorem Enlisted.wired {h : Hub η} (he : h.Enlisted) (placed : ∀ b < h.brokers.size, ∃ k, h.place (h.lineOf b) = some k)
    (mem_bus : ∀ k t, t ∈ h.bus k ↔ h.place t = some k) (bus_nodup : ∀ k, (h.bus k).Nodup)
    (bus_lt : ∀ e, ∀ entry ∈ h.exchange e, entry.2 < h.buses.size)
    (unbounded : ∀ t, (h.box t).waiting.capacity = none)
    (open_box : ∀ b, h.Attached b → (h.box (h.lineOf b)).closed = false) : h.Wired where
  placed := placed
  mem_bus := mem_bus
  bus_nodup := bus_nodup
  bus_lt := bus_lt
  line_inj := he.line_inj
  interest_inj := he.interest_inj
  interest_lt := he.interest_lt
  serves := he.serves
  unbounded := unbounded
  open_box := open_box
  patterns := he.patterns
  ids_nodup := he.ids_nodup
  id_lt := he.id_lt
  member_lt := he.member_lt
  member_inj := he.member_inj
  active := he.active
  whole := he.whole

/-- Only the wiring of a hub decides whether it is wired. -/
theorem Wired.of_wiring (hw : h.Wired) (e : g.wiring = h.wiring) : g.Wired := by
  refine (hw.enlisted.of_roster (roster_of_wiring e)).wired ?_ ?_ ?_ ?_ ?_ ?_ <;>
    simp only [place_of_wiring e, closed_of_wiring e, bound_of_wiring e, bus_of_wiring e, exchange_of_wiring e,
      buses_size_of_wiring e, brokers_size_of_wiring e, lineOf_of_wiring e, attached_of_wiring e]
  exacts [hw.placed, hw.mem_bus, hw.bus_nodup, hw.bus_lt, hw.unbounded, hw.open_box]

end Wiring

/-! ## What a wired hub wants -/

theorem Wired.wants_of_accepts {h : Hub η} (hw : h.Wired) {b s : Nat} (hb : h.Attached b) (hs : s ∈ h.members b)
    {channel : String} (hc : (h.subscription s).pattern.accepts channel = true) :
    h.wants (h.lineOf b) channel = true :=
  (hw.enlisted.mirrored.wants_iff hb channel).2 ⟨s, hs, hc⟩

end PubSub.Hub
