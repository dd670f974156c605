import PubSub.Proofs.Hub.Wired

/-!
# Brokers that come and go

What making a broker and closing one make of a hub. An enlisted hub stays enlisted, and one that is wired stays wired
if the broker is on a bus; what waits for the other brokers stays as it is.

* `Hub.enlarged`, `Hub.ended`: the tables with one broker more, and with a broker closed.
* `Hub.joined`, `Hub.shut`: these for a broker on a bus.

Results:

* `Act.openAddress_apply`, `Act.closeBroker_ended`: what the calls come to.
* `Hub.Mirrored.addBroker`, `Hub.Mirrored.ended`: the hub stays mirrored; `Hub.Enlisted.enlarged`,
  `Hub.Enlisted.ended`, `Hub.Wired.joined`, `Hub.Wired.shut`: enlisted, and wired.
-/

namespace PubSub

variable {η : Type}

namespace Hub

/-! ## One broker more -/

/-- The tables with one broker more, with a transport and an interest of its own. -/
def enlarged (h : Hub η) (line : Line) (clock : Clock) (defaultCapacity : Option Nat) : Hub η :=
  { h with
    interests := h.interests.push .nothing
    transports := h.transports.push { line, interest := h.interests.size, clock }
    brokers := h.brokers.push { transport := h.transports.size, interest := h.interests.size, defaultCapacity } }

section Enlarged

variable (h : Hub η) (line : Line) (clock : Clock) (capacity : Option Nat)

theorem broker_enlarged (b : Nat) :
    (h.enlarged line clock capacity).broker b =
      if b = h.brokers.size then
        { transport := h.transports.size, interest := h.interests.size, defaultCapacity := capacity }
      else h.broker b :=
  getD_push ..

theorem transport_enlarged (t : Nat) :
    (h.enlarged line clock capacity).transport t =
      if t = h.transports.size then { line, interest := h.interests.size, clock } else h.transport t :=
  getD_push ..

theorem interest_enlarged (i : Nat) :
    (h.enlarged line clock capacity).interest i = if i = h.interests.size then .nothing else h.interest i :=
  getD_push ..

theorem brokers_size_enlarged : (h.enlarged line clock capacity).brokers.size = h.brokers.size + 1 :=
  Array.size_push ..

theorem attached_enlarged (b : Nat) :
    (h.enlarged line clock capacity).Attached b ↔ b = h.brokers.size ∨ h.Attached b := by
  have hb := broker_enlarged h line clock capacity b
  have hs := brokers_size_enlarged h line clock capacity
  by_cases hbs : b = h.brokers.size
  · rw [if_pos hbs] at hb
    exact ⟨fun _ => Or.inl hbs, fun _ => ⟨by omega, by rw [hb]⟩⟩
  · rw [if_neg hbs] at hb
    refine ⟨fun ha => Or.inr ⟨?_, hb ▸ ha.isOpen⟩, fun ha => ?_⟩
    · have := ha.made
      omega
    · have ha := ha.resolve_left hbs
      have := ha.made
      exact ⟨by omega, hb.symm ▸ ha.isOpen⟩

end Enlarged

section AddBroker

variable {h : Hub η} {t i : Nat} {capacity : Option Nat}

/-- A broker is made on a transport and an interest of its own. -/
theorem Mirrored.addBroker (hm : h.Mirrored) (ht : t < h.transports.size) (hi : i < h.interests.size)
    (serves : (h.transport t).interest = i) (nothing : h.interest i = .nothing)
    (alone : ∀ b < h.brokers.size, h.lineOf b ≠ t ∧ (h.broker b).interest ≠ i) :
    (h.addBroker { transport := t, interest := i, defaultCapacity := capacity }).1.Mirrored := by
  set g := (h.addBroker { transport := t, interest := i, defaultCapacity := capacity }).1
  have hsize : g.brokers.size = h.brokers.size + 1 := Array.size_push ..
  have hbroker : ∀ b, g.broker b = if b = h.brokers.size then
      { transport := t, interest := i, defaultCapacity := capacity } else h.broker b := fun b => getD_push ..
  have hnew := hbroker h.brokers.size
  rw [if_pos rfl] at hnew
  have hold : ∀ b < h.brokers.size, g.broker b = h.broker b := fun b hb => by rw [hbroker, if_neg (Nat.ne_of_lt hb)]
  -- every broker is one of the old ones or the new one
  have hcases : ∀ {b}, b < g.brokers.size → b < h.brokers.size ∨ b = h.brokers.size := fun hb => by omega
  -- and only the old ones have subscriptions
  have hmem : ∀ {b s}, b < g.brokers.size → s ∈ g.members b → b < h.brokers.size ∧ s ∈ h.members b := fun hb hs => by
    rcases hcases hb with hb | rfl
    · rw [members, hold _ hb] at hs
      exact ⟨hb, hs⟩
    · rw [members, hnew] at hs
      cases hs
  constructor
  case line_lt =>
    intro b hb
    rcases hcases hb with hb | rfl
    · rw [lineOf, hold b hb]
      exact hm.line_lt b hb
    · rw [lineOf, hnew]
      exact ht
  case line_inj =>
    intro b hb c hc hbc
    rcases hcases hb with hb | rfl <;> rcases hcases hc with hc | rfl
    · rw [lineOf, lineOf, hold b hb, hold c hc] at hbc
      exact hm.line_inj b hb c hc hbc
    · rw [lineOf, lineOf, hold b hb, hnew] at hbc
      exact absurd hbc (alone b hb).1
    · rw [lineOf, lineOf, hold c hc, hnew] at hbc
      exact absurd hbc.symm (alone c hc).1
    · rfl
  case interest_inj =>
    intro b hb c hc hbc
    rcases hcases hb with hb | rfl <;> rcases hcases hc with hc | rfl
    · rw [hold b hb, hold c hc] at hbc
      exact hm.interest_inj b hb c hc hbc
    · rw [hold b hb, hnew] at hbc
      exact absurd hbc (alone b hb).2
    · rw [hold c hc, hnew] at hbc
      exact absurd hbc.symm (alone c hc).2
    · rfl
  case interest_lt =>
    intro b hb
    rcases hcases hb with hb | rfl
    · rw [hold b hb]
      exact hm.interest_lt b hb
    · rw [hnew]
      exact hi
  case serves =>
    intro b hb
    rcases hcases hb with hb | rfl
    · rw [lineOf, hold b hb]
      exact hm.serves b hb
    · rw [lineOf, hnew]
      exact serves
  case patterns =>
    intro b hb
    rcases hcases hb.made with hlt | rfl
    · rw [members, hold b hlt]
      exact hm.patterns b ⟨hlt, hold b hlt ▸ hb.isOpen⟩
    · rw [members, hnew]
      exact nothing
  case ids_nodup =>
    intro b hb
    rcases hcases hb with hb | rfl
    · rw [members, hold b hb]
      exact hm.ids_nodup b hb
    · rw [members, hnew]
      exact List.nodup_nil
  case id_lt =>
    intro b hb s hs
    obtain ⟨hb, hs⟩ := hmem hb hs
    rw [hold b hb]
    exact hm.id_lt b hb s hs
  case member_lt =>
    intro b hb s hs
    obtain ⟨hb, hs⟩ := hmem hb hs
    exact hm.member_lt b hb s hs
  case member_inj =>
    intro b hb c hc s hsb hsc
    obtain ⟨hb, hsb⟩ := hmem hb hsb
    obtain ⟨hc, hsc⟩ := hmem hc hsc
    exact hm.member_inj b hb c hc s hsb hsc
  case active =>
    intro b hb s hs
    obtain ⟨hb, hs⟩ := hmem hb hs
    exact hm.active b hb s hs

/-- More interests and transports make no difference to brokers. -/
theorem unaltered_of_unsteered {h g : Hub η} (hg : Unsteered h g) (brokers : g.brokers = h.brokers)
    (subscriptions : g.subscriptions = h.subscriptions) : Unaltered h g where
  toUnsteered := hg
  brokers_size := congrArg Array.size brokers
  broker b := by rw [Hub.broker, brokers, Hub.broker]
  subscriptions_size := congrArg Array.size subscriptions
  subscription s := by
    rw [Hub.subscription, subscriptions, Hub.subscription]
    exact ⟨rfl, rfl, rfl⟩

theorem unsteered_addInterest (h : Hub η) (i : Interest) : Unsteered h (h.addInterest i).1 where
  interests := Nat.le_of_lt (Nat.lt_of_lt_of_eq (Nat.lt_succ_self _) (Array.size_push ..).symm)
  interest _ hj := (getD_push ..).trans (if_neg (Nat.ne_of_lt hj))
  transports := Nat.le_refl _
  serves _ _ := rfl

theorem unsteered_addTransport (h : Hub η) (tr : Transport) : Unsteered h (h.addTransport tr).1 where
  interests := Nat.le_refl _
  interest _ _ := rfl
  transports := Nat.le_of_lt (Nat.lt_of_lt_of_eq (Nat.lt_succ_self _) (size_addTransport h tr).symm)
  serves t ht := by rw [transport_addTransport, if_neg (Nat.ne_of_lt ht)]

/-- An interest that nobody has yet makes no difference. -/
theorem Mirrored.addInterest (hm : h.Mirrored) (i : Interest) : (h.addInterest i).1.Mirrored :=
  hm.of_unaltered (unaltered_of_unsteered (unsteered_addInterest h i) rfl rfl)

theorem Enlisted.addInterest (he : h.Enlisted) (i : Interest) : (h.addInterest i).1.Enlisted :=
  (he.mirrored.addInterest i).enlisted he.whole

theorem Mirrored.enlarged (hm : h.Mirrored) (line : Line) (clock : Clock) (capacity : Option Nat) :
    (h.enlarged line clock capacity).Mirrored := by
  set transport : Transport := { line, interest := h.interests.size, clock }
  have hinterests : (h.addInterest .nothing).1.interests.size = h.interests.size + 1 := Array.size_push ..
  have hready : ((h.addInterest .nothing).1.addTransport transport).1.Mirrored :=
    (hm.addInterest .nothing).of_unaltered (unaltered_of_unsteered (unsteered_addTransport _ transport) rfl rfl)
  refine hready.addBroker (t := h.transports.size) (i := h.interests.size) ?_ ?_ ?_ ?_ fun b hb =>
    ⟨Nat.ne_of_lt (hm.line_lt b hb), Nat.ne_of_lt (hm.interest_lt b hb)⟩
  · exact Nat.lt_of_lt_of_eq (Nat.lt_succ_self _) (size_addTransport (h.addInterest .nothing).1 transport).symm
  · exact Nat.lt_of_lt_of_eq (Nat.lt_succ_self _) hinterests.symm
  · have hadded := transport_addTransport (h.addInterest .nothing).1 transport
    exact congrArg Transport.interest ((hadded _).trans (if_pos rfl))
  · exact (getD_push ..).trans (if_pos rfl)

theorem Enlisted.enlarged (he : h.Enlisted) (line : Line) (clock : Clock) (capacity : Option Nat) :
    (h.enlarged line clock capacity).Enlisted :=
  (he.mirrored.enlarged line clock capacity).enlisted he.whole

end AddBroker

/-- The bus that a key stands for, or that it will stand for. -/
def busFor (h : Hub η) (key : String) : Nat := (h.busOf 0 key).2

/-- The tables with one broker more, on the bus of a key. -/
def joined (h : Hub η) (key : String) (clock : Clock) (defaultCapacity : Option Nat) : Hub η :=
  let g := (h.busOf 0 key).1
  { g with
    interests := h.interests.push .nothing
    buses := g.buses.modify (h.busFor key) (· ++ [h.transports.size])
    transports := h.transports.push { line := .bus (h.busFor key) {}, interest := h.interests.size, clock }
    brokers := h.brokers.push { transport := h.transports.size, interest := h.interests.size, defaultCapacity } }

section Joined

variable (h : Hub η) (key : String) (clock : Clock) (capacity : Option Nat)

theorem broker_joined (b : Nat) :
    (h.joined key clock capacity).broker b =
      if b = h.brokers.size then
        { transport := h.transports.size, interest := h.interests.size, defaultCapacity := capacity }
      else h.broker b :=
  getD_push ..

theorem transport_joined (t : Nat) :
    (h.joined key clock capacity).transport t =
      if t = h.transports.size then { line := .bus (h.busFor key) {}, interest := h.interests.size, clock }
      else h.transport t :=
  getD_push ..

theorem subscriptions_joined : (h.joined key clock capacity).subscriptions = h.subscriptions := by
  simp only [joined, busOf]
  cases (h.exchange 0).lookup key <;> rfl

theorem desk_joined : (h.joined key clock capacity).desk = h.desk := by
  simp only [joined, busOf]
  cases (h.exchange 0).lookup key <;> rfl

theorem subscription_joined (s : Nat) : (h.joined key clock capacity).subscription s = h.subscription s := by
  rw [subscription, subscriptions_joined]
  rfl

/-- On the roster nobody sees what the new transport is. -/
theorem roster_joined :
    (h.joined key clock capacity).roster = (h.enlarged (.bus (h.busFor key) {}) clock capacity).roster := by
  have hsub := subscriptions_joined h key clock capacity
  simp only [roster, subscription, hsub]
  rfl

theorem brokers_size_joined : (h.joined key clock capacity).brokers.size = h.brokers.size + 1 :=
  Array.size_push ..

theorem place_joined (t : Nat) :
    (h.joined key clock capacity).place t = if t = h.transports.size then some (h.busFor key) else h.place t := by
  rw [place, transport_joined]
  by_cases ht : t = h.transports.size
  · rw [if_pos ht, if_pos ht]
  · rw [if_neg ht, if_neg ht]
    rfl

theorem box_joined (t : Nat) :
    (h.joined key clock capacity).box t = if t = h.transports.size then {} else h.box t := by
  rw [box, transport_joined]
  by_cases ht : t = h.transports.size
  · rw [if_pos ht, if_pos ht]
  · rw [if_neg ht, if_neg ht]
    rfl

/-- Nothing waits for a new broker. -/
theorem waiting_joined (t : Nat) : (h.joined key clock capacity).waiting t = h.waiting t := by
  rw [waiting, box_joined]
  split
  · rename_i ht
    rw [waiting, box, transport_of_size_le (Nat.le_of_eq ht.symm)]
    rfl
  · rfl

end Joined

/-- A transport that does not exist is on no bus. -/
theorem Wired.not_mem_bus {h : Hub η} (hw : h.Wired) (k : Nat) : h.transports.size ∉ h.bus k := by
  intro hm
  exact Nat.lt_irrefl _ (lt_size_of_place ((hw.mem_bus k _).1 hm))

/-- A bus that is made for a key has nobody on it yet. -/
theorem bus_busOf (h : Hub η) (key : String) (k : Nat) : (h.busOf 0 key).1.bus k = h.bus k := by
  unfold busOf
  split
  · rfl
  · refine (getD_push h.buses [] [] k).trans ?_
    split
    · rename_i hk
      simp [bus, hk]
    · rfl

theorem Wired.busOf_lt {h : Hub η} (hw : h.Wired) (key : String) (e : Nat) :
    h.busFor key < (h.busOf 0 key).1.buses.size ∧
      ∀ entry ∈ (h.busOf 0 key).1.exchange e, entry.2 < (h.busOf 0 key).1.buses.size := by
  simp only [busFor, busOf]
  split
  · rename_i k hk
    obtain ⟨l₁, l₂, hl, _⟩ := List.lookup_eq_some_iff.1 hk
    exact ⟨hw.bus_lt 0 (key, k) (by simp [hl]), hw.bus_lt e⟩
  · have hs : (h.buses.push []).size = h.buses.size + 1 := Array.size_push ..
    refine ⟨Nat.lt_of_lt_of_eq (Nat.lt_succ_self _) hs.symm, fun entry hentry => Nat.lt_of_lt_of_eq ?_ hs.symm⟩
    have he := getD_modify h.exchanges ((key, h.buses.size) :: ·) [] 0 e
    have hentry : entry ∈ (h.exchanges.modify 0 ((key, h.buses.size) :: ·)).getD e [] := hentry
    rw [he] at hentry
    split at hentry
    · rcases List.mem_cons.1 hentry with rfl | hentry
      · exact Nat.lt_succ_self _
      · exact Nat.lt_succ_of_lt (hw.bus_lt e entry hentry)
    · exact Nat.lt_succ_of_lt (hw.bus_lt e entry hentry)

theorem Wired.bus_joined {h : Hub η} (hw : h.Wired) (key : String) (clock : Clock) (capacity : Option Nat) (k : Nat) :
    (h.joined key clock capacity).bus k =
      if k = h.busFor key then h.bus k ++ [h.transports.size] else h.bus k := by
  have hk := getD_modify (h.busOf 0 key).1.buses (· ++ [h.transports.size]) [] (h.busFor key) k
  refine Eq.trans rfl (hk.trans ?_)
  rw [← bus_busOf h key k]
  by_cases hkey : k = h.busFor key
  · rw [if_pos hkey, if_pos ⟨hkey.symm, hkey ▸ (hw.busOf_lt key 0).1⟩]
    rfl
  · rw [if_neg hkey, if_neg fun hc => hkey hc.1.symm]
    rfl

theorem attached_joined (h : Hub η) (key : String) (clock : Clock) (capacity : Option Nat) (b : Nat) :
    (h.joined key clock capacity).Attached b ↔ b = h.brokers.size ∨ h.Attached b := by
  rw [attached_of_roster (roster_joined h key clock capacity) b, attached_enlarged]

theorem Wired.joined {h : Hub η} (hw : h.Wired) (key : String) (clock : Clock) (capacity : Option Nat) :
    (h.joined key clock capacity).Wired := by
  have hsz := brokers_size_joined h key clock capacity
  have hbr := broker_joined h key clock capacity
  have hnew := hbr h.brokers.size
  rw [if_pos rfl] at hnew
  have hold : ∀ b < h.brokers.size, (h.joined key clock capacity).broker b = h.broker b := fun b hb => by
    rw [hbr, if_neg (Nat.ne_of_lt hb)]
  have hplace := place_joined h key clock capacity
  have hlt : ∀ b < h.brokers.size, h.lineOf b ≠ h.transports.size := fun b hb =>
    Nat.ne_of_lt (hw.enlisted.line_lt b hb)
  refine ((hw.enlisted.enlarged (.bus (h.busFor key) {}) clock capacity).of_roster
    (roster_joined h key clock capacity)).wired ?placed ?mem_bus ?bus_nodup ?bus_lt ?unbounded ?open_box
  case placed =>
    intro b hb
    rcases Nat.lt_succ_iff_lt_or_eq.1 (hsz ▸ hb) with hb | rfl
    · obtain ⟨k, hk⟩ := hw.placed b hb
      refine ⟨k, ?_⟩
      rw [lineOf, hold b hb, hplace, if_neg (hlt b hb), hk]
    · refine ⟨h.busFor key, ?_⟩
      rw [lineOf, hnew, hplace, if_pos rfl]
  case mem_bus =>
    intro k t
    rw [hw.bus_joined, hplace]
    by_cases ht : t = h.transports.size
    · subst ht
      by_cases hk : k = h.busFor key
      · simp [hk]
      · simp [hk, hw.not_mem_bus, Ne.symm hk]
    · by_cases hk : k = h.busFor key
      · simp [hk, ht, hw.mem_bus]
      · simp [hk, ht, hw.mem_bus]
  case bus_nodup =>
    intro k
    rw [hw.bus_joined]
    split
    · refine List.nodup_append.2 ⟨hw.bus_nodup k, List.nodup_singleton _, fun t ht u hu he => ?_⟩
      rw [he, List.mem_singleton.1 hu] at ht
      exact hw.not_mem_bus k ht
    · exact hw.bus_nodup k
  case bus_lt =>
    intro e entry hentry
    rw [show (h.joined key clock capacity).buses.size = (h.busOf 0 key).1.buses.size from Array.size_modify]
    exact (hw.busOf_lt key e).2 entry hentry
  case unbounded =>
    intro t
    rw [box_joined]
    split
    · rfl
    · exact hw.unbounded t
  case open_box =>
    intro b hb
    rw [box_joined]
    rcases (attached_joined ..).1 hb with rfl | hb
    · rw [lineOf, hnew, if_pos rfl]
    · rw [lineOf, hold b hb.made, if_neg (hlt b hb.made)]
      exact hw.open_box b hb

end Hub

namespace Act

open Hub

/-- On any exchange, a broker on the bus of a key can always be made. -/
theorem openAddress_bus (h : Hub η) (key : String) (exchange : Nat) (clock : Clock) (capacity : Option Nat) :
    ∃ k buses exchanges notices, openAddress (.bus key) exchange clock capacity h =
      (.ok h.brokers.size, { h.enlarged (.bus k {}) clock capacity with buses, exchanges, notices }) := by
  simp only [openAddress, openTransport, openBus, addBroker, bind_apply, change_apply, modify_apply, pure_apply,
    report_apply, busOf]
  cases ((h.addInterest .nothing).1.exchange exchange).lookup key with
  | some k => exact ⟨k, _, _, _, rfl⟩
  | none => exact ⟨h.buses.size, _, _, _, rfl⟩

/-- A broker on the bus of a key can always be made. -/
theorem openAddress_apply (h : Hub η) (key : String) (clock : Clock) (capacity : Option Nat) :
    ∃ notices, openAddress (.bus key) 0 clock capacity h =
      (.ok h.brokers.size, (h.joined key clock capacity).report notices) := by
  refine ⟨[.debug s!"broker: opened {(Address.bus key).scheme} provider"], ?_⟩
  simp only [openAddress, openTransport, openBus, addBroker, bind_apply, change_apply, modify_apply, pure_apply,
    report_apply]
  have hx : (h.addInterest .nothing).1.exchange 0 = h.exchange 0 := rfl
  simp only [joined, busFor, busOf, hx]
  cases (h.exchange 0).lookup key <;> rfl

end Act

/-! ## One broker closed -/

namespace Hub

/-- Makes subscriptions inactive. -/
def retire (l : List Nat) (h : Hub η) : Hub η :=
  l.foldl (fun h s => h.modifySubscription s fun u => { u with active := false }) h

/-- Only the subscriptions change. -/
theorem retire_eq (l : List Nat) (h : Hub η) :
    h.retire l = { h with subscriptions := (h.retire l).subscriptions } := by
  unfold retire
  induction l generalizing h with
  | nil => rfl
  | cons s l ih =>
    rw [List.foldl_cons, ih]
    rfl

theorem subscriptions_size_retire (l : List Nat) (h : Hub η) :
    (h.retire l).subscriptions.size = h.subscriptions.size := by
  unfold retire
  induction l generalizing h with
  | nil => rfl
  | cons s l ih => exact (ih _).trans Array.size_modify

theorem subscription_retire (l : List Nat) (h : Hub η) (s : Nat) :
    (h.retire l).subscription s = if s ∈ l ∧ s < h.subscriptions.size then
      { h.subscription s with active := false } else h.subscription s := by
  unfold retire
  induction l generalizing h with
  | nil => simp
  | cons u l ih =>
    have hsz : (h.modifySubscription u fun v => { v with active := false }).subscriptions.size =
        h.subscriptions.size := Array.size_modify
    rw [List.foldl_cons, ih, hsz, subscription_modifySubscription]
    by_cases hs : s < h.subscriptions.size
    · by_cases hus : u = s
      · simp [hus, hs]
      · simp [hus, hs, Ne.symm hus]
    · simp [hs]

/-- The tables with a broker closed, whose transport has become `line`. -/
def ended (h : Hub η) (b : Nat) (line : Line) : Hub η :=
  (((h.modifyBroker b fun br => { br with closed := true }).setLine (h.lineOf b) line).modifyBroker b
    fun br => { br with subscriptions := [] }).retire (h.members b)

/-- The tables with a broker closed, whose transport is on bus `k`. -/
abbrev shut (h : Hub η) (b k : Nat) : Hub η := h.ended b (.bus k (h.box (h.lineOf b)).close)

end Hub

namespace Act

open Hub

theorem closeBroker_closed {h : Hub η} {b : Nat} (hc : (h.broker b).closed = true) : closeBroker b h = (.ok (), h) := by
  simp only [closeBroker, bind_apply, get_apply, hc, Bool.not_true, Bool.false_eq_true, if_false, pure_apply]

theorem closeBroker_ended {h : Hub η} {b : Nat} {line : Line} (hb : b < h.brokers.size)
    (hline : ∀ g : Hub η, g.transport (h.lineOf b) = h.transport (h.lineOf b) →
      g.closeTransport (h.lineOf b) = g.setLine (h.lineOf b) line) :
    closeBroker b h =
      if (h.broker b).closed then (.ok (), h) else (.ok (), (h.ended b line).report [.debug "broker: closed"]) := by
  by_cases hc : (h.broker b).closed = true
  · rw [if_pos hc, closeBroker_closed hc]
  · have hclose := hline (h.modifyBroker b fun br => { br with closed := true }) rfl
    have hmem : ((h.modifyBroker b fun br => { br with closed := true }).setLine (h.lineOf b) line).members b =
        h.members b := by
      show ((h.modifyBroker b fun br => { br with closed := true }).broker b).subscriptions = h.members b
      rw [broker_modifyBroker, if_pos ⟨rfl, hb⟩]
    simp only [closeBroker, bind_apply, get_apply, hc, Bool.not_false, if_true, modify_apply, report_apply, hclose,
      hmem, Bool.false_eq_true, if_false]
    rfl

theorem closeBroker_apply {h : Hub η} {b k : Nat} (hb : b < h.brokers.size) (hk : h.place (h.lineOf b) = some k) :
    closeBroker b h =
      if (h.broker b).closed then (.ok (), h) else (.ok (), (h.shut b k).report [.debug "broker: closed"]) :=
  closeBroker_ended hb fun g hg => by
    rw [closeTransport, hg, place_eq_some_iff.1 hk]

end Act

namespace Hub

section Ended

variable {h : Hub η} {b : Nat} {line : Line}

theorem broker_ended (hb : b < h.brokers.size) (c : Nat) :
    (h.ended b line).broker c =
      if c = b then { h.broker b with closed := true, subscriptions := [] } else h.broker c := by
  have h₁ := broker_modifyBroker h b c fun br => { br with closed := true }
  have h₂ := broker_modifyBroker ((h.modifyBroker b fun br => { br with closed := true }).setLine (h.lineOf b)
    line) b c fun br => { br with subscriptions := [] }
  have hsz : (h.brokers.modify b fun br => { br with closed := true }).size = h.brokers.size := Array.size_modify
  rw [ended, retire_eq]
  refine Eq.trans rfl (h₂.trans ?_)
  by_cases hcb : c = b
  · subst hcb
    rw [if_pos ⟨rfl, Nat.lt_of_lt_of_eq hb hsz.symm⟩, if_pos rfl]
    rw [if_pos ⟨rfl, hb⟩] at h₁
    exact congrArg (fun br : Broker => { br with subscriptions := [] }) h₁
  · rw [if_neg fun he => hcb he.1.symm, if_neg hcb]
    rw [if_neg fun he => hcb he.1.symm] at h₁
    exact h₁

theorem brokers_size_ended : (h.ended b line).brokers.size = h.brokers.size := by
  rw [ended, retire_eq]
  exact Array.size_modify.trans Array.size_modify

theorem desk_ended : (h.ended b line).desk = h.desk := by
  rw [ended, retire_eq]
  rfl

theorem subscriptions_size_ended : (h.ended b line).subscriptions.size = h.subscriptions.size :=
  subscriptions_size_retire ..

theorem subscription_ended (s : Nat) :
    (h.ended b line).subscription s = if s ∈ h.members b ∧ s < h.subscriptions.size then
      { h.subscription s with active := false } else h.subscription s :=
  subscription_retire ..

theorem transport_ended (ht : h.lineOf b < h.transports.size) (t : Nat) :
    (h.ended b line).transport t = if t = h.lineOf b then { h.transport t with line } else h.transport t := by
  have hline := transport_setLine h (h.lineOf b) t line
  rw [ended, retire_eq]
  refine Eq.trans rfl (hline.trans ?_)
  by_cases htb : t = h.lineOf b
  · subst htb
    rw [if_pos ⟨rfl, ht⟩, if_pos rfl]
  · rw [if_neg htb, if_neg fun he => htb he.1.symm]

theorem interest_ended (i : Nat) : (h.ended b line).interest i = h.interest i := by
  rw [ended, retire_eq]
  rfl

theorem store_ended : (h.ended b line).store = h.store := by
  rw [ended, retire_eq]
  rfl

theorem attached_ended (hb : b < h.brokers.size) (c : Nat) : (h.ended b line).Attached c ↔ h.Attached c ∧ c ≠ b := by
  have hc : (h.ended b line).broker c = _ := broker_ended hb c
  have hs : (h.ended b line).brokers.size = h.brokers.size := brokers_size_ended
  by_cases hcb : c = b
  · subst hcb
    rw [if_pos rfl] at hc
    refine ⟨fun ha => ?_, fun ha => absurd rfl ha.2⟩
    have := ha.isOpen
    rw [hc] at this
    cases this
  · rw [if_neg hcb] at hc
    exact ⟨fun ha => ⟨⟨hs ▸ ha.made, hc ▸ ha.isOpen⟩, hcb⟩, fun ha => ⟨hs.symm ▸ ha.1.made, hc.symm ▸ ha.1.isOpen⟩⟩

theorem mem_members_ended (hb : b < h.brokers.size) {c s : Nat} :
    s ∈ (h.ended b line).members c ↔ s ∈ h.members c ∧ c ≠ b := by
  rw [members, broker_ended hb]
  by_cases hcb : c = b
  · simp [hcb]
  · simp [hcb]

theorem housed_ended (hb : b < h.brokers.size) (ht : h.lineOf b < h.transports.size) :
    Housed h (h.ended b line) where
  brokers_size := brokers_size_ended
  transports_size := by
    rw [Hub.ended, retire_eq]
    exact Array.size_modify
  interests_size := by
    rw [Hub.ended, retire_eq]
    rfl
  line c := by
    rw [lineOf, broker_ended hb]
    exact kept_of_ite Broker.transport c
  interest c := by
    rw [broker_ended hb]
    exact kept_of_ite Broker.interest c
  serves t := by
    rw [transport_ended ht]
    split <;> rfl

theorem Mirrored.ended (hm : h.Mirrored) (hb : b < h.brokers.size) : (h.ended b line).Mirrored := by
  have hsub : ∀ s, ((h.ended b line).subscription s).id = (h.subscription s).id ∧
      ((h.ended b line).subscription s).pattern = (h.subscription s).pattern := fun s => by
    rw [subscription_ended]
    split <;> exact ⟨rfl, rfl⟩
  have hold : ∀ c, c ≠ b → (h.ended b line).members c = h.members c := fun c hcb => by
    rw [members, broker_ended hb, if_neg hcb]
  refine hm.thinned (housed_ended hb (hm.line_lt b hb)) subscriptions_size_ended (fun s => (hsub s).1)
    ?next ?members ?patterns ?active
  case next =>
    intro c
    rw [broker_ended hb]
    exact kept_of_ite Broker.nextId c
  case members =>
    intro c
    by_cases hcb : c = b
    · rw [members, broker_ended hb, if_pos hcb]
      exact List.nil_sublist _
    · rw [hold c hcb]
  case patterns =>
    intro c hc
    obtain ⟨hc, hcb⟩ := (attached_ended hb c).1 hc
    rw [interest_ended, hold c hcb]
    simp only [hsub]
    exact hm.patterns c hc
  case active =>
    intro c hc s hs
    obtain ⟨hs, hcb⟩ := (mem_members_ended hb).1 hs
    rw [subscription_ended, if_neg fun hsb => hcb (hm.member_inj c hc b hb s hs hsb.1)]
    exact hm.active c hc s hs

theorem Enlisted.ended (he : h.Enlisted) (hb : b < h.brokers.size) : (h.ended b line).Enlisted :=
  (he.mirrored.ended hb).enlisted fun s => by
    rw [subscription_ended]
    split <;> exact he.whole s

end Ended

section Shut

variable {h : Hub η} {b k : Nat}

theorem transport_shut (hk : h.place (h.lineOf b) = some k) (t : Nat) :
    (h.shut b k).transport t = if t = h.lineOf b then
      { h.transport t with line := .bus k (h.box t).close } else h.transport t := by
  rw [shut, transport_ended (lt_size_of_place hk)]
  by_cases htb : t = h.lineOf b
  · rw [if_pos htb, if_pos htb, htb]
  · rw [if_neg htb, if_neg htb]

theorem place_shut (hk : h.place (h.lineOf b) = some k) (t : Nat) : (h.shut b k).place t = h.place t := by
  rw [place, transport_shut hk]
  by_cases htb : t = h.lineOf b
  · rw [if_pos htb, htb, hk]
  · rw [if_neg htb]
    rfl

theorem box_shut (hk : h.place (h.lineOf b) = some k) (t : Nat) :
    (h.shut b k).box t = if t = h.lineOf b then (h.box t).close else h.box t := by
  rw [box, transport_shut hk]
  by_cases htb : t = h.lineOf b
  · rw [if_pos htb, if_pos htb]
  · rw [if_neg htb, if_neg htb]
    rfl

/-- What waits for another broker goes on waiting. -/
theorem Wired.waiting_shut (hw : h.Wired) (hb : b < h.brokers.size) (hk : h.place (h.lineOf b) = some k) {c : Nat}
    (hc : c < h.brokers.size) (hcb : c ≠ b) : (h.shut b k).waiting (h.lineOf c) = h.waiting (h.lineOf c) := by
  rw [waiting, box_shut hk, if_neg fun he => hcb (hw.line_inj c hc b hb he)]
  rfl

theorem Wired.shut (hw : h.Wired) (hb : b < h.brokers.size) (hk : h.place (h.lineOf b) = some k) :
    (h.shut b k).Wired := by
  have hline : ∀ c, (h.shut b k).lineOf c = h.lineOf c := fun c => by
    rw [lineOf, Hub.shut, broker_ended hb]
    exact kept_of_ite Broker.transport c
  have hbuses : (h.shut b k).buses = h.buses ∧ (h.shut b k).exchanges = h.exchanges := by
    rw [Hub.shut, Hub.ended, retire_eq]
    exact ⟨rfl, rfl⟩
  have he : (h.shut b k).Enlisted := hw.enlisted.ended hb
  refine he.wired ?placed ?mem_bus ?bus_nodup ?bus_lt ?unbounded ?open_box
  case placed =>
    intro c hc
    rw [place_shut hk, hline]
    exact hw.placed c (brokers_size_ended (h := h) (b := b) ▸ hc)
  case mem_bus =>
    intro j t
    rw [place_shut hk, bus, hbuses.1]
    exact hw.mem_bus j t
  case bus_nodup =>
    intro j
    rw [bus, hbuses.1]
    exact hw.bus_nodup j
  case bus_lt =>
    intro e
    rw [exchange, hbuses.2, hbuses.1]
    exact hw.bus_lt e
  case unbounded =>
    intro t
    rw [box_shut hk]
    split
    · exact hw.unbounded t
    · exact hw.unbounded t
  case open_box =>
    intro c hc
    obtain ⟨hc, hcb⟩ := (attached_ended hb c).1 hc
    rw [hline, box_shut hk, if_neg fun he => hcb (hw.line_inj c hc.made b hb he)]
    exact hw.open_box c hc

end Shut
end Hub
end PubSub
