import PubSub.Proofs.Hub.Bypass
import PubSub.Proofs.Hub.Relay

/-!
# Buses relay messages

The transports that are opened on the buses of an exchange are the stations of a relay. Whatever calls are made, they
are answered as the relay answers them, and the mailbox of a transport holds the messages that its station has still to
be given.

* `Hub.Staffs`: a transport of a hub is a station.
* `Hub.Relays`: the transports of a hub are the stations of a relay.

Results:

* `Hub.Relays.step`: a call is answered as by the relay, and keeps the transports to the stations.
* `Hub.Relays.run`: so are any calls.
* `Hub.buses_relay`: what can be said of the calls that are made after an exchange was made.
-/

namespace PubSub

open Carriage

variable {η : Type}

namespace Hub

/-- Transport `t` is station `s`. -/
structure Staffs (h : Hub η) (t : Nat) (s : Station) : Prop where
  made : t < h.transports.size
  interest : (h.transport t).interest = s.interest
  clock : (h.transport t).clock = s.clock
  line : ∃ box, (h.transport t).line = .bus s.bus box ∧ box.Holds s.waiting s.isOpen

/-- The transports on the buses of exchange 0 are the stations of a relay. -/
structure Relays (h : Hub η) (r : Relay) : Prop where
  interests : h.interests.size = r.interests
  interest : ∀ i < r.interests, h.interest i = r.interest i
  exchanges : 0 < h.exchanges.size
  buses : h.buses.size = r.buses
  named : ∀ key, (h.exchange 0).lookup key = r.named key
  named_lt : ∀ key k, r.named key = some k → k < r.buses
  stations : h.transports.size = r.stations
  staffs : ∀ t s, r.station t = some s → h.Staffs t s
  served : ∀ t s, r.station t = some s → s.interest < r.interests
  bus_lt : ∀ t s, r.station t = some s → s.bus < r.buses
  /-- A bus knows exactly the stations that are on it. -/
  mem_bus : ∀ k t, t ∈ h.bus k ↔ ∃ s, r.station t = some s ∧ s.bus = k
  bus_nodup : ∀ k, (h.bus k).Nodup

/-- What is shared by transports is the same in two hubs. -/
structure Shared (h g : Hub η) : Prop where
  interests : g.interests = h.interests
  exchanges : g.exchanges = h.exchanges
  buses : g.buses = h.buses
  size : g.transports.size = h.transports.size

variable {f h g : Hub η} {r r' : Relay} {t u : Nat} {s s' : Station}

theorem Shared.rfl : Shared h h := ⟨Eq.refl _, Eq.refl _, Eq.refl _, Eq.refl _⟩

theorem Shared.trans (hf : Shared h f) (hg : Shared f g) : Shared h g :=
  ⟨hg.interests.trans hf.interests, hg.exchanges.trans hf.exchanges, hg.buses.trans hf.buses, hg.size.trans hf.size⟩

theorem shared_setLine (h : Hub η) (t : Nat) (line : Line) : Shared h (h.setLine t line) :=
  ⟨rfl, rfl, rfl, size_setLine ..⟩

theorem Shared.interest (hg : Shared h g) (i : Nat) : g.interest i = h.interest i := by
  rw [Hub.interest, Hub.interest, hg.interests]

theorem Shared.bus (hg : Shared h g) (k : Nat) : g.bus k = h.bus k := by
  rw [Hub.bus, Hub.bus, hg.buses]

theorem Shared.exchange (hg : Shared h g) (e : Nat) : g.exchange e = h.exchange e := by
  rw [Hub.exchange, Hub.exchange, hg.exchanges]

/-! ## Stations -/

theorem Staffs.of_transports (hs : h.Staffs t s) (hg : g.transports = h.transports) : g.Staffs t s := by
  have htransport : g.transport t = h.transport t := by rw [transport, transport, hg]
  exact ⟨hg ▸ hs.made, htransport ▸ hs.interest, htransport ▸ hs.clock, htransport ▸ hs.line⟩

/-- A change of another transport's line. -/
theorem Staffs.setLine_ne (hs : h.Staffs u s) (hu : u ≠ t) (line : Line) : (h.setLine t line).Staffs u s := by
  have htransport : (h.setLine t line).transport u = h.transport u :=
    (transport_setLine ..).trans (if_neg fun he => hu he.1.symm)
  exact ⟨size_setLine h t line ▸ hs.made, htransport ▸ hs.interest, htransport ▸ hs.clock, htransport ▸ hs.line⟩

/-- Another mailbox in the place of a station's. -/
theorem Staffs.setBox (hs : h.Staffs t s) {box : Mailbox} {ms : List Message} {isOpen : Bool}
    (hbox : box.Holds ms isOpen) :
    (h.setLine t (.bus s.bus box)).Staffs t { s with waiting := ms, isOpen } := by
  have htransport : (h.setLine t (.bus s.bus box)).transport t = { h.transport t with line := .bus s.bus box } :=
    (transport_setLine ..).trans (if_pos ⟨rfl, hs.made⟩)
  refine ⟨size_setLine h t _ ▸ hs.made, ?_, ?_, box, ?_, hbox⟩ <;> rw [htransport]
  · exact hs.interest
  · exact hs.clock

/-- The clock of a station is read when it sends. -/
theorem Staffs.readClock (hs : h.Staffs u s) (t : Nat) :
    (h.readClock t).1.Staffs u (if u = t then s.tick else s) := by
  have htransport := transport_readClock h t u
  have hsize := size_readClock h t
  by_cases hut : u = t
  · subst hut
    rw [if_pos ⟨rfl, hs.made⟩] at htransport
    rw [if_pos rfl]
    exact ⟨hsize ▸ hs.made, by rw [htransport]; exact hs.interest, by rw [htransport, hs.clock]; rfl,
      by rw [htransport]; exact hs.line⟩
  · rw [if_neg fun he => hut he.1.symm] at htransport
    rw [if_neg hut]
    exact ⟨hsize ▸ hs.made, htransport ▸ hs.interest, htransport ▸ hs.clock, htransport ▸ hs.line⟩

/-! ## Messages that come in -/

theorem shared_deposit (h : Hub η) (t : Nat) (m : Message) : Shared h (h.deposit t m) := by
  rcases deposit_eq h t m with he | ⟨k, box, -, he⟩
  · rw [he]
    exact .rfl
  · rw [he]
    exact (shared_setLine h t _).trans ⟨rfl, rfl, rfl, rfl⟩

theorem shared_deposits (l : List Nat) (m : Message) (h : Hub η) :
    Shared h (l.foldl (fun h t => h.deposit t m) h) := by
  induction l generalizing h with
  | nil => exact .rfl
  | cons t l ih => exact (shared_deposit h t m).trans (ih _)

/-- A message comes into a mailbox that is open if it is wanted. -/
theorem Staffs.deposit (hs : h.Staffs u s) (t : Nat) (m : Message) :
    (h.deposit t m).Staffs u { s with
      waiting :=
        if u = t ∧ s.isOpen = true ∧ (h.interest s.interest).wants m.channel = true then s.waiting ++ [m]
        else s.waiting } := by
  by_cases hut : u = t
  · subst hut
    obtain ⟨box, hline, hbox⟩ := hs.line
    have hwants : h.wants u = (h.interest s.interest).wants := by rw [wants, hs.interest]
    have hput := hs.setBox (hbox.put (h.wants u) m)
    simp only [true_and]
    simp only [Hub.deposit, hline]
    rw [hwants] at hput ⊢
    exact hput.of_transports rfl
  · simp only [hut, false_and, if_false]
    rcases deposit_eq h t m with he | ⟨k, box, -, he⟩
    · rw [he]
      exact hs
    · rw [he]
      exact (hs.setLine_ne hut _).of_transports rfl

theorem Staffs.deposits {l : List Nat} (hl : l.Nodup) (hs : h.Staffs u s) (m : Message) :
    (l.foldl (fun h t => h.deposit t m) h).Staffs u { s with
      waiting :=
        if u ∈ l ∧ s.isOpen = true ∧ (h.interest s.interest).wants m.channel = true then s.waiting ++ [m]
        else s.waiting } := by
  induction l generalizing h s with
  | nil => simpa using hs
  | cons t l ih =>
    obtain ⟨ht, hl⟩ := List.nodup_cons.1 hl
    have hrest := ih hl (hs.deposit t m)
    simp only [(shared_deposit h t m).interest] at hrest
    rw [List.foldl_cons]
    by_cases hut : u = t
    · subst hut
      simpa [ht] using hrest
    · simpa [hut] using hrest

/-! ## Changes of one station -/

/-- What is not shared by transports, nor one of them, does not matter. -/
theorem Relays.of_shared (hr : h.Relays r) (hg : Shared h g) {station : Nat → Option Station}
    (hstation : ∀ t s', station t = some s' →
      ∃ s, r.station t = some s ∧ s'.bus = s.bus ∧ s'.interest = s.interest ∧ g.Staffs t s')
    (hkept : ∀ t s, r.station t = some s → ∃ s', station t = some s') (sent : List (Nat × Message)) :
    g.Relays { r with station, sent } where
  interests := (congrArg Array.size hg.interests).trans hr.interests
  interest i hi := (hg.interest i).trans (hr.interest i hi)
  exchanges := hg.exchanges ▸ hr.exchanges
  buses := (congrArg Array.size hg.buses).trans hr.buses
  named key := hg.exchange 0 ▸ hr.named key
  named_lt := hr.named_lt
  stations := hg.size.trans hr.stations
  staffs t s' hs' := by
    obtain ⟨s, -, -, -, hstaffs⟩ := hstation t s' hs'
    exact hstaffs
  served t s' hs' := by
    obtain ⟨s, hs, -, hinterest, -⟩ := hstation t s' hs'
    exact hinterest ▸ hr.served t s hs
  bus_lt t s' hs' := by
    obtain ⟨s, hs, hbus, -, -⟩ := hstation t s' hs'
    exact hbus ▸ hr.bus_lt t s hs
  mem_bus k t := by
    rw [hg.bus, hr.mem_bus]
    constructor
    · rintro ⟨s, hs, rfl⟩
      obtain ⟨s', hs'⟩ := hkept t s hs
      obtain ⟨s₁, hs₁, hbus, -, -⟩ := hstation t s' hs'
      cases hs.symm.trans hs₁
      exact ⟨s', hs', hbus⟩
    · rintro ⟨s', hs', rfl⟩
      obtain ⟨s, hs, hbus, -, -⟩ := hstation t s' hs'
      exact ⟨s, hs, hbus.symm⟩
  bus_nodup k := hg.bus k ▸ hr.bus_nodup k

/-- One station is changed, and the others stay as they are. -/
theorem Relays.put (hr : h.Relays r) (hs : r.station t = some s) (hg : Shared h g) (hbus : s'.bus = s.bus)
    (hinterest : s'.interest = s.interest) (hstaffs : g.Staffs t s')
    (hothers : ∀ u ≠ t, ∀ s, h.Staffs u s → g.Staffs u s) : g.Relays (r.put t (some s')) := by
  refine hr.of_shared hg (fun u s₁ hs₁ => ?_) (fun u s₁ hs₁ => ?_) r.sent
  · by_cases hut : u = t
    · subst hut
      rw [Function.update_self] at hs₁
      cases hs₁
      exact ⟨s, hs, hbus, hinterest, hstaffs⟩
    · rw [Function.update_of_ne hut] at hs₁
      exact ⟨s₁, hs₁, rfl, rfl, hothers u hut s₁ (hr.staffs u s₁ hs₁)⟩
  · by_cases hut : u = t
    · exact ⟨s', by rw [hut, Function.update_self]⟩
    · exact ⟨s₁, by rw [Function.update_of_ne hut]; exact hs₁⟩

/-- The mailbox of one station is changed. -/
theorem Relays.setBox (hr : h.Relays r) (hs : r.station t = some s) {box : Mailbox} {ms : List Message} {isOpen : Bool}
    (hbox : box.Holds ms isOpen) :
    (h.setLine t (.bus s.bus box)).Relays (r.put t (some { s with waiting := ms, isOpen })) :=
  hr.put hs (shared_setLine h t _) rfl rfl ((hr.staffs t s hs).setBox hbox) fun _ hu _ hs => hs.setLine_ne hu _

/-- A change that is none to what is shared by transports, nor to them. -/
theorem Relays.of_transports (hr : h.Relays r) (hg : Shared h g) (ht : g.transports = h.transports) : g.Relays r :=
  hr.of_shared hg (fun t s hs => ⟨s, hs, rfl, rfl, (hr.staffs t s hs).of_transports ht⟩) (fun _ s hs => ⟨s, hs⟩) r.sent

/-- What a station wants. -/
theorem Relays.wants (hr : h.Relays r) (hs : r.station t = some s) : h.wants t = r.wants s := by
  rw [Hub.wants, (hr.staffs t s hs).interest, hr.interest _ (hr.served t s hs)]
  rfl

/-! ## Calls to one station -/

/-- A station is given the first message that it wants, unless it is closed. -/
theorem Relays.receive (hr : h.Relays r) (hs : r.station t = some s) (isOpen : s.isOpen = true) :
    ∃ g, Act.receive t (some h.now) false h = (.ok (r.next s).1, g) ∧ g.Relays (r.put t (some (r.next s).2)) := by
  obtain ⟨box, hline, hbox⟩ := (hr.staffs t s hs).line
  obtain ⟨hoffer, hleft⟩ := Mailbox.Holds.take_open (isOpen ▸ hbox) (r.wants s)
  have hset := hr.setBox hs (isOpen.symm ▸ hleft)
  set k := (h.setLine t (.bus s.bus (box.take (r.wants s)).2.1)).report (box.take (r.wants s)).2.2 with hk
  have hkept : k.Relays (r.put t (some (r.next s).2)) := hset.of_transports ⟨rfl, rfl, rfl, rfl⟩ rfl
  have hpoll : Act.poll t false h =
      (.ok ((Mailbox.skip (r.wants s) s.waiting).head?.elim (.later none) .message), k) := by
    rw [Act.poll_bus hline, hr.wants hs, hoffer, Act.orHalt_ok]
  rw [Act.receive, Act.bind_apply, Option.isNone_some, hpoll]
  cases hahead : (Mailbox.skip (r.wants s) s.waiting).head? with
  | none =>
    refine ⟨{ k with now := max k.now h.now }, ?_, hkept.of_transports ⟨rfl, rfl, rfl, rfl⟩ rfl⟩
    rw [Relay.next, hahead]
    rfl
  | some m =>
    refine ⟨k, ?_, hkept⟩
    rw [Relay.next, hahead]
    rfl

theorem Relays.interestChanged (hr : h.Relays r) (hs : r.station t = some s) :
    ∃ g, Act.interestChanged t h = (.ok (), g) ∧ g.Relays (r.put t (some (r.retain s))) := by
  obtain ⟨box, hline, hbox⟩ := (hr.staffs t s hs).line
  have hset := hr.setBox hs (hbox.retain (r.wants s))
  refine ⟨(h.setLine t (.bus s.bus (box.retain (r.wants s)).1)).report (box.retain (r.wants s)).2, ?_,
    hset.of_transports ⟨rfl, rfl, rfl, rfl⟩ rfl⟩
  simp only [Act.interestChanged, Act.bind_apply, Act.get_apply, hline, Act.modify_apply, hr.wants hs]

theorem Relays.close (hr : h.Relays r) (hs : r.station t = some s) :
    (h.closeTransport t).Relays (r.put t (some s.close)) := by
  obtain ⟨box, hline, hbox⟩ := (hr.staffs t s hs).line
  simp only [closeTransport, hline]
  exact hr.setBox hs hbox.close

/-- A station that is given up leaves its bus. -/
theorem Relays.release (hr : h.Relays r) (hs : r.station t = some s) :
    (h.releaseTransport t).Relays (r.put t none) := by
  obtain ⟨box, hline, -⟩ := (hr.staffs t s hs).line
  have hrelease : h.releaseTransport t =
      { h with buses := h.buses.modify s.bus fun members => members.filter (· != t) } := by
    simp only [releaseTransport, hline]
  have hothers : ∀ {u : Nat} {s₁ : Station}, (r.put t none).station u = some s₁ ↔ u ≠ t ∧ r.station u = some s₁ := by
    intro u s₁
    rw [Relay.station_put]
    by_cases hut : u = t <;> simp [hut]
  have hbus : ∀ k, (h.releaseTransport t).bus k = (h.bus k).filter (· != t) := fun k => by
    rw [hrelease]
    refine (getD_modify ..).trans ?_
    split
    · rfl
    · rename_i hk
      -- the station that is given up is on no other bus
      refine (List.filter_eq_self.2 fun u hu => bne_iff_ne.2 ?_).symm
      rintro rfl
      obtain ⟨s₁, hs₁, rfl⟩ := (hr.mem_bus k u).1 hu
      cases hs.symm.trans hs₁
      exact hk ⟨rfl, hr.buses ▸ hr.bus_lt u s hs⟩
  rw [hrelease] at hbus ⊢
  exact { hr with
    buses := (Array.size_modify ..).trans hr.buses
    staffs := fun u s₁ hs₁ => (hr.staffs u s₁ (hothers.1 hs₁).2).of_transports rfl
    served := fun u s₁ hs₁ => hr.served u s₁ (hothers.1 hs₁).2
    bus_lt := fun u s₁ hs₁ => hr.bus_lt u s₁ (hothers.1 hs₁).2
    mem_bus := fun k u => by
      rw [hbus, List.mem_filter, hr.mem_bus]
      simp only [hothers, bne_iff_ne, and_assoc]
      exact ⟨fun ⟨⟨s₁, hs₁, hk⟩, hu⟩ => ⟨s₁, hu, hs₁, hk⟩, fun ⟨s₁, hu, hs₁, hk⟩ => ⟨⟨s₁, hs₁, hk⟩, hu⟩⟩
    bus_nodup := fun k => hbus k ▸ (hr.bus_nodup k).filter _ }

/-! ## Sending -/

theorem Relays.readClock (hr : h.Relays r) (hs : r.station t = some s) :
    (h.readClock t).1.Relays (r.put t (some s.tick)) := by
  have htick := (hr.staffs t s hs).readClock t
  rw [if_pos rfl] at htick
  refine hr.put hs ⟨rfl, rfl, rfl, size_readClock h t⟩ rfl rfl htick fun u hu s₁ hs₁ => ?_
  have hother := hs₁.readClock t
  rwa [if_neg hu] at hother

/-- A message that is sent to all on a bus is heard by the stations there. -/
theorem Relays.broadcast (hr : h.Relays r) (k : Nat) (m : Message) : (h.broadcast k m).Relays (r.broadcast k m) := by
  refine hr.of_shared (shared_deposits _ m h) (fun u s' hs' => ?_) (fun u s hs => ?_) _
  · obtain ⟨s, hs, rfl⟩ := Option.map_eq_some_iff.1 hs'
    have hheard := (hr.staffs u s hs).deposits (hr.bus_nodup k) m
    have hbus : u ∈ h.bus k ↔ s.bus = k := by
      rw [hr.mem_bus]
      exact ⟨fun ⟨s₁, hs₁, hk⟩ => Option.some.inj (hs₁.symm.trans hs) ▸ hk, fun hk => ⟨s, hs, hk⟩⟩
    simp only [hbus, hr.interest _ (hr.served u s hs)] at hheard
    exact ⟨s, hs, rfl, rfl, hheard⟩
  · exact ⟨r.hear k m s, by rw [hs]; rfl⟩

theorem Relays.send (hr : h.Relays r) (hs : r.station t = some s) (isOpen : s.isOpen = true) (channel : String)
    (payload : ByteArray) :
    ∃ g, Act.send t channel payload h = (.ok (), g) ∧
      g.Relays ((r.put t (some s.tick)).broadcast s.bus ⟨channel, payload, s.clock.read.1⟩) := by
  obtain ⟨box, hline, hbox⟩ := (hr.staffs t s hs).line
  have hopen : box.closed = false := by rw [hbox.closed, isOpen]; rfl
  refine ⟨_, ?_, (hr.readClock hs).broadcast s.bus ⟨channel, payload, s.clock.read.1⟩⟩
  simp only [Act.send, Act.bind_apply, Act.get_apply, hline, hopen, Bool.false_eq_true, if_false, Act.change_apply,
    Act.modify_apply]
  rw [show (h.readClock t).2 = s.clock.read.1 from congrArg (fun c => c.read.1) (hr.staffs t s hs).clock]

/-- Nothing is sent by a station that is closed, and nothing is given to it. -/
theorem Relays.closed (hr : h.Relays r) (hs : r.station t = some s) (closed : s.isOpen = false) :
    (∀ channel payload, Act.send t channel payload h = (.error (.failed .closed), h)) ∧
      Act.receive t (some h.now) false h = (.error (.failed .closed), h) := by
  obtain ⟨box, hline, hbox⟩ := (hr.staffs t s hs).line
  have hclosed : box.closed = true := by rw [hbox.closed, closed]; rfl
  refine ⟨fun channel payload => ?_, ?_⟩
  · simp only [Act.send, Act.bind_apply, Act.get_apply, hline, hclosed, if_true, Act.fail_apply]
  · rw [Act.receive, Act.bind_error (Act.poll_closed hline hclosed _)]

/-! ## Interests and keys -/

theorem Relays.addInterest (hr : h.Relays r) (i : Interest) : (h.addInterest i).1.Relays (r.addInterest i) where
  __ := hr
  interests := (Array.size_push ..).trans (congrArg (· + 1) hr.interests)
  interest j hj := by
    rw [show (h.addInterest i).1.interest j = _ from getD_push .., hr.interests, Relay.interest_addInterest]
    split
    · rfl
    · rename_i hne
      exact hr.interest j (Nat.lt_of_le_of_ne (Nat.le_of_lt_succ hj) hne)
  staffs t s hs := (hr.staffs t s hs).of_transports rfl
  served t s hs := Nat.lt_succ_of_lt (hr.served t s hs)

theorem Relays.modifyInterest (hr : h.Relays r) (i : Nat) (change : Interest → Interest) :
    (h.modifyInterest i change).Relays (r.modifyInterest i change) where
  __ := hr
  interests := (Array.size_modify ..).trans hr.interests
  interest j hj := by
    have hlt : j < h.interests.size := hr.interests ▸ hj
    rw [Hub.interest_modifyInterest, Relay.interest_modifyInterest, hr.interest j hj]
    by_cases hji : j = i
    · rw [if_pos hji, if_pos ⟨hji.symm, hlt⟩, hji]
    · rw [if_neg hji, if_neg fun he => hji he.1.symm]
  staffs t s hs := (hr.staffs t s hs).of_transports rfl

theorem lookup_filter_ne (key k : String) (entries : List (String × Nat)) :
    (entries.filter fun e => e.1 != key).lookup k = if k = key then none else entries.lookup k := by
  induction entries with
  | nil => simp
  | cons e entries ih =>
    obtain ⟨name, bus⟩ := e
    rw [List.filter_cons]
    by_cases hname : name = key
    · subst hname
      rw [if_neg (by simp), ih]
      split
      · rfl
      · rename_i hk
        rw [List.lookup_cons, beq_false_of_ne hk]
    · rw [if_pos (bne_iff_ne.2 hname), List.lookup_cons, List.lookup_cons, ih]
      cases hk : k == name with
      | true => exact (if_neg fun he => hname ((eq_of_beq hk).symm.trans he)).symm
      | false => rfl

/-- The keys of exchange 0 after a change of them. -/
theorem exchange_modify (he : 0 < h.exchanges.size) (change : List (String × Nat) → List (String × Nat)) :
    ({ h with exchanges := h.exchanges.modify 0 change }).exchange 0 = change (h.exchange 0) :=
  (getD_modify ..).trans (if_pos ⟨rfl, he⟩)

theorem Relays.removeBus (hr : h.Relays r) (key : String) :
    (h.removeBus 0 key).2 = (r.named key).isSome ∧ (h.removeBus 0 key).1.Relays (r.forget key) := by
  refine ⟨congrArg Option.isSome (hr.named key), ?_⟩
  have hnamed : ∀ k, ((h.removeBus 0 key).1.exchange 0).lookup k = (r.forget key).named k := fun k => by
    rw [Hub.removeBus, exchange_modify hr.exchanges, lookup_filter_ne, Relay.named_forget, hr.named]
  exact { hr with
    exchanges := Nat.lt_of_lt_of_eq hr.exchanges (Array.size_modify ..).symm
    named := hnamed
    named_lt := fun k bus hbus => by
      rw [Relay.named_forget] at hbus
      split at hbus
      · cases hbus
      · exact hr.named_lt k bus hbus
    staffs := fun t s hs => (hr.staffs t s hs).of_transports rfl }

/-! ## Opening -/

theorem Relays.addBus (hr : h.Relays r) (key : String) :
    ({ h with
      buses := h.buses.push []
      exchanges := h.exchanges.modify 0 ((key, h.buses.size) :: ·) }).Relays (r.addBus key) := by
  set g : Hub η := { h with
    buses := h.buses.push []
    exchanges := h.exchanges.modify 0 ((key, h.buses.size) :: ·) } with hg
  have hkeys : g.exchange 0 = (key, h.buses.size) :: h.exchange 0 := exchange_modify hr.exchanges _
  have hbus : ∀ k, g.bus k = if k = r.buses then [] else h.bus k := fun k => hr.buses ▸ getD_push ..
  have hempty : ∀ t, ¬ ∃ s, r.station t = some s ∧ s.bus = r.buses := by
    rintro t ⟨s, hs, hk⟩
    exact absurd (hr.bus_lt t s hs) (by rw [hk]; exact Nat.lt_irrefl _)
  exact { hr with
    exchanges := Nat.lt_of_lt_of_eq hr.exchanges (Array.size_modify ..).symm
    buses := (Array.size_push ..).trans (congrArg (· + 1) hr.buses)
    named := fun k => by
      rw [hkeys, List.lookup_cons, Relay.named_addBus, hr.named, hr.buses]
      cases hkey : k == key with
      | true => exact (if_pos (eq_of_beq hkey)).symm
      | false => exact (if_neg (beq_eq_false_iff_ne.1 hkey)).symm
    named_lt := fun k bus hnamed => by
      rw [Relay.named_addBus] at hnamed
      split at hnamed
      · cases hnamed
        exact Nat.lt_succ_self _
      · exact Nat.lt_succ_of_lt (hr.named_lt k bus hnamed)
    staffs := fun t s hs => (hr.staffs t s hs).of_transports rfl
    bus_lt := fun t s hs => Nat.lt_succ_of_lt (hr.bus_lt t s hs)
    mem_bus := fun k t => by
      rw [hbus]
      split
      · rename_i hk
        exact iff_of_false List.not_mem_nil (hk ▸ hempty t)
      · exact hr.mem_bus k t
    bus_nodup := fun k => by
      rw [hbus]
      split
      · exact List.nodup_nil
      · exact hr.bus_nodup k }

theorem Relays.busOf (hr : h.Relays r) (key : String) :
    (h.busOf 0 key).2 = (r.busOf key).2 ∧ (r.busOf key).2 < (r.busOf key).1.buses ∧
      (h.busOf 0 key).1.Relays (r.busOf key).1 := by
  unfold Hub.busOf Relay.busOf
  rw [hr.named key]
  cases hk : r.named key with
  | some k => exact ⟨rfl, hr.named_lt key k hk, hr⟩
  | none => exact ⟨hr.buses, Nat.lt_succ_self _, (hr.addBus key).of_transports ⟨rfl, rfl, rfl, rfl⟩ rfl⟩

/-- A transport that is added to a bus is a station that joins it. -/
theorem Relays.join (hr : h.Relays r) {k i : Nat} (hk : k < r.buses) (hi : i < r.interests) (clock : Clock) :
    ({ (h.addTransport { line := .bus k {}, interest := i, clock }).1 with
      buses := h.buses.modify k (· ++ [h.transports.size]) }).Relays (r.join k i clock) := by
  set g : Hub η := { (h.addTransport { line := .bus k {}, interest := i, clock }).1 with
    buses := h.buses.modify k (· ++ [h.transports.size]) } with hg
  have htransport : ∀ u, g.transport u =
      if u = r.stations then { line := .bus k {}, interest := i, clock } else h.transport u := fun u =>
    hr.stations ▸ transport_addTransport ..
  have hsize : g.transports.size = r.stations + 1 := (size_addTransport ..).trans (congrArg (· + 1) hr.stations)
  have hbus : ∀ j, g.bus j = if j = k then h.bus j ++ [r.stations] else h.bus j := fun j => by
    refine (getD_modify ..).trans ?_
    rw [hr.stations]
    by_cases hjk : j = k
    · subst hjk
      rw [if_pos ⟨rfl, hr.buses ▸ hk⟩, if_pos rfl]
      rfl
    · rw [if_neg fun he => hjk he.1.symm, if_neg hjk]
      rfl
  have hnew : r.station r.stations = none := by
    cases hs : r.station r.stations with
    | none => rfl
    | some s => exact absurd (hr.staffs _ s hs).made (by rw [hr.stations]; exact Nat.lt_irrefl _)
  have hfresh : ∀ j, r.stations ∉ h.bus j := fun j hj => by
    obtain ⟨s, hs, -⟩ := (hr.mem_bus j _).1 hj
    cases hnew.symm.trans hs
  have hstation : ∀ u s, (r.join k i clock).station u = some s →
      u = r.stations ∧ s = { bus := k, interest := i, clock } ∨ u ≠ r.stations ∧ r.station u = some s := by
    intro u s hs
    rw [Relay.station_join] at hs
    split at hs
    · exact Or.inl ⟨‹_›, (Option.some.inj hs).symm⟩
    · exact Or.inr ⟨‹_›, hs⟩
  exact { hr with
    buses := (Array.size_modify ..).trans hr.buses
    stations := hsize
    staffs := fun u s hs => by
      rcases hstation u s hs with ⟨rfl, rfl⟩ | ⟨hu, hs⟩
      · have htr := (htransport r.stations).trans (if_pos rfl)
        exact ⟨hsize ▸ Nat.lt_succ_self _, congrArg Transport.interest htr, congrArg Transport.clock htr, {},
          congrArg Transport.line htr, Mailbox.holds_new⟩
      · have htr := (htransport u).trans (if_neg hu)
        have hold := hr.staffs u s hs
        exact ⟨hsize ▸ Nat.lt_succ_of_lt (hr.stations ▸ hold.made), htr ▸ hold.interest, htr ▸ hold.clock,
          htr ▸ hold.line⟩
    served := fun u s hs => by
      rcases hstation u s hs with ⟨rfl, rfl⟩ | ⟨-, hs⟩
      · exact hi
      · exact hr.served u s hs
    bus_lt := fun u s hs => by
      rcases hstation u s hs with ⟨rfl, rfl⟩ | ⟨-, hs⟩
      · exact hk
      · exact hr.bus_lt u s hs
    mem_bus := fun j u => by
      rw [hbus, Relay.station_join]
      by_cases hu : u = r.stations
      · subst hu
        by_cases hj : j = k
        · simp [hj]
        · simp [hj, hfresh, Ne.symm hj]
      · rw [if_neg hu, ← hr.mem_bus]
        by_cases hj : j = k <;> simp [hj, hu]
    bus_nodup := fun j => by
      rw [hbus]
      split
      · exact (hr.bus_nodup j).append (List.nodup_singleton _) (List.disjoint_singleton.2 (hfresh j))
      · exact hr.bus_nodup j }

theorem Relays.attach (hr : h.Relays r) (key : String) {i : Nat} (hi : i < r.interests) (clock : Clock) :
    ∃ g, Act.openTransport (.bus key) 0 i clock h = (.ok r.stations, g) ∧
      g.Relays ((r.busOf key).1.join (r.busOf key).2 i clock) := by
  obtain ⟨hbus, hlt, hopened⟩ := hr.busOf key
  obtain ⟨hinterests, hstations⟩ := r.busOf_same key
  refine ⟨_, ?_, hopened.join hlt (hinterests ▸ hi) clock⟩
  rw [← hstations, ← hopened.stations, ← hbus]
  rfl

/-! ## Runs -/

/-- A call is answered as by the relay. -/
theorem Relays.step (hr : h.Relays r) {call : Call} {answer : Answer} (hstep : r.Step call answer r') :
    (call.perform h).1 = answer ∧ (call.perform h).2.Relays r' := by
  cases hstep with
  | wish all => exact ⟨congrArg (fun n => Except.ok (Value.made n)) hr.interests, hr.addInterest _⟩
  | insert made id p => exact ⟨rfl, hr.modifyInterest _ _⟩
  | remove made id => exact ⟨rfl, hr.modifyInterest _ _⟩
  | attach key made clock =>
    obtain ⟨g, hopen, hg⟩ := hr.attach key made clock
    rw [Call.perform, Act.bind_ok hopen]
    exact ⟨rfl, hg⟩
  | removeBus key =>
    obtain ⟨hfound, hg⟩ := hr.removeBus key
    exact ⟨congrArg (fun found => Except.ok (Value.removed found)) hfound, hg⟩
  | send there isOpen channel payload =>
    obtain ⟨g, hsend, hg⟩ := hr.send there isOpen channel payload
    rw [Call.perform, Act.bind_ok hsend]
    exact ⟨rfl, hg⟩
  | sendClosed there closed channel payload =>
    rw [Call.perform, Act.bind_error ((hr.closed there closed).1 channel payload)]
    exact ⟨rfl, hr⟩
  | receive there isOpen =>
    obtain ⟨g, hreceive, hg⟩ := hr.receive there isOpen
    simp only [Call.perform, Act.get_bind_apply, Option.map_some, Nat.add_zero]
    rw [Act.bind_ok hreceive]
    exact ⟨rfl, hg⟩
  | receiveClosed there closed =>
    simp only [Call.perform, Act.get_bind_apply, Option.map_some, Nat.add_zero]
    rw [Act.bind_error (hr.closed there closed).2]
    exact ⟨rfl, hr⟩
  | interestChanged there =>
    obtain ⟨g, hchanged, hg⟩ := hr.interestChanged there
    rw [Call.perform, Act.bind_ok hchanged]
    exact ⟨rfl, hg⟩
  | close there => exact ⟨rfl, hr.close there⟩
  | release there => exact ⟨rfl, hr.release there⟩

/-- All calls are answered as by the relay. -/
theorem Relays.run {calls : List Call} {answers : List Answer} (hrun : Relay.Run r calls answers r')
    (hr : h.Relays r) : (Carriage.run h calls).1 = answers ∧ (Carriage.run h calls).2.Relays r' := by
  induction hrun generalizing h with
  | nil => exact ⟨rfl, hr⟩
  | cons step run ih =>
    obtain ⟨hanswer, hnext⟩ := hr.step step
    obtain ⟨hanswers, hlast⟩ := ih hnext
    exact ⟨by rw [run_cons, hanswer, hanswers], hlast⟩

theorem relays_new (store : Store) (now : Nat) (desk : η) :
    Relays { store, now, desk, exchanges := #[[]] } {} where
  interests := rfl
  interest _ hi := absurd hi (Nat.not_lt_zero _)
  exchanges := Nat.zero_lt_one
  buses := rfl
  named _ := rfl
  named_lt _ _ hk := nomatch hk
  stations := rfl
  staffs _ _ hs := nomatch hs
  served _ _ hs := nomatch hs
  bus_lt _ _ hs := nomatch hs
  mem_bus k t := iff_of_false (by simp [bus]) fun ⟨_, hs, _⟩ => nomatch hs
  bus_nodup k := by simp [bus]

/-- An exchange has been made, and calls were made to those who joined its buses. The calls are answered as by a relay,
and the mailbox of a transport that was not given up is that of its station: what came from it, and then what waits in
it, comes in order from what was sent on its bus. To take a key out of the exchange makes no difference to the answers
to calls that do not use the key. -/
theorem buses_relay (store : Store) (now : Nat) (desk : η) {calls : List Call} {answers : List Answer}
    (hrun : Relay.Run {} calls answers r) :
    let hub := Carriage.run { store, now, desk, exchanges := #[[]] } calls
    hub.1 = answers ∧
      (∀ t s, r.station t = some s →
        hub.2.place t = some s.bus ∧ (hub.2.box t).closed = !s.isOpen ∧ hub.2.waiting t = s.waiting ∧
          (messagesFrom t calls hub.1 ++ hub.2.waiting t).Sublist (r.on s.bus)) ∧
      ∀ key more answers' r', Relay.Run r more answers' r' → (∀ call ∈ more, call.uses key = false) →
        (Carriage.run hub.2 more).1 = answers' ∧
          (Carriage.run hub.2 (.removeBus 0 key :: more)).1 = .ok (.removed (r.named key).isSome) :: answers' := by
  intro hub
  obtain ⟨hanswers, hr⟩ := (relays_new store now desk).run hrun
  refine ⟨hanswers, fun t s hs => ?_, fun key more answers' r' hmore huses => ?_⟩
  · obtain ⟨box, hline, hbox⟩ := (hr.staffs t s hs).line
    have hplace : hub.2.place t = some s.bus := by rw [place, hline]
    have hbox' : hub.2.box t = box := by rw [Hub.box, hline]
    have hwaiting : hub.2.waiting t = s.waiting := by rw [waiting, hbox', hbox.toList]
    have hheard := ((Relay.heard_new t).run hrun).sublist s hs
    rw [hwaiting, hanswers]
    exact ⟨hplace, by rw [hbox', hbox.closed], rfl, hheard⟩
  · have hremoved : r.Run (.removeBus 0 key :: more) (.ok (.removed (r.named key).isSome) :: answers')
        (r'.forget key) := .cons (.removeBus key) (hmore.forget huses)
    exact ⟨(hr.run hmore).1, (hr.run hremoved).1⟩

/-- Of three transports, the first and the third are on the same bus. What the first one sends is given to the third
one, and the second one is given nothing. -/
theorem buses_relay_two :
    (Carriage.run { store := ⟨#[], [], []⟩, desk := (), exchanges := #[[]] }
      [.wish true, .attach (.bus "a") 0 0 {}, .attach (.bus "b") 0 0 {}, .attach (.bus "a") 0 0 {},
        .send 0 "c" .empty, .receive 1 (some 0) false, .receive 2 (some 0) false]).1 =
      [.ok (.made 0), .ok (.made 0), .ok (.made 1), .ok (.made 2), .ok .done, .ok (.received .nothing),
        .ok (.received (.message ⟨"c", .empty, 0⟩))] :=
  (buses_relay _ _ _ (.cons (.wish true) <| .cons (.attach "a" Nat.zero_lt_one {}) <|
    .cons (.attach "b" Nat.zero_lt_one {}) <| .cons (.attach "a" Nat.zero_lt_one {}) <|
    .cons (.send (s := { bus := 0, interest := 0, clock := {} }) rfl rfl "c" .empty) <|
    .cons (.receive (s := { bus := 1, interest := 0, clock := {} }) rfl rfl) <|
    .cons (.receive (s := { bus := 0, interest := 0, clock := {}, waiting := [⟨"c", .empty, 0⟩] }) rfl rfl) <|
    .nil _)).1

end Hub
end PubSub
