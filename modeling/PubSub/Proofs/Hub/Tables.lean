import Mathlib.Tactic.Common
import PubSub.Hub.Broker

/-!
# Looking up entries of a hub

The tables of a hub after a change of one of them, entry by entry.

* `Hub.place`, `Hub.box`: the bus on which a transport is, and the mailbox that it has there.
* `Hub.waiting`: the messages in that mailbox.
* `Hub.roster`: who has subscribed to what, whatever the transports are.
* `Hub.wiring`: all that stays as it is while messages move.

Results:

* `Hub.transport_setLine`, `Hub.transport_readClock`, `Hub.subscription_modifySubscription`, `Hub.broker_modifyBroker`,
  `Hub.interest_modifyInterest`: a change of one entry leaves the others as they are.
* `Hub.wiring_setLine`, `Hub.wiring_setBacklog`: new messages in a mailbox or a backlog leave the wiring as it is.
-/

namespace PubSub.Hub

variable {η : Type}

theorem getD_modify {α : Type} (xs : Array α) (f : α → α) (d : α) (i j : Nat) :
    (xs.modify i f).getD j d = if i = j ∧ j < xs.size then f (xs.getD j d) else xs.getD j d := by
  simp only [Array.getD_eq_getD_getElem?, Array.getElem?_modify]
  by_cases hij : i = j
  · by_cases hj : j < xs.size <;> simp [hij, hj]
  · simp [hij]

theorem getD_push {α : Type} (xs : Array α) (x d : α) (i : Nat) :
    (xs.push x).getD i d = if i = xs.size then x else xs.getD i d := by
  simp only [Array.getD_eq_getD_getElem?, Array.getElem?_push]
  split <;> simp_all

/-! ## One entry changed -/

/-- What a change at one place of a table keeps there is kept everywhere. -/
theorem kept_of_ite {α β : Type} (f : β → α) {table : Nat → β} {x : β} {i : Nat} (j : Nat)
    (hf : f x = f (table i) := by rfl) : f (if j = i then x else table j) = f (table j) := by
  split
  · rename_i hji
    rw [hf, hji]
  · rfl

theorem transport_setLine (h : Hub η) (t u : Nat) (line : Line) :
    (h.setLine t line).transport u =
      if t = u ∧ u < h.transports.size then { h.transport u with line } else h.transport u :=
  getD_modify ..

theorem size_setLine (h : Hub η) (t : Nat) (line : Line) : (h.setLine t line).transports.size = h.transports.size :=
  Array.size_modify ..

/-- To put a line where it is changes nothing. -/
theorem setLine_self (h : Hub η) (t : Nat) : h.setLine t (h.transport t).line = h := by
  have hsame : (h.transports.modify t fun tr => { tr with line := (h.transport t).line }) = h.transports := by
    refine Array.ext (Array.size_modify ..) fun i _ hi => ?_
    rw [Array.getElem_modify]
    split
    · rename_i hti
      subst hti
      simp [Hub.transport, Array.getD_eq_getD_getElem?, Array.getElem?_eq_getElem hi]
    · rfl
  rw [setLine, hsame]

theorem transport_readClock (h : Hub η) (t u : Nat) :
    (h.readClock t).1.transport u =
      if t = u ∧ u < h.transports.size then { h.transport u with clock := (h.transport t).clock.read.2 }
      else h.transport u :=
  getD_modify ..

theorem line_readClock (h : Hub η) (t u : Nat) : ((h.readClock t).1.transport u).line = (h.transport u).line := by
  rw [transport_readClock]
  split <;> rfl

theorem size_readClock (h : Hub η) (t : Nat) : (h.readClock t).1.transports.size = h.transports.size :=
  Array.size_modify ..

theorem subscription_modifySubscription (h : Hub η) (s u : Nat) (f : Subscription → Subscription) :
    (h.modifySubscription s f).subscription u =
      if s = u ∧ u < h.subscriptions.size then f (h.subscription u) else h.subscription u :=
  getD_modify ..

theorem broker_modifyBroker (h : Hub η) (b c : Nat) (f : Broker → Broker) :
    (h.modifyBroker b f).broker c = if b = c ∧ c < h.brokers.size then f (h.broker c) else h.broker c :=
  getD_modify ..

theorem interest_modifyInterest (h : Hub η) (i j : Nat) (f : Interest → Interest) :
    (h.modifyInterest i f).interest j =
      if i = j ∧ j < h.interests.size then f (h.interest j) else h.interest j :=
  getD_modify ..

theorem subscription_addSubscription (h : Hub η) (s : Subscription) (u : Nat) :
    (h.addSubscription s).1.subscription u = if u = h.subscriptions.size then s else h.subscription u :=
  getD_push ..

theorem transport_addTransport (h : Hub η) (tr : Transport) (u : Nat) :
    (h.addTransport tr).1.transport u = if u = h.transports.size then tr else h.transport u :=
  getD_push ..

theorem size_addTransport (h : Hub η) (tr : Transport) :
    (h.addTransport tr).1.transports.size = h.transports.size + 1 :=
  Array.size_push ..

/-- A subscription that was never made has nothing waiting. -/
theorem subscription_of_size_le {h : Hub η} {s : Nat} (hs : h.subscriptions.size ≤ s) :
    h.subscription s = default := by
  simp [subscription, Array.getD_eq_getD_getElem?, hs]

theorem transport_of_size_le {h : Hub η} {t : Nat} (ht : h.transports.size ≤ t) : h.transport t = default := by
  simp [transport, Array.getD_eq_getD_getElem?, ht]

theorem broker_of_size_le {h : Hub η} {b : Nat} (hb : h.brokers.size ≤ b) : h.broker b = default := by
  simp [broker, Array.getD_eq_getD_getElem?, hb]

/-! ## Places on buses -/

/-- The bus on which a transport has its place; none for a transport of another kind. -/
def place (h : Hub η) (t : Nat) : Option Nat :=
  match (h.transport t).line with
  | .bus k _ => some k
  | _ => none

/-- The mailbox of a transport that has its place on a bus. -/
def box (h : Hub η) (t : Nat) : Mailbox :=
  match (h.transport t).line with
  | .bus _ box => box
  | _ => {}

/-- The messages that wait in the mailbox of a transport, oldest first. -/
def waiting (h : Hub η) (t : Nat) : List Message := (h.box t).waiting.toList

theorem place_eq_some_iff {h : Hub η} {t k : Nat} :
    h.place t = some k ↔ (h.transport t).line = .bus k (h.box t) := by
  unfold place box
  cases (h.transport t).line <;> simp

theorem lt_size_of_place {h : Hub η} {t k : Nat} (ht : h.place t = some k) : t < h.transports.size := by
  by_contra hlt
  rw [place, transport_of_size_le (by omega)] at ht
  cases ht

/-! ## Who has subscribed to what -/

/-- Which transports, subscriptions and brokers there are, and whom they serve. What the transports are made of, whether
a dispatch is in progress, the bounds of backlogs and the messages that wait anywhere are no part of it. -/
structure Roster where
  /-- How many interests, transports, subscriptions and brokers there are. -/
  sizes : Nat × Nat × Nat × Nat
  interest : Nat → Interest
  /-- Of each transport: the interest that it serves. -/
  serves : Nat → Nat
  /-- Of each subscription: its number with its broker, its pattern, whether it is active or spoiled. -/
  subscription : Nat → Nat × Pattern × Bool × Bool
  broker : Nat → Broker

/-- The roster of a hub. -/
def roster (h : Hub η) : Roster where
  sizes := (h.interests.size, h.transports.size, h.subscriptions.size, h.brokers.size)
  interest := h.interest
  serves t := (h.transport t).interest
  subscription s :=
    let u := h.subscription s
    (u.id, u.pattern, u.active, u.spoiled)
  broker b := { h.broker b with busy := false }

theorem roster_report (h : Hub η) (notices : List Notice) : (h.report notices).roster = h.roster := rfl

/-- A transport serves whom it served, whatever becomes of its line. -/
theorem roster_setLine (h : Hub η) (t : Nat) (line : Line) : (h.setLine t line).roster = h.roster := by
  have hserves : ∀ u, ((h.setLine t line).transport u).interest = (h.transport u).interest := fun u => by
    rw [transport_setLine]
    split <;> rfl
  simp only [roster, hserves]
  congr 1
  simp [setLine]

/-! ## What stays as it is while messages move -/

/-- Which transports, subscriptions and brokers there are, and how they hang together. Whether a dispatch is in
progress, the bounds of backlogs and the messages that wait anywhere are no part of it. -/
structure Wiring where
  sizes : Nat × Nat × Nat × Nat × Nat
  interest : Nat → Interest
  bus : Nat → List Nat
  exchange : Nat → List (String × Nat)
  /-- Of each transport: its bus, whether its mailbox is closed and bounded, and the interest that it serves. -/
  transport : Nat → Option Nat × Bool × Option Nat × Nat
  /-- Of each subscription: its number with its broker, its pattern, whether it is active or spoiled. -/
  subscription : Nat → Nat × Pattern × Bool × Bool
  broker : Nat → Broker

/-- The wiring of a hub. -/
def wiring (h : Hub η) : Wiring where
  sizes := (h.interests.size, h.transports.size, h.subscriptions.size, h.brokers.size, h.buses.size)
  interest := h.interest
  bus := h.bus
  exchange := h.exchange
  transport t := (h.place t, (h.box t).closed, (h.box t).waiting.capacity, (h.transport t).interest)
  subscription s :=
    let u := h.subscription s
    (u.id, u.pattern, u.active, u.spoiled)
  broker b := { h.broker b with busy := false }

theorem roster_of_wiring {θ : Type} {h : Hub η} {g : Hub θ} (e : g.wiring = h.wiring) : g.roster = h.roster := by
  have hsizes := congrArg Wiring.sizes e
  have htransport := congrArg Wiring.transport e
  simp only [wiring, Prod.mk.injEq] at hsizes
  simp only [roster, Roster.mk.injEq, Prod.mk.injEq]
  exact ⟨⟨hsizes.1, hsizes.2.1, hsizes.2.2.1, hsizes.2.2.2.1⟩, congrArg Wiring.interest e,
    funext fun t => congrArg (fun w => (w t).2.2.2) htransport, congrArg Wiring.subscription e,
    congrArg Wiring.broker e⟩

theorem wiring_report (h : Hub η) (notices : List Notice) : (h.report notices).wiring = h.wiring := rfl

theorem waiting_report (h : Hub η) (notices : List Notice) (t : Nat) : (h.report notices).waiting t = h.waiting t := rfl

theorem wiring_setLine {h : Hub η} {t k : Nat} {box : Mailbox} (ht : h.place t = some k)
    (hc : box.closed = (h.box t).closed) (hu : box.waiting.capacity = (h.box t).waiting.capacity) :
    (h.setLine t (.bus k box)).wiring = h.wiring := by
  have hlt := lt_size_of_place ht
  have hl := place_eq_some_iff.1 ht
  have htr : ∀ u, ((h.setLine t (.bus k box)).place u, ((h.setLine t (.bus k box)).box u).closed,
      ((h.setLine t (.bus k box)).box u).waiting.capacity, ((h.setLine t (.bus k box)).transport u).interest) =
        (h.place u, (h.box u).closed, (h.box u).waiting.capacity, (h.transport u).interest) := by
    intro u
    simp only [place, Hub.box, transport_setLine]
    by_cases htu : t = u
    · subst htu
      simp [hlt, hl, hc, hu]
    · simp [htu]
  simp only [wiring, htr]
  congr 1
  simp [setLine]

/-- Puts a backlog in the place of the one that a subscription has. -/
abbrev setBacklog (h : Hub η) (s : Nat) (q : Backlog) : Hub η :=
  h.modifySubscription s fun u => { u with backlog := q }

theorem subscription_setBacklog (h : Hub η) (s u : Nat) (q : Backlog) :
    (h.setBacklog s q).subscription u =
      if s = u ∧ u < h.subscriptions.size then { h.subscription u with backlog := q } else h.subscription u :=
  subscription_modifySubscription ..

/-- Only a subscription that was made has something to take out. -/
theorem lt_size_of_pop {h : Hub η} {s : Nat} {m : Message} {rest : Backlog}
    (hp : (h.subscription s).backlog.pop = some (m, rest)) : s < h.subscriptions.size := by
  by_contra hle
  rw [subscription_of_size_le (Nat.le_of_not_lt hle)] at hp
  cases hp

theorem subscription_setBacklog_of_pop {h : Hub η} {s : Nat} {m : Message} {rest : Backlog}
    (hp : (h.subscription s).backlog.pop = some (m, rest)) (u : Nat) :
    (h.setBacklog s rest).subscription u =
      if u = s then { h.subscription s with backlog := rest } else h.subscription u := by
  rw [subscription_setBacklog]
  by_cases hus : u = s
  · subst hus
    rw [if_pos ⟨rfl, lt_size_of_pop hp⟩, if_pos rfl]
  · rw [if_neg fun hc => hus hc.1.symm, if_neg hus]

theorem wiring_setBacklog (h : Hub η) (s : Nat) (q : Backlog) : (h.setBacklog s q).wiring = h.wiring := by
  simp only [wiring, subscription_setBacklog]
  congr 1
  · simp [modifySubscription]
  · funext u
    split <;> rfl

theorem wiring_setCapacity (h : Hub η) (s : Nat) (capacity : Option Nat) :
    (h.setCapacity s capacity).wiring = h.wiring := by
  simp only [wiring, setCapacity, subscription_modifySubscription]
  congr 1
  · simp [modifySubscription]
  · funext u
    split <;> rfl

theorem wiring_setBusy (h : Hub η) (b : Nat) (busy : Bool) :
    (h.modifyBroker b fun br => { br with busy }).wiring = h.wiring := by
  simp only [wiring, broker_modifyBroker]
  congr 1
  · simp [modifyBroker]
  · funext c
    split <;> rfl

theorem wiring_readClock (h : Hub η) (t : Nat) : (h.readClock t).1.wiring = h.wiring := by
  have hserves : ∀ u, ((h.readClock t).1.transport u).interest = (h.transport u).interest := fun u => by
    rw [transport_readClock]
    split <;> rfl
  simp only [wiring, place, box, line_readClock, hserves]
  congr 1
  simp [readClock]

theorem waiting_setLine {h : Hub η} {t k : Nat} (box : Mailbox) (ht : h.place t = some k) (u : Nat) :
    (h.setLine t (.bus k box)).waiting u = if u = t then box.waiting.toList else h.waiting u := by
  have hlt := lt_size_of_place ht
  simp only [waiting, Hub.box, transport_setLine]
  by_cases hu : t = u
  · subst hu
    simp [hlt]
  · simp [hu, Ne.symm hu]

end PubSub.Hub
