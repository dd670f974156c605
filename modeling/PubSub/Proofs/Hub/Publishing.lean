import PubSub.Proofs.Hub.Wired

/-!
# Publishing on a bus

A message that is published goes to the end of every open mailbox on the publisher's bus whose broker wants it, once,
and nothing else moves.

Results:

* `Hub.waiting_broadcast`: what waits in each mailbox after a message was sent to all on a bus.
* `Act.publish_apply`: what publishing comes to in a wired hub.
-/

namespace PubSub

variable {η : Type}

namespace Hub

/-! ## One mailbox -/

theorem wiring_deposit (h : Hub η) (t : Nat) (m : Message) : (h.deposit t m).wiring = h.wiring := by
  unfold deposit
  split
  · rename_i k box hl
    have hb : h.box t = box := by simp [Hub.box, hl]
    have hp : h.place t = some k := by simp [place, hl]
    rw [wiring_report]
    exact wiring_setLine hp (by simp [hb]) (by simp [hb])
  · rfl

theorem subscription_deposit (h : Hub η) (t : Nat) (m : Message) : (h.deposit t m).subscription = h.subscription := by
  unfold deposit
  split <;> rfl

theorem desk_deposit (h : Hub η) (t : Nat) (m : Message) : (h.deposit t m).desk = h.desk := by
  unfold deposit
  split <;> rfl

/-- Whether a message on a channel is let into a mailbox. -/
def Admits (h : Hub η) (t : Nat) (channel : String) : Prop :=
  (∃ k, h.place t = some k) ∧ (h.box t).closed = false ∧ h.wants t channel = true

open Classical in
theorem waiting_deposit {h : Hub η} (hu : ∀ t, (h.box t).waiting.capacity = none) (t u : Nat) (m : Message) :
    (h.deposit t m).waiting u = h.waiting u ++ if u = t ∧ h.Admits u m.channel then [m] else [] := by
  unfold deposit
  split
  · rename_i k box hl
    have hb : h.box t = box := by simp [Hub.box, hl]
    have hp : h.place t = some k := by simp [place, hl]
    rw [waiting_report, waiting_setLine _ hp]
    by_cases hut : u = t
    · subst hut
      rw [if_pos rfl, Mailbox.toList_put (hb ▸ hu u)]
      simp [waiting, Admits, hb, hp]
    · simp [hut]
  · rename_i hl
    have hp : ¬ ∃ k, h.place t = some k := by
      rintro ⟨k, hk⟩
      exact hl k _ (place_eq_some_iff.1 hk)
    by_cases hut : u = t
    · subst hut
      simp [Admits, hp]
    · simp [hut]

/-! ## All mailboxes on a bus -/

theorem wiring_deposits (l : List Nat) (m : Message) (h : Hub η) :
    (l.foldl (fun h id => h.deposit id m) h).wiring = h.wiring := by
  induction l generalizing h with
  | nil => rfl
  | cons t l ih => exact (ih _).trans (wiring_deposit h t m)

theorem wiring_broadcast (h : Hub η) (k : Nat) (m : Message) : (h.broadcast k m).wiring = h.wiring :=
  wiring_deposits ..

theorem subscription_broadcast (h : Hub η) (k : Nat) (m : Message) :
    (h.broadcast k m).subscription = h.subscription := by
  unfold broadcast
  induction h.bus k generalizing h with
  | nil => rfl
  | cons t l ih => exact (ih _).trans (subscription_deposit h t m)

theorem desk_broadcast (h : Hub η) (k : Nat) (m : Message) : (h.broadcast k m).desk = h.desk := by
  unfold broadcast
  induction h.bus k generalizing h with
  | nil => rfl
  | cons t l ih => exact (ih _).trans (desk_deposit h t m)

theorem admits_of_wiring {g h : Hub η} (e : g.wiring = h.wiring) (t : Nat) (channel : String) :
    g.Admits t channel ↔ h.Admits t channel := by
  simp only [Admits, place_of_wiring e, closed_of_wiring e, wants_of_wiring e]

open Classical in
theorem waiting_deposits {h : Hub η} (hu : ∀ t, (h.box t).waiting.capacity = none) {l : List Nat} (hl : l.Nodup)
    (u : Nat) (m : Message) :
    (l.foldl (fun h id => h.deposit id m) h).waiting u =
      h.waiting u ++ if u ∈ l ∧ h.Admits u m.channel then [m] else [] := by
  induction l generalizing h with
  | nil => simp
  | cons t l ih =>
    have e := wiring_deposit h t m
    obtain ⟨ht, hl⟩ := List.nodup_cons.1 hl
    rw [List.foldl_cons, ih (fun t => by rw [bound_of_wiring e]; exact hu t) hl, waiting_deposit hu]
    simp only [admits_of_wiring e, List.mem_cons]
    by_cases hut : u = t
    · subst hut
      simp [ht]
    · simp [hut]

open Classical in
/-- A message sent to all on a bus goes once to every mailbox there that lets it in. -/
theorem Wired.waiting_broadcast {h : Hub η} (hw : h.Wired) (k u : Nat) (m : Message) :
    (h.broadcast k m).waiting u =
      h.waiting u ++ if h.place u = some k ∧ h.Admits u m.channel then [m] else [] := by
  rw [broadcast, waiting_deposits hw.unbounded (hw.bus_nodup k)]
  simp only [hw.mem_bus]

/-! ## The publisher's clock -/

theorem waiting_readClock (h : Hub η) (t u : Nat) : (h.readClock t).1.waiting u = h.waiting u := by
  simp only [waiting, box, line_readClock]

end Hub

namespace Act

open Hub

/-- The message that a broker sends: it carries the reading of the clock of the broker's transport. -/
def stamped (h : Hub η) (b : Nat) (channel : String) (payload : ByteArray) : Message :=
  ⟨channel, payload, (h.transport (h.lineOf b)).clock.next⟩

/-- What publishing comes to: a closed broker and an empty channel name are refused, and otherwise the message goes to
all on the bus. -/
theorem publish_apply {h : Hub η} (hw : h.Wired) {b k : Nat} (hb : b < h.brokers.size)
    (hk : h.place (h.lineOf b) = some k) (channel : String) (payload : ByteArray) :
    publish b channel payload h =
      if (h.broker b).closed then (.error (.failed .closed), h)
      else if channel.isEmpty then (.error (.failed (.invalidArgument .noChannel)), h)
      else (.ok (), (h.readClock (h.lineOf b)).1.broadcast k (stamped h b channel payload)) := by
  simp only [publish, bind_apply, openBroker_apply, ite_apply, fail_apply]
  by_cases hc : (h.broker b).closed = true
  · simp [hc]
  · rw [Bool.not_eq_true] at hc
    have hl : (h.transport (h.broker b).transport).line = .bus k (h.box (h.lineOf b)) := place_eq_some_iff.1 hk
    have ho : (h.box (h.lineOf b)).closed = false := hw.open_box b ⟨hb, hc⟩
    simp only [hc, Bool.false_eq_true, if_false, send, bind_apply, get_apply, hl, ho, ite_apply, change_apply,
      modify_apply]
    rfl

end Act
end PubSub
