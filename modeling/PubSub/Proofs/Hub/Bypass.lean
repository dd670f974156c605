import PubSub.Proofs.Hub.Carriage
import PubSub.Proofs.Hub.Recording
import PubSub.Proofs.Hub.Replaying
import PubSub.Proofs.Journal.Spent

/-!
# What a transport undergoes while others are called

A call to one transport may reach another one in two ways only: a message comes into its mailbox, if that is open, and
files are written.

* `Line.Supplied`: what may become of a line that is not asked.
* `Hub.Bypasses`: what may become of a transport.
* `Carriage.Call.target`: the transport that a call is made to.

Results:

* `Act.receive_keeps`: what waiting for a message keeps.
* `Carriage.bypasses_perform`: a call to another transport, or to none, bypasses a transport.
-/

namespace PubSub

variable {η : Type}

/-- What may become of a line that is not asked: it stays what it is, or messages come into its open mailbox. -/
def Line.Supplied (old new : Line) : Prop :=
  new = old ∨ ∃ k box box', old = .bus k box ∧ new = .bus k box' ∧ box.closed = false ∧ box'.closed = false

theorem Line.Supplied.trans {a b c : Line} (h : Supplied a b) (h' : Supplied b c) : Supplied a c := by
  rcases h with rfl | ⟨k, x, y, rfl, rfl, hx, hy⟩
  · exact h'
  · rcases h' with rfl | ⟨k', y', z, hb, rfl, -, hz⟩
    · exact Or.inr ⟨k, x, y, rfl, rfl, hx, hy⟩
    · cases hb
      exact Or.inr ⟨k, x, z, rfl, rfl, hx, hz⟩

namespace Hub

/-- `g` is what `h` becomes when transport `t` is not asked for anything. -/
structure Bypasses (t : Nat) (h g : Hub η) : Prop where
  store : h.store.Later g.store
  line : (h.transport t).line.Supplied (g.transport t).line
  size : h.transports.size ≤ g.transports.size

variable {h f g : Hub η} {t u : Nat}

theorem Bypasses.rfl : Bypasses t h h := ⟨.rfl, Or.inl (Eq.refl _), Nat.le_refl _⟩

theorem Bypasses.trans (hf : Bypasses t h f) (hg : Bypasses t f g) : Bypasses t h g :=
  ⟨hf.store.trans hg.store, hf.line.trans hg.line, Nat.le_trans hf.size hg.size⟩

/-- A change that leaves the transports as they are. -/
theorem bypasses_of_transports (ht : g.transports = h.transports) (hs : h.store.Later g.store) : Bypasses t h g :=
  ⟨hs, Or.inl (by rw [transport, transport, ht]), Nat.le_of_eq (congrArg Array.size ht).symm⟩

theorem bypasses_setLine (hu : u ≠ t) (line : Line) : Bypasses t h (h.setLine u line) :=
  ⟨.rfl, Or.inl (by rw [transport_setLine, if_neg fun he => hu he.1]), Nat.le_of_eq (size_setLine ..).symm⟩

theorem Bypasses.report (hg : Bypasses t h g) (notices : List Notice) : Bypasses t h (g.report notices) :=
  hg.trans (bypasses_of_transports (Eq.refl _) .rfl)

theorem bypasses_addTransport (ht : t < h.transports.size) (tr : Transport) : Bypasses t h (h.addTransport tr).1 :=
  ⟨.rfl, Or.inl (by rw [transport_addTransport, if_neg (Nat.ne_of_lt ht)]),
    Nat.le_of_lt (Nat.lt_of_lt_of_eq (Nat.lt_succ_self _) (size_addTransport h tr).symm)⟩

/-! ## Messages that come in -/

theorem bypasses_deposit (h : Hub η) (u : Nat) (m : Message) : Bypasses t h (h.deposit u m) := by
  rcases deposit_eq h u m with he | ⟨k, box, hline, he⟩
  · rw [he]
    exact .rfl
  · rw [he]
    refine Bypasses.report ?_ _
    by_cases hu : u = t
    · subst hu
      by_cases hlt : u < h.transports.size
      · refine ⟨.rfl, ?_, Nat.le_of_eq (size_setLine ..).symm⟩
        rw [line_setLine hlt, hline]
        cases hclosed : box.closed with
        | true =>
          have hsame : (box.put (h.wants u) m).1 = box := by
            unfold Mailbox.put
            rw [hclosed]
            split <;> rfl
          exact Or.inl (by rw [hsame])
        | false => exact Or.inr ⟨k, _, _, Eq.refl _, Eq.refl _, hclosed, (Mailbox.closed_put ..).trans hclosed⟩
      · rw [transport_of_size_le (Nat.not_lt.1 hlt)] at hline
        cases hline
    · exact bypasses_setLine hu _

theorem bypasses_broadcast (h : Hub η) (k : Nat) (m : Message) : Bypasses t h (h.broadcast k m) := by
  unfold broadcast
  induction h.bus k generalizing h with
  | nil => exact .rfl
  | cons u l ih => exact (bypasses_deposit h u m).trans (ih _)

theorem bypasses_readClock (h : Hub η) (u : Nat) : Bypasses t h (h.readClock u).1 :=
  ⟨.rfl, Or.inl (line_readClock h u t), Nat.le_of_eq (size_readClock h u).symm⟩

/-- The end of another transport. -/
theorem bypasses_closeTransport (hu : u ≠ t) : Bypasses t h (h.closeTransport u) := by
  unfold closeTransport
  split
  · exact bypasses_setLine hu _
  · split
    · exact .rfl
    · exact bypasses_setLine hu _
  · rename_i j closed hline
    have hstored : Bypasses t h { h with store := (j.flush h.store).2.2 } :=
      bypasses_of_transports (Eq.refl _) (j.later_flush h.store)
    exact (hstored.trans (bypasses_setLine hu _)).report _
  · exact bypasses_setLine hu _
  · exact bypasses_setLine hu _

theorem bypasses_releaseTransport (hu : u ≠ t) : Bypasses t h (h.releaseTransport u) := by
  unfold releaseTransport
  split
  · exact bypasses_of_transports (Eq.refl _) .rfl
  · exact bypasses_closeTransport hu
  · rename_i j closed hline
    exact bypasses_of_transports (Eq.refl _) (j.later_release h.store)
  · exact .rfl
  · exact .rfl

end Hub

namespace Act

open Hub

variable {h : Hub η} {t u : Nat}

/-! ## Sending -/

/-- A journal is written, and nothing else, whether it takes the message or not. -/
theorem sendToJournal_snd (u : Nat) (j : Journal) (channel : String) (payload : ByteArray) (h : Hub η) :
    ∃ store j', (sendToJournal u j channel payload h).2 =
        { (h.readClock u).1 with store }.setLine u (.recorder j' false) ∧
      h.store.Later store ∧ (j.Written h.store → j'.Written store) := by
  have hlater : h.store.Later (j.call h.store ⟨(h.transport u).clock.next, channel, payload⟩).2.2 :=
    j.later_write h.store _ channel payload
  have hwritten : j.Written h.store → (j.call h.store ⟨(h.transport u).clock.next, channel, payload⟩).2.1.Written
      (j.call h.store ⟨(h.transport u).clock.next, channel, payload⟩).2.2 := fun hj => hj.write _ channel payload
  rw [sendToJournal_apply]
  split
  · rename_i hr
    rw [hr] at hlater hwritten
    exact ⟨_, _, rfl, hlater, hwritten⟩
  · rename_i j' store hr
    rw [hr] at hlater hwritten
    rw [snd_orHalt]
    exact ⟨_, _, rfl, hlater.trans (j'.later_flush store), fun hj => (hwritten hj).flush⟩

theorem sendToJournal_bypasses (hu : u ≠ t) (j : Journal) (channel : String) (payload : ByteArray) :
    Bypasses t h (sendToJournal u j channel payload h).2 := by
  obtain ⟨store, j', hsend, hlater, -⟩ := sendToJournal_snd u j channel payload h
  have hstored : Bypasses t h { (h.readClock u).1 with store } :=
    (bypasses_readClock h u).trans (bypasses_of_transports (Eq.refl _) hlater)
  rw [hsend]
  exact hstored.trans (bypasses_setLine hu _)

theorem send_bypasses (hu : u ≠ t) (channel : String) (payload : ByteArray) :
    Bypasses t h (send u channel payload h).2 := by
  simp only [send, bind_apply, get_apply]
  cases (h.transport u).line with
  | bus k box =>
    simp only [ite_apply]
    split
    · exact .rfl
    · exact (bypasses_readClock h u).trans (bypasses_broadcast _ _ _)
  | multicast s sequence stopped box =>
    simp only [ite_apply]
    split
    · exact .rfl
    · rcases sendToGroup_snd u s sequence box channel payload h with hsend | ⟨notices, hsend⟩
      · rw [hsend]
        exact .rfl
      · rw [hsend]
        exact (Bypasses.rfl.report notices).trans (bypasses_setLine hu _)
  | recorder j closed =>
    simp only [ite_apply]
    split
    · exact .rfl
    · exact sendToJournal_bypasses hu j channel payload
  | replay r => exact .rfl
  | script s =>
    simp only [bind_apply, modify_apply]
    rw [snd_orHalt]
    exact bypasses_setLine hu _

/-! ## Receiving -/

/-- A mailbox that is closed gives nothing out. -/
theorem poll_closed {k : Nat} {box : Mailbox} (hline : (h.transport t).line = .bus k box) (closed : box.closed = true)
    (patient : Bool) : poll t patient h = (.error (.failed .closed), h) := by
  rw [poll_bus hline, Mailbox.take_of_closed closed, orHalt_error, ← hline, setLine_self]
  rfl

theorem poll_bypasses (hu : u ≠ t) (patient : Bool) : Bypasses t h (poll u patient h).2 := by
  have hset := fun line notices => (bypasses_setLine (h := h) hu line).report notices
  rw [poll, bind_apply, get_apply]
  simp only
  cases (h.transport u).line with
  | bus k box =>
    simp only [bind_apply, modify_apply]
    rw [snd_orHalt]
    exact hset _ _
  | multicast s sequence stopped box =>
    simp only [bind_apply, modify_apply]
    rw [snd_orHalt]
    exact hset _ _
  | recorder j closed => exact .rfl
  | replay r =>
    refine journalFile_keeps .rfl fun f => ?_
    simp only [bind_apply, modify_apply]
    rw [snd_orHalt]
    exact hset _ _
  | script s =>
    simp only [bind_apply, modify_apply]
    rw [snd_orHalt]
    exact bypasses_setLine hu _

/-- What is kept by asking a transport, and while time passes, is kept by waiting for a message. -/
theorem receive_keeps {P : Hub η → Prop} (hpoll : ∀ h patient, P h → P (poll u patient h).2)
    (hnow : ∀ (h : Hub η) now, P h → P { h with now }) (hp : P h) (deadline : Option Nat) (still : Bool) :
    P (receive u deadline still h).2 := by
  have hfirst := hpoll h deadline.isNone hp
  simp only [receive, bind_apply]
  generalize poll u deadline.isNone h = r at hfirst
  obtain ⟨e | offer, k⟩ := r
  · exact hfirst
  · cases offer with
    | message m => exact hfirst
    | nothing => exact hfirst
    | later due =>
      simp only [ite_apply]
      split
      · exact hfirst
      · cases due with
        | none =>
          cases deadline with
          | none => exact hfirst
          | some d => exact hnow _ _ hfirst
        | some time =>
          simp only [ite_apply]
          split
          · exact hnow _ _ hfirst
          · have hslept : P { k with now := max k.now time } := hnow _ _ hfirst
            have hagain := hpoll _ deadline.isNone hslept
            simp only [bind_apply, sleepUntil, modify_apply]
            generalize poll u deadline.isNone { k with now := max k.now time } = r at hagain
            obtain ⟨e | offer, k'⟩ := r
            · exact hagain
            · cases offer <;> exact hagain

theorem receive_bypasses (hu : u ≠ t) (deadline : Option Nat) (still : Bool) :
    Bypasses t h (receive u deadline still h).2 :=
  receive_keeps (fun _ patient hg => hg.trans (poll_bypasses hu patient))
    (fun _ _ hg => hg.trans (bypasses_of_transports rfl .rfl)) Bypasses.rfl deadline still

theorem interestChanged_bypasses (hu : u ≠ t) : Bypasses t h (interestChanged u h).2 := by
  have hset := fun line notices => (bypasses_setLine (h := h) hu line).report notices
  rw [interestChanged, bind_apply, get_apply]
  simp only
  cases (h.transport u).line with
  | bus k box => exact hset _ _
  | multicast s sequence stopped box => exact hset _ _
  | recorder j closed => exact .rfl
  | replay r => exact journalFile_keeps .rfl fun f => hset _ _
  | script s => exact bypasses_setLine hu _

/-! ## Opening -/

theorem openBus_bypasses (ht : t < h.transports.size) (exchange : Nat) (key : String) (interest : Nat) (clock : Clock) :
    Bypasses t h (openBus exchange key interest clock h).2 := by
  have hbus : Bypasses t h (h.busOf exchange key).1 ∧ (h.busOf exchange key).1.transports = h.transports := by
    unfold busOf
    split <;> exact ⟨bypasses_of_transports rfl .rfl, rfl⟩
  have hadd := bypasses_addTransport (h := (h.busOf exchange key).1) (t := t) (by rw [hbus.2]; exact ht)
    { line := .bus (h.busOf exchange key).2 {}, interest, clock }
  exact (hbus.1.trans hadd).trans (bypasses_of_transports rfl .rfl)

theorem openGroup_bypasses (ht : t < h.transports.size) (s : MulticastAddress) (interest : Nat) (clock : Clock) :
    Bypasses t h (openGroup s interest clock h).2 := by
  have hadd : ∀ k : Hub η, k.transports = h.transports → k.store = h.store →
      Bypasses t h (k.addTransport { line := .multicast s 0 false {}, interest, clock }).1 := fun k hk hs =>
    (bypasses_of_transports hk (hs ▸ .rfl)).trans (bypasses_addTransport (by rw [hk]; exact ht) _)
  simp only [openGroup, bind_apply, ite_apply, report_apply, change_apply]
  split <;> split <;> exact hadd _ rfl rfl

theorem openJournal_apply (path : ByteArray) (mode : Journal.Mode) (h : Hub η) :
    openJournal path mode h = orHalt ((Journal.openFile h.store path mode).1.mapError .io)
      ({ h with store := (Journal.openFile h.store path mode).2.1 }.report
        (Journal.openFile h.store path mode).2.2) := rfl

theorem openFile_bypasses (ht : t < h.transports.size) (a : FileAddress) (interest : Nat) (clock : Clock) :
    Bypasses t h (openFile a interest clock h).2 := by
  by_cases hmode : a.mode = .read
  · rcases openFile_reading h hmode interest clock with ⟨file, c, f, started, notices, -, -, -, -, -, hmade⟩ |
      ⟨-, e, notices, hfailed⟩
    · have hreported : Bypasses t h { h with notices } := bypasses_of_transports rfl .rfl
      rw [hmade]
      exact hreported.trans (bypasses_addTransport (h := { h with notices }) ht _)
    · rw [hfailed]
      exact bypasses_of_transports rfl .rfl
  · have hstored : Bypasses t h ({ h with store := (Journal.openFile h.store a.path a.mode).2.1 }.report
        (Journal.openFile h.store a.path a.mode).2.2) :=
      bypasses_of_transports rfl (Journal.later_openFile h.store a.path a.mode).1
    rw [openFile_recorder hmode, bind_apply, openJournal_apply]
    cases (Journal.openFile h.store a.path a.mode).1 with
    | error e => exact hstored
    | ok j =>
      set k := ({ h with store := (Journal.openFile h.store a.path a.mode).2.1 } : Hub η).report
        (Journal.openFile h.store a.path a.mode).2.2 with hk
      have hopened := hstored.report [.debug s!"file: opened {Journal.pathText a.path} in {a.mode.name} mode"]
      exact hopened.trans (bypasses_addTransport (h := k.report
        [.debug s!"file: opened {Journal.pathText a.path} in {a.mode.name} mode"]) ht _)

end Act

namespace Carriage

open Hub Act

variable {h : Hub η} {t : Nat}

/-- The transport that a call is made to. -/
def Call.target : Call → Option Nat
  | .send t _ _ | .receive t _ _ | .interestChanged t | .close t | .release t => some t
  | _ => none

/-- What is done with a transport is all that a call does. -/
theorem snd_perform_bind {α : Type} (act : Act η α) (value : α → Value) (h : Hub η) :
    ((act >>= fun a => pure (value a)) h).2 = (act h).2 := by
  rw [bind_apply]
  rcases act h with ⟨_ | a, k⟩ <;> rfl

/-- A call to another transport, or to none, bypasses a transport. -/
theorem bypasses_perform (ht : t < h.transports.size) {call : Call} (hcall : call.target ≠ some t) :
    Bypasses t h (call.perform h).2 := by
  have htarget : ∀ {u}, call.target = some u → u ≠ t := fun hu he => hcall (hu.trans (congrArg some he))
  cases call with
  | wish all => exact bypasses_of_transports rfl .rfl
  | insert i id p => exact bypasses_of_transports rfl .rfl
  | remove i id => exact bypasses_of_transports rfl .rfl
  | removeBus exchange key => exact bypasses_of_transports rfl .rfl
  | attach a exchange i clock =>
    rw [Call.perform, snd_perform_bind]
    cases a with
    | bus key => exact openBus_bypasses ht exchange key i clock
    | multicast s => exact openGroup_bypasses ht s i clock
    | file a => exact openFile_bypasses ht a i clock
  | send u channel payload =>
    rw [Call.perform, snd_perform_bind]
    exact send_bypasses (htarget rfl) channel payload
  | receive u wait still =>
    rw [Call.perform, get_bind_apply, snd_perform_bind]
    exact receive_bypasses (htarget rfl) _ still
  | interestChanged u =>
    rw [Call.perform, snd_perform_bind]
    exact interestChanged_bypasses (htarget rfl)
  | close u => exact bypasses_closeTransport (htarget rfl)
  | release u => exact bypasses_releaseTransport (htarget rfl)

end Carriage
end PubSub
