import PubSub.Proofs.Hub.Undisturbed

/-!
# Whom transports serve

A transport serves the interest that it was made for, and what is wanted changes only when an interest is changed: no
other call has a say in either. A change of an interest is complete when those who serve it have been told.

* `Hub.retune`: a change of an interest, and transports that are told of it.
* `Carriage.Call.steers`: whether a call changes an interest.
* `Hub.Retuned`: what becomes of a hub when calls are made to transports and interests are changed.

Results:

* `Act.send_roster`, `Act.receive_roster`, `Act.interestChanged_roster`, `Hub.roster_closeTransport`: calls to
  transports leave the roster as it is.
* `Act.openTransport_cases`: a new transport serves the interest that it was made for.
* `Carriage.unsteered_perform`: calls that change no interest leave transports unsteered.
-/

namespace PubSub

open Carriage

variable {η : Type}

/-! ## Calls to transports -/

namespace Hub

theorem roster_deposit (h : Hub η) (t : Nat) (m : Message) : (h.deposit t m).roster = h.roster := by
  rcases deposit_eq h t m with he | ⟨k, box, -, he⟩ <;> rw [he]
  exact roster_setLine h t _

theorem roster_broadcast (h : Hub η) (k : Nat) (m : Message) : (h.broadcast k m).roster = h.roster := by
  unfold broadcast
  induction h.bus k generalizing h with
  | nil => rfl
  | cons t l ih => exact (ih _).trans (roster_deposit h t m)

theorem roster_readClock (h : Hub η) (t : Nat) : (h.readClock t).1.roster = h.roster :=
  roster_of_wiring (wiring_readClock h t)

theorem roster_closeTransport (h : Hub η) (t : Nat) : (h.closeTransport t).roster = h.roster := by
  unfold closeTransport
  split
  · exact roster_setLine h t _
  · split
    · rfl
    · exact roster_setLine h t _
  · exact roster_setLine { h with store := _ } t _
  · exact roster_setLine h t _
  · exact roster_setLine h t _

theorem roster_releaseTransport (h : Hub η) (t : Nat) : (h.releaseTransport t).roster = h.roster := by
  unfold releaseTransport
  split
  · rfl
  · exact roster_closeTransport h t
  · rfl
  · rfl
  · rfl

end Hub

namespace Act

open Hub

theorem send_roster (t : Nat) (channel : String) (payload : ByteArray) (h : Hub η) :
    (send t channel payload h).2.roster = h.roster := by
  simp only [send, bind_apply, get_apply]
  cases (h.transport t).line with
  | bus k box =>
    simp only [ite_apply]
    split
    · rfl
    · exact (roster_broadcast _ _ _).trans (roster_readClock h t)
  | multicast s sequence stopped box =>
    simp only [ite_apply]
    split
    · rfl
    · rcases sendToGroup_snd t s sequence box channel payload h with hsend | ⟨notices, hsend⟩ <;> rw [hsend]
      exact roster_setLine (h.report notices) t _
  | recorder j closed =>
    simp only [ite_apply]
    split
    · rfl
    · obtain ⟨store, j', hsend, -, -⟩ := sendToJournal_snd t j channel payload h
      rw [hsend]
      exact (roster_setLine { (h.readClock t).1 with store } t _).trans (roster_readClock h t)
  | replay r => rfl
  | script s =>
    simp only [bind_apply, modify_apply]
    rw [snd_orHalt]
    exact roster_setLine h t _

theorem poll_roster (t : Nat) (patient : Bool) (h : Hub η) : (poll t patient h).2.roster = h.roster := by
  have hset := fun line notices => (roster_report (h.setLine t line) notices).trans (roster_setLine h t line)
  rw [poll, get_bind_apply]
  cases (h.transport t).line with
  | bus k box =>
    simp only [bind_apply, modify_apply]
    rw [snd_orHalt]
    exact hset _ _
  | multicast s sequence stopped box =>
    simp only [bind_apply, modify_apply]
    rw [snd_orHalt]
    exact hset _ _
  | recorder j closed => rfl
  | replay r =>
    refine journalFile_keeps (P := fun g => g.roster = h.roster) rfl fun f => ?_
    simp only [bind_apply, modify_apply]
    rw [snd_orHalt]
    exact hset _ _
  | script s =>
    simp only [bind_apply, modify_apply]
    rw [snd_orHalt]
    exact roster_setLine h t _

theorem receive_roster (t : Nat) (deadline : Option Nat) (still : Bool) (h : Hub η) :
    (receive t deadline still h).2.roster = h.roster :=
  receive_keeps (P := fun g => g.roster = h.roster) (fun g patient hg => (poll_roster t patient g).trans hg)
    (fun _ _ hg => hg) rfl deadline still

theorem publish_roster (b : Nat) (channel : String) (payload : ByteArray) (h : Hub η) :
    (publish b channel payload h).2.roster = h.roster := by
  simp only [publish, bind_apply, openBroker_apply]
  cases (h.broker b).closed with
  | true => rfl
  | false =>
    simp only [Bool.false_eq_true, if_false, ite_apply]
    split
    · rfl
    · exact send_roster _ channel payload h

theorem interestChanged_roster (t : Nat) (h : Hub η) : (interestChanged t h).2.roster = h.roster := by
  rcases interestChanged_frame t h with he | ⟨line, notices, -, he⟩ <;> rw [he]
  exact roster_setLine h t line

end Act

/-! ## What is wanted -/

namespace Hub

variable {f h g : Hub η} {t : Nat}

theorem Unsteered.rfl : Unsteered h h :=
  ⟨Nat.le_refl _, fun _ _ => Eq.refl _, Nat.le_refl _, fun _ _ => Eq.refl _⟩

theorem Unsteered.trans (hf : Unsteered h f) (hg : Unsteered f g) : Unsteered h g where
  interests := Nat.le_trans hf.interests hg.interests
  interest i hi := (hg.interest i (Nat.lt_of_lt_of_le hi hf.interests)).trans (hf.interest i hi)
  transports := Nat.le_trans hf.transports hg.transports
  serves t ht := (hg.serves t (Nat.lt_of_lt_of_le ht hf.transports)).trans (hf.serves t ht)

/-- Interests and transports are those that there were. -/
theorem unsteered_of_tables (hinterests : g.interests = h.interests) (htransports : g.transports = h.transports) :
    Unsteered h g := by
  have htransport : g.transport = h.transport := by unfold transport; rw [htransports]
  have hinterest : g.interest = h.interest := by unfold Hub.interest; rw [hinterests]
  exact ⟨Nat.le_of_eq (congrArg Array.size hinterests).symm, fun i _ => congrFun hinterest i,
    Nat.le_of_eq (congrArg Array.size htransports).symm, fun t _ => by rw [htransport]⟩

/-- A transport of which nobody has changed the interest is asked for what it was asked for. -/
theorem Unsteered.wants (hg : Unsteered h g) (ht : t < h.transports.size)
    (hi : (h.transport t).interest < h.interests.size) : g.wants t = h.wants t := by
  rw [Hub.wants, hg.serves t ht, hg.interest _ hi]
  rfl

end Hub

/-! ## New transports -/

namespace Act

open Hub

/-- On an address a new transport is opened, which serves the interest that is asked for, or none is. -/
theorem openTransport_cases (h : Hub η) (a : Address) (exchange i : Nat) (clock : Clock) :
    (∃ e g, openTransport a exchange i clock h = (.error e, g) ∧ Undisturbed h g ∧ g.interests = h.interests ∧
        g.transports = h.transports) ∨
      ∃ g tr, openTransport a exchange i clock h = (.ok h.transports.size, g) ∧ Undisturbed h g ∧
        g.interests = h.interests ∧ g.transports = h.transports.push tr ∧ tr.interest = i := by
  cases a with
  | bus key =>
    simp only [openTransport, openBus, bind_apply, change_apply, modify_apply, pure_apply, busOf]
    cases (h.exchange exchange).lookup key with
    | some k => exact Or.inr ⟨_, _, rfl, ⟨rfl, rfl, rfl⟩, rfl, rfl, rfl⟩
    | none => exact Or.inr ⟨_, _, rfl, ⟨rfl, rfl, rfl⟩, rfl, rfl, rfl⟩
  | multicast s =>
    simp only [openTransport, openGroup, bind_apply, ite_apply, report_apply, change_apply]
    split <;> split <;> exact Or.inr ⟨_, _, rfl, ⟨rfl, rfl, rfl⟩, rfl, rfl, rfl⟩
  | file a =>
    by_cases hmode : a.mode = .read
    · rcases openFile_reading h hmode i clock with ⟨file, c, f, started, notices, -, -, -, -, -, he⟩ |
        ⟨-, e, notices, he⟩ <;> rw [openTransport, he]
      · exact Or.inr ⟨_, _, rfl, ⟨rfl, rfl, rfl⟩, rfl, rfl, rfl⟩
      · exact Or.inl ⟨_, _, rfl, ⟨rfl, rfl, rfl⟩, rfl, rfl⟩
    · rw [openTransport, openFile_recorder hmode, bind_apply, openJournal_apply]
      cases (Journal.openFile h.store a.path a.mode).1 with
      | error e => exact Or.inl ⟨_, _, rfl, ⟨rfl, rfl, rfl⟩, rfl, rfl⟩
      | ok j => exact Or.inr ⟨_, _, rfl, ⟨rfl, rfl, rfl⟩, rfl, rfl, rfl⟩

theorem openAddress_eq (h : Hub η) (a : Address) (exchange : Nat) (clock : Clock) (capacity : Option Nat) :
    openAddress a exchange clock capacity h =
      match openTransport a exchange h.interests.size clock (h.addInterest .nothing).1 with
      | (.error e, g) => (.error e, g)
      | (.ok t, g) =>
        addBroker t h.interests.size capacity (g.report [.debug s!"broker: opened {a.scheme} provider"]) := by
  rw [openAddress, bind_apply]
  show (openTransport a exchange h.interests.size clock >>= _) (h.addInterest .nothing).1 = _
  rw [bind_apply]
  rcases openTransport a exchange h.interests.size clock (h.addInterest .nothing).1 with ⟨_ | _, g⟩ <;> rfl

end Act

namespace Hub

theorem unsteered_openTransport (h : Hub η) (a : Address) (exchange i : Nat) (clock : Clock) :
    Unsteered h (Act.openTransport a exchange i clock h).2 := by
  rcases Act.openTransport_cases h a exchange i clock with ⟨e, g, he, -, hinterests, htransports⟩ |
    ⟨g, tr, he, -, hinterests, htransports, -⟩ <;> rw [he]
  · exact unsteered_of_tables hinterests htransports
  · exact (unsteered_addTransport h tr).trans (unsteered_of_tables hinterests htransports)

/-- To close a broker changes no interest. -/
theorem unsteered_closeBroker (h : Hub η) (b : Nat) : Unsteered h (Act.closeBroker b h).2 := by
  cases hc : (h.broker b).closed with
  | true =>
    rw [Act.closeBroker_closed hc]
    exact .rfl
  | false =>
    have hshut : Unsteered h (h.modifyBroker b fun br => { br with closed := true }) :=
      unsteered_of_tables (Eq.refl _) (Eq.refl _)
    have hclosed := hshut.trans (unsteered_of_roster (roster_closeTransport _ (h.lineOf b)))
    have hretired : ∀ (k : Hub η) l,
        Unsteered k (retire l (k.modifyBroker b fun br => { br with subscriptions := [] })) := fun k l => by
        rw [retire_eq]
        exact unsteered_of_tables (Eq.refl _) (Eq.refl _)
    simp only [Act.closeBroker, Act.bind_apply, Act.get_apply, hc, Bool.not_false, if_true, Act.modify_apply,
      Act.report_apply]
    exact (hclosed.trans (hretired _ _)).trans (unsteered_of_tables (Eq.refl _) (Eq.refl _))

end Hub

namespace Carriage

open Hub

/-- Whether a call changes an interest. -/
def Call.steers : Call → Bool
  | .insert .. | .remove .. => true
  | _ => false

variable {h : Hub η}

theorem unsteered_perform {call : Call} (hcall : call.steers = false) : Unsteered h (call.perform h).2 := by
  cases call with
  | wish all => exact unsteered_addInterest h _
  | insert => cases hcall
  | remove => cases hcall
  | attach a exchange i clock =>
    rw [Call.perform, snd_perform_bind]
    exact unsteered_openTransport h a exchange i clock
  | removeBus exchange key => exact unsteered_of_tables rfl rfl
  | send t channel payload =>
    rw [Call.perform, snd_perform_bind]
    exact unsteered_of_roster (Act.send_roster t channel payload h)
  | receive t wait still =>
    rw [Call.perform, Act.get_bind_apply, snd_perform_bind]
    exact unsteered_of_roster (Act.receive_roster t _ still h)
  | interestChanged t =>
    rw [Call.perform, snd_perform_bind]
    exact unsteered_of_roster (Act.interestChanged_roster t h)
  | close t => exact unsteered_of_roster (roster_closeTransport h t)
  | release t => exact unsteered_of_roster (roster_releaseTransport h t)

end Carriage

/-! ## Changes of which transports are told -/

namespace Hub

/-- Tells some transports that their interest has changed, one after another. -/
def tell (h : Hub η) (told : List Nat) : Hub η := told.foldl (fun g t => (Act.interestChanged t g).2) h

/-- Changes an interest and tells some transports. -/
def retune (h : Hub η) (i : Nat) (change : Interest → Interest) (told : List Nat) : Hub η :=
  (h.modifyInterest i change).tell told

/-- What becomes of a hub, which is `start` at first, when exchanges are made, time passes, calls are made to transports
and interests are changed, where all are told of each change who serve the interest. The calls are such as `may` holds
of, and after each of them, and each change, `meanwhile` holds. -/
inductive Retuned (may : Call → Prop) (meanwhile : Hub η → Prop) (start : Hub η) : Hub η → Prop
  | start : Retuned may meanwhile start start
  | addExchange {h : Hub η} (before : Retuned may meanwhile start h) : Retuned may meanwhile start h.addExchange.1
  | pass {h : Hub η} (before : Retuned may meanwhile start h) (now : Nat) :
    Retuned may meanwhile start { h with now := max h.now now }
  | call {h : Hub η} (before : Retuned may meanwhile start h) (call : Call) (allowed : may call)
    (after : meanwhile (call.perform h).2) : Retuned may meanwhile start (call.perform h).2
  | retune {h : Hub η} (before : Retuned may meanwhile start h) (i : Nat) (change : Interest → Interest)
    (told : List Nat) (all : ∀ t < h.transports.size, (h.transport t).interest = i → t ∈ told)
    (after : meanwhile (h.retune i change told)) : Retuned may meanwhile start (h.retune i change told)

/-- Some calls that may be made, when what has to hold meanwhile always does. -/
theorem Retuned.calls {may : Call → Prop} {meanwhile : Hub η → Prop} {start h : Hub η}
    (before : Retuned may meanwhile start h) {calls : List Call} (allowed : ∀ call ∈ calls, may call)
    (always : ∀ h, meanwhile h) : Retuned may meanwhile start (Carriage.run h calls).2 := by
  induction calls generalizing h with
  | nil => exact before
  | cons call calls ih =>
    exact ih (before.call call (allowed call List.mem_cons_self) (always _)) fun c hc =>
      allowed c (List.mem_cons_of_mem _ hc)

end Hub
end PubSub
