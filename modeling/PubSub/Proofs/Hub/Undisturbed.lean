import PubSub.Proofs.Hub.Aside
import PubSub.Proofs.Hub.Bypass

/-!
# What transports leave alone

Whatever a transport is, and whatever it is asked for, it has no hand in brokers and their subscriptions, nor in what
the users of the hub have.

* `Hub.Undisturbed`: these are what they were.

Results:

* `Act.receive_undisturbed`, `Act.send_undisturbed`, `Act.interestChanged_undisturbed`,
  `Hub.undisturbed_closeTransport`: the operations of transports.
* `Act.receive_answers`: a receiver with a deadline is not told to wait.
* `Act.closeBroker_undisturbed`: what closing a broker makes of brokers and subscriptions.
-/

namespace PubSub

variable {η : Type}

namespace Hub

/-- Brokers, subscriptions and what the users have are what they were. -/
structure Undisturbed (h g : Hub η) : Prop where
  brokers : g.brokers = h.brokers
  subscriptions : g.subscriptions = h.subscriptions
  desk : g.desk = h.desk

variable {h f g : Hub η}

theorem Undisturbed.rfl : Undisturbed h h := ⟨Eq.refl _, Eq.refl _, Eq.refl _⟩

theorem Undisturbed.trans (hf : Undisturbed h f) (hg : Undisturbed f g) : Undisturbed h g :=
  ⟨hg.brokers.trans hf.brokers, hg.subscriptions.trans hf.subscriptions, hg.desk.trans hf.desk⟩

theorem Undisturbed.report (hg : Undisturbed h g) (notices : List Notice) : Undisturbed h (g.report notices) :=
  ⟨hg.brokers, hg.subscriptions, hg.desk⟩

theorem Undisturbed.broker (hg : Undisturbed h g) (b : Nat) : g.broker b = h.broker b := by
  rw [Hub.broker, hg.brokers, Hub.broker]

theorem Undisturbed.subscription (hg : Undisturbed h g) (s : Nat) : g.subscription s = h.subscription s := by
  rw [Hub.subscription, hg.subscriptions, Hub.subscription]

theorem undisturbed_setLine (h : Hub η) (t : Nat) (line : Line) : Undisturbed h (h.setLine t line) :=
  ⟨Eq.refl _, Eq.refl _, Eq.refl _⟩

theorem undisturbed_readClock (h : Hub η) (t : Nat) : Undisturbed h (h.readClock t).1 :=
  ⟨Eq.refl _, Eq.refl _, Eq.refl _⟩

theorem undisturbed_deposit (h : Hub η) (t : Nat) (m : Message) : Undisturbed h (h.deposit t m) := by
  rcases deposit_eq h t m with he | ⟨k, box, -, he⟩
  · rw [he]
    exact .rfl
  · rw [he]
    exact (undisturbed_setLine h t _).report _

theorem undisturbed_broadcast (h : Hub η) (k : Nat) (m : Message) : Undisturbed h (h.broadcast k m) := by
  unfold broadcast
  induction h.bus k generalizing h with
  | nil => exact .rfl
  | cons t l ih => exact (undisturbed_deposit h t m).trans (ih _)

theorem undisturbed_closeTransport (h : Hub η) (t : Nat) : Undisturbed h (h.closeTransport t) := by
  unfold closeTransport
  split
  · exact undisturbed_setLine h t _
  · split
    · exact .rfl
    · exact undisturbed_setLine h t _
  · exact ⟨Eq.refl _, Eq.refl _, Eq.refl _⟩
  · exact undisturbed_setLine h t _
  · exact undisturbed_setLine h t _

theorem undisturbed_releaseTransport (h : Hub η) (t : Nat) : Undisturbed h (h.releaseTransport t) := by
  unfold releaseTransport
  split
  · exact ⟨Eq.refl _, Eq.refl _, Eq.refl _⟩
  · exact undisturbed_closeTransport h t
  · exact ⟨Eq.refl _, Eq.refl _, Eq.refl _⟩
  · exact .rfl
  · exact .rfl

end Hub

namespace Act

open Hub

variable {h : Hub η} {t : Nat}

/-! ## Receiving -/

theorem poll_undisturbed (t : Nat) (patient : Bool) (h : Hub η) : Undisturbed h (poll t patient h).2 := by
  have hset := fun line notices => (undisturbed_setLine h t line).report notices
  rw [poll, get_bind_apply]
  cases (h.transport t).line with
  | bus k box =>
    simp only [bind_apply, modify_apply]
    rw [snd_orHalt]
    exact hset _ _
  | multicast s sequence stopped box =>
    simp only [bind_apply, modify_apply]
    rw [snd_orHalt]
    exact hset _ _
  | recorder j closed => exact .rfl
  | replay r =>
    refine journalFile_keeps .rfl fun f => ?_
    simp only [bind_apply, modify_apply]
    rw [snd_orHalt]
    exact hset _ _
  | script s =>
    simp only [bind_apply, modify_apply]
    rw [snd_orHalt]
    exact undisturbed_setLine h t _

theorem receive_undisturbed (t : Nat) (deadline : Option Nat) (still : Bool) (h : Hub η) :
    Undisturbed h (receive t deadline still h).2 :=
  receive_keeps (fun k patient hk => hk.trans (poll_undisturbed t patient k))
    (fun _ _ hk => ⟨hk.brokers, hk.subscriptions, hk.desk⟩) .rfl deadline still

theorem lives_poll (t : Nat) (patient : Bool) : Lives (poll t patient : Act η Offer) :=
  lives_get.bind fun h => by
    cases (h.transport t).line with
    | bus k box => exact (lives_modify _).bind fun _ => lives_orHalt _
    | multicast s sequence stopped box => exact (lives_modify _).bind fun _ => lives_orHalt _
    | recorder j closed => exact lives_fail _
    | replay r => exact (lives_journalFile _).bind fun f => (lives_modify _).bind fun _ => lives_orHalt _
    | script s => exact (lives_modify _).bind fun _ => lives_orHalt _

theorem lives_receive (t : Nat) (deadline : Option Nat) (still : Bool) :
    Lives (receive t deadline still : Act η Reception) := by
  refine (lives_poll t _).bind fun offer => ?_
  cases offer with
  | message m => exact lives_pure _
  | nothing => exact lives_pure _
  | later due =>
    refine .ite (lives_pure _) ?_
    cases due with
    | none =>
      cases deadline with
      | none => exact lives_pure _
      | some d => exact (lives_modify _).bind fun _ => lives_pure _
    | some time =>
      refine .ite ((lives_modify _).bind fun _ => lives_pure _) ((lives_modify _).bind fun _ => ?_)
      refine (lives_poll t _).bind fun offer => ?_
      cases offer <;> exact lives_pure _

/-- A receiver with a deadline, for whom time passes, gets a message, nothing or an error. -/
theorem receive_answers (t deadline : Nat) (h : Hub η) :
    ∃ g, Undisturbed h g ∧ ((∃ m, receive t (some deadline) false h = (.ok (.message m), g)) ∨
      receive t (some deadline) false h = (.ok .nothing, g) ∨
        ∃ e, receive t (some deadline) false h = (.error (.failed e), g)) := by
  have hlives := lives_receive t (some deadline) false h
  have hwaiting : (receive t (some deadline) false h).1 ≠ .ok .waiting := by
    simp only [receive, bind_apply]
    rcases poll t (some deadline).isNone h with ⟨e | offer, k⟩
    · intro he
      cases he
    · cases offer with
      | message m =>
        intro he
        cases he
      | nothing =>
        intro he
        cases he
      | later due =>
        cases due with
        | none =>
          intro he
          cases he
        | some time =>
          simp only [ite_apply, Bool.false_eq_true, if_false]
          split
          · intro he
            cases he
          · -- the transport is asked once more when its message is due
            simp only [bind_apply, sleepUntil, modify_apply]
            rcases poll t (some deadline).isNone { k with now := max k.now time } with ⟨e | offer, k'⟩
            · intro he
              cases he
            · cases offer <;> intro he <;> cases he
  refine ⟨_, receive_undisturbed t (some deadline) false h, ?_⟩
  generalize receive t (some deadline) false h = r at hlives hwaiting
  obtain ⟨(e | _) | (m | _ | _), g⟩ := r
  · exact Or.inr (Or.inr ⟨e, rfl⟩)
  · exact absurd rfl hlives
  · exact Or.inl ⟨m, rfl⟩
  · exact Or.inr (Or.inl rfl)
  · exact absurd rfl hwaiting

/-! ## Sending -/

theorem send_undisturbed (t : Nat) (channel : String) (payload : ByteArray) (h : Hub η) :
    Undisturbed h (send t channel payload h).2 := by
  rw [send, get_bind_apply]
  cases (h.transport t).line with
  | bus k box =>
    simp only [ite_apply]
    split
    · exact .rfl
    · exact (undisturbed_readClock h t).trans (undisturbed_broadcast _ _ _)
  | multicast s sequence stopped box =>
    simp only [ite_apply]
    split
    · exact .rfl
    · rcases sendToGroup_snd t s sequence box channel payload h with hsend | ⟨notices, hsend⟩
      · rw [hsend]
        exact .rfl
      · rw [hsend]
        exact (Undisturbed.rfl.report notices).trans (undisturbed_setLine _ t _)
  | recorder j closed =>
    simp only [ite_apply]
    split
    · exact .rfl
    · obtain ⟨store, j', hsend, -, -⟩ := sendToJournal_snd t j channel payload h
      rw [hsend]
      exact ⟨rfl, rfl, rfl⟩
  | replay r => exact .rfl
  | script s =>
    simp only [bind_apply, modify_apply]
    rw [snd_orHalt]
    exact undisturbed_setLine h t _

theorem publish_undisturbed (b : Nat) (channel : String) (payload : ByteArray) (h : Hub η) :
    Undisturbed h (publish b channel payload h).2 := by
  simp only [publish, bind_apply, openBroker_apply]
  cases (h.broker b).closed with
  | true => exact .rfl
  | false =>
    simp only [Bool.false_eq_true, if_false, ite_apply]
    split
    · exact .rfl
    · exact send_undisturbed _ channel payload h

/-! ## Changes of interest -/

theorem interestChanged_undisturbed (t : Nat) (h : Hub η) : Undisturbed h (interestChanged t h).2 := by
  rcases interestChanged_frame t h with he | ⟨line, notices, -, he⟩
  · rw [he]
    exact .rfl
  · rw [he]
    exact (undisturbed_setLine h t line).report notices

end Act

/-! ## Closing -/

namespace Hub

variable {h g : Hub η}

theorem Undisturbed.modifyBroker (hg : Undisturbed h g) (b : Nat) (change : Broker → Broker) :
    Undisturbed (h.modifyBroker b change) (g.modifyBroker b change) :=
  ⟨congrArg (Array.modify · b change) hg.brokers, hg.subscriptions, hg.desk⟩

theorem Undisturbed.modifySubscription (hg : Undisturbed h g) (s : Nat) (change : Subscription → Subscription) :
    Undisturbed (h.modifySubscription s change) (g.modifySubscription s change) :=
  ⟨hg.brokers, congrArg (Array.modify · s change) hg.subscriptions, hg.desk⟩

theorem Undisturbed.retire (hg : Undisturbed h g) (l : List Nat) : Undisturbed (h.retire l) (g.retire l) := by
  unfold Hub.retire
  induction l generalizing h g with
  | nil => exact hg
  | cons s l ih => exact ih (hg.modifySubscription s _)

end Hub

namespace Act

open Hub

variable {h : Hub η} {b : Nat}

/-- To close an open broker ends its subscriptions, whatever becomes of its transport. -/
theorem closeBroker_undisturbed (hb : h.Attached b) (line : Line) :
    ∃ g, closeBroker b h = (.ok (), g) ∧ Undisturbed (h.ended b line) g := by
  set opened := h.modifyBroker b fun br => { br with closed := true } with hopened
  have hclosed := undisturbed_closeTransport opened (h.lineOf b)
  have hmembers : (opened.closeTransport (h.lineOf b)).members b = h.members b := by
    rw [members, hclosed.broker, hopened, broker_modifyBroker, if_pos ⟨rfl, hb.made⟩]
  have hline : Undisturbed (opened.setLine (h.lineOf b) line) (opened.closeTransport (h.lineOf b)) :=
    ⟨hclosed.brokers, hclosed.subscriptions, hclosed.desk⟩
  refine ⟨_, ?_, ((hline.modifyBroker b fun br => { br with subscriptions := [] }).retire (h.members b)).report
    [.debug "broker: closed"]⟩
  simp only [closeBroker, bind_apply, get_apply, hb.isOpen, Bool.not_false, if_true, modify_apply, report_apply]
  rw [← hmembers]
  rfl

end Act
end PubSub
