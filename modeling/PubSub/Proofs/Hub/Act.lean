import PubSub.Hub.Broker

/-!
# Running actions

An action is run by giving it a hub. The equations here say what comes of each way in which actions are put together,
so that an action is computed on a hub by rewriting.

* `Act.Lives`: an action in which no handler dies.

Results:

* `Act.bind_apply`: an action after another one.
* `Act.attempt_apply`: an action whose error is a value.
* `Act.poll_bus`, `Act.sendToGroup_snd`: asking a place on a bus for a message, and sending to a group.
-/

namespace PubSub.Act

variable {η α β : Type}

theorem bind_apply (x : Act η α) (f : α → Act η β) (h : Hub η) :
    (x >>= f) h =
      match x h with
      | (.ok a, h') => f a h'
      | (.error e, h') => (.error e, h') := by
  simp only [bind, ExceptT.bind, ExceptT.mk, StateT.bind, ExceptT.bindCont]
  rcases x h with ⟨_ | a, h'⟩ <;> rfl

/-- An action after one that has come to a result. -/
theorem bind_ok {x : Act η α} {f : α → Act η β} {h k : Hub η} {a : α} (hx : x h = (.ok a, k)) :
    (x >>= f) h = f a k := by
  rw [bind_apply, hx]

/-- Nothing is done after an action that has come to no result. -/
theorem bind_error {x : Act η α} {f : α → Act η β} {h k : Hub η} {e : Halt} (hx : x h = (.error e, k)) :
    (x >>= f) h = (.error e, k) := by
  rw [bind_apply, hx]

theorem pure_apply (a : α) (h : Hub η) : (pure a : Act η α) h = (.ok a, h) := rfl

theorem get_apply (h : Hub η) : (get : Act η (Hub η)) h = (.ok h, h) := rfl

theorem get_bind_apply (f : Hub η → Act η α) (h : Hub η) : (get >>= f) h = f h h := rfl

theorem modify_apply (f : Hub η → Hub η) (h : Hub η) : (modify f : Act η PUnit) h = (.ok ⟨⟩, f h) := rfl

/-- To forget the value of an action is to leave the hub to what it does. -/
theorem forget_snd (x : Act η α) (h : Hub η) : ((do let _ ← x) h).2 = (x h).2 := by
  rw [bind_apply]
  rcases x h with ⟨_ | a, h'⟩ <;> rfl

theorem fail_apply (e : Error) (h : Hub η) : (fail e : Act η α) h = (.error (.failed e), h) := rfl

theorem report_apply (notices : List Notice) (h : Hub η) : report notices h = (.ok (), h.report notices) := rfl

theorem change_apply (f : Hub η → Hub η × α) (h : Hub η) : change f h = (.ok (f h).2, (f h).1) := rfl

theorem orHalt_ok (a : α) (h : Hub η) : (orHalt (.ok a) : Act η α) h = (.ok a, h) := rfl

theorem orHalt_error (e : Error) (h : Hub η) : (orHalt (.error e) : Act η α) h = (.error (.failed e), h) := rfl

theorem orHalt_apply (r : Except Error α) (h : Hub η) : (orHalt r : Act η α) h = (r.mapError .failed, h) := by
  cases r <;> rfl

theorem snd_orHalt (r : Except Error α) (h : Hub η) : ((orHalt r : Act η α) h).2 = h := by cases r <;> rfl

theorem ite_apply (c : Prop) [Decidable c] (x y : Act η α) (h : Hub η) :
    (if c then x else y) h = if c then x h else y h := by
  split <;> rfl

/-- The outcome of an attempt: an error becomes a value, a death stays one. -/
theorem attempt_apply (x : Act η α) (h : Hub η) :
    attempt x h =
      match x h with
      | (.ok a, h') => (.ok (.ok a), h')
      | (.error (.failed e), h') => (.ok (.error e), h')
      | (.error .died, h') => (.error .died, h') := rfl

/-- A broker that is open is found; one that is closed ends the action. -/
theorem openBroker_apply (b : Nat) (h : Hub η) :
    openBroker b h =
      if (h.broker b).closed then (.error (.failed .closed), h) else (.ok (h.broker b), h) := by
  simp only [openBroker, bind_apply, get_apply, ite_apply, fail_apply, pure_apply]

/-- A transport on a bus that is asked for a message looks into its mailbox. -/
theorem poll_bus {h : Hub η} {t k : Nat} {box : Mailbox} (hline : (h.transport t).line = .bus k box) (patient : Bool) :
    poll t patient h =
      orHalt (box.take (h.wants t)).1
        ((h.setLine t (.bus k (box.take (h.wants t)).2.1)).report (box.take (h.wants t)).2.2) := by
  simp only [poll, bind_apply, get_apply, hline, modify_apply]

/-- A group that takes a message counts it. -/
theorem sendToGroup_snd (u : Nat) (s : MulticastAddress) (sequence : UInt32) (box : Mailbox) (channel : String)
    (payload : ByteArray) (h : Hub η) :
    (sendToGroup u s sequence box channel payload h).2 = h ∨
      ∃ notices, (sendToGroup u s sequence box channel payload h).2 =
        (h.report notices).setLine u (.multicast s (sequence + 1) false box) := by
  simp only [sendToGroup, bind_apply, ite_apply, fail_apply]
  split
  · exact Or.inl rfl
  · cases Wire.encodeMessage sequence channel payload s.datagramSize with
    | none => exact Or.inl rfl
    | some ds =>
      simp only [bind_apply, ite_apply, report_apply, modify_apply]
      split
      · exact Or.inr ⟨_, rfl⟩
      · exact Or.inr ⟨[], rfl⟩

/-! ## Actions that run no handlers -/

/-- An action may fail, but it does not end because a handler has died. -/
def Lives (x : Act η α) : Prop := ∀ h, (x h).1 ≠ .error .died

variable {x : Act η α}

theorem lives_pure (a : α) : Lives (pure a : Act η α) := fun _ he => nomatch he

theorem lives_fail (e : Error) : Lives (fail e : Act η α) := fun _ he => nomatch he

theorem lives_get : Lives (get : Act η (Hub η)) := fun _ he => nomatch he

theorem lives_modify (f : Hub η → Hub η) : Lives (modify f : Act η PUnit) := fun _ he => nomatch he

theorem lives_report (notices : List Notice) : Lives (report notices : Act η Unit) := fun _ he => nomatch he

theorem lives_change (f : Hub η → Hub η × α) : Lives (change f) := fun _ he => nomatch he

theorem lives_orHalt (r : Except Error α) : Lives (orHalt r : Act η α) := by
  cases r with
  | ok a => exact lives_pure a
  | error e => exact lives_fail e

theorem Lives.bind (hx : Lives x) {f : α → Act η β} (hf : ∀ a, Lives (f a)) : Lives (x >>= f) := by
  intro h
  have hlives := hx h
  rw [bind_apply]
  generalize x h = r at hlives
  obtain ⟨e | a, k⟩ := r
  · exact fun he => hlives (congrArg Except.error (Except.error.inj he))
  · exact hf a k

theorem Lives.ite {c : Prop} [Decidable c] {y : Act η α} (hx : Lives x) (hy : Lives y) :
    Lives (if c then x else y) := by
  split
  · exact hx
  · exact hy

/-- An action that is refused under a condition. -/
theorem Lives.guard (hx : Lives x) (c : Prop) [Decidable c] (e : Error) :
    Lives (if c then do (fail e : Act η PUnit); x else x) :=
  .ite ((lives_fail e).bind fun _ => hx) hx

/-- An attempt at an action comes to a result. -/
theorem Lives.attempt (hx : Lives x) (h : Hub η) : ∃ r, attempt x h = (.ok r, (x h).2) := by
  have hlives := hx h
  rw [attempt_apply]
  generalize x h = r at hlives
  obtain ⟨(e | _) | a, k⟩ := r
  · exact ⟨.error e, rfl⟩
  · exact absurd rfl hlives
  · exact ⟨.ok a, rfl⟩

theorem lives_openBroker (b : Nat) : Lives (openBroker b : Act η Broker) :=
  lives_get.bind fun _ => (lives_pure _).guard _ _

end PubSub.Act
