import Mathlib.Data.List.Induction
import PubSub.Proofs.Hub.Bypass
import PubSub.Proofs.Hub.Reeling

/-!
# Transports that have been closed

Nothing comes out of a transport that has been closed, and nothing goes out by it, whatever is done with it and with
others. Its signal stays down, but for one case: a replay that is told of a change of interest raises its signal again
when there is a record ahead that is wanted now.

* `Line.Fit`, `Hub.Fit`: a line, or a transport, that can be called; `Line.Ended`, `Hub.Ended`: one that has been
  closed.
* `Carriage.Stirred`: a transport was told of a change when it had a wanted record ahead.

Results:

* `Hub.fit_openTransport`: a transport that has been opened can be called; `Hub.Fit.run`: it can be called after any
  calls that do not give it up.
* `Hub.Fit.ended`: a transport is ended when it is closed; `Hub.Ended.run`: it stays so, and when its signal is up.
* `Hub.Ended.send`, `Hub.Ended.receive`, `Hub.Ended.interestChanged`, `Hub.Ended.close`: what becomes of calls then.
* `Hub.closed_for_good`: what can be said of a transport that has been opened, called and closed.
-/

namespace PubSub

open Carriage

variable {η : Type}

/-! ## Lines -/

namespace Line

/-- A line that can be called; `replays` says whether it replays a file. -/
inductive Fit (s : Store) : Bool → Line → Prop
  | bus (k : Nat) (box : Mailbox) : Fit s false (.bus k box)
  | multicast {settings : MulticastAddress} {sequence : UInt32} {stopped : Bool} {box : Mailbox} (idle : box.Idle)
    (shut : stopped = true → box.closed = true) : Fit s false (.multicast settings sequence stopped box)
  | recorder {j : Journal} (written : j.Written s) (closed : Bool) : Fit s false (.recorder j closed)
  | replay {r : Replay} {file : Nat} (reads : r.Reads file) (readable : (s.node file).kind ≠ .directory) :
    Fit s true (.replay r)

/-- A line that has been closed. -/
inductive Ended (s : Store) : Bool → Line → Prop
  | bus (k : Nat) {box : Mailbox} (shut : box.Shut) : Ended s false (.bus k box)
  | multicast {settings : MulticastAddress} {sequence : UInt32} {box : Mailbox} (shut : box.Shut) :
    Ended s false (.multicast settings sequence true box)
  | recorder {j : Journal} (written : j.Written s) (spent : j.Spent s) : Ended s false (.recorder j true)
  | replay {r : Replay} {file : Nat} (reads : r.Reads file) (readable : (s.node file).kind ≠ .directory)
    (closed : r.closed = true) : Ended s true (.replay r)

variable {s s' : Store} {replays : Bool} {line line' : Line}

theorem Fit.later (hf : Fit s replays line) (hs : s.Later s') : Fit s' replays line := by
  cases hf with
  | bus k box => exact .bus k box
  | multicast idle shut => exact .multicast idle shut
  | recorder written closed => exact .recorder (written.later hs) closed
  | replay reads readable => exact .replay reads (hs _ readable ▸ readable)

theorem Ended.later (he : Ended s replays line) (hs : s.Later s') : Ended s' replays line := by
  cases he with
  | bus k shut => exact .bus k shut
  | multicast shut => exact .multicast shut
  | recorder written spent => exact .recorder (written.later hs) (spent.later hs)
  | replay reads readable closed => exact .replay reads (hs _ readable ▸ readable) closed

/-- Messages that come in leave a line that can be called. -/
theorem Fit.supplied (hf : Fit s replays line) (hl : line.Supplied line') : Fit s replays line' := by
  rcases hl with rfl | ⟨k, box, box', rfl, rfl, -⟩
  · exact hf
  · cases hf
    exact .bus k box'

/-- No message comes into a mailbox that has been closed. -/
theorem Ended.supplied (he : Ended s replays line) (hl : line.Supplied line') : line' = line := by
  rcases hl with hl | ⟨k, box, box', rfl, rfl, hopen, -⟩
  · exact hl
  · cases he with
    | bus k shut => exact Bool.noConfusion (hopen.symm.trans shut.closed)

/-- Only a replay can have its signal up when it has been closed. -/
theorem Ended.low (he : Ended s false line) : line.signal.raised = false := by
  cases he with
  | bus k shut => exact shut.low
  | multicast shut => exact shut.low
  | recorder written spent => rfl

end Line

namespace Hub

/-- A transport can be called. -/
structure Fit (t : Nat) (replays : Bool) (h : Hub η) : Prop where
  made : t < h.transports.size
  line : (h.transport t).line.Fit h.store replays

/-- A transport has been closed. -/
structure Ended (t : Nat) (replays : Bool) (h : Hub η) : Prop where
  made : t < h.transports.size
  line : (h.transport t).line.Ended h.store replays

variable {h g : Hub η} {t : Nat} {replays : Bool}

theorem Fit.bypassed (hf : Fit t replays h) (hg : Bypasses t h g) : Fit t replays g :=
  ⟨Nat.lt_of_lt_of_le hf.made hg.size, (hf.line.supplied hg.line).later hg.store⟩

theorem Ended.bypassed (he : Ended t replays h) (hg : Bypasses t h g) :
    Ended t replays g ∧ g.signal t = h.signal t := by
  have hline := he.line.supplied hg.line
  refine ⟨⟨Nat.lt_of_lt_of_le he.made hg.size, ?_⟩, congrArg Line.signal hline⟩
  rw [hline]
  exact he.line.later hg.store

theorem fit_setLine (ht : t < h.transports.size) {line : Line} (hl : line.Fit h.store replays) :
    Fit t replays (h.setLine t line) :=
  ⟨by rw [size_setLine]; exact ht, by rw [line_setLine ht]; exact hl⟩

theorem Fit.setLine (hf : Fit t replays h) {line : Line} (hl : line.Fit h.store replays) (notices : List Notice) :
    Fit t replays ((h.setLine t line).report notices) :=
  (fit_setLine hf.made hl).bypassed (Bypasses.rfl.report notices)

theorem ended_setLine (ht : t < h.transports.size) {line : Line} (hl : line.Ended h.store replays) :
    Ended t replays (h.setLine t line) :=
  ⟨by rw [size_setLine]; exact ht, by rw [line_setLine ht]; exact hl⟩

theorem signal_setLine (ht : t < h.transports.size) (line : Line) : (h.setLine t line).signal t = line.signal := by
  rw [signal, line_setLine ht]

/-! ## Calls to a transport -/

theorem Fit.send (hf : Fit t replays h) (channel : String) (payload : ByteArray) :
    Fit t replays (Act.send t channel payload h).2 := by
  have hline := hf.line
  simp only [Act.send, Act.bind_apply, Act.get_apply]
  cases hl : (h.transport t).line <;> rw [hl] at hline <;> cases hline
  case bus k box =>
    simp only [Act.ite_apply]
    split
    · exact hf
    · exact hf.bypassed ((bypasses_readClock h t).trans (bypasses_broadcast _ _ _))
  case multicast settings sequence stopped box idle shut =>
    simp only [Act.ite_apply]
    split
    · exact hf
    · rcases Act.sendToGroup_snd t settings sequence box channel payload h with hsend | ⟨notices, hsend⟩
      · rw [hsend]
        exact hf
      · rw [hsend]
        exact fit_setLine (h := h.report notices) hf.made (.multicast idle (absurd · Bool.false_ne_true))
  case recorder j closed written =>
    simp only [Act.ite_apply]
    split
    · exact hf
    · obtain ⟨store, j', hsend, -, hwritten⟩ := Act.sendToJournal_snd t j channel payload h
      have hmade : t < (h.readClock t).1.transports.size := Nat.lt_of_lt_of_eq hf.made (size_readClock h t).symm
      rw [hsend]
      exact fit_setLine (h := { (h.readClock t).1 with store }) hmade (.recorder (hwritten written) false)
  case replay => exact hf

/-- A replay that can be called reads a file that can be read. -/
theorem exists_journalFile {r : Replay} {file : Nat} (reads : r.Reads file)
    (readable : (h.store.node file).kind ≠ .directory) :
    ∃ f, (h.store.node file).read = .ok f ∧ Act.journalFile r.journal h = (.ok f, h) := by
  obtain ⟨f, hf⟩ := (Node.read_iff _).2 readable
  exact ⟨f, hf, Act.journalFile_of_reads reads hf⟩

theorem Fit.poll (hf : Fit t replays h) (patient : Bool) : Fit t replays (Act.poll t patient h).2 := by
  have hline := hf.line
  rw [Act.poll, Act.bind_apply, Act.get_apply]
  simp only
  cases hl : (h.transport t).line <;> rw [hl] at hline <;> cases hline
  case bus k box =>
    simp only [Act.bind_apply, Act.modify_apply]
    rw [Act.snd_orHalt]
    exact hf.setLine (.bus k _) _
  case multicast settings sequence stopped box idle shut =>
    simp only [Act.bind_apply, Act.modify_apply]
    rw [Act.snd_orHalt]
    exact hf.setLine (.multicast (Mailbox.idle_take idle _) fun hs => (Mailbox.closed_take ..).trans (shut hs)) _
  case recorder => exact hf
  case replay r file readable reads =>
    obtain ⟨f, -, hread⟩ := exists_journalFile reads readable
    simp only [Act.bind_apply, hread, Act.modify_apply]
    rw [Act.snd_orHalt]
    exact hf.setLine (.replay (reads.take f _ _) readable) _

theorem Fit.interestChanged (hf : Fit t replays h) : Fit t replays (Act.interestChanged t h).2 := by
  have hline := hf.line
  rw [Act.interestChanged, Act.bind_apply, Act.get_apply]
  simp only
  cases hl : (h.transport t).line <;> rw [hl] at hline <;> cases hline
  case bus k box => exact hf.setLine (.bus k _) _
  case multicast settings sequence stopped box idle shut =>
    exact hf.setLine (.multicast (Mailbox.idle_retain idle _) fun hs => (Mailbox.closed_retain box).trans (shut hs)) _
  case recorder => exact hf
  case replay r file readable reads =>
    obtain ⟨f, -, hread⟩ := exists_journalFile reads readable
    obtain ⟨⟨c, up, hrefresh⟩, -, -⟩ := Replay.refresh_of_reads reads f (h.wants t)
    simp only [Act.bind_apply, hread, Act.modify_apply, hrefresh]
    exact hf.setLine (.replay ⟨c, rfl⟩ readable) _

/-- A transport is ended when it is closed, and its signal is down. -/
theorem Fit.ended (hf : Fit t replays h) :
    Ended t replays (h.closeTransport t) ∧ ((h.closeTransport t).signal t).raised = false := by
  have hline := hf.line
  have hset : ∀ {line : Line}, line.Ended h.store replays → line.signal.raised = false →
      Ended t replays (h.setLine t line) ∧ ((h.setLine t line).signal t).raised = false := fun hl hlow =>
    ⟨ended_setLine hf.made hl, by rw [signal_setLine hf.made]; exact hlow⟩
  rw [closeTransport]
  cases hl : (h.transport t).line <;> rw [hl] at hline <;> cases hline
  case bus k box => exact hset (.bus k box.shut_close) box.shut_close.low
  case multicast settings sequence stopped box idle shut =>
    cases stopped with
    | true =>
      refine ⟨⟨hf.made, ?_⟩, ?_⟩
      · simp only [if_true, hl]
        exact .multicast ⟨idle, shut rfl⟩
      · simp only [if_true, signal, hl]
        exact idle.low
    | false => exact hset (.multicast box.shut_close) box.shut_close.low
  case recorder j closed written =>
    have hended := ended_setLine (h := { h with store := (j.flush h.store).2.2 }) (t := t) hf.made
      (.recorder written.flush (Journal.spent_flush written))
    exact ⟨⟨hended.made, hended.line⟩, hended.line.low⟩
  case replay r file readable reads => exact hset (.replay reads readable rfl) (Signal.raised_lower _)

/-! ## Calls to a transport that has been closed -/

theorem Ended.fit (he : Ended t replays h) : Fit t replays h := by
  refine ⟨he.made, ?_⟩
  have hline := he.line
  generalize (h.transport t).line = line at hline
  cases hline with
  | bus k shut => exact .bus k _
  | multicast shut => exact .multicast shut.toIdle fun _ => shut.closed
  | recorder written spent => exact .recorder written true
  | replay reads readable closed => exact .replay reads readable

/-- Nothing is sent by a transport that has been closed. -/
theorem Ended.send (he : Ended t replays h) (channel : String) (payload : ByteArray) :
    Act.send t channel payload h = (.error (.failed .closed), h) := by
  have hline := he.line
  simp only [Act.send, Act.bind_apply, Act.get_apply]
  cases hl : (h.transport t).line <;> rw [hl] at hline <;> cases hline
  case bus k box shut => simp only [shut.closed, if_true, Act.bind_apply, Act.fail_apply]
  case multicast => rfl
  case recorder => rfl
  case replay r file readable reads closed => simp only [closed, if_true, Act.fail_apply]

theorem Ended.poll (he : Ended t replays h) (patient : Bool) : ∃ e, Act.poll t patient h = (.error (.failed e), h) := by
  have hline := he.line
  have hsame := setLine_self h t
  cases hl : (h.transport t).line <;> rw [hl] at hline hsame <;> cases hline
  case bus k box shut => exact ⟨.closed, Act.poll_closed hl shut.closed patient⟩
  case multicast settings sequence box shut =>
    refine ⟨.closed, ?_⟩
    simp only [Act.poll, Act.bind_apply, Act.get_apply, hl, Mailbox.take_of_closed shut.closed, Act.modify_apply,
      Act.orHalt_error, hsame]
    rfl
  case recorder j written spent =>
    refine ⟨.writeOnly, ?_⟩
    simp only [Act.poll, Act.bind_apply, Act.get_apply, hl, Act.fail_apply]
  case replay r file readable reads closed =>
    obtain ⟨f, -, hread⟩ := exists_journalFile reads readable
    refine ⟨.closed, ?_⟩
    simp only [Act.poll, Act.bind_apply, Act.get_apply, hl, hread, Replay.take, closed, if_true, Act.modify_apply,
      Act.orHalt_error, hsame]
    rfl

/-- Nothing is received from a transport that has been closed. -/
theorem Ended.receive (he : Ended t replays h) (deadline : Option Nat) (still : Bool) :
    ∃ e, Act.receive t deadline still h = (.error (.failed e), h) := by
  obtain ⟨e, hpoll⟩ := he.poll deadline.isNone
  refine ⟨e, ?_⟩
  rw [Act.receive, Act.bind_error hpoll]

/-- A transport that has been closed and is told of a change stays closed. Its signal is up then if a record is ahead
that is wanted now. -/
theorem Ended.interestChanged (he : Ended t replays h) :
    ∃ line notices, Act.interestChanged t h = (.ok (), { h.setLine t line with notices }) ∧
      line.Ended h.store replays ∧
      (line.signal.raised = true ↔ ∃ m ∈ h.rest t, h.wants t m.channel = true) := by
  have hline := he.line
  have hsame := setLine_self h t
  have hrest : h.rest t = (h.transport t).line.rest h.store := rfl
  rw [Act.interestChanged, Act.bind_apply, Act.get_apply, hrest]
  simp only
  -- only a replay has records ahead
  have hnone : ∀ {line : Line}, line.Ended h.store false →
      (line.signal.raised = true ↔ ∃ m ∈ ([] : List Message), h.wants t m.channel = true) := fun hl =>
    iff_of_false (by rw [hl.low]; exact Bool.false_ne_true) (by simp)
  cases hl : (h.transport t).line <;> rw [hl] at hline hsame <;> cases hline
  case bus k box shut => exact ⟨_, _, rfl, .bus k (shut.retain _), hnone (.bus k (shut.retain _))⟩
  case multicast settings sequence box shut =>
    exact ⟨_, _, rfl, .multicast (shut.retain _), hnone (.multicast (shut.retain _))⟩
  case recorder j written spent =>
    refine ⟨_, h.notices, ?_, .recorder written spent, hnone (.recorder written spent)⟩
    rw [hsame]
    rfl
  case replay r file readable reads closed =>
    obtain ⟨f, hf, hread⟩ := exists_journalFile reads readable
    obtain ⟨⟨c, up, hrefresh⟩, -, hup⟩ := Replay.refresh_of_reads reads f (h.wants t)
    refine ⟨.replay (r.refresh f (h.wants t)).1, (h.report (r.refresh f (h.wants t)).2).notices, ?_, ?_, hup.trans ?_⟩
    · simp only [Act.bind_apply, hread, Act.modify_apply]
      rfl
    · rw [hrefresh]
      exact .replay ⟨c, rfl⟩ readable closed
    · obtain ⟨c₀, hc₀⟩ := reads
      simp only [Line.rest, hc₀, hf, Replay.ahead, Replay.wanted, ne_eq, List.filter_eq_nil_iff, List.mem_map]
      simp [Journal.Record.message]

/-- Closing a transport once more does nothing more than to take its signal down. -/
theorem Ended.close (he : Ended t replays h) :
    ∃ line notices, h.closeTransport t = { h.setLine t line with notices } := by
  have hline := he.line
  have hsame := setLine_self h t
  rw [closeTransport]
  cases hl : (h.transport t).line <;> rw [hl] at hline hsame <;> cases hline
  case bus k box shut => exact ⟨_, h.notices, rfl⟩
  case multicast settings sequence box shut => exact ⟨_, h.notices, by rw [hsame]; rfl⟩
  case recorder j written spent =>
    have hflush : j.flush h.store = ((j.flush h.store).1, j, h.store) := Prod.ext rfl (spent h.store .rfl)
    simp only
    rw [hflush]
    exact ⟨.recorder j true, _, rfl⟩
  case replay r file readable reads closed => exact ⟨_, h.notices, rfl⟩

end Hub

/-! ## Runs -/

namespace Carriage

variable {h : Hub η} {t : Nat} {calls : List Call} {call : Call}

/-- A call that brings the signal of transport `t` up to date, whatever it was before. -/
def Call.settles (t : Nat) : Call → Bool
  | .interestChanged u | .close u => u == t
  | _ => false

/-- Transport `t` was told of a change when a record was ahead that was wanted, and was neither told of another one nor
closed since. -/
def Stirred (h : Hub η) (t : Nat) (calls : List Call) : Prop :=
  ∃ early late, calls = early ++ .interestChanged t :: late ∧ (∀ call ∈ late, call.settles t = false) ∧
    ∃ m ∈ (run h early).2.rest t, (run h early).2.wants t m.channel = true

theorem not_stirred (htold : .interestChanged t ∉ calls) : ¬ Stirred h t calls := by
  rintro ⟨early, late, rfl, -⟩
  exact htold (List.mem_append_right _ List.mem_cons_self)

theorem stirred_concat :
    Stirred h t (calls ++ [call]) ↔
      (call = .interestChanged t ∧ ∃ m ∈ (run h calls).2.rest t, (run h calls).2.wants t m.channel = true) ∨
        (call.settles t = false ∧ Stirred h t calls) := by
  constructor
  · rintro ⟨early, late, hcalls, hlate, hahead⟩
    rcases List.eq_nil_or_concat late with rfl | ⟨late, last, rfl⟩
    · obtain ⟨rfl, hcall⟩ := List.append_inj' hcalls rfl
      exact Or.inl ⟨(List.cons.inj hcall).1, hahead⟩
    · rw [List.concat_eq_append] at hcalls hlate
      rw [← List.cons_append, ← List.append_assoc] at hcalls
      obtain ⟨rfl, hcall⟩ := List.append_inj' hcalls rfl
      cases hcall
      exact Or.inr ⟨hlate _ (by simp), early, late, rfl, fun c hc => hlate c (by simp [hc]), hahead⟩
  · rintro (⟨rfl, hahead⟩ | ⟨hcall, early, late, rfl, hlate, hahead⟩)
    · exact ⟨calls, [], rfl, fun _ hc => (List.not_mem_nil hc).elim, hahead⟩
    · refine ⟨early, late ++ [call], by simp, fun c hc => ?_, hahead⟩
      rcases List.mem_append.1 hc with hc | hc
      · exact hlate c hc
      · exact List.mem_singleton.1 hc ▸ hcall

end Carriage

namespace Hub

variable {h g : Hub η} {t : Nat} {replays : Bool} {calls : List Call} {call : Call}

/-- A call leaves a transport that can be called, unless it gives it up. -/
theorem Fit.perform (hf : Fit t replays h) (hcall : call ≠ .release t) : Fit t replays (call.perform h).2 := by
  by_cases htarget : call.target = some t
  · cases call with
    | send u channel payload =>
      cases htarget
      rw [Call.perform, snd_perform_bind]
      exact hf.send channel payload
    | receive u wait still =>
      cases htarget
      rw [Call.perform, Act.get_bind_apply, snd_perform_bind]
      exact Act.receive_keeps (fun _ patient hk => hk.poll patient) (fun _ _ hk => ⟨hk.made, hk.line⟩) hf _ still
    | interestChanged u =>
      cases htarget
      rw [Call.perform, snd_perform_bind]
      exact hf.interestChanged
    | close u =>
      cases htarget
      exact hf.ended.1.fit
    | release u =>
      cases htarget
      exact absurd rfl hcall
    | _ => cases htarget
  · exact hf.bypassed (bypasses_perform hf.made htarget)

theorem Fit.run (hf : Fit t replays h) (hkept : .release t ∉ calls) : Fit t replays (run h calls).2 := by
  induction calls generalizing h with
  | nil => exact hf
  | cons call calls ih =>
    exact ih (hf.perform fun he => hkept (he ▸ List.mem_cons_self)) fun hc => hkept (List.mem_cons_of_mem _ hc)

/-- A call leaves a transport that has been closed, unless it gives it up. The signal stays as it is, but for calls that
bring it up to date. -/
theorem Ended.perform (he : Ended t replays h) (hcall : call ≠ .release t) :
    Ended t replays (call.perform h).2 ∧ (((call.perform h).2.signal t).raised = true ↔
      (call = .interestChanged t ∧ ∃ m ∈ h.rest t, h.wants t m.channel = true) ∨
        (call.settles t = false ∧ (h.signal t).raised = true)) := by
  by_cases htarget : call.target = some t
  · cases call with
    | send u channel payload =>
      cases htarget
      rw [Call.perform, snd_perform_bind, he.send]
      simp [Call.settles, he]
    | receive u wait still =>
      cases htarget
      obtain ⟨e, hreceive⟩ := he.receive (wait.map (h.now + ·)) still
      rw [Call.perform, Act.get_bind_apply, snd_perform_bind, hreceive]
      simp [Call.settles, he]
    | interestChanged u =>
      cases htarget
      obtain ⟨line, notices, hchanged, hline, hup⟩ := he.interestChanged
      have hset := ended_setLine he.made hline
      rw [Call.perform, snd_perform_bind, hchanged]
      refine ⟨⟨hset.made, hset.line⟩, ?_⟩
      have hsignal := signal_setLine he.made line
      simp only [signal] at hsignal ⊢
      simp [Call.settles, ← hup, ← hsignal]
      rfl
    | close u =>
      cases htarget
      obtain ⟨hended, hlow⟩ := he.fit.ended
      refine ⟨hended, iff_of_false (fun hup => ?_) (by simp [Call.settles])⟩
      exact Bool.noConfusion (hup.symm.trans hlow)
    | release u =>
      cases htarget
      exact absurd rfl hcall
    | _ => cases htarget
  · obtain ⟨hended, hsignal⟩ := he.bypassed (bypasses_perform he.made htarget)
    refine ⟨hended, ?_⟩
    rw [hsignal]
    cases call <;> simp_all [Call.settles, Call.target]

/-- A transport that has been closed stays closed. Its signal is up when it was stirred, and then only. -/
theorem Ended.run (he : Ended t replays h) (hlow : (h.signal t).raised = false) (hkept : .release t ∉ calls) :
    Ended t replays (run h calls).2 ∧ (((run h calls).2.signal t).raised = true ↔ Stirred h t calls) := by
  induction calls using List.reverseRecOn with
  | nil =>
    refine ⟨he, iff_of_false ?_ (not_stirred List.not_mem_nil)⟩
    rw [Carriage.run, hlow]
    exact Bool.false_ne_true
  | append_singleton calls call ih =>
    obtain ⟨hended, hup⟩ := ih fun hc => hkept (List.mem_append_left _ hc)
    have hcall : call ≠ .release t := fun hc => hkept (List.mem_append_right _ (List.mem_singleton.2 hc.symm))
    obtain ⟨hnext, hsignal⟩ := hended.perform hcall
    rw [run_concat, stirred_concat, ← hup]
    exact ⟨hnext, hsignal⟩

end Hub

/-! ## Opening -/

/-- Whether an address is that of a file that is to be replayed. -/
def Address.replays : Address → Bool
  | .file a => a.mode == .read
  | _ => false

namespace Hub

variable {h g : Hub η} {t : Nat} {a : Address} {exchange interest : Nat} {clock : Clock}

theorem fit_addTransport {replays : Bool} (h : Hub η) (tr : Transport) (hl : tr.line.Fit h.store replays) :
    Fit h.transports.size replays (h.addTransport tr).1 :=
  ⟨by rw [size_addTransport]; exact Nat.lt_succ_self _, by rw [transport_addTransport, if_pos rfl]; exact hl⟩

/-- A transport that has been opened can be called. -/
theorem fit_openTransport (hopen : Act.openTransport a exchange interest clock h = (.ok t, g)) :
    Fit t a.replays g := by
  cases a with
  | bus key =>
    cases hopen
    have hfit := fit_addTransport (h.busOf exchange key).1
      { line := .bus (h.busOf exchange key).2 {}, interest, clock } (.bus _ _)
    exact ⟨hfit.made, hfit.line⟩
  | multicast s =>
    have hfit := fun k : Hub η => fit_addTransport k { line := .multicast s 0 false {}, interest, clock }
      (.multicast ⟨rfl, rfl⟩ (absurd · Bool.false_ne_true))
    simp only [Act.openTransport, Act.openGroup, Act.bind_apply, Act.ite_apply, Act.report_apply, Act.change_apply]
      at hopen
    split at hopen <;> split at hopen <;> cases hopen <;> exact hfit _
  | file a =>
    by_cases hmode : a.mode = .read
    · rcases Act.openFile_reading h hmode interest clock with
        ⟨file, c, f, started, notices, -, readable, -, -, -, hmade⟩ | ⟨-, e, notices, hfailed⟩
      · cases hmade.symm.trans hopen
        obtain ⟨⟨c', up, hrefresh⟩, -, -⟩ := Replay.refresh_of_reads ⟨c, rfl⟩
          (r := { journal := ⟨a.path, .read, .reading file c⟩, speed := a.speed }) f (h.interest interest).wants
        rw [Address.replays, hmode]
        refine fit_addTransport { h with notices } _ ?_
        rw [hrefresh]
        exact .replay ⟨c', rfl⟩ ((Node.read_iff _).1 ⟨f, readable⟩)
      · cases hfailed.symm.trans hopen
    · have hreplays : (Address.file a).replays = false := beq_eq_false_iff_ne.2 hmode
      have hwritten := (Journal.later_openFile h.store a.path a.mode).2
      rw [Act.openTransport, Act.openFile_recorder hmode, Act.bind_apply, Act.openJournal_apply] at hopen
      cases hj : (Journal.openFile h.store a.path a.mode).1 with
      | error e =>
        rw [hj] at hopen
        cases hopen
      | ok j =>
        rw [hj] at hopen
        cases hopen
        rw [hreplays]
        exact fit_addTransport _ _ (.recorder (hwritten j hmode hj) false)

/-! ## What can be said of a transport that has been closed -/

/-- A transport has been opened, then some calls were made, among them any to itself, and it has been closed. Whatever
calls follow, as long as it is not given up: everything that is sent by it is refused, everyone who waits for a message
from it is refused, and neither leaves a trace. When it is told of a change or closed once more, nothing but its signal
and the state of its line can change. The signal is up if it replays a file and was told of a change when a record was
ahead that was wanted, and only then. -/
theorem closed_for_good (hopen : Act.openTransport a exchange interest clock h = (.ok t, g)) (before after : List Call)
    (hkept : .release t ∉ before ++ after) :
    let closed := (run g (before ++ [.close t])).2
    let k := (run closed after).2
    (∀ channel payload, Act.send t channel payload k = (.error (.failed .closed), k)) ∧
      (∀ deadline still, ∃ e, Act.receive t deadline still k = (.error (.failed e), k)) ∧
      (∃ line notices, Act.interestChanged t k = (.ok (), { k.setLine t line with notices })) ∧
      (∃ line notices, k.closeTransport t = { k.setLine t line with notices }) ∧
      ((k.signal t).raised = true ↔ Stirred closed t after) ∧
      (a.replays = false → (k.signal t).raised = false) := by
  intro closed k
  have hbefore : .release t ∉ before := fun hc => hkept (List.mem_append_left _ hc)
  have hafter : .release t ∉ after := fun hc => hkept (List.mem_append_right _ hc)
  have hcalled := (fit_openTransport hopen).run hbefore
  have hclosed : closed = (run g before).2.closeTransport t := congrArg Prod.snd (run_concat g before (.close t))
  obtain ⟨hshut, hlow⟩ := hcalled.ended
  rw [← hclosed] at hshut hlow
  obtain ⟨hended, hup⟩ := hshut.run hlow hafter
  obtain ⟨line, notices, hchanged, -, -⟩ := hended.interestChanged
  refine ⟨hended.send, hended.receive, ⟨line, notices, hchanged⟩, hended.close, hup, fun hreplays => ?_⟩
  rw [hreplays] at hended
  exact hended.line.low

/-- A replay that has been closed is silent while nobody tells it of a change. -/
theorem closed_for_good_shelf :
    ∃ g, Act.openTransport (.file { path := [0x61].toByteArray }) 0 0 {} shelf = (.ok 0, g) ∧
      let k := (run (run g [.close 0]).2 [.close 0, .receive 0 none false]).2
      Act.send 0 "c" .empty k = (.error (.failed .closed), k) ∧ (k.signal 0).raised = false := by
  obtain ⟨g, hopen⟩ := openTransport_shelf
  obtain ⟨hsend, -, -, -, hup, -⟩ := closed_for_good hopen [] [.close 0, .receive 0 none false] (by simp)
  exact ⟨g, hopen, hsend "c" .empty, Bool.eq_false_iff.2 fun h => not_stirred (by simp) (hup.1 h)⟩

/-- A replay of two records is closed. When it is told of a change, its signal goes up. -/
theorem closed_for_good_stirred :
    ((run shelf [.wish true, .attach (.file { path := [0x61].toByteArray }) 0 1 {}, .close 0,
      .interestChanged 0]).2.signal 0).raised = true := by
  decide +kernel

end Hub
end PubSub
