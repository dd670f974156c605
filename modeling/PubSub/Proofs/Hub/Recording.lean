import PubSub.Proofs.Hub.Lines
import PubSub.Proofs.Hub.Opening
import PubSub.Proofs.Journal.Sessions

/-!
# Brokers that record

A broker on a file that it writes makes a record of each message that fits into one, and refuses the others as an
argument. When it is closed, the file holds the messages that were published.

* `Act.publishAll`, `Act.record`: publishing what is asked, by any clock; opening, publishing and closing.
* `Act.published`: the messages that were published, from what the calls came to.
* `Hub.Recording`: a broker that records.

Results:

* `Act.publish_recording`: a call adds a record, or is refused without a trace.
* `Act.record_holds`: what remains in the file.
-/

namespace PubSub

open Journal (Call Record)

variable {η : Type}

namespace Journal.Call

/-- The message of a call. -/
def message (c : Call) : Message := ⟨c.channel, c.payload, c.time⟩

/-- A broker that records takes a call, or refuses it as an argument. -/
def Answered (c : Call) (result : Except Error Unit) : Prop :=
  if c.fits then result = .ok () else ∃ d, result = .error (.invalidArgument d)

theorem answered_ok {c : Call} (hc : c.fits = true) : c.Answered (.ok ()) := by
  rw [Answered, if_pos hc]

theorem answered_error {c : Call} (hc : ¬ c.fits = true) (d : Refusal) :
    c.Answered (.error (.invalidArgument d)) := by
  rw [Answered, if_neg hc]
  exact ⟨d, rfl⟩

theorem map_message_records (n : Nat) (cs : List Call) : (records n cs).map Record.message = cs.map message := by
  induction cs generalizing n with
  | nil => rfl
  | cons c cs ih => rw [records, List.map_cons, ih, List.map_cons]; rfl

end Journal.Call

namespace Hub

/-- The clock of a transport will next tell `time`. -/
def setReading (h : Hub η) (t : Nat) (time : Timestamp) : Hub η :=
  { h with transports := h.transports.modify t fun u => { u with clock := { u.clock with next := time } } }

end Hub

namespace Act

/-! ## Publishing and closing -/

/-- Publishes by a broker what is asked, each at the time that the broker's clock then tells, and gives what comes of
each call. -/
def publishAll (b : Nat) : List Call → Act η (List (Except Error Unit))
  | [] => return []
  | c :: cs => do
    modify fun h => h.setReading (h.broker b).transport c.time
    let result ← attempt (publish b c.channel c.payload)
    return result :: (← publishAll b cs)

/-- Opens a broker on a file, publishes by it and closes it. -/
def record (a : FileAddress) (exchange : Nat) (clock : Clock) (defaultCapacity : Option Nat) (calls : List Call) :
    Act η (List (Except Error Unit)) := do
  let b ← openAddress (.file a) exchange clock defaultCapacity
  let results ← publishAll b calls
  closeBroker b
  return results

/-- The messages that were published: those of the calls that were not refused. -/
def published : List Call → List (Except Error Unit) → List Message
  | c :: cs, .ok () :: results => c.message :: published cs results
  | _ :: cs, .error _ :: results => published cs results
  | _, _ => []

theorem published_of_answered {calls : List Call} {results : List (Except Error Unit)}
    (h : List.Forall₂ Call.Answered calls results) :
    published calls results = (Call.accepted calls).map Call.message := by
  induction h with
  | nil => rfl
  | @cons c r cs rs hc hcs ih =>
    rw [Call.Answered] at hc
    by_cases hfits : c.fits = true
    · rw [if_pos hfits] at hc
      rw [hc, published, ih, Call.accepted_cons_of_fits hfits, List.map_cons]
    · rw [if_neg hfits] at hc
      obtain ⟨d, rfl⟩ := hc
      rw [published, ih, Call.accepted_cons_of_unfit hfits]

end Act

namespace Hub

/-! ## A broker that records -/

/-- Broker `b` is open, and its transport writes a journal under `path` that has taken the records `rs`. -/
structure Recording (h : Hub η) (b : Nat) (path : ByteArray) (rs : List Record) : Prop where
  attached : h.Attached b
  line_lt : h.lineOf b < h.transports.size
  logged : ∃ j, (h.transport (h.lineOf b)).line = .recorder j false ∧ j.Logged h.store path rs

variable {h g : Hub η} {b : Nat} {path : ByteArray} {rs : List Record}

/-- A hub whose transport is a journal with other records, and which has the same brokers. -/
theorem Recording.of_line (hr : h.Recording b path rs) {ss : List Record} (hbroker : g.brokers = h.brokers)
    (hsize : g.transports.size = h.transports.size) {j : Journal}
    (hline : (g.transport (h.lineOf b)).line = .recorder j false) (hj : j.Logged g.store path ss) :
    g.Recording b path ss := by
  have hb : g.broker b = h.broker b := by rw [broker, hbroker, broker]
  refine ⟨⟨hbroker ▸ hr.attached.made, hb ▸ hr.attached.isOpen⟩, ?_, j, ?_, hj⟩
  · rw [lineOf, hb, hsize]
    exact hr.line_lt
  · rw [lineOf, hb]
    exact hline

theorem transport_setReading (h : Hub η) (t u : Nat) (time : Timestamp) :
    (h.setReading t time).transport u = if t = u ∧ u < h.transports.size then
      { h.transport u with clock := { (h.transport u).clock with next := time } } else h.transport u :=
  getD_modify ..

theorem Recording.setReading (hr : h.Recording b path rs) (time : Timestamp) :
    (h.setReading (h.lineOf b) time).Recording b path rs ∧
      ((h.setReading (h.lineOf b) time).transport (h.lineOf b)).clock.next = time := by
  obtain ⟨j, hline, hj⟩ := hr.logged
  have htransport := transport_setReading h (h.lineOf b) (h.lineOf b) time
  rw [if_pos ⟨rfl, hr.line_lt⟩] at htransport
  refine ⟨hr.of_line rfl Array.size_modify (j := j) ?_ hj, by rw [htransport]⟩
  rw [htransport]
  exact hline

end Hub

namespace Act

open Hub

variable {h : Hub η} {b : Nat} {path : ByteArray} {rs : List Record}

/-- What sending to a journal comes to. -/
theorem sendToJournal_apply (t : Nat) (j : Journal) (channel : String) (payload : ByteArray) (h : Hub η) :
    sendToJournal t j channel payload h =
      match j.call h.store ⟨(h.transport t).clock.next, channel, payload⟩ with
      | (.error e, j, store) => (.error (.failed e), { (h.readClock t).1 with store }.setLine t (.recorder j false))
      | (.ok _, j, store) =>
        orHalt (j.flush store).1
          ({ (h.readClock t).1 with store := (j.flush store).2.2 }.setLine t
            (.recorder (j.flush store).2.1 false)) := by
  have hcall : j.call h.store ⟨(h.transport t).clock.next, channel, payload⟩ =
    j.write (h.readClock t).1.store (h.readClock t).2 channel payload := rfl
  rw [hcall]
  simp only [sendToJournal, bind_apply, change_apply]
  generalize j.write (h.readClock t).1.store (h.readClock t).2 channel payload = r
  obtain ⟨_ | n, j, store⟩ := r <;> rfl

/-- A call to a broker that records adds a record, or is refused without a trace. -/
theorem publish_recording (hr : h.Recording b path rs) {c : Call}
    (hclock : (h.transport (h.lineOf b)).clock.next = c.time) :
    ∃ result g, attempt (publish b c.channel c.payload) h = (.ok result, g) ∧ c.Answered result ∧
      g.Recording b path (rs ++ if c.fits then [c.record rs.length] else []) := by
  obtain ⟨j, hline, hj⟩ := hr.logged
  have hopen := hr.attached.isOpen
  simp only [attempt_apply, publish, bind_apply, openBroker_apply, hopen, Bool.false_eq_true, if_false, ite_apply,
    fail_apply]
  by_cases hempty : c.channel.isEmpty = true
  · -- the name of the channel is looked at before the journal
    have hfits : ¬ c.fits = true := by
      intro hfits
      have hpos : 1 ≤ c.channel.utf8ByteSize := (Call.fits_iff (n := 0).1 hfits).channel_pos
      rw [String.isEmpty_iff.1 hempty] at hpos
      cases hpos
    rw [if_pos hempty, if_neg hfits, List.append_nil]
    exact ⟨_, h, rfl, Call.answered_error hfits _, hr⟩
  · rw [if_neg hempty]
    simp only [send, bind_apply, get_apply, hline, ite_apply, Bool.false_eq_true, if_false, sendToJournal_apply,
      hclock]
    have hlt : ∀ store, h.lineOf b < ({ (h.readClock (h.lineOf b)).1 with store } : Hub η).transports.size := by
      intro store
      show h.lineOf b < (h.readClock (h.lineOf b)).1.transports.size
      rw [readClock, Array.size_modify]
      exact hr.line_lt
    have hset : ∀ {store : Store} {j : Journal} {ss : List Record}, j.Logged store path ss →
        (({ (h.readClock (h.lineOf b)).1 with store } : Hub η).setLine (h.lineOf b) (.recorder j false)).Recording b
          path ss := fun hj => by
      refine hr.of_line rfl ?_ (line_setLine (hlt _) _) hj
      rw [setLine, Array.size_modify, readClock, Array.size_modify]
    cases hfits : c.fits with
    | true =>
      obtain ⟨hok, hlogged⟩ := hj.write hfits
      obtain ⟨hflushed, hlogged, -⟩ := hlogged.flush
      rw [show (⟨c.time, c.channel, c.payload⟩ : Call) = c from rfl]
      generalize j.call h.store c = r at hok hflushed hlogged
      obtain ⟨result, j, store⟩ := r
      cases hok
      simp only at hflushed hlogged ⊢
      rw [hflushed]
      exact ⟨_, _, rfl, Call.answered_ok hfits, hset hlogged⟩
    | false =>
      obtain ⟨d, hd⟩ := hj.write_refused hfits
      rw [show (⟨c.time, c.channel, c.payload⟩ : Call) = c from rfl, hd]
      refine ⟨_, _, rfl, Call.answered_error (by rw [hfits]; exact Bool.false_ne_true) d, ?_⟩
      rw [if_neg Bool.false_ne_true, List.append_nil]
      exact hset hj

/-- What is published by a broker that records becomes records. -/
theorem publishAll_recording (calls : List Call) (hr : h.Recording b path rs) :
    ∃ results g, publishAll b calls h = (.ok results, g) ∧ List.Forall₂ Call.Answered calls results ∧
      g.Recording b path (rs ++ Call.records rs.length (Call.accepted calls)) := by
  induction calls generalizing h rs with
  | nil => exact ⟨[], h, rfl, .nil, by rw [Call.accepted_nil, Call.records, List.append_nil]; exact hr⟩
  | cons c cs ih =>
    obtain ⟨hset, hclock⟩ := hr.setReading c.time
    obtain ⟨result, f, hpublish, hanswered, hf⟩ := publish_recording hset hclock
    obtain ⟨results, g, hrest, hall, hg⟩ := ih hf
    refine ⟨result :: results, g, ?_, .cons hanswered hall, ?_⟩
    · simp only [publishAll, bind_apply, modify_apply, hpublish, hrest, pure_apply]
    · rw [List.append_assoc] at hg
      by_cases hfits : c.fits = true
      · rw [if_pos hfits, List.length_append] at hg
        rw [Call.accepted_cons_of_fits hfits, Call.records]
        exact hg
      · rw [if_neg hfits, List.append_nil] at hg
        rw [Call.accepted_cons_of_unfit hfits]
        exact hg

/-! ## From opening to closing -/

theorem openFile_recorder {a : FileAddress} (hmode : a.mode ≠ .read) (interest : Nat) (clock : Clock) :
    (openFile a interest clock : Act η Nat) = (do
      let journal ← openJournal a.path a.mode
      report [.debug s!"file: opened {Journal.pathText a.path} in {a.mode.name} mode"]
      change (·.addTransport { line := .recorder journal false, interest, clock })) := by
  unfold openFile
  cases hm : a.mode with
  | read => exact absurd hm hmode
  | write => rfl
  | append => rfl

/-- A broker on a file is made if the file can be opened for writing. -/
theorem openAddress_recorder (h : Hub η) {a : FileAddress} (hmode : a.mode ≠ .read) (exchange : Nat) (clock : Clock)
    (capacity : Option Nat) {j : Journal} {store : Store} {reported : List Notice}
    (hopen : Journal.openFile h.store a.path a.mode = (.ok j, store, reported)) :
    ∃ notices, openAddress (.file a) exchange clock capacity h =
      (.ok h.brokers.size, { h.enlarged (.recorder j false) clock capacity with store, notices }) := by
  have hadd : change (·.addInterest .nothing) h = (.ok h.interests.size, (h.addInterest .nothing).1) := rfl
  have hjournal : openJournal a.path a.mode (h.addInterest .nothing).1 =
      (.ok j, { (h.addInterest .nothing).1 with store }.report reported) := by
    simp only [openJournal, withStore, bind_apply, change_apply]
    rw [show (h.addInterest .nothing).1.store = h.store from rfl, hopen]
    rfl
  set k := ({ (h.addInterest .nothing).1 with store }.report reported : Hub η).report
    [.debug s!"file: opened {Journal.pathText a.path} in {a.mode.name} mode"] with hk
  have htransport : openTransport (.file a) exchange h.interests.size clock (h.addInterest .nothing).1 =
      (.ok h.transports.size,
        (k.addTransport { line := .recorder j false, interest := h.interests.size, clock }).1) := by
    rw [openTransport, openFile_recorder hmode]
    exact (bind_ok hjournal).trans <| (bind_ok (report_apply ..)).trans (change_apply ..)
  exact ⟨(k.report [.debug s!"broker: opened {(Address.file a).scheme} provider"]).notices,
    (bind_ok hadd).trans <| (bind_ok htransport).trans rfl⟩

/-- A broker that has just been made on a file that it writes. -/
theorem recording_enlarged {j : Journal} {store : Store} (hj : j.Logged store path rs) (clock : Clock)
    (capacity : Option Nat) (notices : Array Notice) :
    ({ h.enlarged (.recorder j false) clock capacity with store, notices } : Hub η).Recording h.brokers.size path
      rs := by
  have hbroker := broker_enlarged h (.recorder j false) clock capacity h.brokers.size
  rw [if_pos rfl] at hbroker
  have hattached := (attached_enlarged h (.recorder j false) clock capacity h.brokers.size).2 (Or.inl rfl)
  have hline : (h.enlarged (.recorder j false) clock capacity).lineOf h.brokers.size = h.transports.size := by
    rw [lineOf, hbroker]
  have htransport := transport_enlarged h (.recorder j false) clock capacity h.transports.size
  rw [if_pos rfl] at htransport
  refine ⟨⟨hattached.made, hattached.isOpen⟩, ?_, j, ?_, hj⟩
  · refine hline ▸ ?_
    rw [enlarged, Array.size_push]
    exact Nat.lt_succ_self _
  · refine hline ▸ ?_
    exact congrArg Transport.line htransport

/-- Closing a broker that records leaves the records in the file. -/
theorem closeBroker_recording (hr : h.Recording b path rs) :
    ∃ g id, closeBroker b h = (.ok (), g) ∧ g.store.Holds path id (Journal.row rs) := by
  obtain ⟨j, hline, hj⟩ := hr.logged
  obtain ⟨-, -, id, hholds⟩ := hj.flush
  have hclose : ∀ k : Hub η, k.transport (h.lineOf b) = h.transport (h.lineOf b) → k.store = h.store →
      (k.closeTransport (h.lineOf b)).store = (j.flush h.store).2.2 := fun k hk hs => by
    rw [closeTransport, hk, hline, ← hs]
    rfl
  have hretire : ∀ (k : Hub η) (l : List Nat), (k.retire l).store = k.store := fun k l => by rw [retire_eq]
  simp only [closeBroker, bind_apply, get_apply, hr.attached.isOpen, Bool.not_false, if_true, modify_apply,
    report_apply]
  refine ⟨_, id, rfl, ?_⟩
  have hstore := hclose (h.modifyBroker b fun br => { br with closed := true }) rfl rfl
  rw [← hstore] at hholds
  show (Hub.retire _ _).store.Holds path id (Journal.row rs)
  rw [hretire]
  exact hholds

/-- What was published by a broker on a file that it made or emptied is in the file when the broker has been closed. -/
theorem record_holds {a : FileAddress} (hmode : a.mode = .write) (hbegins : Journal.Begins h.store a.path .write)
    (exchange : Nat) (clock : Clock) (capacity : Option Nat) (calls : List Call) :
    ∃ results g id, record a exchange clock capacity calls h = (.ok results, g) ∧
      List.Forall₂ Call.Answered calls results ∧
      g.store.Holds a.path id (Journal.row (Call.records 0 (Call.accepted calls))) := by
  obtain ⟨j, hopen, hj⟩ := hbegins.openFile
  have hfile : Journal.openFile h.store a.path a.mode =
      (.ok j, (Journal.openFile h.store a.path .write).2.1, (Journal.openFile h.store a.path .write).2.2) := by
    rw [hmode]
    exact Prod.ext hopen rfl
  have hwrites : a.mode ≠ .read := fun hread => nomatch hmode.symm.trans hread
  obtain ⟨notices, hmade⟩ := openAddress_recorder h hwrites exchange clock capacity hfile
  obtain ⟨results, f, hpublish, hanswered, hf⟩ := publishAll_recording calls
    (recording_enlarged (h := h) hj clock capacity notices)
  obtain ⟨g, id, hclose, hholds⟩ := closeBroker_recording hf
  refine ⟨results, g, id, ?_, hanswered, hholds⟩
  exact (bind_ok hmade).trans <| (bind_ok hpublish).trans <| bind_ok hclose

end Act
end PubSub
