import PubSub.Proofs.Hub.Lines
import PubSub.Proofs.Hub.Opening

/-!
# Brokers that replay files

What opening a broker on a journal file comes to: a replay from the start of the file, or from the first record of a
given time, in which nobody wants anything yet.

* `Replay.opened`: a replay that has given out nothing.

Results:

* `Act.openFile_reading`, `Act.openAddress_replay`: a transport, and a broker, on a file is made if the file can be
  read.
* `Line.ready_opened`: a replay without pauses that has been opened is ready.
-/

namespace PubSub

variable {η : Type}

/-- A replay of file `file` from `cursor` on, as it is when it has been opened. -/
def Replay.opened (path : ByteArray) (speed : Float) (file cursor : Nat) (f : ByteArray) : Replay :=
  ({ journal := ⟨path, .read, .reading file cursor⟩, speed : Replay }.refresh f Interest.nothing.wants).1

theorem Replay.runs_opened (path : ByteArray) {speed : Float} (hspeed : ¬ 0 < speed) (file cursor : Nat)
    (f : ByteArray) :
    (opened path speed file cursor f).Runs file ∧
      (opened path speed file cursor f).rest f = (Journal.scanAll f cursor).records ∧
      ((opened path speed file cursor f).signal.raised = true ↔
        (opened path speed file cursor f).ahead f Interest.nothing.wants ≠ []) := by
  have hruns : Runs { journal := ⟨path, .read, .reading file cursor⟩, speed } file :=
    ⟨rfl, hspeed, ⟨cursor, rfl⟩, Signal.consistent_new⟩
  obtain ⟨hopened, hrest, hup⟩ := refresh_rest hruns f Interest.nothing.wants
  refine ⟨hopened, hrest, ?_⟩
  rw [opened, ahead_refresh hruns]
  exact hup

theorem Line.ready_opened {s : Store} {path f : ByteArray} {speed : Float} (hspeed : ¬ 0 < speed) {file : Nat}
    (cursor : Nat) (readable : (s.node file).read = .ok f) :
    Line.Ready s Interest.nothing.wants (.replay (Replay.opened path speed file cursor f)) := by
  obtain ⟨hruns, -, hup⟩ := Replay.runs_opened path hspeed file cursor f
  exact Line.ready_replay hruns readable hup

namespace Act

open Hub

variable {h : Hub η}

theorem openJournal_read (h : Hub η) (path : ByteArray) :
    openJournal path .read h =
      match h.store.openRead path with
      | .error e => (.error (.failed (.io e)), h)
      | .ok file => (.ok ⟨path, .read, .reading file 0⟩, h) := by
  simp only [openJournal, withStore, bind_apply, change_apply, Journal.openFile]
  cases h.store.openRead path <;> rfl

theorem openFile_read {a : FileAddress} (hmode : a.mode = .read) (interest : Nat) (clock : Clock) :
    (openFile a interest clock : Act η Nat) = (do
      let journal ← openJournal a.path .read
      let journal ← startAt journal a.start
      report [.debug s!"file: opened {Journal.pathText a.path} in {Journal.Mode.read.name} mode"]
      let wants := ((← get).interest interest).wants
      let (replay, notices) := ({ journal, speed := a.speed } : Replay).refresh (← journalFile journal) wants
      report notices
      change (·.addTransport { line := .replay replay, interest, clock })) := by
  unfold openFile
  rw [hmode]

/-- Going to where a replay starts. -/
theorem startAt_reading (h : Hub η) (path : ByteArray) (file : Nat) (start : Option Timestamp) :
    (∃ c notices, startAt ⟨path, .read, .reading file 0⟩ start h =
        (.ok ⟨path, .read, .reading file c⟩, { h with notices }) ∧ (start = none → c = 0)) ∨
      (∀ f, (h.store.node file).read ≠ .ok f) ∧
        ∃ e notices, startAt ⟨path, .read, .reading file 0⟩ start h = (.error (.failed e), { h with notices }) := by
  cases start with
  | none => exact Or.inl ⟨0, h.notices, rfl, fun _ => rfl⟩
  | some time =>
    have hstore : (h.report [.debug s!"file: seeking {Journal.pathText path} to timestamp {time}"]).store = h.store :=
      rfl
    simp only [startAt, bind_apply, report_apply, get_apply, Journal.seekTime, Journal.move, hstore]
    cases hread : (h.store.node file).read with
    | error e => exact Or.inr ⟨(fun f hf => nomatch hf), .io e, _, rfl⟩
    | ok f => exact Or.inl ⟨_, _, rfl, (fun hstart => nomatch hstart)⟩

/-- What is reported of a file that has been opened for reading. -/
def openedNotice (path : ByteArray) : Notice :=
  .debug s!"file: opened {Journal.pathText path} in {Journal.Mode.read.name} mode"

/-- Making the transport, when the journal has been opened and stands where the replay starts. -/
theorem openFile_replay {a : FileAddress} (hmode : a.mode = .read) (interest : Nat) (clock : Clock) {h k : Hub η}
    {j journal : Journal} {f : ByteArray} (hopen : openJournal a.path .read h = (.ok j, h))
    (hstart : startAt j a.start h = (.ok journal, k))
    (hread : journalFile journal (k.report [openedNotice a.path]) = (.ok f, k.report [openedNotice a.path])) :
    ∃ notices, openFile a interest clock h = (.ok k.transports.size,
      ({ k with notices }.addTransport
        { line := .replay (Replay.refresh { journal, speed := a.speed } f (k.interest interest).wants).1
          interest, clock }).1) := by
  rw [openFile_read hmode]
  generalize hq : Replay.refresh { journal, speed := a.speed } f (k.interest interest).wants = q
  refine ⟨((k.report [openedNotice a.path]).report q.2).notices, (bind_ok hopen).trans <| (bind_ok hstart).trans <|
    (bind_ok (report_apply ..)).trans <| (bind_ok (get_apply _)).trans <| (bind_ok hread).trans ?_⟩
  show (match Replay.refresh { journal, speed := a.speed } f (k.interest interest).wants with
    | (replay, notices) => (do
      report notices
      change (·.addTransport { line := .replay replay, interest, clock }) : Act η Nat)) _ = _
  rw [hq]
  rfl

/-- A transport on a file for reading is made if the file can be read. -/
theorem openFile_reading (h : Hub η) {a : FileAddress} (hmode : a.mode = .read) (interest : Nat) (clock : Clock) :
    (∃ file c f started notices, h.store.openRead a.path = .ok file ∧ (h.store.node file).read = .ok f ∧
        openJournal a.path .read h = (.ok ⟨a.path, .read, .reading file 0⟩, h) ∧
        startAt ⟨a.path, .read, .reading file 0⟩ a.start h =
          (.ok ⟨a.path, .read, .reading file c⟩, { h with notices := started }) ∧ (a.start = none → c = 0) ∧
        openFile a interest clock h = (.ok h.transports.size, ({ h with notices }.addTransport
          { line := .replay (Replay.refresh { journal := ⟨a.path, .read, .reading file c⟩, speed := a.speed } f
              (h.interest interest).wants).1
            interest, clock }).1)) ∨
      (∀ file, h.store.openRead a.path = .ok file → ∀ f, (h.store.node file).read ≠ .ok f) ∧
        ∃ e notices, openFile a interest clock h = (.error (.failed e), { h with notices }) := by
  have hopen := openJournal_read h a.path
  cases hfile : h.store.openRead a.path with
  | error e =>
    rw [hfile] at hopen
    refine Or.inr ⟨(fun file hfile => nomatch hfile), .io e, h.notices, ?_⟩
    rw [openFile_read hmode]
    exact bind_error hopen
  | ok file =>
    rw [hfile] at hopen
    rcases startAt_reading h a.path file a.start with ⟨c, started, hstart, hc⟩ | ⟨hnever, e, notices, hstart⟩
    · set k := ({ h with notices := started } : Hub η).report [openedNotice a.path] with hk
      have hread : journalFile ⟨a.path, .read, .reading file c⟩ k =
          orHalt ((h.store.node file).read.mapError .io) k := rfl
      cases hnode : (h.store.node file).read with
      | error e =>
        rw [hnode] at hread
        refine Or.inr ⟨fun file' hfile' f hf => ?_, .io e, k.notices, ?_⟩
        · cases hfile'
          rw [hnode] at hf
          cases hf
        · rw [openFile_read hmode]
          exact (bind_ok hopen).trans <| (bind_ok hstart).trans <| (bind_ok (report_apply ..)).trans <|
            (bind_ok (get_apply _)).trans <| bind_error hread
      | ok f =>
        rw [hnode] at hread
        obtain ⟨made, hmade⟩ := openFile_replay hmode interest clock hopen hstart hread
        exact Or.inl ⟨file, c, f, started, made, rfl, hnode, hopen, hstart, hc, hmade⟩
    · refine Or.inr ⟨fun file' hfile' f => ?_, e, notices, ?_⟩
      · cases hfile'
        exact hnever f
      · rw [openFile_read hmode]
        exact (bind_ok hopen).trans <| bind_error hstart

/-- A broker on a file for reading is made if the file can be read. -/
theorem openAddress_replay (h : Hub η) {a : FileAddress} (hmode : a.mode = .read) (exchange : Nat) (clock : Clock)
    (capacity : Option Nat) :
    (∃ file c f notices, h.store.openRead a.path = .ok file ∧ (h.store.node file).read = .ok f ∧
        (a.start = none → c = 0) ∧ openAddress (.file a) exchange clock capacity h =
          (.ok h.brokers.size,
            { h.enlarged (.replay (Replay.opened a.path a.speed file c f)) clock capacity with notices })) ∨
      (∀ file, h.store.openRead a.path = .ok file → ∀ f, (h.store.node file).read ≠ .ok f) ∧
        ∃ e notices, openAddress (.file a) exchange clock capacity h =
          (.error (.failed e), { (h.addInterest .nothing).1 with notices }) := by
  have hadd : change (·.addInterest .nothing) h = (.ok h.interests.size, (h.addInterest .nothing).1) := rfl
  rcases openFile_reading (h.addInterest .nothing).1 hmode h.interests.size clock with
    ⟨file, c, f, -, made, hfile, hnode, -, -, hc, hmade⟩ | ⟨hnever, e, notices, hfailed⟩
  · have hwants : ((h.addInterest .nothing).1.interest h.interests.size).wants = Interest.nothing.wants :=
      congrArg Interest.wants ((getD_push ..).trans (if_pos rfl))
    refine Or.inl ⟨file, c, f, (({ h with notices := made } : Hub η).report
      [.debug s!"broker: opened {(Address.file a).scheme} provider"]).notices, hfile, hnode, hc, ?_⟩
    refine (bind_ok hadd).trans <| (bind_ok hmade).trans ?_
    rw [Replay.opened, ← hwants]
    rfl
  · exact Or.inr ⟨hnever, e, notices, (bind_ok hadd).trans (bind_error hfailed)⟩

end Act
end PubSub
