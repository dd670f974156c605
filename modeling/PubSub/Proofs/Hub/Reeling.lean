import PubSub.Proofs.Hub.Carriage
import PubSub.Proofs.Hub.Replaying

/-!
# A replay is a list of records

A file that is replayed without pauses can be thought of as a list: those records that a reader would be given who goes
through the file from where the replay starts. A receiver takes records from the front of the list, and the unwanted
ones among them are dropped. That the replay reads ahead, and looks through the file to bring its signal up to date, is
not seen.

* `Reel`: a list of records, and what is wanted now; `Reel.run`: what receivers take from it.
* `Reel.Turn`: a receiver comes, or what is wanted changes and the transport is told.
* `Hub.Shows`: a transport of a hub replays the records of a reel.

Results:

* `Hub.Shows.turn`, `Hub.Shows.run`: the transport answers as the reel does, turn for turn.
* `Act.openFile_shows`: a transport that has been opened on a file shows what the file gives.
* `Reel.sublist_run`: no record is taken twice, or before one that comes earlier.
* `Hub.replay_reels`: what comes of any turns after a file has been opened.
-/

namespace PubSub

open Carriage
open Journal (Record)

/-! ## Reels -/

/-- A list of records, and what is wanted now. -/
structure Reel where
  records : List Record
  interest : Interest

namespace Reel

/-- What is done with a replay. -/
inductive Turn
  /-- Waits for a record. -/
  | receive (wait : Option Nat) (still : Bool)
  /-- Something more is wanted. -/
  | insert (id : Nat) (p : Pattern)
  /-- Something is not wanted any more. -/
  | remove (id : Nat)

/-- The calls to transport `t`, and to the interest `i` that it serves. -/
def Turn.calls (t i : Nat) : Turn → List Call
  | .receive wait still => [.receive t wait still]
  | .insert id p => [.insert i id p, .interestChanged t]
  | .remove id => [.remove i id, .interestChanged t]

/-- A receiver drops the unwanted records at the front and takes the one after them, or is told that the end has come.
Then the unwanted records behind it are dropped. -/
def next (m : Reel) : Answer × Reel :=
  match Replay.skip m.interest.wants m.records with
  | [] => (.error (.failed .endOfLog), { m with records := [] })
  | x :: xs => (.ok (.received (.message x.message)), { m with records := Replay.skip m.interest.wants xs })

/-- What a turn is answered, and what it makes of a reel. -/
def turn (m : Reel) : Turn → List Answer × Reel
  | .receive .. => ([m.next.1], m.next.2)
  | .insert id p => ([.ok .done, .ok .done], { m with interest := m.interest.insert id p })
  | .remove id => ([.ok .done, .ok .done], { m with interest := m.interest.remove id })

/-- What some turns are answered, and what they make of a reel. -/
def run (m : Reel) : List Turn → List Answer × Reel
  | [] => ([], m)
  | turn :: turns =>
    let rest := run (m.turn turn).2 turns
    ((m.turn turn).1 ++ rest.1, rest.2)

/-! ### What is taken -/

/-- What is taken in a turn, and then what is left, comes in order from what there was. -/
theorem sublist_turn (m : Reel) (turn : Turn) :
    (messagesOf (m.turn turn).1 ++ (m.turn turn).2.records.map Record.message).Sublist
      (m.records.map Record.message) := by
  cases turn with
  | receive wait still =>
    have hskip : (Replay.skip m.interest.wants m.records).Sublist m.records := List.dropWhile_sublist _
    simp only [Reel.turn, next]
    split
    · exact List.nil_sublist _
    · rename_i x xs hxs
      have hbehind : (Replay.skip m.interest.wants xs).Sublist xs := List.dropWhile_sublist _
      exact ((hbehind.cons_cons x).trans (hxs ▸ hskip)).map Record.message
  | insert id p => exact .refl _
  | remove id => exact .refl _

/-- Records are taken in order, none twice, and none that is left is before one that was taken. -/
theorem sublist_run (m : Reel) (turns : List Turn) :
    (messagesOf (m.run turns).1 ++ (m.run turns).2.records.map Record.message).Sublist
      (m.records.map Record.message) := by
  induction turns generalizing m with
  | nil => exact .refl _
  | cons turn turns ih =>
    rw [run, messagesOf_append, List.append_assoc]
    exact ((List.Sublist.refl _).append (ih (m.turn turn).2)).trans (m.sublist_turn turn)

/-- When a receiver is told that the end has come, nothing is left. -/
theorem records_of_ended {m : Reel} {turn : Turn} (h : .error (.failed .endOfLog) ∈ (m.turn turn).1) :
    (m.turn turn).2.records = [] := by
  cases turn with
  | receive wait still =>
    simp only [Reel.turn, next] at h ⊢
    split at h
    · rfl
    · simp at h
  | insert id p => simp [Reel.turn] at h
  | remove id => simp [Reel.turn] at h

theorem messages_of_nil {m : Reel} (h : m.records = []) (turns : List Turn) :
    messagesOf (m.run turns).1 = [] ∧ (m.run turns).2.records = [] := by
  have hsub := m.sublist_run turns
  rw [h, List.map_nil, List.sublist_nil, List.append_eq_nil_iff, List.map_eq_nil_iff] at hsub
  exact hsub

/-- The end stays the end. -/
theorem records_run_of_ended {m : Reel} {turns : List Turn} (h : .error (.failed .endOfLog) ∈ (m.run turns).1) :
    (m.run turns).2.records = [] := by
  induction turns generalizing m with
  | nil => cases h
  | cons turn turns ih =>
    rcases List.mem_append.1 h with h | h
    · exact (messages_of_nil (records_of_ended h) turns).2
    · exact ih h

end Reel

/-! ## Transports that show a reel -/

namespace Hub

variable {η : Type} {h g : Hub η} {t i file : Nat} {f : ByteArray} {m : Reel}

/-- A transport replays a file without pauses, and what it has not gone past is what the reel has. -/
structure Shows (t i file : Nat) (f : ByteArray) (h : Hub η) (m : Reel) : Prop where
  replay : ∃ r, (h.transport t).line = .replay r ∧ r.Runs file ∧ r.rest f = m.records
  made : t < h.transports.size
  serves : (h.transport t).interest = i
  interest_lt : i < h.interests.size
  interest : h.interest i = m.interest
  readable : (h.store.node file).read = .ok f

theorem Shows.wants (hs : Shows t i file f h m) : h.wants t = m.interest.wants := by
  rw [Hub.wants, hs.serves, hs.interest]

theorem Shows.rest (hs : Shows t i file f h m) : h.rest t = m.records.map Record.message := by
  obtain ⟨r, hline, hruns, hrest⟩ := hs.replay
  rw [Hub.rest, hline, Line.rest_replay hruns hs.readable, hrest]

/-- The transport has gone on in the replay. -/
theorem Shows.setLine (hs : Shows t i file f h m) {r : Replay} (hruns : r.Runs file) (notices : List Notice) :
    Shows t i file f ((h.setLine t (.replay r)).report notices) { m with records := r.rest f } where
  replay := ⟨r, line_setLine hs.made _, hruns, rfl⟩
  made := by
    show t < (h.transports.modify t _).size
    rw [Array.size_modify]
    exact hs.made
  serves := by
    show ((h.setLine t (.replay r)).transport t).interest = i
    rw [transport_setLine, if_pos ⟨rfl, hs.made⟩]
    exact hs.serves
  interest_lt := hs.interest_lt
  interest := hs.interest
  readable := hs.readable

/-- Something else is wanted. -/
theorem Shows.modifyInterest (hs : Shows t i file f h m) (change : Interest → Interest) :
    Shows t i file f (h.modifyInterest i change) { m with interest := change m.interest } where
  replay := hs.replay
  made := hs.made
  serves := hs.serves
  interest_lt := by
    show i < (h.interests.modify i change).size
    rw [Array.size_modify]
    exact hs.interest_lt
  interest := by rw [interest_modifyInterest, if_pos ⟨rfl, hs.interest_lt⟩, hs.interest]
  readable := hs.readable

/-! ## Turn for turn -/

/-- A receiver is given what the reel gives. -/
theorem Shows.receive (hs : Shows t i file f h m) (wait : Option Nat) (still : Bool) :
    ∃ g, (Call.receive t wait still).perform h = (m.next.1, g) ∧ Shows t i file f g m.next.2 := by
  obtain ⟨r, hline, hruns, hrest⟩ := hs.replay
  have hread := Act.journalFile_of_reads hruns.reads hs.readable
  have hwants := hs.wants
  simp only [Call.perform, Act.receive, Act.poll, Act.bind_apply, Act.get_apply, hline, hread, hwants, Reel.next]
  rw [← hrest]
  cases hskip : Replay.skip m.interest.wants (r.rest f) with
  | nil =>
    obtain ⟨r', notices, htake, hruns', hrest', -⟩ := Replay.take_of_skip_nil hruns hskip h.now
    refine ⟨_, ?_, hrest' ▸ hs.setLine hruns' notices⟩
    simp only [htake, Act.modify_apply, Act.orHalt_error]
  | cons x xs =>
    obtain ⟨r', notices, htake, hruns', hrest', -⟩ := Replay.take_of_skip_cons hruns hskip h.now
    refine ⟨_, ?_, hrest' ▸ hs.setLine hruns' notices⟩
    simp only [htake, Act.modify_apply, Act.orHalt_ok, Act.pure_apply]

/-- A transport that is told of a change goes past nothing. -/
theorem Shows.interestChanged (hs : Shows t i file f h m) :
    ∃ g, (Call.interestChanged t).perform h = (.ok .done, g) ∧ Shows t i file f g m := by
  obtain ⟨r, hline, hruns, hrest⟩ := hs.replay
  have hread := Act.journalFile_of_reads hruns.reads hs.readable
  obtain ⟨hruns', hrest', -⟩ := Replay.refresh_rest hruns f (h.wants t)
  refine ⟨_, ?_, hrest ▸ hrest' ▸ hs.setLine hruns' (r.refresh f (h.wants t)).2⟩
  simp only [Call.perform, Act.interestChanged, Act.bind_apply, Act.get_apply, hline, hread, Act.modify_apply,
    Act.pure_apply]

/-- A change of what is wanted, of which the transport is told. -/
theorem Shows.changed (hs : Shows t i file f h m) (call : Call) (change : Interest → Interest)
    (hcall : call.perform h = (.ok .done, h.modifyInterest i change)) :
    ∃ g, Carriage.run h [call, .interestChanged t] = ([.ok .done, .ok .done], g) ∧
      Shows t i file f g { m with interest := change m.interest } := by
  obtain ⟨g, hg, hshows⟩ := (hs.modifyInterest change).interestChanged
  refine ⟨g, ?_, hshows⟩
  rw [run_cons, hcall, run_cons, hg]
  rfl

/-- The transport answers as the reel does, in one turn. -/
theorem Shows.turn (hs : Shows t i file f h m) (turn : Reel.Turn) :
    ∃ g, Carriage.run h (turn.calls t i) = ((m.turn turn).1, g) ∧ Shows t i file f g (m.turn turn).2 := by
  cases turn with
  | receive wait still =>
    obtain ⟨g, hg, hshows⟩ := hs.receive wait still
    refine ⟨g, ?_, hshows⟩
    rw [Reel.Turn.calls, run_cons, hg]
    rfl
  | insert id p => exact hs.changed (.insert i id p) (·.insert id p) rfl
  | remove id => exact hs.changed (.remove i id) (·.remove id) rfl

/-- The transport answers as the reel does, in all turns. -/
theorem Shows.run (hs : Shows t i file f h m) (turns : List Reel.Turn) :
    ∃ g, Carriage.run h (turns.flatMap (Reel.Turn.calls t i)) = ((m.run turns).1, g) ∧
      Shows t i file f g (m.run turns).2 := by
  induction turns generalizing h m with
  | nil => exact ⟨h, rfl, hs⟩
  | cons turn turns ih =>
    obtain ⟨k, hk, hkept⟩ := hs.turn turn
    obtain ⟨g, hg, hshows⟩ := ih hkept
    refine ⟨g, ?_, hshows⟩
    rw [List.flatMap_cons, run_append, hk, hg]
    rfl

end Hub

/-! ## Opening -/

namespace Act

open Hub

variable {η : Type} {h g : Hub η} {t i : Nat}

/-- Opens a journal for reading and goes to where a replay starts. -/
def openAtStart (path : ByteArray) (start : Option Timestamp) : Act η Journal := do
  startAt (← openJournal path .read) start

/-- A transport that has been opened on a file shows what the file gives from where the replay starts. -/
theorem openFile_shows {a : FileAddress} (hmode : a.mode = .read) (hspeed : ¬ 0 < a.speed)
    (hi : i < h.interests.size) {clock : Clock} (hopen : openFile a i clock h = (.ok t, g)) :
    ∃ j k file f rs, openAtStart a.path a.start h = (.ok j, k) ∧ j.Gives h.store rs ∧
      Shows t i file f g ⟨rs, h.interest i⟩ := by
  rcases openFile_reading h hmode i clock with
    ⟨file, c, f, started, notices, -, readable, hjournal, hstart, -, hmade⟩ | ⟨-, e, notices, hfailed⟩
  · rw [hmade] at hopen
    cases hopen
    have hruns : Replay.Runs { journal := ⟨a.path, .read, .reading file c⟩, speed := a.speed } file :=
      ⟨rfl, hspeed, ⟨c, rfl⟩, Signal.consistent_new⟩
    obtain ⟨hruns', hrest, -⟩ := Replay.refresh_rest hruns f (h.interest i).wants
    have hnew := fun tr : Transport =>
      (transport_addTransport { h with notices } tr h.transports.size).trans (if_pos rfl)
    exact ⟨_, _, file, f, (Journal.scanAll f c).records, (bind_ok hjournal).trans hstart,
      Journal.gives_scanAll rfl readable, ⟨_, congrArg Transport.line (hnew _), hruns', hrest⟩,
      (size_addTransport { h with notices } _).symm ▸ Nat.lt_succ_self _, congrArg Transport.interest (hnew _), hi, rfl,
      readable⟩
  · rw [hfailed] at hopen
    cases hopen

end Act

/-! ## Replays -/

namespace Hub

variable {η : Type} {h g : Hub η} {t i : Nat}

/-- A transport has been opened on a file, to replay it without pauses. Let `rs` be the records that a reader of the
file is given, from where the replay starts, before it is first told that there is nothing. Whatever receivers come and
whatever changes are made to what is wanted, the answers are those of a reel with the records `rs`: they are in the
order of the file, none is given twice, the ones that are left are those that the reel has left, and once the end has
come no message comes any more. -/
theorem replay_reels {a : FileAddress} (hmode : a.mode = .read) (hspeed : ¬ 0 < a.speed) {exchange : Nat}
    {clock : Clock} (hi : i < h.interests.size) (hopen : Act.openTransport (.file a) exchange i clock h = (.ok t, g)) :
    ∃ j k rs, Act.openAtStart a.path a.start h = (.ok j, k) ∧ j.Gives h.store rs ∧
      ∀ turns : List Reel.Turn,
        let reel := Reel.run ⟨rs, h.interest i⟩ turns
        let hub := Carriage.run g (turns.flatMap (Reel.Turn.calls t i))
        hub.1 = reel.1 ∧ hub.2.rest t = reel.2.records.map Record.message ∧
          (messagesOf hub.1 ++ hub.2.rest t).Sublist (rs.map Record.message) ∧
          (.error (.failed .endOfLog) ∈ hub.1 → ∀ more : List Reel.Turn,
            messagesOf (Carriage.run hub.2 (more.flatMap (Reel.Turn.calls t i))).1 = []) := by
  obtain ⟨j, k, file, f, rs, hj, hgives, hshows⟩ := Act.openFile_shows hmode hspeed hi hopen
  refine ⟨j, k, rs, hj, hgives, fun turns => ?_⟩
  obtain ⟨g', hg', hshows'⟩ := hshows.run turns
  have hrest := hshows'.rest
  simp only [hg', hrest]
  refine ⟨trivial, trivial, Reel.sublist_run _ turns, fun hended more => ?_⟩
  obtain ⟨g'', hg'', -⟩ := hshows'.run more
  rw [hg'']
  exact (Reel.messages_of_nil (Reel.records_run_of_ended hended) more).1

/-- Two records on different channels. -/
def twoChannels : List Record := [⟨0, 5, "c", .empty⟩, ⟨1, 6, "d", .empty⟩]

theorem fits_twoChannels : ∀ r ∈ twoChannels, r.Fits := by
  intro r hr
  simp only [twoChannels, List.mem_cons, List.not_mem_nil, or_false] at hr
  rcases hr with rfl | rfl <;> exact ⟨by decide, by decide, by decide⟩

/-- A hub with a file that holds the two records, and an interest in nothing. -/
def shelf : Hub Unit where
  store := { nodes := #[.directory, .file (Journal.row twoChannels)], entries := [([], 0), ([[0x61]], 1)], base := [] }
  interests := #[.nothing]
  desk := ()

theorem openTransport_shelf :
    ∃ g, Act.openTransport (.file { path := [0x61].toByteArray }) 0 0 {} shelf = (.ok 0, g) := by
  have hcomputed : (Act.openTransport (.file { path := [0x61].toByteArray }) 0 0 {} shelf).1.toOption = some 0 := by
    decide +kernel
  generalize Act.openTransport (.file { path := [0x61].toByteArray }) 0 0 {} shelf = r at hcomputed
  obtain ⟨e | t, g⟩ := r
  · cases hcomputed
  · exact ⟨g, by rw [Option.some.inj hcomputed]⟩

/-- When only the second channel is wanted, a receiver is given the second record, and then the end has come. -/
theorem replay_reels_shelf :
    ∃ p g, Pattern.ofText "d" = .ok p ∧
      Act.openTransport (.file { path := [0x61].toByteArray }) 0 0 {} shelf = (.ok 0, g) ∧
      (Carriage.run g [.insert 0 1 p, .interestChanged 0, .receive 0 none false, .receive 0 none false]).1 =
        [.ok .done, .ok .done, .ok (.received (.message ⟨"d", .empty, 6⟩)), .error (.failed .endOfLog)] := by
  obtain ⟨p, hp, hc, hd⟩ : ∃ p, Pattern.ofText "d" = .ok p ∧ p.accepts "c" = false ∧ p.accepts "d" = true := by
    have hcomputed : (Pattern.ofText "d").toOption.any (fun p => !p.accepts "c" && p.accepts "d") = true := by
      decide +kernel
    cases hp : Pattern.ofText "d" with
    | error e => rw [hp] at hcomputed; cases hcomputed
    | ok p =>
      rw [hp] at hcomputed
      simpa [Except.toOption] using hcomputed
  obtain ⟨g, hopen⟩ := openTransport_shelf
  obtain ⟨j, k, rs, hj, hgives, hreel⟩ := replay_reels rfl (by decide) (Nat.zero_lt_one) hopen
  have hgiven : rs = twoChannels := by
    have hfile : shelf.store.openRead [0x61].toByteArray = .ok 1 := by decide +kernel
    have hjournal := Act.openJournal_read shelf [0x61].toByteArray
    rw [hfile] at hjournal
    have hstart : Act.openAtStart [0x61].toByteArray none shelf =
        (.ok ⟨[0x61].toByteArray, .read, .reading 1 0⟩, shelf) := Act.bind_ok hjournal
    cases hj.symm.trans hstart
    have hrecords := Journal.scanAll_row fits_twoChannels (Nat.zero_le _)
    rw [Journal.startOf_zero] at hrecords
    have hrow := Journal.gives_scanAll (j := ⟨[0x61].toByteArray, .read, .reading 1 0⟩) (s := shelf.store) rfl rfl
    rw [hrecords] at hrow
    exact hgives.unique hrow
  subst hgiven
  refine ⟨p, g, hp, hopen, (hreel [.insert 1 p, .receive none false, .receive none false]).1.trans ?_⟩
  have hwants : ∀ c, ((shelf.interest 0).insert 1 p).wants c = p.accepts c := fun c => by
    simp [shelf, interest, Interest.insert, Interest.wants, Interest.nothing]
  simp [Reel.run, Reel.turn, Reel.next, twoChannels, Replay.skip, hwants, hc, hd, Record.message]

end Hub
end PubSub
