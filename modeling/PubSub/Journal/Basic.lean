import PubSub.Address
import PubSub.Journal.Scan
import PubSub.Journal.Writer
import PubSub.Text.Utf8

/-!
# Journals

A journal file that is open either for reading or for writing.

* `Journal.openFile`: opens a file; one that is to be continued is read once so that numbers go on.
* `Journal.write`, `Journal.flush`, `Journal.close`, `Journal.release`: for writers.
* `Journal.next`, `Journal.seek`, `Journal.seekTime`: for readers.
-/

namespace PubSub

/-- The two uses of a journal. -/
inductive Journal.Use
  /-- Reading the file of a number, from where the reader stands. -/
  | reading (file cursor : Nat)
  | writing (writer : Journal.Writer)

/-- An open journal (`EventLog`). -/
structure Journal where
  /-- The path under which it was opened. -/
  path : ByteArray
  mode : Journal.Mode
  use : Journal.Use

namespace Journal

/-- The path as it is shown. -/
def pathText (path : ByteArray) : String := Text.ofByteArrayLossy path

/-- What is reported of the places that a reader goes past. -/
def notices (path : ByteArray) (skipped : List (Nat × Damage)) : List Notice :=
  skipped.map fun s => s.2.notice (pathText path) s.1

/-- Opens a journal to continue it (`EventLog.open` in the mode for this, with `count_records`). -/
def openAppend (s : Store) (path : ByteArray) : Except OsError Journal × Store × List Notice :=
  let existing : Except OsError Passage :=
    if s.present path then (s.readFile path).map fun f => scanAll f 0 else .ok ⟨[], 0, []⟩
  match existing with
  | .error e => (.error e, s, [])
  | .ok passage =>
    let skipped := notices path passage.skipped
    match s.openWrite path with
    | .error e => (.error e, s, skipped)
    | .ok (s, file) =>
      let count := passage.records.length
      let writer : Writer :=
        { file, offset := none, length := (s.node file).size, next := Int64.ofNat count }
      (.ok ⟨path, .append, .writing writer⟩, s,
        skipped ++ [.debug s!"appending to {pathText path} after {count} existing records"])

/-- Opens a journal (`EventLog.open`). -/
def openFile (s : Store) (path : ByteArray) (mode : Mode) : Except OsError Journal × Store × List Notice :=
  match mode with
  | .read =>
    match s.openRead path with
    | .error e => (.error e, s, [])
    | .ok file => (.ok ⟨path, mode, .reading file 0⟩, s, [])
  | .write =>
    match s.openEmpty path with
    | .error e => (.error e, s, [])
    | .ok (s, file) => (.ok ⟨path, mode, .writing { file, offset := some 0, length := 0, next := 0 }⟩, s, [])
  | .append => openAppend s path

/-- Where a reader stands; the length with what waits to be written for a writer (`EventLog.tell`). -/
def tell (j : Journal) : Nat :=
  match j.use with
  | .reading _ cursor => cursor
  | .writing w => w.length

/-- The length of the journal (`EventLog.size`). -/
def size (j : Journal) (s : Store) : Nat :=
  match j.use with
  | .reading file _ => (s.node file).size
  | .writing w => w.length

/-- The number of the next record to be written (`EventLog.next_eventnum`). -/
def nextNumber (j : Journal) : Int64 :=
  match j.use with
  | .reading .. => 0
  | .writing w => w.next

/-! ## Writing -/

/-- Adds a record and tells its number (`EventLog.write_record`). -/
def write (j : Journal) (s : Store) (time : Timestamp) (channel : String) (payload : ByteArray) :
    Except Error Int64 × Journal × Store :=
  match j.use with
  | .reading .. => (.error .readOnly, j, s)
  | .writing w =>
    let (result, w, s) := w.write s time channel payload
    (result, { j with use := .writing w }, s)

/-- Writes out what waits (`EventLog.flush`). -/
def flush (j : Journal) (s : Store) : Except Error Unit × Journal × Store :=
  match j.use with
  | .reading .. => (.ok (), j, s)
  | .writing w =>
    let (result, w, s) := w.flush s
    (result.mapError .io, { j with use := .writing w }, s)

/-- Lets go of a journal without a word. -/
def release (j : Journal) (s : Store) : Store :=
  match j.use with
  | .reading .. => s
  | .writing w => w.release s

/-- Writes out what waits and lets go of the journal (`EventLog.close`). -/
def close (j : Journal) (s : Store) : Except Error Unit × Store × List Notice :=
  match j.flush s with
  | (.error e, j, s) => (.error e, j.release s, [])
  | (.ok (), j, s) => (.ok (), j.release s, [.debug s!"eventlog: closed {pathText j.path}"])

/-! ## Reading -/

/-- The next record (`EventLog.read_next_record`). -/
def next (j : Journal) (s : Store) : Except Error (Option Record) × Journal × List Notice :=
  match j.use with
  | .writing _ => (.error .writeOnly, j, [])
  | .reading file cursor =>
    match (s.node file).read with
    | .error e => (.error (.io e), j, [])
    | .ok f =>
      let r := scan f cursor
      (.ok (r.found.map Prod.snd), { j with use := .reading file r.cursor }, notices j.path r.skipped)

/-- Moves a reader; `standing` is where it stays if the file cannot be read. -/
def move (j : Journal) (s : Store) (standing : Nat → Nat) (go : ByteArray → Landing) :
    Except Error Unit × Journal × List Notice :=
  match j.use with
  | .writing _ => (.error .writeOnly, j, [])
  | .reading file _ =>
    match (s.node file).read with
    | .error e => (.error (.io e), { j with use := .reading file (standing (s.node file).size) }, [])
    | .ok f =>
      let r := go f
      (.ok (), { j with use := .reading file r.cursor }, notices j.path r.skipped)

/-- Goes before the first record from `offset` on (`EventLog.seek`). -/
def seek (j : Journal) (s : Store) (offset : Nat) : Except Error Unit × Journal × List Notice :=
  j.move s (min offset) fun f => locate f offset

/-- Goes before the first record whose time is `time` or later (`EventLog.seek_to_timestamp`). -/
def seekTime (j : Journal) (s : Store) (time : Timestamp) : Except Error Unit × Journal × List Notice :=
  j.move s (· / 2) fun f => locateTime f time

end Journal
end PubSub
