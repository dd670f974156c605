import PubSub.Journal.Record
import PubSub.Store

/-!
# Writing records

A writer keeps what it is given in a buffer until the buffer is full or somebody asks for it to be written out. A piece
as long as the buffer goes to the file at once, after what waits before it.

* `Writer.put`: takes a piece.
* `Writer.flush`: writes out what waits; on an error it goes on waiting.
* `Writer.write`: takes a record.
-/

namespace PubSub.Journal

/-- The bytes that a buffer holds at most. -/
def bufferSize : Nat := 8192

/-- A journal that is being written. -/
structure Writer where
  /-- The number of its file. -/
  file : Nat
  /-- Where the next bytes go; none for the end of the file. -/
  offset : Option Nat
  /-- What waits to be written. -/
  buffer : ByteArray := .empty
  /-- The length of the journal with what waits. -/
  length : Nat
  /-- The number of the next record. -/
  next : Int64

namespace Writer

/-- Writes bytes to the file. -/
def emit (w : Writer) (s : Store) (bytes : ByteArray) : Except OsError (Writer × Store) :=
  (s.write w.file w.offset bytes).map fun s => ({ w with offset := w.offset.map (· + bytes.size) }, s)

/-- Writes out what waits. -/
def flush (w : Writer) (s : Store) : Except OsError Unit × Writer × Store :=
  if w.buffer.size = 0 then (.ok (), w, s)
  else
    match w.emit s w.buffer with
    | .error e => (.error e, w, s)
    | .ok (w, s) => (.ok (), { w with buffer := .empty }, s)

/-- Takes a piece into a buffer with room for it, or past an empty one. -/
def accept (w : Writer) (s : Store) (piece : ByteArray) : Except OsError Unit × Writer × Store :=
  if bufferSize ≤ piece.size then
    match w.emit s piece with
    | .error e => (.error e, w, s)
    | .ok (w, s) => (.ok (), w, s)
  else (.ok (), { w with buffer := w.buffer ++ piece }, s)

/-- Takes a piece. -/
def put (w : Writer) (s : Store) (piece : ByteArray) : Except OsError Unit × Writer × Store :=
  if bufferSize < w.buffer.size + piece.size then
    match w.flush s with
    | (.error e, w, s) => (.error e, w, s)
    | (.ok (), w, s) => w.accept s piece
  else w.accept s piece

/-- Takes pieces in order, up to the first that fails. -/
def putAll (w : Writer) (s : Store) : List ByteArray → Except OsError Unit × Writer × Store
  | [] => (.ok (), w, s)
  | piece :: rest =>
    match w.put s piece with
    | (.error e, w, s) => (.error e, w, s)
    | (.ok (), w, s) => w.putAll s rest

/-- Takes a record and tells its number (`EventLog.write_record`). -/
def write (w : Writer) (s : Store) (time : Timestamp) (channel : String) (payload : ByteArray) :
    Except Error Int64 × Writer × Store :=
  match Record.check channel payload with
  | .error e => (.error e, w, s)
  | .ok () =>
    let r : Record := ⟨w.next, time, channel, payload⟩
    match w.putAll s [r.header.encode, channel.toUTF8, payload] with
    | (.error e, w, s) => (.error (.io e), w, s)
    | (.ok (), w, s) =>
      (.ok r.eventNumber,
        { w with length := w.length + Record.length channel payload, next := w.next + 1 }, s)

/-- Lets go of the file; what can still be written is written. -/
def release (w : Writer) (s : Store) : Store := (w.flush s).2.2

end Writer
end PubSub.Journal
