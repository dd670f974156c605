import PubSub.Journal.Scan

/-!
# Reading byte by byte

How a reader goes through a file. It takes one byte after the other until the last four are the sync word, then the rest
of the header, the body and the four bytes behind it, and goes back where what it has taken is no record, or is not all
there.

* `Reader`: where the next byte comes from, and where the reader says that it stands.
* `Reader.sweep`: takes bytes up to the end of the next sync word.
* `Reader.inspect`: takes what comes behind a sync word.
* `Reader.turns`: goes on from one sync word to the next, so many times at most.
-/

namespace PubSub.Journal

/-- The length of a body from which on a reader asks for the length of the file before it takes the body
(`READ_BUFFER_SIZE`). -/
def bodyLimit : Nat := 65536

/-- A reader of a file. -/
structure Reader where
  /-- Where the next byte comes from. -/
  position : Nat
  /-- Where the reader says that it stands. -/
  cursor : Nat

namespace Reader

/-- A reader that was sent to a place. -/
def standing (place : Nat) : Reader := ⟨place, place⟩

/-- Takes `n` bytes, or as many as there are (`read_up_to`). -/
def take (r : Reader) (f : ByteArray) (n : Nat) : ByteArray × Reader :=
  let bytes := f.extract r.position (r.position + n)
  (bytes, { r with position := r.position + bytes.size })

/-- Takes bytes until the last four are the sync word, and gives their number and whether they are (`scan_sync`). The
last bytes that were taken are in `window`, `taken` is their number so far. -/
def sweep (f : ByteArray) (position : Nat) (window : UInt32) (taken : Nat) : Nat × Bool :=
  if _ : position < f.size then
    let window := window <<< 8 ||| f[position].toUInt32
    if 4 ≤ taken + 1 ∧ window = syncWord then (taken + 1, true)
    else sweep f (position + 1) window (taken + 1)
  else (taken, false)
termination_by f.size - position

/-- What a turn leads to. -/
inductive Turn
  /-- The reader is done, with a record and the place where it starts, or without one. -/
  | done (found : Option (Nat × Record)) (reader : Reader)
  /-- What stands at a place is no record, and the reader goes on one byte further. -/
  | onward (place : Nat) (damage : Damage)

/-- Takes what comes behind the sync word at `start`. A body that is longer than `limit` is held against the length of
the file before it is taken. -/
def inspect (limit : Option Nat) (f : ByteArray) (r : Reader) (start : Nat) : Turn :=
  let (rest, r) := r.take f (headerSize - 4)
  if rest.size < headerSize - 4 then .done none (standing start)
  else
    match Header.decode (Bytes.ofNat 4 syncWord.toNat ++ rest) with
    | .error cause => .onward start (.header cause)
    | .ok h =>
      let stop := start + headerSize + h.bodyLength
      if (limit.any fun l => l < h.bodyLength) ∧ f.size < stop then .done none (standing start)
      else
        let (body, r) := r.take f h.bodyLength
        if body.size < h.bodyLength then .done none (standing start)
        else
          let (next, r) := r.take f 4
          if next.size = 4 ∧ Bytes.word32At next 0 ≠ syncWord then .onward start .notFollowed
          else
            let r := { r with position := r.position - next.size }
            let length := h.channelLength.toInt.toNat
            match String.fromUTF8? (body.extract 0 length) with
            | none => .onward start .channel
            | some channel =>
              .done (some (start, ⟨h.eventNumber, h.timestamp, channel, body.extract length body.size⟩))
                { r with cursor := stop }

/-- Goes on to the end of the next sync word, and takes what comes behind it. -/
def turn (limit : Option Nat) (f : ByteArray) (r : Reader) : Turn :=
  let (taken, found) := sweep f r.position 0 0
  let r : Reader := ⟨r.position + taken, r.cursor + taken⟩
  if found then inspect limit f r (r.cursor - 4) else .done none r

/-- What a reader has found, the reader afterwards, and what it went past. -/
structure Outcome where
  found : Option (Nat × Record)
  reader : Reader
  skipped : List (Nat × Damage)

/-- Takes turns until the reader is done (`EventLog.read_next_record`). There is no outcome if it is not done after so
many. -/
def turns (limit : Option Nat) (f : ByteArray) : Nat → Reader → Option Outcome
  | 0, _ => none
  | n + 1, r =>
    match turn limit f r with
    | .done found r => some ⟨found, r, []⟩
    | .onward place damage =>
      (turns limit f n (standing (place + 1))).map fun o => { o with skipped := (place, damage) :: o.skipped }

end Reader
end PubSub.Journal
