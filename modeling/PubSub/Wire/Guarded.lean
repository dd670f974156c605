import PubSub.Wire.Assembly

/-!
# Reading and gathering with every access checked

`Datagram.decode` and `Assembly.insert` once more, with each byte that is looked up, each stretch that is cut out or
written over and each number that is taken off another one checked at its place. One that is out of bounds leaves no
result at all, neither a value nor an error of the datagram.

* `Bytes.number?`, `Bytes.slice?`, `Bytes.overwrite?`: reading and writing within bounds.
* `Datagram.decode?`: reading a datagram.
* `Assembly.evictStale?`, `Assembly.insert?`: giving up messages and adding a fragment.
-/

namespace PubSub

namespace Bytes

/-- The number that the `width` bytes from `pos` on hold, if they are there. -/
def number? (b : ByteArray) (pos : Nat) : Nat → Option Nat
  | 0 => some 0
  | width + 1 => do
    let high ← number? b pos width
    let low ← b[pos + width]?
    return high * 256 + low.toNat

/-- The word that the two bytes at `pos` hold. -/
def word16? (b : ByteArray) (pos : Nat) : Option UInt16 := (number? b pos 2).map UInt16.ofNat

/-- The word that the four bytes at `pos` hold. -/
def word32? (b : ByteArray) (pos : Nat) : Option UInt32 := (number? b pos 4).map UInt32.ofNat

/-- The stretch from `start` to `stop`, if it lies within the bytes. -/
def slice? (b : ByteArray) (start stop : Nat) : Option ByteArray :=
  if start ≤ stop ∧ stop ≤ b.size then some (b.extract start stop) else none

/-- `target` with the stretch from `start` to `stop` written over by `source`, if the stretch lies within `target` and
is as long as `source`. -/
def overwrite? (target : ByteArray) (start stop : Nat) (source : ByteArray) : Option ByteArray :=
  if start ≤ stop ∧ stop ≤ target.size ∧ source.size = stop - start then
    some (source.copySlice 0 target start source.size)
  else none

end Bytes

namespace Wire

open Bytes

/-- Reads the channel name at the front of `body` and the bytes after the zero byte that ends it. -/
def splitChannel? (body : ByteArray) : Option (Except DatagramError (String × ByteArray)) :=
  match findZero body 0 (maxChannelLength + 1) with
  | none => some (.error .unterminatedChannel)
  | some stop => do
    let name ← slice? body 0 stop
    match String.fromUTF8? name with
    | none => return .error .invalidChannel
    | some channel =>
      let rest ← slice? body (stop + 1) body.size
      return .ok (channel, rest)

/-- Reads a datagram. -/
def Datagram.decode? (b : ByteArray) : Option (Except DatagramError Datagram) := do
  if b.size < shortHeaderSize then return .error (.truncated shortHeaderSize b.size)
  let magic ← word32? b 0
  let sequence ← word32? b 4
  if magic = shortMagic then
    let body ← slice? b shortHeaderSize b.size
    let read ← splitChannel? body
    return read.map fun (channel, payload) => .short sequence channel payload
  if magic ≠ fragmentMagic then return .error (.badMagic magic)
  if b.size < fragmentHeaderSize then return .error (.truncated fragmentHeaderSize b.size)
  let size ← word32? b 8
  let offset ← word32? b 12
  let index ← word16? b 16
  let count ← word16? b 18
  if count ≤ index then return .error (.fragmentIndex index count)
  let body ← slice? b fragmentHeaderSize b.size
  let read ← if index = 0 then (splitChannel? body).map (·.map fun (channel, data) => (some channel, data))
    else some (.ok (none, body))
  return read.bind fun (channel, data) =>
    if size.toNat < offset.toNat + data.size then .error (.fragmentBounds offset data.size size)
    else .ok (.fragment { sequence, size, offset, index, count, channel, data })

namespace Assembly

/-- The difference of two numbers, if the second one is not the greater one. -/
def less? (n k : Nat) : Option Nat := if k ≤ n then some (n - k) else none

/-- Gives up the messages that have waited too long, taking off the bytes of one after the other. -/
def evictStale? (a : Assembly) (now : Instant) : Option Assembly := do
  let bytes ← (a.pending.filter (a.isStale now)).foldlM (fun bytes p => less? bytes p.data.size) a.pendingBytes
  return { a with pending := a.pending.filter fun p => !a.isStale now p, pendingBytes := bytes }

/-- The table without the message with the given key. -/
def remove? (a : Assembly) (sender : Sender) (sequence : UInt32) : Option Assembly :=
  match a.get? sender sequence with
  | none => some a
  | some p => do
    let bytes ← less? a.pendingBytes p.data.size
    return { a with pending := eraseKey sender sequence a.pending, pendingBytes := bytes }

/-- Makes way for a message of `incoming` bytes (`Reassembler.make_room`). -/
def makeRoom? (a : Assembly) (incoming : Nat) : Option Assembly :=
  if a.maxMessages ≤ a.pending.length ∨ a.maxBytes < a.pendingBytes + incoming then
    match _h : (a.choices 0).find a.pending with
    | none => some a
    | some p => do
      let bytes ← less? a.pendingBytes p.data.size
      makeRoom?
        { a with
          pending := eraseKey p.sender p.sequence a.pending
          pendingBytes := bytes
          choices := fun n => a.choices (n + 1) } incoming
  else some a
termination_by a.pending.length
decreasing_by exact length_eraseKey_lt ((a.choices 0).mem _h)

/-- Begins the message that a fragment belongs to, making room for it. -/
def enter? (a : Assembly) (sender : Sender) (f : Fragment) (now : Instant) (received : Timestamp) :
    Option Assembly := do
  let a ← a.makeRoom? f.size.toNat
  return { a with pending := a.pending ++ [blank sender f now received], pendingBytes := a.pendingBytes + f.size.toNat }

/-- Finds the message that a fragment belongs to, or begins it; a message of another shape is given up. -/
def findOrBegin? (a : Assembly) (sender : Sender) (f : Fragment) (now : Instant) (received : Timestamp) :
    Option Assembly :=
  match a.get? sender f.sequence with
  | none => a.enter? sender f now received
  | some p => do
    if sameShape f p then return a
    let a ← a.remove? sender f.sequence
    a.enter? sender f now received

/-- The message with one fragment more, or none where the fragment has come in before or does not fit. -/
def place? (p : Partial) (f : Fragment) : Option (Option Partial) := do
  let stop := f.offset.toNat + f.data.size
  if p.received.size ≤ f.index.toNat ∨ p.data.size < stop then return none
  if ← p.received[f.index.toNat]? then return none
  let remaining ← less? p.remaining 1
  let data ← overwrite? p.data f.offset.toNat stop f.data
  return some { p with
    channel := f.channel <|> p.channel
    data
    received := p.received.setIfInBounds f.index.toNat true
    remaining }

/-- Adds one fragment that came in at time `now` with receive time `received`. Returns the table and the message that
the fragment completes, if it does and a fragment has told its channel. -/
def insert? (a : Assembly) (sender : Sender) (f : Fragment) (now : Instant) (received : Timestamp) :
    Option (Assembly × Option Message) := do
  let a ← a.evictStale? now
  if a.maxBytes < f.size.toNat then return (a, none)
  let a ← a.findOrBegin? sender f now received
  let p ← a.get? sender f.sequence
  let touched := { p with lastTouch := now }
  match ← place? touched f with
  | none => return (a.replace touched, none)
  | some q =>
    if q.remaining = 0 then
      let a ← a.remove? sender f.sequence
      return (a, q.channel.map fun channel => ⟨channel, q.data, q.firstReceived⟩)
    else return (a.replace q, none)

end Assembly
end Wire
end PubSub
