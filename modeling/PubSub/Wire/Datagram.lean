import PubSub.Bytes
import PubSub.Message

/-!
# Datagrams

A message that fits goes out as one short datagram:

    "LC02"  sequence:4  channel 0  payload

A longer one goes out as fragments, of which the first, number 0, carries the channel:

    "LC03"  sequence:4  size:4  offset:4  index:2  count:2  [channel 0]  data

All numbers have their most significant byte first. `size` is the length of the whole payload and `offset` the
place of `data` in it, so fragments can be put together in any order.

* `Datagram.encode`, `Datagram.decode`: the two directions.
* `DatagramError.message`: the wording of what makes bytes no datagram.
-/

namespace PubSub.Wire

/-- The first word of a short datagram, the text `LC02`. -/
def shortMagic : UInt32 := 0x4C433032

/-- The first word of a fragment, the text `LC03`. -/
def fragmentMagic : UInt32 := 0x4C433033

/-- The bytes before the channel of a short datagram. -/
def shortHeaderSize : Nat := 8

/-- The bytes before the data, or the channel, of a fragment. -/
def fragmentHeaderSize : Nat := 20

/-- The longest channel name of a datagram, in bytes. -/
def maxChannelLength : Nat := 63

/-- The most fragments of one message. -/
def maxFragments : Nat := 65535

/-- One piece of a message. -/
structure Fragment where
  /-- The message's number with its sender. -/
  sequence : UInt32
  /-- The bytes of the whole payload. -/
  size : UInt32
  /-- Where the data belongs in the payload. -/
  offset : UInt32
  /-- The fragment's number, from 0. -/
  index : UInt16
  /-- How many fragments the message has. -/
  count : UInt16
  /-- The channel, on fragment 0 only. -/
  channel : Option String
  /-- The piece of the payload. -/
  data : ByteArray

/-- What one datagram carries. -/
inductive Datagram
  | short (sequence : UInt32) (channel : String) (payload : ByteArray)
  | fragment (f : Fragment)

/-- Why bytes are not a datagram (`WireError`). -/
inductive DatagramError
  | truncated (needed given : Nat)
  | badMagic (magic : UInt32)
  | unterminatedChannel
  | invalidChannel
  | fragmentIndex (index count : UInt16)
  | fragmentBounds (offset : UInt32) (length : Nat) (size : UInt32)
  deriving DecidableEq

/-- The wording of a datagram error. -/
def DatagramError.message : DatagramError → String
  | .truncated needed given => s!"datagram too short: need {needed} bytes, have {given}"
  | .badMagic magic =>
    let digits := Nat.toDigits 16 magic.toNat
    "unknown magic 0x" ++ String.ofList (List.replicate (8 - digits.length) '0' ++ digits)
  | .unterminatedChannel => "channel name is not terminated"
  | .invalidChannel => "channel name is not valid utf-8"
  | .fragmentIndex index count => s!"fragment {index} of {count} is out of range"
  | .fragmentBounds offset length size => s!"fragment data [{offset}, +{length}) exceeds message size {size}"

/-- A channel name as it stands in a datagram, with the zero byte that ends it. -/
def channelField (channel : String) : ByteArray :=
  channel.toUTF8.push 0

/-- The bytes of a datagram. -/
def Datagram.encode : Datagram → ByteArray
  | .short sequence channel payload =>
    Bytes.ofNat 4 shortMagic.toNat ++ Bytes.ofNat 4 sequence.toNat ++ channelField channel ++ payload
  | .fragment f =>
    let header := Bytes.ofNat 4 fragmentMagic.toNat ++ Bytes.ofNat 4 f.sequence.toNat ++
      Bytes.ofNat 4 f.size.toNat ++ Bytes.ofNat 4 f.offset.toNat ++
      Bytes.ofNat 2 f.index.toNat ++ Bytes.ofNat 2 f.count.toNat
    match f.channel with
    | some channel => header ++ channelField channel ++ f.data
    | none => header ++ f.data

/-- The place of the first zero byte of `b` from `pos` on, before `stop`. -/
def findZero (b : ByteArray) (pos stop : Nat) : Option Nat :=
  if h : pos < stop ∧ pos < b.size then
    if b[pos] = 0 then some pos else findZero b (pos + 1) stop
  else none
termination_by stop - pos

/-- Reads the channel name at `pos` and the bytes after the zero byte that ends it (`split_channel`). -/
def splitChannel (b : ByteArray) (pos : Nat) : Except DatagramError (String × ByteArray) :=
  match findZero b pos (pos + maxChannelLength + 1) with
  | none => .error .unterminatedChannel
  | some stop =>
    match String.fromUTF8? (b.extract pos stop) with
    | none => .error .invalidChannel
    | some channel => .ok (channel, b.extract (stop + 1) b.size)

/-- Reads a datagram (`decode`). -/
def Datagram.decode (b : ByteArray) : Except DatagramError Datagram :=
  if b.size < shortHeaderSize then .error (.truncated shortHeaderSize b.size)
  else
    let magic := Bytes.word32At b 0
    let sequence := Bytes.word32At b 4
    if magic = shortMagic then do
      let (channel, payload) ← splitChannel b shortHeaderSize
      return .short sequence channel payload
    else if magic = fragmentMagic then
      if b.size < fragmentHeaderSize then .error (.truncated fragmentHeaderSize b.size)
      else
        let size := Bytes.word32At b 8
        let offset := Bytes.word32At b 12
        let index := Bytes.word16At b 16
        let count := Bytes.word16At b 18
        if count ≤ index then .error (.fragmentIndex index count)
        else do
          let (channel, data) ←
            if index = 0 then do
              let (channel, data) ← splitChannel b fragmentHeaderSize
              pure (some channel, data)
            else pure (none, b.extract fragmentHeaderSize b.size)
          if size.toNat < offset.toNat + data.size then
            .error (.fragmentBounds offset data.size size)
          else return .fragment { sequence, size, offset, index, count, channel, data }
    else .error (.badMagic magic)

end PubSub.Wire
