import PubSub.Journal.Header

/-!
# Records

A journal is a row of records, each a header followed by the channel name and the payload.

* `Record.encode`: the bytes of a record.
* `Record.check`: what a writer asks of a channel name and a payload.
-/

namespace PubSub.Journal

/-- A message as a journal keeps it. -/
structure Record where
  /-- Its number in the journal. -/
  eventNumber : Int64
  /-- The time kept with it. -/
  timestamp : Timestamp
  channel : String
  payload : ByteArray
  deriving Inhabited

/-- The longest payload of a record. -/
def maxPayloadLength : Nat := 0x7FFFFFFF

namespace Record

/-- The header of a record. -/
def header (r : Record) : Header :=
  { eventNumber := r.eventNumber
    timestamp := r.timestamp
    channelLength := Int32.ofNat r.channel.utf8ByteSize
    payloadLength := Int32.ofNat r.payload.size }

/-- The bytes of a record. -/
def encode (r : Record) : ByteArray := r.header.encode ++ r.channel.toUTF8 ++ r.payload

/-- The message that a record keeps. -/
def message (r : Record) : Message := ⟨r.channel, r.payload, r.timestamp⟩

/-- How many bytes a record takes. -/
def length (channel : String) (payload : ByteArray) : Nat := headerSize + channel.utf8ByteSize + payload.size

/-- Refuses what no header can tell the length of. -/
def check (channel : String) (payload : ByteArray) : Except Error Unit :=
  if channel.utf8ByteSize = 0 ∨ maxChannelLength < channel.utf8ByteSize then
    .error (.invalidArgument (.channelLength channel.utf8ByteSize maxChannelLength))
  else if maxPayloadLength < payload.size then .error (.invalidArgument .payloadLength)
  else .ok ()

end Record
end PubSub.Journal
