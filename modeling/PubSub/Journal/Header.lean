import PubSub.Bytes
import PubSub.Error
import PubSub.Message

/-!
# Record headers

Every record of a journal starts with 28 bytes: the sync word, the event number, the timestamp, the length of the
channel name and the length of the payload, each most significant byte first.

* `Header.encode`, `Header.decode`: the two directions.
* `Header.bodyLength`: how many bytes follow the header.
-/

namespace PubSub.Journal

/-- The word that starts every record; readers look for it to find where records begin (`SYNC_WORD`). -/
def syncWord : UInt32 := 0xEDA1DA01

/-- The bytes of a header. -/
def headerSize : Nat := 28

/-- The longest channel name of a record, in bytes. -/
def maxChannelLength : Nat := 999

/-- The fields of a record header (`RecordHeader`). -/
structure Header where
  /-- The record's number in its journal, from 0. -/
  eventNumber : Int64
  /-- The record's time. -/
  timestamp : Timestamp
  /-- The bytes of the channel name. -/
  channelLength : Int32
  /-- The bytes of the payload. -/
  payloadLength : Int32
  deriving DecidableEq

namespace Header

/-- The 28 bytes of a header (`RecordHeader.encode`). -/
def encode (h : Header) : ByteArray :=
  Bytes.ofNat 4 syncWord.toNat ++ Bytes.ofNat 8 h.eventNumber.toUInt64.toNat ++
    Bytes.ofNat 8 h.timestamp.toUInt64.toNat ++ Bytes.ofNat 4 h.channelLength.toUInt32.toNat ++
    Bytes.ofNat 4 h.payloadLength.toUInt32.toNat

/-- Whether the lengths are such as a writer produces. -/
def Valid (h : Header) : Prop :=
  1 ≤ h.channelLength.toInt ∧ h.channelLength.toInt ≤ maxChannelLength ∧ 0 ≤ h.payloadLength.toInt

instance (h : Header) : Decidable h.Valid := inferInstanceAs (Decidable (_ ∧ _ ∧ _))

/-- Reads the header at `pos`, where there are 28 bytes. -/
def decodeAt (b : ByteArray) (pos : Nat) : Except Corruption Header :=
  if Bytes.word32At b pos ≠ syncWord then .error .missingSyncWord
  else
    let h : Header :=
      { eventNumber := (Bytes.word64At b (pos + 4)).toInt64
        timestamp := (Bytes.word64At b (pos + 12)).toInt64
        channelLength := (Bytes.word32At b (pos + 20)).toInt32
        payloadLength := (Bytes.word32At b (pos + 24)).toInt32 }
    if h.channelLength.toInt < 1 ∨ (maxChannelLength : Int) < h.channelLength.toInt then .error .channelLength
    else if h.payloadLength.toInt < 0 then .error .payloadLength
    else .ok h

/-- Reads a header from its 28 bytes (`RecordHeader.decode`). -/
def decode (b : ByteArray) : Except Corruption Header := decodeAt b 0

/-- The bytes that follow a valid header (`RecordHeader.body_len`). -/
def bodyLength (h : Header) : Nat :=
  h.channelLength.toInt.toNat + h.payloadLength.toInt.toNat

end Header
end PubSub.Journal
