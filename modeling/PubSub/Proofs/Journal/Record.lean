import PubSub.Journal.Scan
import PubSub.Proofs.Journal.Header

/-!
# Records are read as they were written

What a reader makes of the bytes of a record, wherever they stand in a file.

* `Record.Fits`: a record that a writer takes.

Results:

* `Record.check_eq_ok_iff`: a writer takes the records whose lengths are in range, and refuses the others.
* `Record.decodeAt_header`: the header of a record is read as it was written.
* `examine_of_stands`: so is the record, if another sync word or the end of the file comes behind it.
* `encode_of_examine`: a record that is read is written with the bytes that it was read from.
-/

namespace PubSub.Journal

open Bytes

/-! ## Lengths -/

namespace Record

/-- The lengths are in range. -/
structure Fits (r : Record) : Prop where
  channel_pos : 1 ≤ r.channel.utf8ByteSize
  channel_le : r.channel.utf8ByteSize ≤ maxChannelLength
  payload_le : r.payload.size ≤ maxPayloadLength

/-- A writer takes what has its lengths in range. -/
theorem check_eq_ok_iff {r : Record} : check r.channel r.payload = .ok () ↔ r.Fits := by
  unfold check
  split
  · rename_i h
    refine ⟨fun he => ?_, fun hf => ?_⟩
    · cases he
    · have := hf.channel_pos
      have := hf.channel_le
      omega
  · rename_i h
    split
    · rename_i hp
      refine ⟨fun he => ?_, fun hf => ?_⟩
      · cases he
      · have := hf.payload_le
        omega
    · rename_i hp
      exact ⟨fun _ => ⟨by omega, by omega, by omega⟩, fun _ => rfl⟩

/-- A refusal names the argument. -/
theorem check_error {channel : String} {payload : ByteArray} {e : Error} (h : check channel payload = .error e) :
    ∃ d, e = .invalidArgument d := by
  unfold check at h
  split at h
  · cases h
    exact ⟨_, rfl⟩
  · split at h
    · cases h
      exact ⟨_, rfl⟩
    · cases h

variable {r : Record}

theorem toInt_channelLength (hr : r.Fits) : r.header.channelLength.toInt = r.channel.utf8ByteSize := by
  have := hr.channel_le
  rw [maxChannelLength] at this
  exact Int32.toInt_ofNat_of_lt (by omega)

theorem toInt_payloadLength (hr : r.Fits) : r.header.payloadLength.toInt = r.payload.size := by
  have := hr.payload_le
  rw [maxPayloadLength] at this
  exact Int32.toInt_ofNat_of_lt (by omega)

theorem bodyLength_header (hr : r.Fits) : r.header.bodyLength = r.channel.utf8ByteSize + r.payload.size := by
  rw [Header.bodyLength, toInt_channelLength hr, toInt_payloadLength hr, Int.toNat_natCast, Int.toNat_natCast]

end Record

/-! ## Headers -/

@[simp] theorem Record.size_encode (r : Record) : r.encode.size = Record.length r.channel r.payload := by
  rw [Record.encode, ByteArray.size_append, ByteArray.size_append, Header.size_encode]
  rfl

variable {f : ByteArray} {p : Nat}

/-- The four bytes of the sync word. -/
theorem ofNat_syncWord : ofNat 4 syncWord.toNat = [0xED, 0xA1, 0xDA, 0x01].toByteArray := by
  rw [ofNat]
  congr 1

/-- The sync word is found where it stands. -/
theorem syncAt_of_stands (h : Stands f (ofNat 4 syncWord.toNat) p) : syncAt f p = true := by
  rw [ofNat_syncWord] at h
  have hend := h.le_size
  have hsize : [0xED, 0xA1, 0xDA, (0x01 : UInt8)].toByteArray.size = 4 := rfl
  rw [hsize] at hend
  have h0 : f[p] = 0xED := h.getElem (i := 0) (by decide) (by omega)
  have h1 : f[p + 1] = 0xA1 := h.getElem (i := 1) (by decide) (by omega)
  have h2 : f[p + 2] = 0xDA := h.getElem (i := 2) (by decide) (by omega)
  have h3 : f[p + 3] = 0x01 := h.getElem (i := 3) (by decide) (by omega)
  rw [syncAt, dif_pos (by omega), h0, h1, h2, h3]
  decide

theorem stands_syncWord {h : Header} (hs : Stands f h.encode p) : Stands f (ofNat 4 syncWord.toNat) p :=
  hs.left.left.left.left

/-- The header of a record is read as it was written. -/
theorem Record.decodeAt_header {r : Record} (hs : Stands f r.header.encode p) (hr : r.Fits) :
    Header.decodeAt f p = .ok r.header := by
  have hvalid : r.header.Valid := by
    rw [Header.Valid, Record.toInt_channelLength hr, Record.toInt_payloadLength hr]
    have := hr.channel_pos
    have := hr.channel_le
    omega
  rw [Header.decodeAt_of_stands hs, if_pos hvalid]

/-! ## Records -/

/-- A record is read as it was written, if a sync word or the end of the file comes behind it. -/
theorem examine_of_stands {r : Record} (hs : Stands f r.encode p) (hr : r.Fits)
    (hnext : p + r.encode.size + 4 ≤ f.size → syncAt f (p + r.encode.size) = true) :
    examine f p = .record r (p + r.encode.size) := by
  have hend := hs.le_size
  have hchannel := hs.left.right.extract
  have hpayload := hs.right.extract
  rw [Record.size_encode, Record.length] at hend hnext ⊢
  rw [Header.size_encode] at hchannel
  rw [ByteArray.size_append, Header.size_encode] at hpayload
  have hsize : r.channel.toUTF8.size = r.channel.utf8ByteSize := rfl
  have hlong : ¬ f.size < p + headerSize := by omega
  have hwhole : ¬ f.size < p + headerSize + (r.channel.utf8ByteSize + r.payload.size) := by omega
  have hstop : p + headerSize + (r.channel.utf8ByteSize + r.payload.size) =
      p + (headerSize + r.channel.utf8ByteSize + r.payload.size) := by omega
  unfold examine
  rw [if_neg hlong, Record.decodeAt_header hs.left.left hr]
  simp only [Record.toInt_channelLength hr, Record.bodyLength_header hr, Int.toNat_natCast, if_neg hwhole]
  rw [if_neg (by rw [hstop]; exact fun h => Bool.false_ne_true (h.2.symm.trans (hnext h.1)))]
  rw [hsize] at hchannel hpayload
  have hbody : p + (headerSize + r.channel.utf8ByteSize) = p + headerSize + r.channel.utf8ByteSize :=
    (Nat.add_assoc ..).symm
  have htail : p + headerSize + (r.channel.utf8ByteSize + r.payload.size) =
      p + headerSize + r.channel.utf8ByteSize + r.payload.size := (Nat.add_assoc ..).symm
  rw [hbody] at hpayload
  rw [hchannel, fromUTF8?_toUTF8, htail]
  simp only [hpayload]
  exact congrArg (Finding.record r) (htail.symm.trans hstop)

/-- A record of which the end is missing is torn. -/
theorem examine_of_torn {r : Record} (hs : p + headerSize ≤ f.size → Stands f r.header.encode p) (hr : r.Fits)
    (hshort : f.size < p + r.encode.size) : examine f p = .torn := by
  rw [Record.size_encode, Record.length] at hshort
  unfold examine
  split
  · rfl
  · rename_i hlong
    rw [Record.decodeAt_header (hs (Nat.not_lt.1 hlong)) hr]
    simp only [Record.bodyLength_header hr]
    rw [if_pos (by omega)]

/-! ## Records are written as they were read -/

variable {stop : Nat} {r : Record}

theorem ofNat_toNat_toInt {x : Int32} (h : 0 ≤ x.toInt) : Int32.ofNat x.toInt.toNat = x := by
  rw [← Int32.ofInt_eq_ofNat, Int.toNat_of_nonneg h, Int32.ofInt_toInt]

/-- A record whose parts have the lengths that a header tells has that header. -/
theorem Record.header_of_valid {h : Header} (hv : h.Valid) {channel : String} {payload : ByteArray}
    (hchannel : channel.utf8ByteSize = h.channelLength.toInt.toNat)
    (hpayload : payload.size = h.payloadLength.toInt.toNat) :
    (⟨h.eventNumber, h.timestamp, channel, payload⟩ : Record).header = h ∧
      Record.Fits ⟨h.eventNumber, h.timestamp, channel, payload⟩ := by
  obtain ⟨hlow, hhigh, hnonneg⟩ := hv
  constructor
  · simp only [Record.header, hchannel, hpayload, ofNat_toNat_toInt (by omega : 0 ≤ h.channelLength.toInt),
      ofNat_toNat_toInt hnonneg]
  · have hmax := h.payloadLength.toInt_lt
    refine ⟨?_, ?_, ?_⟩
    · show 1 ≤ channel.utf8ByteSize
      omega
    · show channel.utf8ByteSize ≤ maxChannelLength
      omega
    · show payload.size ≤ maxPayloadLength
      rw [maxPayloadLength]
      omega

/-- A record that is found is one that a writer takes, and is written with the bytes that it was read from. -/
theorem encode_of_examine (h : examine f p = .record r stop) : r.Fits ∧ r.encode = f.extract p stop := by
  have hwithin := stop_of_examine h
  unfold examine at h
  split at h
  · cases h
  · rename_i hroom
    split at h
    · cases h
    · rename_i header hdecode
      simp only at h
      split at h
      · cases h
      · split at h
        · cases h
        · split at h
          · cases h
          · rename_i channel hchannel
            cases h
            obtain ⟨hencode, hvalid⟩ := Header.encode_of_decodeAt hdecode (by omega)
            have hbody : header.bodyLength = header.channelLength.toInt.toNat + header.payloadLength.toInt.toNat := rfl
            have hlength := size_of_fromUTF8? hchannel
            rw [ByteArray.size_extract] at hlength
            have hpart : (f.extract (p + headerSize + header.channelLength.toInt.toNat)
                (p + headerSize + header.bodyLength)).size = header.payloadLength.toInt.toNat := by
              rw [ByteArray.size_extract]
              omega
            have hname : channel.utf8ByteSize = header.channelLength.toInt.toNat := by omega
            obtain ⟨hsame, hfits⟩ := Record.header_of_valid hvalid hname hpart
            refine ⟨hfits, ?_⟩
            rw [Record.encode, hsame, hencode, toUTF8_of_fromUTF8? hchannel,
              ← ByteArray.extract_eq_extract_append_extract (p + headerSize) (by omega) (by omega),
              ← ByteArray.extract_eq_extract_append_extract _ (by omega) (by omega)]

end PubSub.Journal
