import PubSub.Journal.Header
import PubSub.Proofs.Bytes

/-!
# Headers as bytes

What a reader makes of 28 bytes. Every header is written somehow, also one with lengths that no writer produces, and
whatever starts with the sync word is the writing of one header. A reader accepts those with lengths in range.

* `Header.fault`: the length that a reader complains of.

Results:

* `Header.decodeAt_of_stands`: what a reader makes of a header that stands somewhere.
* `Header.exists_encode`: the sync word and 24 bytes are the writing of a header.
* `Header.encode_of_decodeAt`: a header that is read is written with the bytes that it was read from.
* `Header.Valid.toNat_words`: the lengths of such a header add up as words without wrapping.
* `Header.decode_exact`: writing and reading are inverse on the headers with lengths in range, and nothing else is read.
-/

namespace PubSub.Journal.Header

open Bytes

variable {f : ByteArray} {p : Nat} {h : Header}

/-- The length that a reader complains of first if they are not in range. -/
def fault (h : Header) : Corruption :=
  if 1 ≤ h.channelLength.toInt ∧ h.channelLength.toInt ≤ maxChannelLength then .payloadLength else .channelLength

@[simp] theorem size_encode (h : Header) : h.encode.size = headerSize := by
  simp [encode, headerSize]

/-! ## Reading what was written -/

/-- What a reader makes of a header, wherever it stands. -/
theorem decodeAt_of_stands (hs : Stands f h.encode p) :
    decodeAt f p = if h.Valid then .ok h else .error h.fault := by
  have hsync := hs.left.left.left.left.word32At
  have hnumber := hs.left.left.left.right.word64At
  have htime := hs.left.left.right.word64At
  have hchannel := hs.left.right.word32At
  have hpayload := hs.right.word32At
  simp only [ByteArray.size_append, size_ofNat, Nat.reduceAdd] at hnumber htime hchannel hpayload
  unfold decodeAt
  rw [if_neg (not_not_intro hsync)]
  simp only [hnumber, htime, hchannel, hpayload, Int64.toInt64_toUInt64, Int32.toInt32_toUInt32]
  by_cases hlow : h.channelLength.toInt < 1 ∨ (maxChannelLength : Int) < h.channelLength.toInt
  · have hinvalid : ¬ h.Valid := fun hv => hlow.elim (Int.not_lt.2 hv.1) (Int.not_lt.2 hv.2.1)
    have hfault : ¬ (1 ≤ h.channelLength.toInt ∧ h.channelLength.toInt ≤ maxChannelLength) := by omega
    rw [if_pos hlow, if_neg hinvalid, fault, if_neg hfault]
  · have hfault : 1 ≤ h.channelLength.toInt ∧ h.channelLength.toInt ≤ maxChannelLength := by omega
    rw [if_neg hlow]
    by_cases hneg : h.payloadLength.toInt < 0
    · have hinvalid : ¬ h.Valid := fun hv => Int.not_lt.2 hv.2.2 hneg
      rw [if_pos hneg, if_neg hinvalid, fault, if_pos hfault]
    · rw [if_neg hneg, if_pos ⟨hfault.1, hfault.2, Int.not_lt.1 hneg⟩]

/-! ## Writing what was read -/

/-- Whatever starts with the sync word is the writing of a header, whose lengths may be out of range. -/
theorem exists_encode (hsync : word32At f p = syncWord) (hroom : p + headerSize ≤ f.size) :
    ∃ h : Header, h.encode = f.extract p (p + headerSize) := by
  rw [headerSize] at hroom ⊢
  refine ⟨⟨(word64At f (p + 4)).toInt64, (word64At f (p + 12)).toInt64, (word32At f (p + 20)).toInt32,
    (word32At f (p + 24)).toInt32⟩, ?_⟩
  simp only [encode, UInt64.toUInt64_toInt64, UInt32.toUInt32_toInt32, ← hsync]
  rw [toNat_word32At (by omega), toNat_word64At (by omega), toNat_word64At (by omega), toNat_word32At (by omega),
    toNat_word32At (by omega), ofNat_numberAt (by omega), ofNat_numberAt (by omega), ofNat_numberAt (by omega),
    ofNat_numberAt (by omega), ofNat_numberAt (by omega)]
  -- the five stretches lie one behind the other
  have hjoin : ∀ k l, k ≤ l → f.extract p (p + k) ++ f.extract (p + k) (p + l) = f.extract p (p + l) := by
    intro k l hkl
    exact (ByteArray.extract_eq_extract_append_extract (p + k) (by omega) (by omega)).symm
  simp only [Nat.add_assoc, Nat.reduceAdd]
  rw [hjoin 4 12 (by omega), hjoin 12 20 (by omega), hjoin 20 24 (by omega), hjoin 24 28 (by omega)]

/-- A header is read only behind a sync word. -/
theorem word32At_of_decodeAt (hd : decodeAt f p = .ok h) : word32At f p = syncWord := by
  unfold decodeAt at hd
  split at hd
  · cases hd
  · rename_i hsync
    exact not_not.1 hsync

/-- A header that is read is written with the bytes that it was read from. -/
theorem encode_of_decodeAt (hd : decodeAt f p = .ok h) (hroom : p + headerSize ≤ f.size) :
    h.encode = f.extract p (p + headerSize) ∧ h.Valid := by
  obtain ⟨k, hk⟩ := exists_encode (word32At_of_decodeAt hd) hroom
  have hstands : Stands f k.encode p := hk ▸ stands_extract (Nat.le_add_right ..) hroom
  have hread := decodeAt_of_stands hstands
  rw [hd] at hread
  split at hread
  · rename_i hvalid
    cases hread
    exact ⟨hk, hvalid⟩
  · cases hread

/-! ## Lengths -/

theorem Valid.bodyLength_eq (hv : h.Valid) :
    (h.bodyLength : Int) = h.channelLength.toInt + h.payloadLength.toInt := by
  obtain ⟨hchannel, -, hpayload⟩ := hv
  rw [bodyLength]
  omega

/-- A length that is not negative is the same number as a word of 64 bits. -/
theorem toNat_word_of_nonneg {x : Int32} (hx : 0 ≤ x.toInt) : x.toInt64.toUInt64.toNat = x.toInt.toNat := by
  have hle : 0 ≤ x.toInt64 := by
    rw [Int64.le_iff_toInt_le, Int32.toInt_toInt64]
    exact hx
  rw [Int64.toNat_toUInt64_of_le hle, Int64.toNatClampNeg, Int32.toInt_toInt64]

/-- The lengths of a header that is read add up as words of 64 bits without wrapping. -/
theorem Valid.toNat_words (hv : h.Valid) :
    (h.channelLength.toInt64.toUInt64 + h.payloadLength.toInt64.toUInt64).toNat = h.bodyLength := by
  obtain ⟨hchannel, -, hpayload⟩ := hv
  have hc := h.channelLength.toInt_lt
  have hp := h.payloadLength.toInt_lt
  rw [UInt64.toNat_add, toNat_word_of_nonneg (by omega), toNat_word_of_nonneg hpayload, bodyLength]
  exact Nat.mod_eq_of_lt (by omega)

/-! ## Both directions -/

/-- What starts with another word is no header. -/
theorem exists_encode_iff {b : ByteArray} (hb : b.size = headerSize) :
    (∃ h : Header, h.encode = b) ↔ b.extract 0 4 = ofNat 4 syncWord.toNat := by
  constructor
  · rintro ⟨h, rfl⟩
    exact (stands_self h.encode).left.left.left.left.extract
  · intro hsync
    have hstands : Stands b (ofNat 4 syncWord.toNat) 0 :=
      hsync ▸ stands_extract (Nat.zero_le 4) (hb ▸ by decide)
    obtain ⟨h, he⟩ := exists_encode hstands.word32At (Nat.le_of_eq ((Nat.zero_add _).trans hb.symm))
    refine ⟨h, ?_⟩
    rw [he, Nat.zero_add, ← hb, ByteArray.extract_zero_size]

theorem decode_encode (h : Header) : decode h.encode = if h.Valid then .ok h else .error h.fault :=
  decodeAt_of_stands (stands_self h.encode)

theorem encode_of_decode {b : ByteArray} (hb : b.size = headerSize) (hd : decode b = .ok h) :
    h.encode = b ∧ h.Valid := by
  have hread := encode_of_decodeAt hd (Nat.le_of_eq ((Nat.zero_add _).trans hb.symm))
  rwa [Nat.zero_add, ← hb, ByteArray.extract_zero_size] at hread

/-- A header whose lengths are in range is read as it was written, and any other is refused, for the length that is out
of range. What is read from 28 bytes is written with these bytes; its lengths are in range, and the bytes that follow it
are their sum, which does not wrap in a word of 64 bits. Of 28 bytes those are refused that do not start with the sync
word, or tell a length out of range. -/
theorem decode_exact :
    (∀ h : Header, decode h.encode = if h.Valid then .ok h else .error h.fault) ∧
    ∀ b : ByteArray, b.size = headerSize →
      (∀ h, decode b = .ok h →
        h.encode = b ∧ h.Valid ∧ (h.bodyLength : Int) = h.channelLength.toInt + h.payloadLength.toInt ∧
          (h.channelLength.toInt64.toUInt64 + h.payloadLength.toInt64.toUInt64).toNat = h.bodyLength) ∧
      ((∃ cause, decode b = .error cause) ↔
        b.extract 0 4 ≠ ofNat 4 syncWord.toNat ∨ ∃ h : Header, h.encode = b ∧ ¬ h.Valid) := by
  refine ⟨decode_encode, fun b hb => ⟨fun h hd => ?_, ?_⟩⟩
  · obtain ⟨hencode, hvalid⟩ := encode_of_decode hb hd
    exact ⟨hencode, hvalid, hvalid.bodyLength_eq, hvalid.toNat_words⟩
  · constructor
    · rintro ⟨cause, hd⟩
      refine or_iff_not_imp_left.2 fun hsync => ?_
      obtain ⟨h, rfl⟩ := (exists_encode_iff hb).2 (not_not.1 hsync)
      refine ⟨h, rfl, fun hvalid => ?_⟩
      rw [decode_encode, if_pos hvalid] at hd
      cases hd
    · intro hbad
      cases hd : decode b with
      | error cause => exact ⟨cause, rfl⟩
      | ok h =>
        obtain ⟨hencode, hvalid⟩ := encode_of_decode hb hd
        rcases hbad with hsync | ⟨k, hk, hinvalid⟩
        · exact absurd ((exists_encode_iff hb).1 ⟨h, hencode⟩) hsync
        · rw [← hk, decode_encode, if_neg hinvalid] at hd
          cases hd

/-- Nothing longer can be told. -/
def longest : Header := ⟨-1, -2, 999, Int32.maxValue⟩

theorem decode_exact_longest :
    longest.encode.size = headerSize ∧ decode longest.encode = .ok longest ∧
      (longest.bodyLength : Int) = 999 + 2147483647 ∧
      ∃ cause, decode { longest with channelLength := 1000 }.encode = .error cause := by
  obtain ⟨hread, hback⟩ := decode_exact
  have hlongest : decode longest.encode = .ok longest := (hread longest).trans (if_pos (by decide))
  obtain ⟨-, -, hsum, -⟩ := (hback longest.encode (size_encode longest)).1 longest hlongest
  have hrefused := ((hback _ (size_encode { longest with channelLength := 1000 })).2).2 (Or.inr ⟨_, rfl, by decide⟩)
  exact ⟨size_encode longest, hlongest, hsum, hrefused⟩

end PubSub.Journal.Header
