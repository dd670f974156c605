import PubSub.Proofs.Wire.Split

/-!
# Which messages share their datagrams

Two messages of one sequence number are cut into the same datagrams when they are the same message. One message that
is cut into fragments never is taken for another: the fragments tell how long the channel is. In a short datagram
nothing but the zero byte parts the channel from the payload, so a channel with the zero character in it can be moved
into the payload.

* `toldChannel`: the channel that a receiver of some datagrams learns.

Results:

* `eq_of_pieces_eq`: two messages with the same fragments are the same.
* `encodeMessage_eq_iff`: two messages with the same datagrams are the same, or both fit in a short datagram in which
  the channel and the payload are the same bytes together.
* `toldChannel_eq_iff`: a receiver learns the channel of a message exactly if the zero character is not in it.
* `eq_of_encodeMessage_eq`: without the zero character, two messages with the same datagrams are the same.
-/

namespace PubSub.Wire

open Bytes

/-! ## What the bytes of a datagram determine -/

theorem channelField_inj {c d : String} (h : channelField c = channelField d) : c = d := by
  simp only [channelField, ← ByteArray.append_toByteArray_singleton, ByteArray.append_left_inj] at h
  exact String.toByteArray_inj.1 h

/-- The bytes of a fragment determine its numbers and what follows them. -/
theorem Fragment.eq_of_encode_eq {f g : Fragment} (h : Datagram.encode (.fragment f) = Datagram.encode (.fragment g)) :
    f.size = g.size ∧ f.offset = g.offset ∧ f.body = g.body := by
  rw [encode_fragment, encode_fragment] at h
  have hheader := ByteArray.append_inj_left h (by rw [size_header, size_header])
  rw [hheader, ByteArray.append_right_inj] at h
  have hf : Stands g.header f.header 0 := hheader ▸ stands_self f.header
  have hg := stands_self g.header
  have hsize := hf.left.left.left.right.word32At.symm.trans hg.left.left.left.right.word32At
  have hoffset := hf.left.left.right.word32At.symm.trans hg.left.left.right.word32At
  exact ⟨hsize, hoffset, h⟩

section Pieces

variable {sequence : UInt32} {c d : String} {p q : ByteArray} {first most count : Nat}

theorem body_piece_zero : (piece sequence c p first most count 0).body =
    channelField c ++ p.extract (pieceStart first most 0) (pieceStop p.size first most 0) := rfl

theorem body_piece_of_ne {i : Nat} (hi : i ≠ 0) : (piece sequence c p first most count i).body =
    p.extract (pieceStart first most i) (pieceStop p.size first most i) := by
  simp only [Fragment.body, piece, pieceStart, pieceStop, if_neg hi]

/-- A payload is determined by its pieces. -/
theorem eq_of_extract_eq (hl : Layout p.size first most count) (hsize : p.size = q.size)
    (h : ∀ i < count, p.extract (pieceStart first most i) (pieceStop p.size first most i) =
      q.extract (pieceStart first most i) (pieceStop q.size first most i)) : p = q := by
  refine ByteArray.ext_getElem hsize fun j hp hq => ?_
  obtain ⟨i, hi, hstart, hstop⟩ := hl.exists_piece hp
  have hle := Layout.stop_le p.size first most i
  have hplace : pieceStart first most i + (j - pieceStart first most i) = j := by omega
  have hp' : j - pieceStart first most i <
      (p.extract (pieceStart first most i) (pieceStop p.size first most i)).size := by
    rw [ByteArray.size_extract]
    omega
  have hq' := hp'
  rw [h i hi] at hq'
  have hbyte : (p.extract (pieceStart first most i) (pieceStop p.size first most i))[j - pieceStart first most i] =
      (q.extract (pieceStart first most i) (pieceStop q.size first most i))[j - pieceStart first most i] := by
    simp only [h i hi]
  simpa only [ByteArray.getElem_extract, hplace] using hbyte

/-- Two messages with the same fragments are the same. Where the second fragment begins in the payload tells how long
the channel is, so the first one can be parted without looking for a zero byte. -/
theorem eq_of_pieces_eq {count' : Nat} (hc : c.utf8ByteSize + 1 ≤ most) (hd : d.utf8ByteSize + 1 ≤ most)
    (hl : Layout p.size (most - (c.utf8ByteSize + 1)) most count)
    (hm : Layout q.size (most - (d.utf8ByteSize + 1)) most count')
    (h : (List.range count).map (fun i => Datagram.encode
        (.fragment (piece sequence c p (most - (c.utf8ByteSize + 1)) most count i))) =
      (List.range count').map (fun i => Datagram.encode
        (.fragment (piece sequence d q (most - (d.utf8ByteSize + 1)) most count' i)))) : c = d ∧ p = q := by
  have hcount : count = count' := by simpa using congrArg List.length h
  subst hcount
  have htwo := hl.two_le
  have hpiece := fun i hi => Fragment.eq_of_encode_eq (List.map_inj_left.1 h i (List.mem_range.2 hi))
  have hsize : p.size = q.size := by
    rw [← hl.toNat_size sequence c 0, ← hm.toNat_size sequence d 0, (hpiece 0 (by omega)).1]
  have hsecond : most - (c.utf8ByteSize + 1) = most - (d.utf8ByteSize + 1) := by
    have hoffset := congrArg UInt32.toNat (hpiece 1 (by omega)).2.1
    rw [hl.toNat_offset _ _ (by omega), hm.toNat_offset _ _ (by omega)] at hoffset
    simpa [pieceStart] using hoffset
  have hlength : c.utf8ByteSize = d.utf8ByteSize := by omega
  have hzeroth := (hpiece 0 (by omega)).2.2
  rw [body_piece_zero, body_piece_zero] at hzeroth
  have hfield := ByteArray.append_inj_left hzeroth (by rw [size_channelField, size_channelField, hlength])
  obtain rfl := channelField_inj hfield
  refine ⟨rfl, eq_of_extract_eq hl hsize fun i hi => ?_⟩
  rcases Nat.eq_zero_or_pos i with rfl | hpos
  · exact (ByteArray.append_right_inj _).1 hzeroth
  · have hbody := (hpiece i hi).2.2
    rwa [body_piece_of_ne (Nat.ne_of_gt hpos), body_piece_of_ne (Nat.ne_of_gt hpos)] at hbody

end Pieces

/-! ## Messages with the same datagrams -/

section Messages

variable {sequence : UInt32} {c d : String} {p q : ByteArray} {limit : Nat} {ds es : List ByteArray}

/-- A message that fits is one short datagram. -/
theorem encodeMessage_of_short (h : shortHeaderSize + (c.utf8ByteSize + 1) + p.size ≤ limit) :
    encodeMessage sequence c p limit = some [Datagram.encode (.short sequence c p)] := by
  rw [encodeMessage]
  simp only [split, if_pos h]
  rfl

/-- A message that does not fit is at least two fragments. -/
theorem encodeMessage_of_not_short (hc : c.utf8ByteSize ≤ maxChannelLength) (hlimit : 128 ≤ limit)
    (hlong : ¬ shortHeaderSize + (c.utf8ByteSize + 1) + p.size ≤ limit)
    (hs : encodeMessage sequence c p limit = some ds) :
    ∃ count, Layout p.size (limit - fragmentHeaderSize - (c.utf8ByteSize + 1)) (limit - fragmentHeaderSize) count ∧
      ds = (List.range count).map fun i => Datagram.encode (.fragment (piece sequence c p
        (limit - fragmentHeaderSize - (c.utf8ByteSize + 1)) (limit - fragmentHeaderSize) count i)) := by
  obtain ⟨parts, hparts, rfl⟩ := Option.map_eq_some_iff.1 hs
  obtain ⟨count, hl, rfl⟩ := split_of_long hc hlimit hlong hparts
  exact ⟨count, hl, List.map_map⟩

/-- A message is one datagram exactly if it fits. -/
theorem length_encodeMessage_eq_one_iff (hc : c.utf8ByteSize ≤ maxChannelLength) (hlimit : 128 ≤ limit)
    (hs : encodeMessage sequence c p limit = some ds) :
    ds.length = 1 ↔ shortHeaderSize + (c.utf8ByteSize + 1) + p.size ≤ limit := by
  by_cases hshort : shortHeaderSize + (c.utf8ByteSize + 1) + p.size ≤ limit
  · rw [encodeMessage_of_short hshort] at hs
    cases hs
    exact iff_of_true rfl hshort
  · obtain ⟨count, hl, rfl⟩ := encodeMessage_of_not_short hc hlimit hshort hs
    have htwo := hl.two_le
    rw [List.length_map, List.length_range]
    exact iff_of_false (by omega) hshort

/-- The bytes of a short datagram determine the channel and the payload together. -/
theorem encode_short_eq_iff : Datagram.encode (.short sequence c p) = Datagram.encode (.short sequence d q) ↔
    channelField c ++ p = channelField d ++ q := by
  simp only [Datagram.encode, ByteArray.append_assoc, ByteArray.append_right_inj]

/-- Two messages with the same datagrams are the same, or each of them fits in one short datagram, in which the channel
with its zero byte and the payload are the same bytes. -/
theorem encodeMessage_eq_iff (hc : c.utf8ByteSize ≤ maxChannelLength) (hd : d.utf8ByteSize ≤ maxChannelLength)
    (hlimit : 128 ≤ limit) (hs : encodeMessage sequence c p limit = some ds)
    (ht : encodeMessage sequence d q limit = some es) :
    ds = es ↔ (c = d ∧ p = q) ∨ (channelField c ++ p = channelField d ++ q ∧
      shortHeaderSize + (channelField c ++ p).size ≤ limit) := by
  rw [ByteArray.size_append, size_channelField, ← Nat.add_assoc]
  constructor
  · rintro rfl
    have hboth := (length_encodeMessage_eq_one_iff hc hlimit hs).symm.trans
      (length_encodeMessage_eq_one_iff hd hlimit ht)
    by_cases hshort : shortHeaderSize + (c.utf8ByteSize + 1) + p.size ≤ limit
    · rw [encodeMessage_of_short hshort, Option.some_inj] at hs
      rw [encodeMessage_of_short (hboth.1 hshort), Option.some_inj, ← hs, List.singleton_inj] at ht
      exact Or.inr ⟨(encode_short_eq_iff.1 ht).symm, hshort⟩
    · obtain ⟨count, hl, rfl⟩ := encodeMessage_of_not_short hc hlimit hshort hs
      obtain ⟨count', hm, he⟩ := encodeMessage_of_not_short hd hlimit (mt hboth.2 hshort) ht
      rw [maxChannelLength] at hc hd
      refine Or.inl (eq_of_pieces_eq ?_ ?_ hl hm he)
      · rw [fragmentHeaderSize]
        omega
      · rw [fragmentHeaderSize]
        omega
  · rintro (⟨rfl, rfl⟩ | ⟨hbytes, hshort⟩)
    · exact Option.some.inj (hs.symm.trans ht)
    · have hsize := congrArg ByteArray.size hbytes
      rw [ByteArray.size_append, ByteArray.size_append, size_channelField, size_channelField] at hsize
      rw [encodeMessage_of_short hshort] at hs
      rw [encodeMessage_of_short (by omega)] at ht
      cases hs
      cases ht
      rw [encode_short_eq_iff.2 hbytes]

/-! ## The channel that is told -/

/-- The channel that a receiver learns from some datagrams: the one that the first of them tells. -/
def toldChannel (ds : List ByteArray) : Option String :=
  match ds.head?.map Datagram.decode with
  | some (.ok d) => d.channel
  | _ => none

/-- A channel that is learned has no zero character in it. -/
theorem zero_not_mem_of_toldChannel (h : toldChannel ds = some c) : '\x00' ∉ c.toList := by
  unfold toldChannel at h
  split at h
  · rename_i d hhead
    obtain ⟨b, -, hd⟩ := Option.map_eq_some_iff.1 hhead
    exact zero_not_mem_of_decode hd h
  · cases h

/-- A receiver learns the channel of a message exactly if the zero character is not in it. -/
theorem toldChannel_eq_iff (hc : c.utf8ByteSize ≤ maxChannelLength) (hlimit : 128 ≤ limit)
    (hs : encodeMessage sequence c p limit = some ds) : toldChannel ds = some c ↔ '\x00' ∉ c.toList := by
  refine ⟨zero_not_mem_of_toldChannel, fun hz => ?_⟩
  by_cases hshort : shortHeaderSize + (c.utf8ByteSize + 1) + p.size ≤ limit
  · rw [encodeMessage_of_short hshort] at hs
    cases hs
    rw [toldChannel, List.head?_cons, Option.map_some, decode_encode_short hz hc]
    rfl
  · obtain ⟨count, hl, rfl⟩ := encodeMessage_of_not_short hc hlimit hshort hs
    have hpos : 0 < count := Nat.lt_of_lt_of_le Nat.zero_lt_two hl.two_le
    have hread := Cut.decode_datagram (c := ⟨sequence, c, p, _, _, count, hl, hz, hc⟩) hpos
    simp only [Cut.datagram, Cut.piece] at hread
    rw [toldChannel, List.head?_map, List.head?_range, if_neg (Nat.ne_of_gt hpos), Option.map_some, Option.map_some,
      hread]
    rfl

/-- Without the zero character in their channels, two messages with the same datagrams are the same. -/
theorem eq_of_encodeMessage_eq (hc : c.utf8ByteSize ≤ maxChannelLength) (hd : d.utf8ByteSize ≤ maxChannelLength)
    (hzc : '\x00' ∉ c.toList) (hzd : '\x00' ∉ d.toList) (hlimit : 128 ≤ limit)
    (hs : encodeMessage sequence c p limit = some ds) (ht : encodeMessage sequence d q limit = some ds) :
    c = d ∧ p = q := by
  have htold := (toldChannel_eq_iff hc hlimit hs).2 hzc
  rw [(toldChannel_eq_iff hd hlimit ht).2 hzd] at htold
  cases htold
  rcases (encodeMessage_eq_iff hc hd hlimit hs ht).1 rfl with h | ⟨hbytes, -⟩
  · exact h
  · exact ⟨rfl, (ByteArray.append_right_inj _).1 hbytes⟩

end Messages

end PubSub.Wire
