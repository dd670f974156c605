import PubSub.Proofs.Wire.Datagram
import PubSub.Wire.Split

/-!
# The pieces of a message

The fragments of a message cut its payload without gaps: each byte of it is in one of them, at the offset that the
fragment tells.

* `Layout`: the numbers by which a payload is cut.
* `pieceStart`, `pieceStop`: the bounds of a piece.
* `Cut`: a message that is cut.

Results:

* `Layout.exists_piece`: every byte of the payload is in a piece.
* `split_of_long`: a message that is too long for one datagram is cut by a layout.
* `Cut.decode_datagram`: every piece is read as it was written.
* `encodeMessage_of_long`: a message that takes more than one datagram is cut into pieces.
-/

namespace PubSub.Wire

/-- A payload of `size` bytes is cut into `count` pieces, of `first` bytes and then of `most` bytes each. -/
structure Layout (size first most count : Nat) : Prop where
  most_pos : 0 < most
  two_le : 2 ≤ count
  count_le : count ≤ maxFragments
  /-- The last piece starts within the payload. -/
  needed : first + (count - 2) * most < size
  /-- The last piece may reach to the end of the payload. -/
  covers : size ≤ first + (count - 1) * most
  size_lt : size < UInt32.size

/-- Where a piece starts in the payload. -/
def pieceStart (first most index : Nat) : Nat := if index = 0 then 0 else first + (index - 1) * most

/-- Where a piece ends in the payload. -/
def pieceStop (size first most index : Nat) : Nat := min (first + index * most) size

namespace Layout

variable {size first most count : Nat}

theorem start_le_stop (hl : Layout size first most count) {i : Nat} (hi : i < count) :
    pieceStart first most i ≤ pieceStop size first most i := by
  unfold pieceStart pieceStop
  split
  · exact Nat.zero_le _
  · have hprev : (i - 1) * most ≤ (count - 2) * most := Nat.mul_le_mul_right most (by omega)
    have hnext : (i - 1) * most ≤ i * most := Nat.mul_le_mul_right most (by omega)
    have := hl.needed
    omega

theorem stop_le (size first most i : Nat) : pieceStop size first most i ≤ size := Nat.min_le_right ..

/-- Every byte of the payload is in a piece. -/
theorem exists_piece (hl : Layout size first most count) {j : Nat} (hj : j < size) :
    ∃ i < count, pieceStart first most i ≤ j ∧ j < pieceStop size first most i := by
  by_cases hf : j < first
  · refine ⟨0, by have := hl.two_le; omega, ?_, ?_⟩
    · rw [pieceStart, if_pos rfl]
      exact Nat.zero_le j
    · rw [pieceStop]
      omega
  · -- the piece is found by division
    have hdiv := Nat.div_add_mod (j - first) most
    have hmod := Nat.mod_lt (j - first) hl.most_pos
    generalize (j - first) / most = q at hdiv
    have hlt : q < count - 1 := by
      refine Nat.lt_of_mul_lt_mul_left (a := most) ?_
      have := hl.covers
      rw [Nat.mul_comm (count - 1)] at this
      omega
    refine ⟨q + 1, by omega, ?_, ?_⟩
    · rw [pieceStart, if_neg (Nat.succ_ne_zero _), Nat.add_sub_cancel, Nat.mul_comm]
      omega
    · rw [pieceStop, Nat.add_mul, Nat.mul_comm _ most]
      omega

/-! ### What a piece tells -/

variable {payload : ByteArray} {i : Nat} (sequence : UInt32) (channel : String)

theorem toNat_size (hl : Layout payload.size first most count) (i : Nat) :
    (piece sequence channel payload first most count i).size.toNat = payload.size :=
  UInt32.toNat_ofNat_of_lt hl.size_lt

theorem toNat_count (hl : Layout payload.size first most count) (i : Nat) :
    (piece sequence channel payload first most count i).count.toNat = count :=
  UInt16.toNat_ofNat_of_lt (Nat.lt_succ_of_le hl.count_le)

theorem toNat_index (hl : Layout payload.size first most count) (hi : i < count) :
    (piece sequence channel payload first most count i).index.toNat = i :=
  UInt16.toNat_ofNat_of_lt (Nat.lt_of_lt_of_le hi (Nat.le_succ_of_le hl.count_le))

theorem toNat_offset (hl : Layout payload.size first most count) (hi : i < count) :
    (piece sequence channel payload first most count i).offset.toNat = pieceStart first most i :=
  UInt32.toNat_ofNat_of_lt (Nat.lt_of_le_of_lt (Nat.le_trans (hl.start_le_stop hi) (stop_le ..)) hl.size_lt)

end Layout

/-- As few pieces as can carry a payload. -/
theorem layout_of_cut {size first most : Nat} (hmost : 0 < most) (hfirst : first < size)
    (hcount : 1 + (size - first + most - 1) / most ≤ maxFragments) (hsize : size < UInt32.size) :
    Layout size first most (1 + (size - first + most - 1) / most) := by
  have hdiv := Nat.div_add_mod (size - first + most - 1) most
  have hmod := Nat.mod_lt (size - first + most - 1) hmost
  generalize (size - first + most - 1) / most = q at hdiv hcount
  have hq : 1 ≤ q := by
    by_contra hq0
    have : q = 0 := by omega
    subst this
    omega
  have hsplit : most * q = (q - 1) * most + most := by
    rw [Nat.mul_comm, ← Nat.succ_mul, Nat.succ_eq_add_one, Nat.sub_add_cancel hq]
  have hlast : 1 + q - 2 = q - 1 := by omega
  refine ⟨hmost, by omega, hcount, ?_, ?_, hsize⟩
  · rw [hlast]
    omega
  · rw [Nat.add_sub_cancel_left, Nat.mul_comm]
    omega

/-- A message that is too long for one datagram is cut: after the header a fragment has room for
`limit - fragmentHeaderSize` bytes, and the first one carries the channel in them. -/
theorem split_of_long {sequence : UInt32} {channel : String} {payload : ByteArray} {limit : Nat}
    {parts : List Datagram} (hc : channel.utf8ByteSize ≤ maxChannelLength) (hlimit : 128 ≤ limit)
    (hlong : ¬ shortHeaderSize + (channel.utf8ByteSize + 1) + payload.size ≤ limit)
    (hs : split sequence channel payload limit = some parts) :
    ∃ count, Layout payload.size (limit - fragmentHeaderSize - (channel.utf8ByteSize + 1))
        (limit - fragmentHeaderSize) count ∧
      parts = (List.range count).map fun i => .fragment (piece sequence channel payload
        (limit - fragmentHeaderSize - (channel.utf8ByteSize + 1)) (limit - fragmentHeaderSize) count i) := by
  rw [maxChannelLength] at hc
  have hfirst : limit - fragmentHeaderSize - (channel.utf8ByteSize + 1) ≠ 0 := by
    rw [fragmentHeaderSize]
    omega
  simp only [split] at hs
  rw [if_neg hlong, if_neg hfirst] at hs
  rw [shortHeaderSize] at hlong
  split at hs
  · cases hs
  · rename_i hcount
    split at hs
    · cases hs
    · rename_i hsize
      have hmost : 0 < limit - fragmentHeaderSize := by
        rw [fragmentHeaderSize]
        omega
      have hless : limit - fragmentHeaderSize - (channel.utf8ByteSize + 1) < payload.size := by
        rw [fragmentHeaderSize]
        omega
      exact ⟨_, layout_of_cut hmost hless (Nat.not_lt.1 hcount) (Nat.not_le.1 hsize), (Option.some.inj hs).symm⟩

/-! ## Messages that are cut -/

/-- A message that is cut into pieces. -/
structure Cut where
  sequence : UInt32
  channel : String
  payload : ByteArray
  first : Nat
  most : Nat
  count : Nat
  layout : Layout payload.size first most count
  zeroFree : '\x00' ∉ channel.toList
  channel_le : channel.utf8ByteSize ≤ maxChannelLength

namespace Cut

variable (c : Cut)

/-- A piece as a fragment. -/
def piece (i : Nat) : Fragment := Wire.piece c.sequence c.channel c.payload c.first c.most c.count i

/-- The bytes of a piece as they are sent. -/
def datagram (i : Nat) : ByteArray := Datagram.encode (.fragment (c.piece i))

/-- Where a piece starts. -/
def start (i : Nat) : Nat := pieceStart c.first c.most i

/-- Where a piece ends. -/
def stop (i : Nat) : Nat := pieceStop c.payload.size c.first c.most i

theorem stop_le (i : Nat) : c.stop i ≤ c.payload.size := Nat.min_le_right ..

variable {c} {i : Nat}

theorem start_le_stop (hi : i < c.count) : c.start i ≤ c.stop i := c.layout.start_le_stop hi

theorem toNat_size : (c.piece i).size.toNat = c.payload.size := c.layout.toNat_size ..

theorem toNat_count : (c.piece i).count.toNat = c.count := c.layout.toNat_count ..

theorem toNat_index (hi : i < c.count) : (c.piece i).index.toNat = i := c.layout.toNat_index _ _ hi

theorem toNat_offset (hi : i < c.count) : (c.piece i).offset.toNat = c.start i := c.layout.toNat_offset _ _ hi

theorem data_piece : (c.piece i).data = c.payload.extract (c.start i) (c.stop i) := rfl

theorem size_data : (c.piece i).data.size = c.stop i - c.start i := by
  rw [data_piece, ByteArray.size_extract, Nat.min_eq_left (c.stop_le i)]

theorem channel_piece : (c.piece i).channel = if i = 0 then some c.channel else none := rfl

theorem sendable (hi : i < c.count) : (c.piece i).Sendable := by
  have hindex := toNat_index hi
  refine ⟨?_, fun h0 => ?_, fun h0 => ?_, ?_⟩
  · rw [UInt16.lt_iff_toNat_lt, hindex, toNat_count]
    exact hi
  · rw [h0] at hindex
    exact ⟨c.channel, if_pos hindex.symm, c.zeroFree, c.channel_le⟩
  · exact if_neg fun hi0 => h0 (by rw [hi0]; rfl)
  · rw [toNat_offset hi, toNat_size, size_data]
    have := start_le_stop hi
    have := c.stop_le i
    omega

/-- Every piece is read as it was written. -/
theorem decode_datagram (hi : i < c.count) : Datagram.decode (c.datagram i) = .ok (.fragment (c.piece i)) :=
  decode_encode_fragment (sendable hi)

end Cut

/-- A message that takes more than one datagram is cut into pieces. -/
theorem encodeMessage_of_long {sequence : UInt32} {channel : String} {payload : ByteArray} {limit : Nat}
    {ds : List ByteArray} (hz : '\x00' ∉ channel.toList) (hc : channel.utf8ByteSize ≤ maxChannelLength)
    (hlimit : 128 ≤ limit) (hs : encodeMessage sequence channel payload limit = some ds) (hmany : 1 < ds.length) :
    ∃ c : Cut, c.sequence = sequence ∧ c.channel = channel ∧ c.payload = payload ∧
      ds = (List.range c.count).map c.datagram := by
  obtain ⟨parts, hparts, rfl⟩ := Option.map_eq_some_iff.1 hs
  rw [List.length_map] at hmany
  by_cases hshort : shortHeaderSize + (channel.utf8ByteSize + 1) + payload.size ≤ limit
  · simp only [split, if_pos hshort] at hparts
    cases hparts
    exact absurd hmany (by simp)
  · obtain ⟨count, hl, rfl⟩ := split_of_long hc hlimit hshort hparts
    exact ⟨⟨sequence, channel, payload, _, _, _, hl, hz, hc⟩, rfl, rfl, rfl, List.map_map⟩

end PubSub.Wire
