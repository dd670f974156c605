import PubSub.Address
import PubSub.Proofs.Wire.Distinct

/-!
# Fragments tile the payload

A message is refused only if the fragments that there may be cannot hold it. Otherwise its datagrams keep to the limit,
and if there is more than one, their data follow one another without gap or overlap, and no fewer fragments would do.

* `dataOf`, `dataBytes`: the data of fragments one behind the other, and how much that is.
* `Carries`: fragments that carry a message within a limit.
* `Tiles`: what the fragments of a message tell of their places.

Results:

* `Carries.size_le`: how much fragments can carry.
* `split_eq_none_iff`: which messages are refused.
* `Cut.dataOf_pieces`: the pieces of a message up to one of them are the payload up to there.
* `encodeMessage_tiles`: the datagrams of a message.
-/

namespace PubSub.Wire

/-! ## Fragments in a row -/

/-- The data of fragments one behind the other. -/
def dataOf : List Fragment → ByteArray
  | [] => .empty
  | f :: fs => f.data ++ dataOf fs

/-- How many bytes of data fragments have together. -/
def dataBytes : List Fragment → Nat
  | [] => 0
  | f :: fs => f.data.size + dataBytes fs

theorem dataOf_append (fs gs : List Fragment) : dataOf (fs ++ gs) = dataOf fs ++ dataOf gs := by
  induction fs with
  | nil => exact ByteArray.empty_append.symm
  | cons f fs ih =>
    show f.data ++ dataOf (fs ++ gs) = f.data ++ dataOf fs ++ dataOf gs
    rw [ih, ByteArray.append_assoc]

theorem size_dataOf (fs : List Fragment) : (dataOf fs).size = dataBytes fs := by
  induction fs with
  | nil => rfl
  | cons f fs ih =>
    show (f.data ++ dataOf fs).size = f.data.size + dataBytes fs
    rw [ByteArray.size_append, ih]

/-- Fragments, in this order, carry a message within a limit: the first one and no other tells the channel, none is
longer than the limit as a datagram, and their data are the payload. -/
structure Carries (limit : Nat) (channel : String) (payload : ByteArray) (fs : List Fragment) : Prop where
  channel : ∀ i (h : i < fs.length), fs[i].channel = if i = 0 then some channel else none
  within : ∀ f ∈ fs, (Datagram.encode (.fragment f)).size ≤ limit
  data : dataOf fs = payload

/-- Fragments that carry a message tell where each of them belongs, and none of them is in vain. -/
structure Tiles (sequence : UInt32) (limit : Nat) (channel : String) (payload : ByteArray) (fs : List Fragment) : Prop
    extends Carries limit channel payload fs where
  sequence : ∀ f ∈ fs, f.sequence = sequence
  size : ∀ f ∈ fs, f.size.toNat = payload.size
  count : ∀ f ∈ fs, f.count.toNat = fs.length
  index : ∀ i (h : i < fs.length), fs[i].index.toNat = i
  offset : ∀ i (h : i < fs.length), fs[i].offset.toNat = dataBytes (fs.take i)
  nonempty : ∀ f ∈ fs, 0 < f.data.size

/-! ## How much fragments can carry -/

theorem size_encode_fragment (f : Fragment) : (Datagram.encode (.fragment f)).size =
    fragmentHeaderSize + (f.channel.elim 0 fun c => c.utf8ByteSize + 1) + f.data.size := by
  rw [encode_fragment, ByteArray.size_append, f.size_header, Fragment.body]
  cases f.channel with
  | none => simp
  | some c => simp [Nat.add_assoc]

theorem size_encode_short {sequence : UInt32} {channel : String} {payload : ByteArray} :
    (Datagram.encode (.short sequence channel payload)).size =
      shortHeaderSize + (channel.utf8ByteSize + 1) + payload.size := by
  simp [Datagram.encode, shortHeaderSize]

theorem dataBytes_le {fs : List Fragment} {most : Nat} (h : ∀ f ∈ fs, f.data.size ≤ most) :
    dataBytes fs ≤ fs.length * most := by
  induction fs with
  | nil => exact Nat.zero_le _
  | cons f fs ih =>
    have hfirst := h f List.mem_cons_self
    have hrest := ih fun g hg => h g (List.mem_cons_of_mem f hg)
    rw [dataBytes, List.length_cons, Nat.add_mul]
    omega

/-- The first fragment has room for what the header and the channel leave of the limit, and each other one for what the
header leaves. -/
theorem Carries.size_le {limit : Nat} {channel : String} {payload : ByteArray} {fs : List Fragment}
    (h : Carries limit channel payload fs) :
    payload.size ≤ (limit - fragmentHeaderSize - (channel.utf8ByteSize + 1)) +
      (fs.length - 1) * (limit - fragmentHeaderSize) := by
  rw [← h.data, size_dataOf]
  cases fs with
  | nil => exact Nat.zero_le _
  | cons f fs =>
    have hf := h.within f List.mem_cons_self
    have hname : f.channel = some channel := h.channel 0 (Nat.succ_pos _)
    rw [size_encode_fragment, hname, Option.elim_some] at hf
    have hrest : dataBytes fs ≤ fs.length * (limit - fragmentHeaderSize) := by
      refine dataBytes_le fun g hg => ?_
      have hg := h.within g (List.mem_cons_of_mem f hg)
      rw [size_encode_fragment] at hg
      omega
    rw [dataBytes, List.length_cons, Nat.add_sub_cancel]
    omega

/-- A layout has no more pieces than are needed. -/
theorem Layout.count_le_of_carries {limit count : Nat} {channel : String} {payload : ByteArray} {fs : List Fragment}
    (hl : Layout payload.size (limit - fragmentHeaderSize - (channel.utf8ByteSize + 1)) (limit - fragmentHeaderSize)
      count) (h : Carries limit channel payload fs) : count ≤ fs.length := by
  have hneeded := Nat.lt_of_lt_of_le hl.needed h.size_le
  have hless : count - 2 < fs.length - 1 :=
    Nat.lt_of_mul_lt_mul_right (Nat.lt_of_add_lt_add_left hneeded)
  omega

/-- The number of fragments is rounded up, so there are too many of them if and only if the most that there may be
cannot hold the payload. -/
theorem maxFragments_lt_iff (size first : Nat) {most : Nat} (hmost : 0 < most) :
    maxFragments < 1 + (size - first + most - 1) / most ↔ first + (maxFragments - 1) * most < size := by
  rw [maxFragments, Nat.lt_iff_add_one_le, Nat.add_comm 1, Nat.add_le_add_iff_right, Nat.le_div_iff_mul_le hmost]
  omega

/-- A message is refused if and only if it is longer than what the most fragments can carry. -/
theorem split_eq_none_iff {sequence : UInt32} {channel : String} {payload : ByteArray} {limit : Nat}
    (hc : channel.utf8ByteSize ≤ maxChannelLength) (hlow : Address.minDatagramSize ≤ limit)
    (hhigh : limit ≤ Address.maxDatagramSize) :
    split sequence channel payload limit = none ↔
      (limit - fragmentHeaderSize - (channel.utf8ByteSize + 1)) +
        (maxFragments - 1) * (limit - fragmentHeaderSize) < payload.size := by
  rw [maxChannelLength] at hc
  rw [Address.minDatagramSize] at hlow
  rw [Address.maxDatagramSize] at hhigh
  have hfirst : limit - fragmentHeaderSize - (channel.utf8ByteSize + 1) ≠ 0 := by
    rw [fragmentHeaderSize]
    omega
  have hmost : 0 < limit - fragmentHeaderSize := by omega
  have hcount := maxFragments_lt_iff payload.size (limit - fragmentHeaderSize - (channel.utf8ByteSize + 1)) hmost
  simp only [split]
  by_cases hshort : shortHeaderSize + (channel.utf8ByteSize + 1) + payload.size ≤ limit
  · rw [if_pos hshort]
    refine iff_of_false (Option.some_ne_none _) ?_
    rw [shortHeaderSize] at hshort
    rw [fragmentHeaderSize, maxFragments]
    omega
  · rw [if_neg hshort, if_neg hfirst]
    by_cases hmany : maxFragments < 1 + (payload.size - (limit - fragmentHeaderSize - (channel.utf8ByteSize + 1)) +
        (limit - fragmentHeaderSize) - 1) / (limit - fragmentHeaderSize)
    · rw [if_pos hmany]
      exact iff_of_true rfl (hcount.1 hmany)
    · -- what fits in so many fragments has a length of four bytes
      have hroom := mt hcount.2 hmany
      have hsize : ¬ UInt32.size ≤ payload.size := by
        rw [fragmentHeaderSize, maxFragments] at hroom
        rw [UInt32.size]
        omega
      rw [if_neg hmany, if_neg hsize]
      exact iff_of_false (Option.some_ne_none _) hroom

/-! ## The pieces of a message -/

namespace Cut

variable {c : Cut}

/-- The pieces of a message as fragments. -/
def pieces (c : Cut) : List Fragment := (List.range c.count).map c.piece

theorem length_pieces : c.pieces.length = c.count := by
  rw [pieces, List.length_map, List.length_range]

theorem getElem_pieces {i : Nat} (h : i < c.pieces.length) : c.pieces[i] = c.piece i := by
  simp [pieces]

theorem stop_eq (c : Cut) (i : Nat) : c.stop i = min (c.start (i + 1)) c.payload.size := by
  rw [stop, pieceStop, start, pieceStart, if_neg (Nat.succ_ne_zero i), Nat.add_sub_cancel]

/-- The pieces before one of them are the payload up to where it starts. -/
theorem dataOf_pieces {k : Nat} (hk : k ≤ c.count) :
    dataOf ((List.range k).map c.piece) = c.payload.extract 0 (min (c.start k) c.payload.size) := by
  induction k with
  | zero =>
    have hstart : min (c.start 0) c.payload.size = 0 := by
      rw [start, pieceStart, if_pos rfl, Nat.zero_min]
    rw [hstart, ByteArray.extract_same]
    rfl
  | succ k ih =>
    have hle : c.start k ≤ c.stop k := start_le_stop hk
    have hmin : min (c.start k) c.payload.size = c.start k := Nat.min_eq_left (Nat.le_trans hle (c.stop_le k))
    have hpiece : dataOf [c.piece k] = c.payload.extract (c.start k) (c.stop k) := ByteArray.append_empty
    rw [List.range_succ, List.map_append, List.map_singleton, dataOf_append, ih (Nat.le_of_succ_le hk), hmin, hpiece,
      ← stop_eq]
    exact (ByteArray.extract_eq_extract_append_extract _ (Nat.zero_le _) hle).symm

theorem dataOf_pieces_eq : dataOf c.pieces = c.payload := by
  have hcovers : min (c.start c.count) c.payload.size = c.payload.size := by
    have htwo := c.layout.two_le
    rw [start, pieceStart, if_neg (by omega)]
    exact Nat.min_eq_right c.layout.covers
  rw [pieces, dataOf_pieces (Nat.le_refl _), hcovers, ByteArray.extract_zero_size]

/-- A piece starts where the ones before it end. -/
theorem dataBytes_take_pieces {i : Nat} (hi : i < c.count) : dataBytes (c.pieces.take i) = c.start i := by
  have hle : c.start i ≤ c.payload.size := Nat.le_trans (start_le_stop hi) (c.stop_le i)
  rw [pieces, ← List.map_take, List.take_range, Nat.min_eq_left (Nat.le_of_lt hi), ← size_dataOf,
    dataOf_pieces (Nat.le_of_lt hi), ByteArray.size_extract]
  omega

/-- A piece has something to carry. -/
theorem start_lt_stop {i : Nat} (hfirst : 0 < c.first) (hi : i < c.count) : c.start i < c.stop i := by
  have hneeded := c.layout.needed
  have hmost := c.layout.most_pos
  rw [stop_eq, start, start, pieceStart, pieceStart, if_neg (Nat.succ_ne_zero i), Nat.add_sub_cancel]
  split
  · omega
  · have hprev : (i - 1) * c.most ≤ (c.count - 2) * c.most := Nat.mul_le_mul_right _ (by omega)
    have hnext : i * c.most = (i - 1) * c.most + c.most := by
      rw [← Nat.succ_mul, Nat.succ_eq_add_one, Nat.sub_add_cancel (by omega)]
    omega

/-- The first piece has room for `first` bytes and each other one for `most` bytes. -/
theorem size_piece_le (c : Cut) (i : Nat) : (c.piece i).data.size ≤ if i = 0 then c.first else c.most := by
  rw [size_data, stop_eq, start, start, pieceStart, pieceStart, if_neg (Nat.succ_ne_zero i), Nat.add_sub_cancel]
  split
  · rename_i hi
    subst hi
    omega
  · rename_i hi
    have hnext : i * c.most = (i - 1) * c.most + c.most := by
      rw [← Nat.succ_mul, Nat.succ_eq_add_one, Nat.sub_add_cancel (Nat.pos_of_ne_zero hi)]
    omega

/-- The pieces of a message whose sizes come from a limit tile it. -/
theorem tiles_pieces {limit : Nat} (hmost : c.most = limit - fragmentHeaderSize)
    (hfirst : c.first = c.most - (c.channel.utf8ByteSize + 1)) (hpos : 0 < c.first) :
    Tiles c.sequence limit c.channel c.payload c.pieces where
  channel i h := by
    rw [getElem_pieces, channel_piece]
  within f hf := by
    obtain ⟨i, hi, rfl⟩ := List.mem_map.1 hf
    have hlen := size_piece_le c i
    rw [size_encode_fragment, channel_piece]
    split at hlen
    · rename_i hi0
      rw [if_pos hi0, Option.elim_some]
      omega
    · rename_i hi0
      rw [if_neg hi0, Option.elim_none]
      omega
  data := dataOf_pieces_eq
  sequence f hf := by
    obtain ⟨i, hi, rfl⟩ := List.mem_map.1 hf
    rfl
  size f hf := by
    obtain ⟨i, hi, rfl⟩ := List.mem_map.1 hf
    exact toNat_size
  count f hf := by
    obtain ⟨i, hi, rfl⟩ := List.mem_map.1 hf
    rw [toNat_count, length_pieces]
  index i h := by
    rw [getElem_pieces, toNat_index (length_pieces ▸ h)]
  offset i h := by
    rw [length_pieces] at h
    rw [getElem_pieces, toNat_offset h, dataBytes_take_pieces h]
  nonempty f hf := by
    obtain ⟨i, hi, rfl⟩ := List.mem_map.1 hf
    rw [size_data]
    exact Nat.sub_pos_of_lt (start_lt_stop hpos (List.mem_range.1 hi))

end Cut

/-! ## The datagrams of a message -/

/-- A message is refused if and only if it is longer than what the most fragments can carry. Otherwise its datagrams are
no longer than the limit and can be read: if the message fits they are one short datagram, and otherwise two or more
fragments that tile the payload, no more of them than are needed. -/
theorem encodeMessage_tiles {sequence : UInt32} {channel : String} {payload : ByteArray} {limit : Nat}
    (hz : '\x00' ∉ channel.toList) (hc : channel.utf8ByteSize ≤ maxChannelLength)
    (hlow : Address.minDatagramSize ≤ limit) (hhigh : limit ≤ Address.maxDatagramSize) :
    (encodeMessage sequence channel payload limit = none ↔
      (limit - fragmentHeaderSize - (channel.utf8ByteSize + 1)) +
        (maxFragments - 1) * (limit - fragmentHeaderSize) < payload.size) ∧
    ∀ ds, encodeMessage sequence channel payload limit = some ds →
      (∀ d ∈ ds, d.size ≤ limit) ∧
      (shortHeaderSize + (channel.utf8ByteSize + 1) + payload.size ≤ limit →
        ds.map Datagram.decode = [.ok (.short sequence channel payload)]) ∧
      (¬ shortHeaderSize + (channel.utf8ByteSize + 1) + payload.size ≤ limit →
        ∃ fs : List Fragment, ds.map Datagram.decode = fs.map (fun f => .ok (.fragment f)) ∧ 2 ≤ fs.length ∧
          Tiles sequence limit channel payload fs ∧
          ∀ gs, Carries limit channel payload gs → fs.length ≤ gs.length) := by
  refine ⟨Option.map_eq_none_iff.trans (split_eq_none_iff hc hlow hhigh), fun ds hs => ?_⟩
  by_cases hshort : shortHeaderSize + (channel.utf8ByteSize + 1) + payload.size ≤ limit
  · rw [encodeMessage_of_short hshort] at hs
    cases hs
    refine ⟨fun d hd => ?_, fun _ => ?_, fun hlong => absurd hshort hlong⟩
    · rw [List.mem_singleton.1 hd, size_encode_short]
      exact hshort
    · rw [List.map_singleton, decode_encode_short hz hc]
  · obtain ⟨parts, hparts, rfl⟩ := Option.map_eq_some_iff.1 hs
    obtain ⟨count, hl, rfl⟩ := split_of_long hc hlow hshort hparts
    let c : Cut := ⟨sequence, channel, payload, _, _, count, hl, hz, hc⟩
    have hfirst : 0 < c.first := by
      show 0 < limit - fragmentHeaderSize - (channel.utf8ByteSize + 1)
      rw [maxChannelLength] at hc
      rw [Address.minDatagramSize] at hlow
      rw [fragmentHeaderSize]
      omega
    have htiles : Tiles sequence limit channel payload c.pieces := Cut.tiles_pieces rfl rfl hfirst
    have hparts : (List.range count).map (fun i => Datagram.fragment (piece sequence channel payload
        (limit - fragmentHeaderSize - (channel.utf8ByteSize + 1)) (limit - fragmentHeaderSize) count i)) =
          c.pieces.map Datagram.fragment := by
      rw [Cut.pieces, List.map_map]
      rfl
    rw [hparts, List.map_map, List.map_map]
    refine ⟨fun d hd => ?_, fun hfits => absurd hfits hshort, fun _ => ⟨c.pieces, ?_, ?_, htiles, fun gs hgs => ?_⟩⟩
    · obtain ⟨f, hf, rfl⟩ := List.mem_map.1 hd
      exact htiles.within f hf
    · refine List.map_congr_left fun f hf => ?_
      obtain ⟨i, hi, rfl⟩ := List.mem_map.1 hf
      exact Cut.decode_datagram (List.mem_range.1 hi)
    · rw [Cut.length_pieces]
      exact hl.two_le
    · rw [Cut.length_pieces]
      exact hl.count_le_of_carries hgs

/-- The longest message of a channel of one byte goes out in datagrams of 128 bytes; one byte more is too much. -/
theorem encodeMessage_tiles_longest :
    encodeMessage 7 "a" (Bytes.replicate (106 + 65534 * 108 + 1) 0) 128 = none ∧
      ∃ ds fs, encodeMessage 7 "a" (Bytes.replicate (106 + 65534 * 108) 0) 128 = some ds ∧
        ds.map Datagram.decode = fs.map (fun f => .ok (.fragment f)) ∧ (∀ d ∈ ds, d.size ≤ 128) ∧
        Tiles 7 128 "a" (Bytes.replicate (106 + 65534 * 108) 0) fs := by
  have htiles := fun payload => @encodeMessage_tiles 7 "a" payload 128 (by decide) (by decide) (by decide) (by decide)
  have hname : "a".utf8ByteSize = 1 := rfl
  have hover := (htiles (Bytes.replicate (106 + 65534 * 108 + 1) 0)).1
  obtain ⟨hnone, hsome⟩ := htiles (Bytes.replicate (106 + 65534 * 108) 0)
  rw [Bytes.size_replicate, hname] at hover hnone hsome
  refine ⟨hover.2 (by decide), ?_⟩
  cases hs : encodeMessage 7 "a" (Bytes.replicate (106 + 65534 * 108) 0) 128 with
  | none => exact absurd (hnone.1 hs) (by decide)
  | some ds =>
    obtain ⟨hsize, -, hlong⟩ := hsome ds hs
    obtain ⟨fs, hread, -, hfs, -⟩ := hlong (by decide)
    exact ⟨ds, fs, rfl, hread, hsize, hfs⟩

end PubSub.Wire
