import PubSub.Proofs.Bytes
import PubSub.Wire.Datagram

/-!
# Datagrams are read as they were written

Results:

* `splitChannel_of_stands`: a channel name that ends with a zero byte is found where it stands.
* `zero_not_mem_of_decode`: a channel that is read has no zero character in it.
* `decode_short`, `decode_header`: what is read behind a header.
* `decode_encode_short`, `decode_encode_fragment`: reading the bytes of a datagram gives the datagram.
-/

namespace PubSub.Wire

open Bytes

/-! ## Channel names -/

theorem stands_push_zero {b name : ByteArray} {pos : Nat} (h : Stands b (name.push 0) pos) :
    Stands b name pos ∧ Stands b [0].toByteArray (pos + name.size) := by
  rw [← ByteArray.append_toByteArray_singleton] at h
  exact ⟨h.left, h.right⟩

/-- The zero byte after a name without zero bytes is the first one. -/
theorem findZero_of_stands {b name : ByteArray} {pos stop : Nat} (h : Stands b (name.push 0) pos)
    (hz : ZeroFree name) (hstop : pos + name.size < stop) : findZero b pos stop = some (pos + name.size) := by
  obtain ⟨hname, hzero⟩ := stands_push_zero h
  have hend := hzero.le_size
  rw [List.size_toByteArray, List.length_singleton] at hend
  -- induction on the bytes of the name that are left
  have hfrom : ∀ d k, k + d = name.size → findZero b (pos + k) stop = some (pos + name.size) := by
    intro d
    induction d with
    | zero =>
      intro k hk
      rw [Nat.add_zero] at hk
      subst hk
      have hbyte : b[pos + name.size] = 0 := (hzero.getElem (i := 0) (by simp) hend).trans rfl
      rw [findZero, dif_pos ⟨hstop, by omega⟩, if_pos hbyte]
    | succ d ih =>
      intro k hk
      have hbyte := hname.getElem (i := k) (by omega) (by omega)
      rw [findZero, dif_pos ⟨by omega, by omega⟩, if_neg (by rw [hbyte]; exact hz k (by omega)), Nat.add_assoc]
      exact ih (k + 1) (by omega)
  exact hfrom name.size 0 (Nat.zero_add _)

@[simp] theorem size_channelField (channel : String) : (channelField channel).size = channel.utf8ByteSize + 1 :=
  ByteArray.size_push

/-- A channel name of a permitted length is read together with all that follows it. -/
theorem splitChannel_of_stands {b rest : ByteArray} {channel : String} {pos : Nat}
    (h : Stands b (channelField channel ++ rest) pos) (hend : pos + (channel.utf8ByteSize + 1) + rest.size = b.size)
    (hz : '\x00' ∉ channel.toList) (hl : channel.utf8ByteSize ≤ maxChannelLength) :
    splitChannel b pos = .ok (channel, rest) := by
  have hsize : channel.toUTF8.size = channel.utf8ByteSize := rfl
  have hstop : pos + channel.toUTF8.size < pos + maxChannelLength + 1 := by omega
  have hfind := findZero_of_stands h.left (zeroFree_toUTF8 hz) hstop
  have hname := (stands_push_zero h.left).1.extract
  have hrest : b.extract (pos + channel.toUTF8.size + 1) b.size = rest := by
    rw [← hend, hsize, Nat.add_assoc pos]
    have := h.right.extract
    rwa [size_channelField] at this
  simp only [splitChannel, hfind, hname, fromUTF8?_toUTF8, hrest]

/-- There is no zero byte before the first one. -/
theorem ne_zero_of_findZero {b : ByteArray} {pos stop i : Nat} (h : findZero b pos stop = some i) {j : Nat}
    (hpos : pos ≤ j) (hj : j < i) (hb : j < b.size) : b[j] ≠ 0 := by
  induction pos using findZero.induct b stop with
  | case1 pos hin hzero =>
    rw [findZero, dif_pos hin, if_pos hzero] at h
    cases h
    omega
  | case2 pos hin hbyte ih =>
    rw [findZero, dif_pos hin, if_neg hbyte] at h
    obtain rfl | hlt := Nat.eq_or_lt_of_le hpos
    · exact hbyte
    · exact ih h hlt
  | case3 pos hout =>
    rw [findZero, dif_neg hout] at h
    cases h

/-- A channel name ends with the first zero byte, so there is no zero character in it. -/
theorem zero_not_mem_of_splitChannel {b rest : ByteArray} {channel : String} {pos : Nat}
    (h : splitChannel b pos = .ok (channel, rest)) : '\x00' ∉ channel.toList := by
  unfold splitChannel at h
  split at h
  · cases h
  · rename_i stop hfind
    split at h
    · cases h
    · rename_i hname
      cases h
      refine zero_not_mem_of_zeroFree ?_
      rw [toUTF8_of_fromUTF8? hname]
      intro i hi
      have hsize := hi
      rw [ByteArray.size_extract] at hsize
      rw [ByteArray.getElem_extract]
      exact ne_zero_of_findZero hfind (Nat.le_add_right ..) (by omega) (by omega)

/-- The channel that a datagram tells. -/
def Datagram.channel : Datagram → Option String
  | .short _ channel _ => some channel
  | .fragment f => f.channel

/-- A channel that is read has no zero character in it, whatever was written. -/
theorem zero_not_mem_of_decode {b : ByteArray} {d : Datagram} {channel : String} (h : Datagram.decode b = .ok d)
    (hc : d.channel = some channel) : '\x00' ∉ channel.toList := by
  unfold Datagram.decode at h
  simp only [bind, Except.bind, pure, Except.pure] at h
  -- the branches that give a datagram: a short one, the first fragment and a later one
  repeat' split at h
  all_goals cases h
  · rename_i hread
    cases hc
    exact zero_not_mem_of_splitChannel hread
  · rename_i hread _
    cases hc
    exact zero_not_mem_of_splitChannel hread
  · cases hc

/-! ## Short datagrams -/

/-- What is read behind the magic word and the sequence number of a short datagram. -/
theorem decode_short (sequence : UInt32) (rest : ByteArray) :
    Datagram.decode (ofNat 4 shortMagic.toNat ++ ofNat 4 sequence.toNat ++ rest) = do
      let (channel, payload) ← splitChannel (ofNat 4 shortMagic.toNat ++ ofNat 4 sequence.toNat ++ rest) shortHeaderSize
      return .short sequence channel payload := by
  have hall := stands_self (ofNat 4 shortMagic.toNat ++ ofNat 4 sequence.toNat ++ rest)
  have hsize : (ofNat 4 shortMagic.toNat ++ ofNat 4 sequence.toNat ++ rest).size = shortHeaderSize + rest.size := by
    simp [shortHeaderSize]
  have hmagic := hall.left.left.word32At
  have hseq := hall.left.right.word32At
  simp only [size_ofNat, Nat.zero_add] at hseq
  rw [Datagram.decode, if_neg (by omega)]
  simp only [hmagic, hseq, if_true]

/-- A short datagram with a channel of a permitted length is read as it was written. -/
theorem decode_encode_short {sequence : UInt32} {channel : String} {payload : ByteArray}
    (hz : '\x00' ∉ channel.toList) (hl : channel.utf8ByteSize ≤ maxChannelLength) :
    Datagram.decode (Datagram.encode (.short sequence channel payload)) = .ok (.short sequence channel payload) := by
  have hall := stands_self (ofNat 4 shortMagic.toNat ++ ofNat 4 sequence.toNat ++ (channelField channel ++ payload))
  have hbody := hall.right
  have hsize : shortHeaderSize + (channel.utf8ByteSize + 1) + payload.size =
      (ofNat 4 shortMagic.toNat ++ ofNat 4 sequence.toNat ++ (channelField channel ++ payload)).size := by
    simp [shortHeaderSize, Nat.add_assoc]
  simp only [ByteArray.size_append, size_ofNat, Nat.zero_add, Nat.reduceAdd] at hbody
  rw [Datagram.encode, ByteArray.append_assoc, decode_short, shortHeaderSize,
    splitChannel_of_stands hbody hsize hz hl]
  rfl

/-! ## Fragments -/

/-- A fragment that can be sent: it has its place in its message, and the first one, and no other, has the channel. -/
structure Fragment.Sendable (f : Fragment) : Prop where
  index_lt : f.index < f.count
  named : f.index = 0 → ∃ channel, f.channel = some channel ∧ '\x00' ∉ channel.toList ∧
    channel.utf8ByteSize ≤ maxChannelLength
  unnamed : f.index ≠ 0 → f.channel = none
  bounded : f.offset.toNat + f.data.size ≤ f.size.toNat

/-- The bytes before the channel or the data of a fragment. -/
def Fragment.header (f : Fragment) : ByteArray :=
  ofNat 4 fragmentMagic.toNat ++ ofNat 4 f.sequence.toNat ++ ofNat 4 f.size.toNat ++ ofNat 4 f.offset.toNat ++
    ofNat 2 f.index.toNat ++ ofNat 2 f.count.toNat

@[simp] theorem Fragment.size_header (f : Fragment) : f.header.size = fragmentHeaderSize := by
  simp [Fragment.header, fragmentHeaderSize]

/-- The bytes after the header of a fragment. -/
def Fragment.body (f : Fragment) : ByteArray :=
  match f.channel with
  | some channel => channelField channel ++ f.data
  | none => f.data

theorem encode_fragment (f : Fragment) : Datagram.encode (.fragment f) = f.header ++ f.body := by
  simp only [Datagram.encode, Fragment.body, Fragment.header]
  cases f.channel with
  | none => rfl
  | some channel => exact ByteArray.append_assoc

theorem Fragment.words_of_header {b : ByteArray} {f : Fragment} (h : Stands b f.header 0) :
    word32At b 0 = fragmentMagic ∧ word32At b 4 = f.sequence ∧ word32At b 8 = f.size ∧ word32At b 12 = f.offset ∧
      word16At b 16 = f.index ∧ word16At b 18 = f.count := by
  have hmagic := h.left.left.left.left.left.word32At
  have hseq := h.left.left.left.left.right.word32At
  have hlen := h.left.left.left.right.word32At
  have hoff := h.left.left.right.word32At
  have hidx := h.left.right.word16At
  have hcnt := h.right.word16At
  simp only [ByteArray.size_append, size_ofNat, Nat.reduceAdd] at hmagic hseq hlen hoff hidx hcnt
  exact ⟨hmagic, hseq, hlen, hoff, hidx, hcnt⟩

/-- What is read behind the header of a fragment. -/
theorem decode_header (f : Fragment) (rest : ByteArray) :
    Datagram.decode (f.header ++ rest) =
      if f.count ≤ f.index then .error (.fragmentIndex f.index f.count)
      else do
        let (channel, data) ←
          if f.index = 0 then do
            let (channel, data) ← splitChannel (f.header ++ rest) fragmentHeaderSize
            pure (some channel, data)
          else pure (none, rest)
        if f.size.toNat < f.offset.toNat + data.size then .error (.fragmentBounds f.offset data.size f.size)
        else return .fragment { f with channel, data } := by
  have hall := stands_self (f.header ++ rest)
  have hsize : (f.header ++ rest).size = fragmentHeaderSize + rest.size := by
    rw [ByteArray.size_append, f.size_header]
  have hrest : (f.header ++ rest).extract fragmentHeaderSize (f.header ++ rest).size = rest :=
    ByteArray.extract_append_eq_right f.size_header.symm ByteArray.size_append
  obtain ⟨hmagic, hseq, hlen, hoff, hidx, hcnt⟩ := Fragment.words_of_header hall.left
  have hshort : ¬ (f.header ++ rest).size < shortHeaderSize := by
    rw [hsize, fragmentHeaderSize, shortHeaderSize]
    omega
  have hlong : ¬ (f.header ++ rest).size < fragmentHeaderSize := by
    rw [hsize]
    omega
  have hother : fragmentMagic ≠ shortMagic := by decide
  rw [Datagram.decode, if_neg hshort]
  simp only [hmagic, hseq, hlen, hoff, hidx, hcnt, hrest, if_neg hother, if_true, if_neg hlong]

/-- A fragment has a number below the count, and the first one, and no other, has the channel. -/
structure Fragment.Labelled (f : Fragment) : Prop where
  index_lt : f.index < f.count
  named : f.index = 0 → ∃ channel, f.channel = some channel ∧ '\x00' ∉ channel.toList ∧
    channel.utf8ByteSize ≤ maxChannelLength
  unnamed : f.index ≠ 0 → f.channel = none

theorem Fragment.sendable_iff {f : Fragment} :
    f.Sendable ↔ f.Labelled ∧ f.offset.toNat + f.data.size ≤ f.size.toNat :=
  ⟨fun h => ⟨⟨h.index_lt, h.named, h.unnamed⟩, h.bounded⟩,
    fun h => ⟨h.1.index_lt, h.1.named, h.1.unnamed, h.2⟩⟩

/-- A fragment with its number and its channel in place is read as it was written, unless its data go beyond the end of
the payload. -/
theorem decode_encode_labelled {f : Fragment} (hf : f.Labelled) :
    Datagram.decode (Datagram.encode (.fragment f)) =
      if f.size.toNat < f.offset.toNat + f.data.size then .error (.fragmentBounds f.offset f.data.size f.size)
      else .ok (.fragment f) := by
  have hcount : ¬ f.count ≤ f.index := UInt16.not_le.2 hf.index_lt
  rw [encode_fragment, decode_header, if_neg hcount]
  by_cases hfirst : f.index = 0
  · obtain ⟨channel, hc, hz, hl⟩ := hf.named hfirst
    have hb : f.body = channelField channel ++ f.data := by rw [Fragment.body, hc]
    have hstands := (stands_self (f.header ++ f.body)).right
    have hsize : fragmentHeaderSize + (channel.utf8ByteSize + 1) + f.data.size = (f.header ++ f.body).size := by
      rw [hb, ByteArray.size_append, ByteArray.size_append, f.size_header, size_channelField, Nat.add_assoc]
    rw [f.size_header, Nat.zero_add, hb] at hstands
    rw [hb] at hsize ⊢
    rw [if_pos hfirst, splitChannel_of_stands hstands hsize hz hl]
    simp only [bind, Except.bind, pure, Except.pure]
    rw [← hc]
  · have hc := hf.unnamed hfirst
    have hb : f.body = f.data := by rw [Fragment.body, hc]
    rw [if_neg hfirst, hb]
    simp only [bind, Except.bind, pure, Except.pure]
    rw [← hc]

/-- A fragment is read as it was written. -/
theorem decode_encode_fragment {f : Fragment} (hf : f.Sendable) :
    Datagram.decode (Datagram.encode (.fragment f)) = .ok (.fragment f) := by
  obtain ⟨hlabelled, hbound⟩ := Fragment.sendable_iff.1 hf
  rw [decode_encode_labelled hlabelled, if_neg (Nat.not_lt.2 hbound)]

end PubSub.Wire
