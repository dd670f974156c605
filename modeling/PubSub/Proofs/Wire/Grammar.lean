import PubSub.Proofs.Wire.Datagram
import PubSub.Wire.Guarded

/-!
# What is a datagram

A byte string is a datagram if it is laid out as one: it starts with one of the two magic words, its numbers are in
range, its channel is ended and is text. Any other byte string is refused, with what is wrong with it first.

* `Datagram.Formed`: what may be laid out as a datagram.
* `Refused`: what is wrong first with bytes that are no datagram.

Results:

* `splitChannel?_eq`: reading a channel stays within the bytes.
* `decode?_eq`: so does reading a datagram.
* `formed_or_refused`: every byte string is laid out as a datagram, or something is wrong with it.
* `decode_ok_iff`, `decode_error_iff`, `decode_grammar`: reading tells which.
-/

namespace PubSub.Wire

open Bytes

variable {b name rest tail : ByteArray} {pos stop i : Nat}

/-! ## Looking for the zero byte -/

theorem findZero_eq_none_iff :
    findZero b pos stop = none ↔ ∀ j (h : j < b.size), pos ≤ j → j < stop → b[j] ≠ 0 := by
  induction pos using findZero.induct b stop with
  | case1 pos hin hzero =>
    rw [findZero, dif_pos hin, if_pos hzero]
    exact iff_of_false (Option.some_ne_none _) fun h => h pos hin.2 (Nat.le_refl _) hin.1 hzero
  | case2 pos hin hbyte ih =>
    rw [findZero, dif_pos hin, if_neg hbyte, ih]
    constructor
    · intro h j hj hpos hstop
      obtain rfl | hlt := Nat.eq_or_lt_of_le hpos
      · exact hbyte
      · exact h j hj hlt hstop
    · exact fun h j hj hpos => h j hj (Nat.le_of_succ_le hpos)
  | case3 pos hout =>
    rw [findZero, dif_neg hout]
    exact iff_of_true rfl fun j hj hpos hstop => absurd ⟨by omega, by omega⟩ hout

theorem zero_of_findZero (h : findZero b pos stop = some i) : pos ≤ i ∧ i < stop ∧ ∃ hi : i < b.size, b[i] = 0 := by
  induction pos using findZero.induct b stop with
  | case1 pos hin hzero =>
    rw [findZero, dif_pos hin, if_pos hzero] at h
    cases h
    exact ⟨Nat.le_refl _, hin.1, hin.2, hzero⟩
  | case2 pos hin hbyte ih =>
    rw [findZero, dif_pos hin, if_neg hbyte] at h
    obtain ⟨hpos, hrest⟩ := ih h
    exact ⟨Nat.le_of_succ_le hpos, hrest⟩
  | case3 pos hout =>
    rw [findZero, dif_neg hout] at h
    cases h

/-- No zero byte ends a channel name of a permitted length. -/
def Unended (rest : ByteArray) : Prop := ∀ j (h : j < rest.size), j ≤ maxChannelLength → rest[j] ≠ 0

/-- A channel name of a permitted length is ended by a zero byte, or there is none. -/
theorem unended_or_ended (rest : ByteArray) : Unended rest ∨
    ∃ name tail, ZeroFree name ∧ name.size ≤ maxChannelLength ∧ rest = name.push 0 ++ tail := by
  cases hfind : findZero rest 0 (maxChannelLength + 1) with
  | none =>
    exact Or.inl fun j h hle => findZero_eq_none_iff.1 hfind j h (Nat.zero_le _) (Nat.lt_succ_of_le hle)
  | some i =>
    obtain ⟨-, hstop, hi, hzero⟩ := zero_of_findZero hfind
    refine Or.inr ⟨rest.extract 0 i, rest.extract (i + 1) rest.size, fun j hj => ?_, ?_, ?_⟩
    · have hlt := hj
      rw [ByteArray.size_extract] at hlt
      rw [ByteArray.getElem_extract]
      exact ne_zero_of_findZero hfind (Nat.zero_le _) (by omega) (by omega)
    · rw [ByteArray.size_extract]
      omega
    · have hone : rest.extract i (i + 1) = [0].toByteArray := by rw [ByteArray.extract_add_one hi, hzero]
      rw [← ByteArray.append_toByteArray_singleton, ← hone,
        ← ByteArray.extract_eq_extract_append_extract i (Nat.zero_le _) (Nat.le_succ _),
        ← ByteArray.extract_eq_extract_append_extract (i + 1) (Nat.zero_le _) hi, ByteArray.extract_zero_size]

/-! ## Channels -/

/-- What is read of a name that is ended, and of what follows it. -/
def readName (name tail : ByteArray) : Except DatagramError (String × ByteArray) :=
  match String.fromUTF8? name with
  | none => .error .invalidChannel
  | some channel => .ok (channel, tail)

theorem splitChannel_of_unended (head : ByteArray) (h : Unended rest) :
    splitChannel (head ++ rest) head.size = .error .unterminatedChannel := by
  have hnone : findZero (head ++ rest) head.size (head.size + maxChannelLength + 1) = none := by
    refine findZero_eq_none_iff.2 fun j hj hpos hstop => ?_
    rw [ByteArray.size_append] at hj
    rw [ByteArray.getElem_append_right hpos]
    exact h _ (by omega) (by omega)
  rw [splitChannel, hnone]

theorem extract_behind_name (name tail : ByteArray) :
    (name.push 0 ++ tail).extract (name.size + 1) (name.push 0 ++ tail).size = tail :=
  ByteArray.extract_append_eq_right ByteArray.size_push.symm ByteArray.size_append

theorem splitChannel_of_ended (head : ByteArray) (hz : ZeroFree name) (hl : name.size ≤ maxChannelLength) :
    splitChannel (head ++ (name.push 0 ++ tail)) head.size = readName name tail := by
  have hstands : Stands (head ++ (name.push 0 ++ tail)) (name.push 0 ++ tail) head.size :=
    ⟨head, .empty, rfl, ByteArray.append_empty.symm⟩
  have hstop : head.size + name.size < head.size + maxChannelLength + 1 := by omega
  have hfind := findZero_of_stands hstands.left hz hstop
  have hname := (stands_push_zero hstands.left).1.extract
  have htail : (head ++ (name.push 0 ++ tail)).extract (head.size + name.size + 1)
      (head ++ (name.push 0 ++ tail)).size = tail := by
    rw [ByteArray.size_append, Nat.add_assoc, ByteArray.extract_append_size_add, extract_behind_name]
  rw [splitChannel, hfind, readName]
  cases hread : String.fromUTF8? name with
  | none => simp only [hname, hread]
  | some channel => simp only [hname, htail, hread]

/-- Reading a channel stays within the bytes. -/
theorem splitChannel?_eq (head rest : ByteArray) :
    splitChannel? rest = some (splitChannel (head ++ rest) head.size) := by
  rcases unended_or_ended rest with h | ⟨name, tail, hz, hl, rfl⟩
  · have hnone : findZero rest 0 (maxChannelLength + 1) = none :=
      findZero_eq_none_iff.2 fun j hj _ hstop => h j hj (Nat.le_of_lt_succ hstop)
    rw [splitChannel?, hnone, splitChannel_of_unended head h]
  · have hstands := stands_self (name.push 0 ++ tail)
    have hstop : 0 + name.size < maxChannelLength + 1 := by omega
    have hfind := findZero_of_stands hstands.left hz hstop
    have hsize : (name.push 0 ++ tail).size = name.size + 1 + tail.size := by
      rw [ByteArray.size_append, ByteArray.size_push]
    have hname : slice? (name.push 0 ++ tail) 0 name.size = some name := by
      rw [slice?, if_pos ⟨Nat.zero_le _, by omega⟩,
        (stands_push_zero hstands.left).1.extract_of_eq (Nat.zero_add _).symm]
    have htail : slice? (name.push 0 ++ tail) (name.size + 1) (name.push 0 ++ tail).size = some tail := by
      rw [slice?, if_pos ⟨by omega, Nat.le_refl _⟩, extract_behind_name]
    rw [Nat.zero_add] at hfind
    rw [splitChannel?, hfind, splitChannel_of_ended head hz hl, readName]
    simp only [hname, htail, bind, Option.bind, pure]
    cases String.fromUTF8? name with
    | none => rfl
    | some channel => rfl

/-! ## Whole datagrams -/

theorem number?_eq {width : Nat} (h : pos + width ≤ b.size) : number? b pos width = some (numberAt b pos width) := by
  induction width with
  | zero =>
    rw [numberAt, listAt_zero]
    rfl
  | succ width ih =>
    have hlt : pos + width < b.size := h
    have hbyte : b[pos + width]? = some b[pos + width] := getElem?_pos b _ hlt
    rw [number?, ih (Nat.le_of_lt hlt), hbyte, numberAt, numberAt, listAt_succ hlt, value_append_singleton]
    rfl

theorem word16?_eq (h : pos + 2 ≤ b.size) : word16? b pos = some (word16At b pos) := by
  rw [word16?, number?_eq h]
  rfl

theorem word32?_eq (h : pos + 4 ≤ b.size) : word32? b pos = some (word32At b pos) := by
  rw [word32?, number?_eq h]
  rfl

/-- Reading the channel behind a header stays within the bytes. -/
theorem reads_behind (h : pos ≤ b.size) :
    slice? b pos b.size = some (b.extract pos b.size) ∧
      splitChannel? (b.extract pos b.size) = some (splitChannel b pos) := by
  have hb : b.extract 0 pos ++ b.extract pos b.size = b := by
    rw [← ByteArray.extract_eq_extract_append_extract pos (Nat.zero_le _) h, ByteArray.extract_zero_size]
  have hhead : (b.extract 0 pos).size = pos := by
    rw [ByteArray.size_extract]
    omega
  have hsplit := splitChannel?_eq (b.extract 0 pos) (b.extract pos b.size)
  rw [hb, hhead] at hsplit
  exact ⟨if_pos ⟨h, Nat.le_refl _⟩, hsplit⟩

/-- Reading a datagram stays within the bytes. -/
theorem decode?_eq (b : ByteArray) : Datagram.decode? b = some (Datagram.decode b) := by
  rw [Datagram.decode?, Datagram.decode]
  -- both make the same checks in the same order, and each check that is passed makes room for the next reads
  by_cases hshort : b.size < shortHeaderSize
  · rw [if_pos hshort, if_pos hshort]
    rfl
  rw [if_neg hshort, if_neg hshort]
  rw [Nat.not_lt] at hshort
  have hbehind := reads_behind hshort
  rw [shortHeaderSize] at hshort
  have hmagicAt : word32? b 0 = some (word32At b 0) := word32?_eq (by omega)
  have hsequenceAt : word32? b 4 = some (word32At b 4) := word32?_eq (by omega)
  simp only [hmagicAt, hsequenceAt, bind, Option.bind, pure, Except.bind, Except.pure]
  generalize word32At b 0 = magic
  by_cases hmagic : magic = shortMagic
  · rw [if_pos hmagic, if_pos hmagic]
    simp only [hbehind]
    cases splitChannel b shortHeaderSize with
    | error e => rfl
    | ok read => rfl
  rw [if_neg hmagic, if_neg hmagic]
  by_cases hother : magic = fragmentMagic
  · rw [if_neg (not_not_intro hother), if_pos hother]
    by_cases hlong : b.size < fragmentHeaderSize
    · rw [if_pos hlong, if_pos hlong]
    rw [if_neg hlong, if_neg hlong]
    rw [Nat.not_lt] at hlong
    have hbehind := reads_behind hlong
    rw [fragmentHeaderSize] at hlong
    have hsizeAt : word32? b 8 = some (word32At b 8) := word32?_eq (by omega)
    have hoffsetAt : word32? b 12 = some (word32At b 12) := word32?_eq (by omega)
    have hindexAt : word16? b 16 = some (word16At b 16) := word16?_eq (by omega)
    have hcountAt : word16? b 18 = some (word16At b 18) := word16?_eq (by omega)
    simp only [hsizeAt, hoffsetAt, hindexAt, hcountAt, hbehind]
    by_cases hcount : word16At b 18 ≤ word16At b 16
    · rw [if_pos hcount, if_pos hcount]
    rw [if_neg hcount, if_neg hcount]
    by_cases hindex : word16At b 16 = 0
    · rw [if_pos hindex, if_pos hindex]
      cases splitChannel b fragmentHeaderSize with
      | error e => rfl
      | ok read => rfl
    · rw [if_neg hindex, if_neg hindex]
  · rw [if_pos hother, if_neg hother]

/-! ## Layouts -/

/-- What may be laid out as a datagram: a message whose channel has a permitted length and no zero character in it, or a
fragment that has its place in its message. -/
def Datagram.Formed : Datagram → Prop
  | .short _ channel _ => '\x00' ∉ channel.toList ∧ channel.utf8ByteSize ≤ maxChannelLength
  | .fragment f => f.Sendable

/-- What stands before a channel: the magic word and the sequence number of a short datagram, or the header of the first
fragment of a message. -/
inductive Heads : ByteArray → Prop
  | short (sequence : UInt32) : Heads (ofNat 4 shortMagic.toNat ++ ofNat 4 sequence.toNat)
  | first {f : Fragment} (hcount : f.index < f.count) (hindex : f.index = 0) : Heads f.header

/-- What is wrong first with bytes that are no datagram. They are too few for a short datagram, they start with neither
magic word, they are too few for a fragment, the fragment's number is not below the count, its channel is not ended or
is not text, or its data go beyond the end of the payload. -/
inductive Refused : ByteArray → DatagramError → Prop
  | brief {b : ByteArray} (h : b.size < shortHeaderSize) : Refused b (.truncated shortHeaderSize b.size)
  | magic {word : UInt32} {rest : ByteArray} (hrest : 4 ≤ rest.size) (hs : word ≠ shortMagic)
      (hf : word ≠ fragmentMagic) : Refused (ofNat 4 word.toNat ++ rest) (.badMagic word)
  | header {b : ByteArray} (h : Stands b (ofNat 4 fragmentMagic.toNat) 0) (hlow : shortHeaderSize ≤ b.size)
      (hhigh : b.size < fragmentHeaderSize) : Refused b (.truncated fragmentHeaderSize b.size)
  | index {f : Fragment} {rest : ByteArray} (h : f.count ≤ f.index) :
      Refused (f.header ++ rest) (.fragmentIndex f.index f.count)
  | unended {head rest : ByteArray} (hh : Heads head) (h : Unended rest) : Refused (head ++ rest) .unterminatedChannel
  | invalid {head name tail : ByteArray} (hh : Heads head) (hz : ZeroFree name) (hl : name.size ≤ maxChannelLength)
      (hv : ¬ name.IsValidUTF8) : Refused (head ++ (name.push 0 ++ tail)) .invalidChannel
  | bounds {f : Fragment} (hf : f.Labelled) (h : f.size.toNat < f.offset.toNat + f.data.size) :
      Refused (Datagram.encode (.fragment f)) (.fragmentBounds f.offset f.data.size f.size)

/-! ### Every byte string has its layout -/

theorem exists_word16 (h : 2 ≤ b.size) : ∃ (word : UInt16) (rest : ByteArray),
    b = ofNat 2 word.toNat ++ rest ∧ b.size = 2 + rest.size := by
  refine ⟨word16At b 0, b.extract 2 b.size, ?_, ?_⟩
  · rw [toNat_word16At h, ofNat_numberAt h, ← ByteArray.extract_eq_extract_append_extract _ (Nat.zero_le _) h,
      ByteArray.extract_zero_size]
  · rw [ByteArray.size_extract]
    omega

theorem exists_word32 (h : 4 ≤ b.size) : ∃ (word : UInt32) (rest : ByteArray),
    b = ofNat 4 word.toNat ++ rest ∧ b.size = 4 + rest.size := by
  refine ⟨word32At b 0, b.extract 4 b.size, ?_, ?_⟩
  · rw [toNat_word32At h, ofNat_numberAt h, ← ByteArray.extract_eq_extract_append_extract _ (Nat.zero_le _) h,
      ByteArray.extract_zero_size]
  · rw [ByteArray.size_extract]
    omega

/-- What follows the first word of a fragment is the rest of a header, if it is long enough. -/
theorem exists_header (h : fragmentHeaderSize ≤ 4 + rest.size) :
    ∃ (f : Fragment) (data : ByteArray), ofNat 4 fragmentMagic.toNat ++ rest = f.header ++ data := by
  rw [fragmentHeaderSize] at h
  obtain ⟨sequence, r, rfl, hr⟩ := exists_word32 (b := rest) (by omega)
  obtain ⟨size, s, rfl, hs⟩ := exists_word32 (b := r) (by omega)
  obtain ⟨offset, t, rfl, ht⟩ := exists_word32 (b := s) (by omega)
  obtain ⟨index, u, rfl, hu⟩ := exists_word16 (b := t) (by omega)
  obtain ⟨count, v, rfl, -⟩ := exists_word16 (b := u) (by omega)
  refine ⟨{ sequence, size, offset, index, count, channel := none, data := v }, v, ?_⟩
  simp only [Fragment.header, ByteArray.append_assoc]

/-- Behind a head stands a channel, or something is wrong with it. -/
theorem named_or_refused {head : ByteArray} (hh : Heads head) (rest : ByteArray) :
    (∃ channel tail, '\x00' ∉ channel.toList ∧ channel.utf8ByteSize ≤ maxChannelLength ∧
      rest = channelField channel ++ tail) ∨ ∃ e, Refused (head ++ rest) e := by
  rcases unended_or_ended rest with h | ⟨name, tail, hz, hl, rfl⟩
  · exact Or.inr ⟨_, .unended hh h⟩
  · by_cases hv : name.IsValidUTF8
    · exact Or.inl ⟨String.ofByteArray name hv, tail, zero_not_mem_of_zeroFree hz, hl, rfl⟩
    · exact Or.inr ⟨_, .invalid hh hz hl hv⟩

/-- A fragment with its number and channel in place is a datagram, if its data stay within the payload. -/
theorem Fragment.Labelled.formed_or_refused {f : Fragment} (hf : f.Labelled) :
    (∃ d : Datagram, d.Formed ∧ Datagram.encode (.fragment f) = d.encode) ∨
      ∃ e, Refused (Datagram.encode (.fragment f)) e := by
  by_cases h : f.size.toNat < f.offset.toNat + f.data.size
  · exact Or.inr ⟨_, .bounds hf h⟩
  · exact Or.inl ⟨.fragment f, Fragment.sendable_iff.2 ⟨hf, Nat.not_lt.1 h⟩, rfl⟩

/-- Every byte string is laid out as a datagram, or something is wrong with it. -/
theorem formed_or_refused (b : ByteArray) : (∃ d : Datagram, d.Formed ∧ b = d.encode) ∨ ∃ e, Refused b e := by
  by_cases hbrief : b.size < shortHeaderSize
  · exact Or.inr ⟨_, .brief hbrief⟩
  rw [Nat.not_lt, shortHeaderSize] at hbrief
  obtain ⟨word, rest, rfl, hsize⟩ := exists_word32 (b := b) (by omega)
  by_cases hshort : word = shortMagic
  · subst hshort
    obtain ⟨sequence, rest, rfl, -⟩ := exists_word32 (b := rest) (by omega)
    rw [← ByteArray.append_assoc]
    rcases named_or_refused (.short sequence) rest with ⟨channel, tail, hz, hl, rfl⟩ | hrefused
    · exact Or.inl ⟨.short sequence channel tail, ⟨hz, hl⟩, ByteArray.append_assoc.symm⟩
    · exact Or.inr hrefused
  by_cases hfragment : word = fragmentMagic
  · subst hfragment
    by_cases hcut : (ofNat 4 fragmentMagic.toNat ++ rest).size < fragmentHeaderSize
    · exact Or.inr ⟨_, .header (stands_self _).left hbrief hcut⟩
    rw [hsize, Nat.not_lt] at hcut
    obtain ⟨f, data, hheader⟩ := exists_header hcut
    rw [hheader]
    by_cases hcount : f.count ≤ f.index
    · exact Or.inr ⟨_, .index hcount⟩
    rw [UInt16.not_le] at hcount
    by_cases hindex : f.index = 0
    · rcases named_or_refused (.first hcount hindex) data with ⟨channel, tail, hz, hl, rfl⟩ | hrefused
      · have hlabelled : Fragment.Labelled { f with channel := some channel, data := tail } :=
          ⟨hcount, fun _ => ⟨channel, rfl, hz, hl⟩, fun h => absurd hindex h⟩
        have hencode := encode_fragment { f with channel := some channel, data := tail }
        rw [show f.header ++ (channelField channel ++ tail) = _ from hencode.symm]
        exact hlabelled.formed_or_refused
      · exact Or.inr hrefused
    · have hlabelled : Fragment.Labelled { f with channel := none, data := data } :=
        ⟨hcount, fun h => absurd h hindex, fun _ => rfl⟩
      have hencode := encode_fragment { f with channel := none, data := data }
      rw [show f.header ++ data = _ from hencode.symm]
      exact hlabelled.formed_or_refused
  · exact Or.inr ⟨_, .magic (by omega) hshort hfragment⟩

/-! ### What reading tells -/

theorem decode_encode {d : Datagram} (h : d.Formed) : Datagram.decode d.encode = .ok d := by
  cases d with
  | short sequence channel payload => exact decode_encode_short h.1 h.2
  | fragment f => exact decode_encode_fragment h

/-- What is wrong with the channel behind a head is what is wrong with the bytes. -/
theorem decode_of_heads {head : ByteArray} {e : DatagramError} (hh : Heads head)
    (h : splitChannel (head ++ rest) head.size = .error e) : Datagram.decode (head ++ rest) = .error e := by
  cases hh with
  | short sequence =>
    have hsize : (ofNat 4 shortMagic.toNat ++ ofNat 4 sequence.toNat).size = shortHeaderSize := by
      rw [ByteArray.size_append, size_ofNat, size_ofNat]
      rfl
    rw [hsize] at h
    rw [decode_short, h]
    rfl
  | @first f hcount hindex =>
    rw [f.size_header] at h
    rw [decode_header, if_neg (UInt16.not_le.2 hcount), if_pos hindex, h]
    rfl

theorem decode_of_refused {e : DatagramError} (h : Refused b e) : Datagram.decode b = .error e := by
  cases h with
  | brief h => rw [Datagram.decode, if_pos h]
  | @magic word rest hrest hs hf =>
    have hword := (stands_self (ofNat 4 word.toNat ++ rest)).left.word32At
    have hsize : ¬ (ofNat 4 word.toNat ++ rest).size < shortHeaderSize := by
      rw [ByteArray.size_append, size_ofNat, shortHeaderSize]
      omega
    rw [Datagram.decode, if_neg hsize]
    simp only [hword, if_neg hs, if_neg hf]
  | header h hlow hhigh =>
    have hother : fragmentMagic ≠ shortMagic := by decide
    rw [Datagram.decode, if_neg (Nat.not_lt.2 hlow)]
    simp only [h.word32At, if_neg hother, if_true, if_pos hhigh]
  | index h => rw [decode_header, if_pos h]
  | unended hh h => exact decode_of_heads hh (splitChannel_of_unended _ h)
  | invalid hh hz hl hv =>
    refine decode_of_heads hh ?_
    rw [splitChannel_of_ended _ hz hl, readName, String.fromUTF8?, dif_neg hv]
  | bounds hf h => rw [decode_encode_labelled hf, if_pos h]

theorem decode_ok_iff {d : Datagram} : Datagram.decode b = .ok d ↔ d.Formed ∧ b = d.encode := by
  refine ⟨fun h => ?_, fun ⟨hd, hb⟩ => hb ▸ decode_encode hd⟩
  rcases formed_or_refused b with ⟨d', hd', rfl⟩ | ⟨e, he⟩
  · rw [decode_encode hd'] at h
    cases h
    exact ⟨hd', rfl⟩
  · rw [decode_of_refused he] at h
    cases h

theorem decode_error_iff {e : DatagramError} : Datagram.decode b = .error e ↔ Refused b e := by
  refine ⟨fun h => ?_, decode_of_refused⟩
  rcases formed_or_refused b with ⟨d, hd, rfl⟩ | ⟨e', he⟩
  · rw [decode_encode hd] at h
    cases h
  · rw [decode_of_refused he] at h
    cases h
    exact he

/-- Reading tells what bytes are. It stays within the bytes, it gives a datagram exactly if the bytes are laid out as
that datagram, and it gives an error exactly if that is what is wrong with them first. So no two byte strings are read
as the same datagram. -/
theorem decode_grammar (b : ByteArray) :
    Datagram.decode? b = some (Datagram.decode b) ∧
    (∀ d, Datagram.decode b = .ok d ↔ d.Formed ∧ b = d.encode) ∧
    (∀ e, Datagram.decode b = .error e ↔ Refused b e) ∧
    ∀ b' d, Datagram.decode b = .ok d → Datagram.decode b' = .ok d → b = b' :=
  ⟨decode?_eq b, fun _ => decode_ok_iff, fun _ => decode_error_iff, fun _ _ h h' =>
    (decode_ok_iff.1 h).2.trans (decode_ok_iff.1 h').2.symm⟩

end PubSub.Wire
