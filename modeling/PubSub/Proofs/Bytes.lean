import Mathlib.Data.List.Induction
import Mathlib.Tactic.Common
import PubSub.Bytes

/-!
# Byte strings within byte strings

What a reader finds at a position of a byte string that was put together from parts.

* `Bytes.Stands`: a byte string stands in another one from a position on.

Results:

* `Bytes.Stands.left`, `Bytes.Stands.right`: where two parts stand one behind the other, each stands in its place.
* `Bytes.Stands.extract`, `Bytes.Stands.numberAt`: cutting out what stands somewhere, and reading a number.
* `Bytes.ofNat_numberAt`: a number that is read is written with the bytes that it was read from.
* `Bytes.getElem?_copySlice`: the bytes of a byte string that was written into.
* `Bytes.zeroFree_toUTF8`: text without the zero character is written without zero bytes.
-/

namespace PubSub.Bytes

/-! ## Numbers -/

@[simp] theorem size_ofNat (width n : Nat) : (ofNat width n).size = width := by
  rw [ofNat, List.size_toByteArray, length_digits]

theorem value_of_ofNat (width n : Nat) : value (ofNat width n).data.toList = n % span width := by
  rw [ofNat, List.data_toByteArray, List.toList_toArray, value_digits]

theorem value_append (l m : List UInt8) : value (l ++ m) = value l * span m.length + value m := by
  -- induction on the digits of the low part, the last one taken off
  induction m using List.reverseRecOn with
  | nil => simp [span, value]
  | append_singleton m b ih =>
    rw [← List.append_assoc, value_append_singleton, ih, value_append_singleton, List.length_append,
      List.length_singleton, span, Nat.add_mul, Nat.mul_assoc, Nat.mul_comm (span _) 256, Nat.add_assoc]

theorem value_lt (l : List UInt8) : value l < span l.length := by
  induction l using List.reverseRecOn with
  | nil => decide
  | append_singleton l b ih =>
    have hb := b.toNat_lt
    rw [value_append_singleton, List.length_append, List.length_singleton, span]
    omega

/-- The digits of a number that is read are the bytes that it was read from. -/
theorem digits_value (l : List UInt8) : digits l.length (value l) = l := by
  induction l using List.reverseRecOn with
  | nil => rfl
  | append_singleton l b ih =>
    have hb := b.toNat_lt
    have hhigh : (value l * 256 + b.toNat) / 256 = value l := by omega
    have hlow : (value l * 256 + b.toNat) % 256 = b.toNat := by omega
    rw [value_append_singleton, List.length_append, List.length_singleton, digits, hhigh, hlow, ih, UInt8.ofNat_toNat]

/-! ## Stretches -/

/-- The byte string `x` stands in `b` from position `pos` on. -/
def Stands (b x : ByteArray) (pos : Nat) : Prop := ∃ before after, before.size = pos ∧ b = before ++ x ++ after

variable {a b c x y : ByteArray} {pos : Nat}

theorem stands_self (b : ByteArray) : Stands b b 0 := ⟨.empty, .empty, rfl, by simp⟩

theorem stands_middle (a x b : ByteArray) : Stands (a ++ x ++ b) x a.size := ⟨a, b, rfl, rfl⟩

theorem Stands.left (h : Stands b (x ++ y) pos) : Stands b x pos := by
  obtain ⟨before, after, hpos, rfl⟩ := h
  exact ⟨before, y ++ after, hpos, by simp only [ByteArray.append_assoc]⟩

theorem Stands.right (h : Stands b (x ++ y) pos) : Stands b y (pos + x.size) := by
  obtain ⟨before, after, rfl, rfl⟩ := h
  exact ⟨before ++ x, after, ByteArray.size_append, by simp only [ByteArray.append_assoc]⟩

theorem Stands.trans {offset : Nat} (h : Stands b x pos) (hx : Stands x y offset) : Stands b y (pos + offset) := by
  obtain ⟨before, after, rfl, rfl⟩ := h
  obtain ⟨left, right, rfl, rfl⟩ := hx
  exact ⟨before ++ left, right ++ after, ByteArray.size_append, by simp only [ByteArray.append_assoc]⟩

theorem Stands.le_size (h : Stands b x pos) : pos + x.size ≤ b.size := by
  obtain ⟨before, after, rfl, rfl⟩ := h
  rw [ByteArray.size_append, ByteArray.size_append]
  omega

theorem Stands.extract (h : Stands b x pos) : b.extract pos (pos + x.size) = x := by
  obtain ⟨before, after, rfl, rfl⟩ := h
  have h := ByteArray.extract_append_size_add (a := before) (b := x ++ after) (i := 0) (j := x.size)
  rw [Nat.add_zero] at h
  rw [ByteArray.append_assoc, h, ByteArray.extract_append_eq_left rfl]

theorem Stands.extract_of_eq (h : Stands b x pos) {stop : Nat} (hs : stop = pos + x.size) :
    b.extract pos stop = x := by
  rw [hs, h.extract]

theorem Stands.getElem (h : Stands b x pos) {i : Nat} (hi : i < x.size) (hb : pos + i < b.size) :
    b[pos + i] = x[i] := by
  have he := h.extract
  have hi' : i < (b.extract pos (pos + x.size)).size := by rw [he]; exact hi
  rw [← ByteArray.getElem_extract (h := hi')]
  simp only [he]

/-- A stretch within a bound stands where it was cut out. -/
theorem stands_extract {start stop : Nat} (hs : start ≤ stop) (hb : stop ≤ b.size) :
    Stands b (b.extract start stop) start := by
  refine ⟨b.extract 0 start, b.extract stop b.size, ?_, ?_⟩
  · rw [ByteArray.size_extract]
    omega
  · rw [← ByteArray.extract_eq_extract_append_extract start (Nat.zero_le _) hs,
      ← ByteArray.extract_eq_extract_append_extract stop (Nat.zero_le _) hb, ByteArray.extract_zero_size]

/-- The byte string `b` starts with `a`. -/
def Prefix (a b : ByteArray) : Prop := ∃ rest, b = a ++ rest

theorem prefix_rfl (b : ByteArray) : Prefix b b := ⟨.empty, ByteArray.append_empty.symm⟩

theorem Prefix.size_le (h : Prefix a b) : a.size ≤ b.size := by
  obtain ⟨rest, rfl⟩ := h
  rw [ByteArray.size_append]
  omega

/-- What stands within a part at the start stands there already. -/
theorem Stands.within (h : Stands b x pos) (ha : Prefix a b) (hend : pos + x.size ≤ a.size) : Stands a x pos := by
  obtain ⟨rest, rfl⟩ := ha
  have hx := h.extract
  have hnone : pos + x.size - a.size = 0 := by omega
  have hstart : pos - a.size = 0 := by omega
  rw [ByteArray.extract_append, hnone, hstart, ByteArray.extract_same, ByteArray.append_empty] at hx
  rw [← hx]
  exact stands_extract (Nat.le_add_right ..) hend

/-! ## Numbers in stretches -/

theorem Stands.numberAt {width n : Nat} (h : Stands b (ofNat width n) pos) : numberAt b pos width = n % span width := by
  have he := h.extract
  rw [size_ofNat] at he
  rw [Bytes.numberAt, listAt, he, value_of_ofNat]

theorem Stands.word16At {n : UInt16} (h : Stands b (ofNat 2 n.toNat) pos) : word16At b pos = n := by
  have hn : n.toNat % span 2 = n.toNat := Nat.mod_eq_of_lt n.toNat_lt
  rw [Bytes.word16At, h.numberAt, hn, UInt16.ofNat_toNat]

theorem Stands.word32At {n : UInt32} (h : Stands b (ofNat 4 n.toNat) pos) : word32At b pos = n := by
  have hn : n.toNat % span 4 = n.toNat := Nat.mod_eq_of_lt n.toNat_lt
  rw [Bytes.word32At, h.numberAt, hn, UInt32.ofNat_toNat]

theorem Stands.word64At {n : UInt64} (h : Stands b (ofNat 8 n.toNat) pos) : word64At b pos = n := by
  have hn : n.toNat % span 8 = n.toNat := Nat.mod_eq_of_lt n.toNat_lt
  rw [Bytes.word64At, h.numberAt, hn, UInt64.ofNat_toNat]

@[simp] theorem listAt_zero (b : ByteArray) (pos : Nat) : listAt b pos 0 = [] := by
  simp [listAt]

theorem length_listAt {width : Nat} (h : pos + width ≤ b.size) : (listAt b pos width).length = width := by
  rw [listAt, Array.length_toList, ByteArray.size_data, ByteArray.size_extract]
  omega

theorem listAt_append {n m : Nat} : listAt b pos (n + m) = listAt b pos n ++ listAt b (pos + n) m := by
  have hsplit := ByteArray.extract_eq_extract_append_extract (a := b) (pos + n) (Nat.le_add_right pos n)
    (Nat.le_add_right (pos + n) m)
  rw [listAt, ← Nat.add_assoc, hsplit, ByteArray.data_append, Array.toList_append]
  rfl

theorem listAt_succ {n : Nat} (h : pos + n < b.size) : listAt b pos (n + 1) = listAt b pos n ++ [b[pos + n]] := by
  have hone : listAt b (pos + n) 1 = [b[pos + n]] := by
    rw [listAt]
    apply List.ext_getElem
    · simp
      omega
    · intro i h₁ h₂
      simp at h₂
      subst h₂
      simp [ByteArray.getElem_eq_getElem_data]
  rw [listAt_append, hone]

theorem numberAt_lt {width : Nat} (h : pos + width ≤ b.size) : numberAt b pos width < span width := by
  have hlt := value_lt (listAt b pos width)
  rwa [length_listAt h] at hlt

/-- A number that is read is written with the bytes that it was read from. -/
theorem ofNat_numberAt {width : Nat} (h : pos + width ≤ b.size) :
    ofNat width (numberAt b pos width) = b.extract pos (pos + width) := by
  have hdigits := digits_value (listAt b pos width)
  rw [length_listAt h] at hdigits
  rw [ofNat, numberAt, hdigits]
  exact ByteArray.ext (List.data_toByteArray.trans Array.toArray_toList)

/-- A number in a stretch that is cut out is the number that stood there. -/
theorem numberAt_extract {start stop width : Nat} (h : start + pos + width ≤ stop) :
    numberAt (b.extract start stop) pos width = numberAt b (start + pos) width := by
  have hstop : min (start + (pos + width)) stop = start + pos + width := by omega
  rw [numberAt, numberAt, listAt, listAt, ByteArray.extract_extract, hstop]

theorem toNat_word16At (h : pos + 2 ≤ b.size) : (word16At b pos).toNat = numberAt b pos 2 := by
  have hlt : numberAt b pos 2 < 2 ^ 16 := numberAt_lt h
  rw [word16At, UInt16.toNat_ofNat', Nat.mod_eq_of_lt hlt]

theorem toNat_word32At (h : pos + 4 ≤ b.size) : (word32At b pos).toNat = numberAt b pos 4 := by
  have hlt : numberAt b pos 4 < 2 ^ 32 := numberAt_lt h
  rw [word32At, UInt32.toNat_ofNat', Nat.mod_eq_of_lt hlt]

theorem toNat_word64At (h : pos + 8 ≤ b.size) : (word64At b pos).toNat = numberAt b pos 8 := by
  have hlt : numberAt b pos 8 < 2 ^ 64 := numberAt_lt h
  rw [word64At, UInt64.toNat_ofNat', Nat.mod_eq_of_lt hlt]

/-- The last four of some bytes are read as a word. -/
theorem ofNat_value_listAt {n : Nat} (h : pos + (n + 4) ≤ b.size) :
    UInt32.ofNat (value (listAt b pos (n + 4))) = word32At b (pos + n) := by
  have hspan : span (listAt b (pos + n) 4).length = 2 ^ 32 := by
    rw [length_listAt (by omega)]
    rfl
  rw [listAt_append, value_append, hspan, word32At, numberAt, UInt32.ofNat_eq_iff_mod_eq_toNat, UInt32.toNat_ofNat']
  omega

/-! ## Writing into a byte string -/

theorem data_replicate (n : Nat) (b : UInt8) : (replicate n b).data = Array.replicate n b := by
  unfold replicate
  induction n with
  | zero => rfl
  | succ n ih =>
    rw [Nat.fold_succ, Array.replicate_succ]
    exact congrArg (·.push b) ih

theorem size_replicate (n : Nat) (b : UInt8) : (replicate n b).size = n := by
  rw [← ByteArray.size_data, data_replicate, Array.size_replicate]

theorem eq_of_getElem?_replicate {n j : Nat} {b v : UInt8} (h : (replicate n b)[j]? = some v) : v = b := by
  have hdata : (replicate n b).data[j]? = some v := h
  rw [data_replicate] at hdata
  exact Array.eq_of_mem_replicate (Array.mem_of_getElem? hdata)

theorem size_copySlice {source target : ByteArray} {offset : Nat} (h : offset + source.size ≤ target.size) :
    (source.copySlice 0 target offset source.size).size = target.size := by
  rw [ByteArray.copySlice_eq_append]
  simp only [ByteArray.size_append, ByteArray.size_extract, ByteArray.size_data]
  omega

/-- A byte of what was written into is a byte of what was written, or the byte that stood there. -/
theorem getElem?_copySlice {source target : ByteArray} {offset : Nat} (h : offset + source.size ≤ target.size)
    (j : Nat) :
    (source.copySlice 0 target offset source.size)[j]? =
      if offset ≤ j ∧ j < offset + source.size then source[j - offset]? else target[j]? := by
  have hsize := size_copySlice h
  have hleft : (target.extract 0 offset).size = offset := by
    rw [ByteArray.size_extract]
    omega
  have hmid : (source.extract 0 (0 + source.size)).size = source.size := by
    rw [ByteArray.size_extract]
    omega
  have hboth : (target.extract 0 offset ++ source.extract 0 (0 + source.size)).size = offset + source.size := by
    rw [ByteArray.size_append, hleft, hmid]
  have hdata : target.data.size = target.size := rfl
  have hsource : source.data.size = source.size := rfl
  by_cases hj : j < target.size
  · rw [getElem?_pos _ j (by rw [hsize]; exact hj)]
    simp only [ByteArray.copySlice_eq_append]
    by_cases hin : offset ≤ j ∧ j < offset + source.size
    · rw [if_pos hin, ByteArray.getElem_append_left (by omega), ByteArray.getElem_append_right (by omega),
        ByteArray.getElem_extract, getElem?_pos source _ (by omega)]
      simp only [hleft, Nat.zero_add]
    · rw [if_neg hin, getElem?_pos target j hj]
      by_cases hlow : j < offset
      · rw [ByteArray.getElem_append_left (by omega), ByteArray.getElem_append_left (by omega),
          ByteArray.getElem_extract]
        simp only [Nat.zero_add]
      · have hplace : offset + min source.size (source.data.size - 0) + (j - (offset + source.size)) = j := by omega
        rw [ByteArray.getElem_append_right (by omega), ByteArray.getElem_extract]
        simp only [hboth, hplace]
  · rw [if_neg (by omega), getElem?_neg _ j (by rw [hsize]; exact hj), getElem?_neg target j hj]

/-! ## Zero bytes -/

/-- No byte is zero. -/
def ZeroFree (b : ByteArray) : Prop := ∀ i (h : i < b.size), b[i] ≠ 0

/-! ## Text -/

/-- Text that is written can be read back. -/
theorem fromUTF8?_toUTF8 (s : String) : String.fromUTF8? s.toUTF8 = some s := by
  rw [String.fromUTF8?, dif_pos (show s.toUTF8.IsValidUTF8 from s.isValidUTF8)]
  rfl

/-- Text that is read is written with the bytes that it was read from. -/
theorem toUTF8_of_fromUTF8? {b : ByteArray} {s : String} (h : String.fromUTF8? b = some s) : s.toUTF8 = b := by
  unfold String.fromUTF8? at h
  split at h
  · cases h
    rfl
  · cases h

theorem size_of_fromUTF8? {b : ByteArray} {s : String} (h : String.fromUTF8? b = some s) : s.utf8ByteSize = b.size :=
  congrArg ByteArray.size (toUTF8_of_fromUTF8? h)

/-- A character other than the zero character is written without zero bytes. -/
theorem zero_not_mem_utf8EncodeChar {c : Char} (hc : c ≠ '\x00') : (0 : UInt8) ∉ String.utf8EncodeChar c := by
  have hv : c.val.toNat ≠ 0 := fun h => hc (Char.ext (UInt32.toNat_inj.1 h))
  have hlow : ∀ n, 0 < n → n < 256 → UInt8.ofNat n ≠ 0 := fun n h₀ hn he => by
    have := congrArg UInt8.toNat he
    rw [UInt8.toNat_ofNat', Nat.mod_eq_of_lt hn] at this
    exact Nat.ne_of_gt h₀ this
  unfold String.utf8EncodeChar
  simp only
  split
  · simp only [List.mem_singleton]
    exact fun h => hlow _ (by omega) (by omega) h.symm
  · split
    · simp only [List.mem_cons, List.not_mem_nil, or_false, not_or]
      exact ⟨fun h => hlow _ (by omega) (by omega) h.symm, fun h => hlow _ (by omega) (by omega) h.symm⟩
    · split
      · simp only [List.mem_cons, List.not_mem_nil, or_false, not_or]
        exact ⟨fun h => hlow _ (by omega) (by omega) h.symm, fun h => hlow _ (by omega) (by omega) h.symm,
          fun h => hlow _ (by omega) (by omega) h.symm⟩
      · simp only [List.mem_cons, List.not_mem_nil, or_false, not_or]
        exact ⟨fun h => hlow _ (by omega) (by omega) h.symm, fun h => hlow _ (by omega) (by omega) h.symm,
          fun h => hlow _ (by omega) (by omega) h.symm, fun h => hlow _ (by omega) (by omega) h.symm⟩

/-- Text without the zero character is written without zero bytes. -/
theorem zeroFree_toUTF8 {s : String} (hs : '\x00' ∉ s.toList) : ZeroFree s.toUTF8 := by
  intro i hi h
  have hb : s.toUTF8 = (s.toList.flatMap String.utf8EncodeChar).toByteArray := String.utf8Encode_toList.symm
  have hmem : (0 : UInt8) ∈ s.toList.flatMap String.utf8EncodeChar := by
    have hi' : i < (s.toList.flatMap String.utf8EncodeChar).toByteArray.size := hb ▸ hi
    have he : (s.toList.flatMap String.utf8EncodeChar).toByteArray[i] = 0 := by
      simp only [← hb]
      exact h
    rw [List.getElem_toByteArray] at he
    exact he ▸ List.getElem_mem _
  obtain ⟨c, hc, h0⟩ := List.mem_flatMap.1 hmem
  exact zero_not_mem_utf8EncodeChar (fun he => hs (he ▸ hc)) h0

/-- Text that is written without zero bytes is without the zero character. -/
theorem zero_not_mem_of_zeroFree {s : String} (h : ZeroFree s.toUTF8) : '\x00' ∉ s.toList := by
  intro hmem
  have hb : s.toUTF8 = (s.toList.flatMap String.utf8EncodeChar).toByteArray := String.utf8Encode_toList.symm
  have hzero : (0 : UInt8) ∈ s.toList.flatMap String.utf8EncodeChar :=
    List.mem_flatMap.2 ⟨'\x00', hmem, by simp [String.utf8EncodeChar]⟩
  obtain ⟨i, hi, hbyte⟩ := List.getElem_of_mem hzero
  rw [hb] at h
  exact h i (by rwa [List.size_toByteArray]) (by rw [List.getElem_toByteArray, hbyte])

end PubSub.Bytes
