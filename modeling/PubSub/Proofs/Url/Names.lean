import Mathlib
import PubSub.Proofs.Bytes
import PubSub.Url.Host

/-!
# Names

Plain names are of ASCII letters and digits, points, hyphens and underscores. Nothing in them is encoded, and a case
is all that folding can change of them.

* `isNameChar`: the characters of plain names.

Results:

* `splitOn_eq`, `intercalate_splitOn`: a text is cut into pieces, which together give it back.
* `percentDecode_bytesOf`, `percentEncode_eq_self`: percent-encoding leaves names alone, both ways.
-/

namespace PubSub.Url

variable {c d sep : Char} {cs s : List Char} {b : UInt8} {bs : List UInt8}

/-! ## Characters of names -/

/-- Whether a character is an ASCII letter or digit, a point, a hyphen or an underscore. -/
def isNameChar (c : Char) : Bool := c.isAlphanum || c == '.' || c == '-' || c == '_'

theorem ne_of_isNameChar (h : isNameChar c) (hd : isNameChar d = false) : c ≠ d := by
  rintro rfl
  rw [hd] at h
  cases h

theorem toNat_of_isNameChar (h : isNameChar c) : 45 ≤ c.toNat ∧ c.toNat ≤ 122 := by
  simp only [isNameChar, Char.isAlphanum, Char.isAlpha, Char.isUpper, Char.isLower, Char.isDigit, Bool.or_eq_true,
    Bool.and_eq_true, decide_eq_true_eq, beq_iff_eq, ge_iff_le, UInt32.le_iff_toNat_le] at h
  change (((((65 ≤ c.toNat ∧ c.toNat ≤ 90) ∨ 97 ≤ c.toNat ∧ c.toNat ≤ 122) ∨ 48 ≤ c.toNat ∧ c.toNat ≤ 57) ∨ _) ∨ _) ∨ _
    at h
  rcases h with ((h | rfl) | rfl) | rfl
  · omega
  all_goals decide

theorem isNameChar_toLower (h : isNameChar c) : isNameChar c.toLower := by
  by_cases hu : c.isUpper
  · simp [isNameChar, Char.isAlphanum, Char.isAlpha, hu]
  · rwa [Char.toLower_eq_of_not_isUpper hu]

theorem isNameChar_of_mem_lower (h : ∀ c ∈ cs, isNameChar c) : ∀ c ∈ cs.map Char.toLower, isNameChar c := by
  intro c hc
  obtain ⟨d, hd, rfl⟩ := List.mem_map.1 hc
  exact isNameChar_toLower (h d hd)

/-- What is no letter comes from itself alone. -/
theorem eq_of_toLower_eq (hd : d.isAlpha = false) (h : c.toLower = d) : c = d := by
  by_cases hu : c.isUpper
  · rw [← h, Char.isAlpha_toLower_eq_isAlpha, Char.isAlpha, hu] at hd
    cases hd
  · rwa [Char.toLower_eq_of_not_isUpper hu] at h

theorem map_toLower_eq_self_iff : cs.map Char.toLower = cs ↔ ∀ c ∈ cs, c.isUpper = false := by
  constructor
  · intro h c hc
    rw [← h] at hc
    obtain ⟨d, -, rfl⟩ := List.mem_map.1 hc
    exact Char.isUpper_toLower_eq_false d
  · intro h
    exact (List.map_congr_left fun c hc => Char.toLower_eq_of_not_isUpper (by simp [h c hc])).trans (List.map_id cs)

/-! ## Pieces of a text -/

theorem splitOn_eq (sep : Char) (cs : List Char) : splitOn sep cs = cs.splitOn sep := by
  induction cs with
  | nil => rfl
  | cons c cs ih =>
    obtain ⟨w, ws, hw⟩ := List.exists_cons_of_ne_nil (List.splitOn_ne_nil sep cs)
    rw [List.splitOn_cons_eq_if_modifyHead, hw, splitOn, List.foldr_cons]
    rw [splitOn, hw] at ih
    simp only [ih, beq_iff_eq, List.modifyHead_cons]

theorem mem_intercalate {l : List (List Char)} (hs : s ∈ l) (hc : c ∈ s) : c ∈ [sep].intercalate l := by
  induction l with
  | nil => cases hs
  | cons t l ih =>
    by_cases hl : l = []
    · obtain rfl := List.mem_singleton.1 (hl ▸ hs)
      rwa [hl, List.intercalate_singleton]
    · rw [List.intercalate_cons_of_ne_nil hl, List.append_assoc, List.mem_append, List.mem_append]
      rcases List.mem_cons.1 hs with rfl | hs
      · exact .inl hc
      · exact .inr (.inr (ih hs))

theorem mem_of_mem_intercalate {l : List (List Char)} (hc : c ∈ [sep].intercalate l) : c = sep ∨ ∃ s ∈ l, c ∈ s := by
  induction l with
  | nil => cases hc
  | cons t l ih =>
    by_cases hl : l = []
    · rw [hl, List.intercalate_singleton] at hc
      exact .inr ⟨t, List.mem_cons_self, hc⟩
    · rw [List.intercalate_cons_of_ne_nil hl, List.append_assoc, List.mem_append, List.mem_append,
        List.mem_singleton] at hc
      rcases hc with hc | hc | hc
      · exact .inr ⟨t, List.mem_cons_self, hc⟩
      · exact .inl hc
      · exact (ih hc).imp_right fun ⟨s, hs, hcs⟩ => ⟨s, List.mem_cons_of_mem _ hs, hcs⟩

theorem intercalate_splitOn (sep : Char) (cs : List Char) : [sep].intercalate (splitOn sep cs) = cs := by
  rw [splitOn_eq, List.intercalate_splitOn]

theorem mem_of_mem_splitOn (hs : s ∈ splitOn sep cs) (hc : c ∈ s) : c ∈ cs := by
  rw [← intercalate_splitOn sep cs]
  exact mem_intercalate hs hc

/-! ## Bytes of a text -/

theorem bytesOf_eq (cs : List Char) : bytesOf cs = cs.flatMap String.utf8EncodeChar := by
  have h : (String.ofList cs).toUTF8 = ((String.ofList cs).toList.flatMap String.utf8EncodeChar).toByteArray :=
    String.utf8Encode_toList.symm
  rw [bytesOf, h, String.toList_ofList, List.data_toByteArray]

theorem fromUTF8?_bytesOf (cs : List Char) : String.fromUTF8? (bytesOf cs).toByteArray = some (String.ofList cs) := by
  have h : (String.ofList cs).toUTF8 = ((String.ofList cs).toList.flatMap String.utf8EncodeChar).toByteArray :=
    String.utf8Encode_toList.symm
  rw [bytesOf_eq, ← Bytes.fromUTF8?_toUTF8, h, String.toList_ofList]

theorem utf8EncodeChar_of_isNameChar (h : isNameChar c) : String.utf8EncodeChar c = [UInt8.ofNat c.toNat] := by
  have hle : c.toNat ≤ 122 := (toNat_of_isNameChar h).2
  unfold String.utf8EncodeChar
  simp only
  rw [if_pos (by change c.toNat ≤ 127; omega)]
  rfl

theorem percentDecode_cons (hb : b ≠ 37) (bs : List UInt8) : percentDecode (b :: bs) = b :: percentDecode bs := by
  rcases bs with - | ⟨c, - | ⟨d, bs⟩⟩
  · rw [percentDecode, percentDecode]
  · rw [percentDecode, percentDecode]
  · rw [percentDecode, if_neg hb]

theorem percentDecode_eq_self (h : 37 ∉ bs) : percentDecode bs = bs := by
  induction bs with
  | nil => rw [percentDecode]
  | cons b bs ih =>
    rw [List.mem_cons, not_or] at h
    rw [percentDecode_cons (Ne.symm h.1), ih h.2]

/-- Names hold nothing that is percent-encoded. -/
theorem percentDecode_bytesOf (h : ∀ c ∈ cs, isNameChar c) : percentDecode (bytesOf cs) = bytesOf cs := by
  refine percentDecode_eq_self fun hmem => ?_
  rw [bytesOf_eq, List.mem_flatMap] at hmem
  obtain ⟨c, hc, hmem⟩ := hmem
  rw [utf8EncodeChar_of_isNameChar (h c hc), List.mem_singleton] at hmem
  have hn := toNat_of_isNameChar (h c hc)
  have he : 37 = c.toNat % 256 := by simpa using congrArg UInt8.toNat hmem
  omega

theorem percentEncode_eq_self {test : Char → Bool} (h : ∀ c ∈ cs, test c = false) : percentEncode test cs = cs := by
  induction cs with
  | nil => rfl
  | cons c cs ih =>
    rw [List.forall_mem_cons] at h
    rw [percentEncode, List.flatMap_cons, encodeChar, if_neg (by simp [h.1])]
    exact congrArg (c :: ·) (ih h.2)

end PubSub.Url
