import PubSub.Proofs.Url.Names

/-!
# Plain names as hosts

* `Domain.IsReadable`: the labels of a domain name can be read, and stand beside each other.
* `Host.IsNamed`: which host a name in lower case stands for.

Results:

* `Domain.isReadable_of_unmarked`: only labels with the mark `xn--` may not be readable.
* `Domain.toAscii?_eq_some_iff`: as a domain name a name is itself in lower case.
* `Host.ofDomain_eq_ok_iff`: it is a host if its labels are readable, and an address if it ends in a number.
-/

namespace PubSub.Url

variable {c : Char} {cs l t : List Char} {x : Domain.Label} {labels : List Domain.Label} {h : Host}

theorem isHigh_of_isNameChar (hc : isNameChar c) : Domain.isHigh c = false := by
  have := toNat_of_isNameChar hc
  rw [Domain.isHigh, decide_eq_false_iff_not]
  omega

theorem isForbidden_of_isNameChar (hc : isNameChar c) : Domain.isForbidden c = false := by
  have hlow : ¬ c ≤ ' ' := fun hle => by
    have := toNat_of_isNameChar hc
    have hle : c.toNat ≤ 32 := UInt32.le_iff_toNat_le.1 hle
    omega
  have hmarks : ∀ d ∈ "%#/:<>?@[\\]^|".toList, isNameChar d = false := by simp [isNameChar]
  have hlist : ¬ "%#/:<>?@[\\]^|".toList.contains c = true := fun hmem =>
    ne_of_isNameChar hc (hmarks c (List.contains_iff_mem.1 hmem)) rfl
  rw [Domain.isForbidden, decide_eq_false hlow, beq_false_of_ne (ne_of_isNameChar hc (by decide)),
    Bool.eq_false_of_not_eq_true hlist]
  rfl

namespace Domain

/-! ## Mapping -/

theorem mapChar?_of_not_high (hc : isHigh c = false) : mapChar? c = some [c.toLower] := by
  rw [mapChar?, hc]
  rfl

theorem mapM_mapChar? (hcs : ∀ c ∈ cs, isHigh c = false) :
    cs.mapM mapChar? = some (cs.map fun c => [c.toLower]) := by
  induction cs with
  | nil => rfl
  | cons c cs ih =>
    rw [List.forall_mem_cons] at hcs
    rw [List.mapM_cons, mapChar?_of_not_high hcs.1, ih hcs.2]
    rfl

/-- A name goes to lower case. -/
theorem map?_eq (hcs : ∀ c ∈ cs, isNameChar c) : map? cs = some (cs.map Char.toLower) := by
  have hflat : (cs.map fun c => [c.toLower]).flatten = cs.map Char.toLower := by
    rw [← List.flatMap_def, List.map_eq_flatMap]
  have hlow : ∀ c ∈ cs.map Char.toLower, isHigh c = false := fun c hc =>
    isHigh_of_isNameChar (isNameChar_of_mem_lower hcs c hc)
  rw [map?, mapM_mapChar? fun c hc => isHigh_of_isNameChar (hcs c hc), Option.map_some, hflat, compose,
    if_neg (by simpa using hlow)]

/-! ## Labels -/

/-- A label of ASCII is written as it is. -/
theorem ascii_of_readLabel? (hl : ∀ c ∈ l, isHigh c = false) (hx : readLabel? l = some x) : x.ascii = l := by
  have hany : ¬ l.any isHigh = true := by simpa using hl
  rw [readLabel?, if_neg hany] at hx
  by_cases hm : l.take 4 = mark
  · rw [if_pos hm] at hx
    cases hp : Punycode.decode? (l.drop 4) with
    | none =>
      simp only [hp] at hx
      cases hx
    | some plain =>
      simp only [hp, Option.ite_none_right_eq_some] at hx
      obtain ⟨-, hx⟩ := hx
      cases hx
      rfl
  · rw [if_neg hm] at hx
    cases hx
    rfl

theorem ascii_of_mapM_readLabel? {ls : List (List Char)} (hls : ∀ l ∈ ls, ∀ c ∈ l, isHigh c = false)
    (h : ls.mapM readLabel? = some labels) : labels.map Label.ascii = ls := by
  induction ls generalizing labels with
  | nil =>
    cases h
    rfl
  | cons l ls ih =>
    rw [List.forall_mem_cons] at hls
    rw [List.mapM_cons] at h
    obtain ⟨x, hx, h⟩ := Option.bind_eq_some_iff.1 h
    obtain ⟨xs, hxs, h⟩ := Option.bind_eq_some_iff.1 h
    cases h
    rw [List.map_cons, ascii_of_readLabel? hls.1 hx, ih hls.2 hxs]

/-- The labels of a domain name can be read, and stand beside each other. -/
def IsReadable (cs : List Char) : Prop :=
  ∃ labels, (splitOn '.' cs).mapM readLabel? = some labels ∧ areOrderly labels = true

theorem readLabel?_unmarked (hl : ∀ c ∈ l, isHigh c = false) (hm : l.take 4 ≠ mark) : readLabel? l = some ⟨l, l⟩ := by
  have hany : ¬ l.any isHigh = true := by simpa using hl
  rw [readLabel?, if_neg hm, if_neg hany]

theorem mapM_readLabel?_unmarked {ls : List (List Char)} (hls : ∀ l ∈ ls, ∀ c ∈ l, isHigh c = false)
    (hm : ∀ l ∈ ls, l.take 4 ≠ mark) : ls.mapM readLabel? = some (ls.map fun l => ⟨l, l⟩) := by
  induction ls with
  | nil => rfl
  | cons l ls ih =>
    rw [List.forall_mem_cons] at hm hls
    rw [List.mapM_cons, readLabel?_unmarked hls.1 hm.1, ih hls.2 hm.2]
    rfl

/-- Labels without the mark are readable. -/
theorem isReadable_of_unmarked (hcs : ∀ c ∈ cs, isHigh c = false) (hm : ∀ l ∈ splitOn '.' cs, l.take 4 ≠ mark) :
    IsReadable cs := by
  have hls : ∀ l ∈ splitOn '.' cs, ∀ c ∈ l, isHigh c = false := fun l hl c hc => hcs c (mem_of_mem_splitOn hl hc)
  refine ⟨_, mapM_readLabel?_unmarked hls hm, ?_⟩
  rw [areOrderly, Bool.or_eq_true, Bool.not_eq_true', List.any_eq_false]
  refine .inl fun x hx => ?_
  obtain ⟨l, hl, rfl⟩ := List.mem_map.1 hx
  rw [Bool.not_eq_true, List.any_eq_false]
  intro c hc
  rw [isRightToLeft, hls l hl c hc]
  exact Bool.false_ne_true

/-- A name is a domain name if its labels are readable: the name in lower case. -/
theorem toAscii?_eq_some_iff (hcs : ∀ c ∈ cs, isNameChar c) :
    toAscii? (percentDecode (bytesOf cs)) = some t ↔ IsReadable (cs.map Char.toLower) ∧ t = cs.map Char.toLower := by
  have hlower := isNameChar_of_mem_lower hcs
  have hok : ¬ (cs.map Char.toLower).any isForbidden = true := by
    simpa only [List.any_eq_true, not_exists, not_and, Bool.not_eq_true] using
      fun c hc => isForbidden_of_isNameChar (hlower c hc)
  have hascii : ∀ l ∈ splitOn '.' (cs.map Char.toLower), ∀ c ∈ l, isHigh c = false := fun l hl c hc =>
    isHigh_of_isNameChar (hlower c (mem_of_mem_splitOn hl hc))
  rw [percentDecode_bytesOf hcs, toAscii?, fromUTF8?_bytesOf]
  simp only [Option.bind_eq_bind, Option.bind_some, String.toList_ofList, map?_eq hcs, if_neg hok]
  rw [Option.bind_eq_some_iff]
  constructor
  · rintro ⟨labels, hl, ht⟩
    rw [Option.ite_none_right_eq_some, ascii_of_mapM_readLabel? hascii hl, intercalate_splitOn] at ht
    obtain ⟨ho, ht⟩ := ht
    cases ht
    exact ⟨⟨labels, hl, ho⟩, rfl⟩
  · rintro ⟨⟨labels, hl, ho⟩, rfl⟩
    refine ⟨labels, hl, ?_⟩
    rw [if_pos ho, ascii_of_mapM_readLabel? hascii hl, intercalate_splitOn]

end Domain

namespace Ipv4

/-! ## Addresses as they are written -/

theorem toList_text (a : Ipv4) : a.text.toList = ['.'].intercalate (a.bytes.map fun b => Nat.toDigits 10 b.toNat) := by
  rw [text, String.toList_intercalate, List.map_map]
  congr 1
  refine List.map_congr_left fun b _ => ?_
  rw [Function.comp_apply, Nat.toString_eq_ofList_toDigits, String.toList_ofList]

theorem isUpper_of_mem_text {a : Ipv4} (hc : c ∈ a.text.toList) : c.isUpper = false := by
  rw [toList_text] at hc
  rcases mem_of_mem_intercalate hc with rfl | ⟨s, hs, hc⟩
  · rfl
  · obtain ⟨b, -, rfl⟩ := List.mem_map.1 hs
    have hdigit := Nat.isDigit_of_mem_toDigits (by decide) (by decide) hc
    simp only [Char.isDigit, Bool.and_eq_true, decide_eq_true_eq, UInt32.le_iff_toNat_le] at hdigit
    rw [Char.isUpper, decide_eq_false_iff_not, ge_iff_le, UInt32.le_iff_toNat_le]
    exact fun hu => absurd (Nat.le_trans hu.1 hdigit.2) (by decide)

theorem text_ne_empty (a : Ipv4) : a.text ≠ "" := by
  intro h
  obtain ⟨b, bs, hb⟩ : ∃ b bs, a.bytes = b :: bs :=
    List.exists_cons_of_ne_nil (by simp [bytes, Bytes.digits])
  obtain ⟨c, hc⟩ := List.exists_mem_of_ne_nil _ (Nat.toDigits_ne_nil (n := b.toNat) (b := 10))
  have hmem : c ∈ a.text.toList := by
    rw [toList_text, hb]
    exact mem_intercalate List.mem_cons_self hc
  rw [h] at hmem
  cases hmem

end Ipv4

namespace Host

/-- A name in lower case is a host under that name. -/
def IsNamed (cs : List Char) (h : Host) : Prop :=
  Ipv4.endsInNumber cs = false ∧ h = .name (String.ofList cs) ∨
    Ipv4.endsInNumber cs = true ∧ ∃ a, Ipv4.ofHost? cs = some a ∧ h = .ipv4 a

theorem ofDomain_eq_ok_iff (hne : cs ≠ []) (hcs : ∀ c ∈ cs, isNameChar c) :
    ofDomain cs = .ok h ↔ Domain.IsReadable (cs.map Char.toLower) ∧ IsNamed (cs.map Char.toLower) h := by
  unfold ofDomain
  split
  case h_1 rest => exact absurd (hcs '[' List.mem_cons_self) (by decide)
  case h_2 =>
    by_cases hr : Domain.IsReadable (cs.map Char.toLower)
    · obtain ⟨d, ds, hd⟩ := List.exists_cons_of_ne_nil (show cs.map Char.toLower ≠ [] by simpa using hne)
      rw [(Domain.toAscii?_eq_some_iff hcs).2 ⟨hr, rfl⟩, hd]
      rw [hd] at hr
      simp only [IsNamed, hr, true_and]
      cases Ipv4.endsInNumber (d :: ds) with
      | false => simp [eq_comm]
      | true =>
        cases Ipv4.ofHost? (d :: ds) with
        | none => simp
        | some a => simp [eq_comm]
    · have hnone : Domain.toAscii? (percentDecode (bytesOf cs)) = none :=
        Option.eq_none_iff_forall_ne_some.2 fun t ht => hr ((Domain.toAscii?_eq_some_iff hcs).1 ht).1
      rw [hnone]
      simp [hr]

/-- A name is one host only. -/
theorem IsNamed.unique {h' : Host} (hn : IsNamed cs h) (hn' : IsNamed cs h') : h = h' := by
  rcases hn with ⟨hend, rfl⟩ | ⟨hend, a, ha, rfl⟩
  · rcases hn' with ⟨-, rfl⟩ | ⟨hend', -⟩
    · rfl
    · cases hend.symm.trans hend'
  · rcases hn' with ⟨hend', -⟩ | ⟨-, b, hb, rfl⟩
    · cases hend.symm.trans hend'
    · rw [Option.some.inj (ha.symm.trans hb)]

theorem IsNamed.text_ne_empty (hn : IsNamed cs h) (hne : cs ≠ []) : h.text ≠ "" := by
  rcases hn with ⟨-, rfl⟩ | ⟨-, a, -, rfl⟩
  · simpa [text, String.ext_iff] using hne
  · exact a.text_ne_empty

end Host
end PubSub.Url
