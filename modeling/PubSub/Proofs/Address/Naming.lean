import PubSub.Address
import PubSub.Proofs.Url.Relative

/-!
# Relative names of journal files

The first step of a relative name is read as a host, and is in the name of the file as hosts are written. A name of one
step gets a slash at its end.

* `RelativeName.IsKept`: a first step that is written as a host is.

Results:

* `Address.parse_relative_name_iff`: with any library of URLs, a URL tells the file of its name if and only if the name
  has several steps, the first of which is kept.
-/

namespace PubSub

open Url

namespace RelativeName

variable {n : RelativeName} {c : Char} {s : List Char} {h : Host} {readable : List Char → Prop}

theorem isBlank_of_mem_url (hc : c ∈ n.url.toList) : Text.isBlank c = false := by
  have hn := toNat_of_mem_url hc
  simp only [Text.isBlank, Bool.or_eq_false_iff, Bool.and_eq_false_iff, decide_eq_false_iff_not, beq_eq_false_iff_ne]
  omega

theorem trim_url : Text.trim n.url = n.url := by
  rw [Text.trim, strip_eq_self fun c hc => isBlank_of_mem_url hc, String.ofList_toList]

theorem url_ne_empty : n.url ≠ "" := by
  intro he
  have hl := toList_url (n := n)
  rw [he] at hl
  cases hl

/-- A first step that is kept as a host: in lower case and not this host, with labels that can be read, and if it ends
in a number, an address as addresses are written. -/
structure IsKept (readable : List Char → Prop) (s : List Char) : Prop where
  lower : ∀ c ∈ s, c.isUpper = false
  not_local : String.ofList s ≠ "localhost"
  readable : readable s
  address : Ipv4.endsInNumber s = true → ∃ a, Ipv4.ofHost? s = some a ∧ a.text = String.ofList s

/-- A step that is kept is a host, which is written like it. -/
theorem IsKept.exists_isNamed (hk : IsKept readable s) :
    ∃ h, Host.IsNamed s h ∧ h ≠ .name "localhost" ∧ h.text = String.ofList s := by
  by_cases hend : Ipv4.endsInNumber s = true
  · obtain ⟨a, ha, htext⟩ := hk.address hend
    exact ⟨.ipv4 a, .inr ⟨hend, a, ha, rfl⟩, Host.noConfusion, htext⟩
  · refine ⟨.name (String.ofList s), .inl ⟨Bool.eq_false_of_not_eq_true hend, rfl⟩, ?_, rfl⟩
    exact fun he => hk.not_local (Host.name.inj he)

/-- A first step is kept if the host that it is read as is written like it. -/
theorem isKept_of_isNamed (hr : readable (s.map Char.toLower)) (hn : Host.IsNamed (s.map Char.toLower) h)
    (hl : h ≠ .name "localhost") (ht : h.text = String.ofList s) : IsKept readable s := by
  have hlower : ∀ c ∈ s, c.isUpper = false := by
    rcases hn with ⟨-, rfl⟩ | ⟨-, a, -, rfl⟩
    · exact map_toLower_eq_self_iff.1 (String.ofList_inj.1 ht)
    · intro c hc
      refine Ipv4.isUpper_of_mem_text (a := a) ?_
      rwa [show a.text = String.ofList s from ht, String.toList_ofList]
  rw [map_toLower_eq_self_iff.2 hlower] at hr hn
  rcases hn with ⟨hend, rfl⟩ | ⟨hend, a, ha, rfl⟩
  · exact ⟨hlower, fun he => hl (congrArg _ he), hr, fun h => absurd h (by simp [hend])⟩
  · refine ⟨hlower, fun he => ?_, hr, fun _ => ⟨a, ha, ht⟩⟩
    have hs : s = "localhost".toList := by rw [← he, String.toList_ofList]
    rw [hs] at hend
    cases hend

theorem head?_text_ne (n : RelativeName) : n.text.toUTF8.data.toList.head? ≠ some 47 := by
  obtain ⟨c, cs, hc⟩ := List.exists_cons_of_ne_nil n.isStep_first.ne_nil
  have hname := n.isStep_first.names c (hc ▸ List.mem_cons_self)
  have hn := toNat_of_isNameChar hname
  change (bytesOf (n.first ++ _)).head? ≠ _
  rw [bytesOf_eq, hc, List.cons_append, List.flatMap_cons, utf8EncodeChar_of_isNameChar hname]
  intro he
  have hbyte : c.toNat % 256 = 47 := by simpa using congrArg UInt8.toNat (Option.some.inj he)
  refine ne_of_isNameChar hname (d := '/') (by decide) (Char.ext (UInt32.toNat_inj.1 ?_))
  change c.toNat = 47
  omega

end RelativeName

namespace Address

open RelativeName

variable {lib : Library} {readable : List Char → Prop} {n : RelativeName} {u : lib.Parsed} {h : Host}
  {preferred : Option String}

theorem chosenText_url : chosenText preferred n.url = n.url := by
  rw [chosenText, trim_url]
  split
  case h_1 he => exact absurd he url_ne_empty
  case h_2 => rfl

/-- The file that the URL of a name tells is the one that it names, without options. -/
theorem parseBy_url (hl : lib.Names readable) (hu : lib.parse n.url = .ok u) :
    parseBy lib preferred n.url =
      match readPath lib u with
      | .error e => (.error e, [])
      | .ok path => (.ok (.file { path }), []) := by
  rw [parseBy, chosenText_url, parseText, hu]
  simp only [ofUrl, hl.scheme hu, hl.queryPairs hu]
  cases readPath lib u with
  | error e => rfl
  | ok path => rfl

theorem isEmpty_toUTF8 {s : String} (hs : s ≠ "") : s.toUTF8.isEmpty = false := by
  rw [ByteArray.isEmpty, beq_eq_false_iff_ne]
  exact fun h => hs (String.utf8ByteSize_eq_zero_iff.1 h)

/-- The file behind a host is named with it. -/
theorem readPath_of_host {path : String} (hhost : lib.host u = some h.text) (hpath : lib.path u = path)
    (ht : h.text ≠ "") : readPath lib u = .ok (h.text ++ path).toUTF8 := by
  have hgiven : givenPath lib u = .ok (h.text ++ path).toUTF8 := by
    rw [givenPath, hhost, Option.getD_some, hpath]
    split
    case h_1 he => exact absurd he ht
    case h_2 => rfl
  have hne : h.text ++ path ≠ "" := fun he => ht (String.append_eq_empty_iff.1 he).1
  rw [readPath, hgiven]
  simp only [isEmpty_toUTF8 hne, Bool.false_eq_true, if_false]

/-- A file behind this host is named from the root. -/
theorem head?_of_readPath (hl : lib.Names readable) (hu : lib.parse n.url = .ok u) (hhost : lib.host u = none)
    {path : ByteArray} (hp : readPath lib u = .ok path) : path.data.toList.head? = some 47 := by
  rw [readPath, givenPath, hhost] at hp
  simp only [Option.getD_none] at hp
  cases hf : lib.filePath u with
  | none =>
    simp only [hf] at hp
    cases hp
  | some name =>
    simp only [hf] at hp
    split at hp
    · cases hp
    · cases hp
      exact hl.rooted hu hf

theorem isKept_of_parseBy_url {a : FileAddress} (hl : lib.Names readable)
    (ha : (parseBy lib preferred n.url).1 = .ok (.file a)) (hpath : a.path = n.text.toUTF8) :
    n.rest ≠ [] ∧ IsKept readable n.first := by
  obtain ⟨u, hu⟩ : ∃ u, lib.parse n.url = .ok u := by
    cases hu : lib.parse n.url with
    | ok u => exact ⟨u, rfl⟩
    | error e =>
      rw [parseBy, chosenText_url, parseText, hu] at ha
      cases ha
  have hr := ((hl.parses n).1 ⟨u, hu⟩).1
  obtain ⟨h, hn, hhost⟩ := hl.host hu
  rw [parseBy_url hl hu] at ha
  cases hp : readPath lib u with
  | error e =>
    rw [hp] at ha
    cases ha
  | ok path =>
    rw [hp] at ha
    cases ha
    obtain rfl : path = n.text.toUTF8 := hpath
    -- This host is left out, and the file is named from the root, as no relative name is.
    have hlocal : h ≠ .name "localhost" := by
      intro he
      rw [if_pos he] at hhost
      exact head?_text_ne n (head?_of_readPath hl hu hhost hp)
    rw [if_neg hlocal] at hhost
    have htext := hn.text_ne_empty (by simpa using n.isStep_first.ne_nil)
    have heq : h.text.toList ++ Path.tail n.rest = n.first ++ Path.join n.rest := by
      have hb := Except.ok.inj ((readPath_of_host hhost (hl.path hu) htext).symm.trans hp)
      have hs := congrArg String.toList (String.toByteArray_inj.1 hb)
      rwa [String.toList_append, String.toList_ofList, RelativeName.text, String.toList_ofList] at hs
    -- A path without steps is a slash, which would have to stand at the end of the first step.
    have hrest : n.rest ≠ [] := fun he => by
      rw [he, Path.tail, if_pos rfl, Path.join, List.flatMap_nil, List.append_nil] at heq
      exact Path.slash_not_mem n.isStep_first.names (heq ▸ List.mem_append_right _ List.mem_cons_self)
    rw [Path.tail, if_neg hrest] at heq
    refine ⟨hrest, isKept_of_isNamed hr hn hlocal ?_⟩
    rw [← List.append_cancel_right heq, String.ofList_toList]

/-- The URL of a name tells the file behind the host that its first step is read as. -/
theorem parseBy_url_of_isNamed (hl : lib.Names readable) (hr : readable (n.first.map Char.toLower))
    (hn : Host.IsNamed (n.first.map Char.toLower) h) (hlocal : h ≠ .name "localhost") :
    parseBy lib preferred n.url =
      (.ok (.file { path := (h.text ++ String.ofList (Path.tail n.rest)).toUTF8 }), []) := by
  obtain ⟨u, hu⟩ := (hl.parses n).2 ⟨hr, h, hn⟩
  obtain ⟨h', hn', hhost⟩ := hl.host hu
  cases hn.unique hn'
  rw [if_neg hlocal] at hhost
  have htext := hn.text_ne_empty (by simpa using n.isStep_first.ne_nil)
  rw [parseBy_url hl hu, readPath_of_host hhost (hl.path hu) htext]

theorem parseBy_url_of_isKept (hl : lib.Names readable) (hrest : n.rest ≠ []) (hk : IsKept readable n.first) :
    parseBy lib preferred n.url = (.ok (.file { path := n.text.toUTF8 }), []) := by
  have hlower := map_toLower_eq_self_iff.2 hk.lower
  obtain ⟨h, hn, hlocal, htext⟩ := hk.exists_isNamed
  rw [parseBy_url_of_isNamed hl (hlower.symm ▸ hk.readable) (hlower.symm ▸ hn) hlocal, htext, Path.tail, if_neg hrest,
    ← String.ofList_append]
  rfl

/-- The URL of a relative name tells the file of that name if and only if the name has several steps, the first of which
is one that hosts keep. -/
theorem parse_relative_name_iff (hl : lib.Names readable) (preferred : Option String) (n : RelativeName) :
    (∃ a : FileAddress, (parseBy lib preferred n.url).1 = .ok (.file a) ∧ a.path = n.text.toUTF8) ↔
      n.rest ≠ [] ∧ IsKept readable n.first := by
  constructor
  · rintro ⟨a, ha, hpath⟩
    exact isKept_of_parseBy_url hl ha hpath
  · rintro ⟨hrest, hk⟩
    exact ⟨_, congrArg Prod.fst (parseBy_url_of_isKept hl hrest hk), rfl⟩

/-- The step `data` is kept as a host. -/
theorem isKept_data (hl : lib.Names readable) : IsKept readable "data".toList where
  lower := by simp [Char.isUpper]
  not_local := by decide
  readable := hl.unmarked (by simp [isNameChar]) (by decide)
  address := fun h => absurd h (by decide)

/-- Behind a first step in lower case the name of a file is as it is written. -/
theorem parse_relative_name_lower :
    ∃ n : RelativeName, n.url = "file://data/Name.LOG" ∧
      ∃ a : FileAddress, (parse none n.url).1 = .ok (.file a) ∧ a.path = n.text.toUTF8 :=
  ⟨.pair "data".toList "Name.LOG".toList, by decide,
    (parse_relative_name_iff standard_names none _).2 ⟨List.cons_ne_nil _ _, isKept_data standard_names⟩⟩

/-- Capitals of the first step are lost: hosts are in lower case. -/
theorem parse_relative_name_capital :
    ∃ n : RelativeName, n.url = "file://Relative/Name.LOG" ∧
      (∃ a : FileAddress, (parse none n.url).1 = .ok (.file a) ∧ a.path = "relative/Name.LOG".toUTF8) ∧
        ¬ ∃ a : FileAddress, (parse none n.url).1 = .ok (.file a) ∧ a.path = n.text.toUTF8 := by
  refine ⟨.pair "Relative".toList "Name.LOG".toList, by decide, ?_, ?_⟩
  · have hn : Host.IsNamed ("Relative".toList.map Char.toLower) (.name "relative") := .inl ⟨by decide, by decide⟩
    have hr := standard_names.unmarked (s := "Relative".toList.map Char.toLower) (by simp [isNameChar]) (by decide)
    refine ⟨_, congrArg Prod.fst (parseBy_url_of_isNamed standard_names hr hn (by simp)), ?_⟩
    decide
  · rintro ⟨a, ha, hpath⟩
    have hk := (isKept_of_parseBy_url standard_names ha hpath).2.lower 'R' (by simp [RelativeName.pair])
    cases hk

end Address
end PubSub
