import PubSub.Proofs.Url.Hosts
import PubSub.Proofs.Url.Paths
import PubSub.Url.Library

/-!
# Relative names in URLs

The URL `file://` with a relative name behind it has the first step of the name for its host, and the others for its
path. A path keeps plain steps; a host goes to lower case, may be an address that is written in another way, and is
left out where it is this host.

* `RelativeName`: steps with slashes between them, and the URL of such a name.
* `Url.Library.Names`: what is laid down of these URLs.

Results:

* `RelativeName.parse_url`: how the library that is used takes the URL of a name apart.
* `Url.standard_names`: for this library what is laid down holds.
-/

namespace PubSub

open Url Url.Path

/-- A relative name of a file: steps with slashes between them. -/
structure RelativeName where
  /-- The first step. -/
  first : List Char
  /-- The steps behind it. -/
  rest : List (List Char)
  isStep_first : IsStep first
  isStep_rest : ∀ s ∈ rest, IsStep s

namespace RelativeName

variable (n : RelativeName)

/-- The characters of the name. -/
def chars : List Char := n.first ++ join n.rest

/-- The name as a text. -/
def text : String := String.ofList n.chars

/-- The URL of the name. -/
def url : String := "file://" ++ n.text

theorem toList_url : n.url.toList = 'f' :: 'i' :: 'l' :: 'e' :: ':' :: '/' :: '/' :: n.chars := by
  rw [url, String.toList_append, text, String.toList_ofList (l := n.chars)]
  rfl

/-- The name of two steps. -/
def pair (s t : List Char) (hs : IsStep s := by decide) (ht : IsStep t := by decide) : RelativeName where
  first := s
  rest := [t]
  isStep_first := hs
  isStep_rest := List.forall_mem_singleton.2 ht

variable {n} {c : Char} {cs : List Char} {p : Char → Bool}

theorem isNameChar_of_mem (hc : c ∈ n.chars) : isNameChar c ∨ c = '/' := by
  rw [chars, List.mem_append] at hc
  rcases hc with hc | hc
  · exact .inl (n.isStep_first.names c hc)
  · obtain ⟨s, hs, hc⟩ := List.mem_flatMap.1 hc
    rcases List.mem_cons.1 hc with rfl | hc
    · exact .inr rfl
    · exact .inl ((n.isStep_rest s hs).names c hc)

/-- The URL of a name holds nothing that is passed over. -/
theorem toNat_of_mem_url (hc : c ∈ n.url.toList) : 45 ≤ c.toNat ∧ c.toNat ≤ 122 := by
  rw [toList_url] at hc
  simp only [List.mem_cons] at hc
  rcases hc with rfl | rfl | rfl | rfl | rfl | rfl | rfl | hc
  case inr.inr.inr.inr.inr.inr.inr =>
    rcases isNameChar_of_mem hc with hc | rfl
    · exact toNat_of_isNameChar hc
    · decide
  all_goals decide

theorem ne_of_mem_slashed {d : Char} (hc : c ∈ '/' :: '/' :: n.chars) (hd : isNameChar d = false) (hs : d ≠ '/') :
    c ≠ d := by
  simp only [List.mem_cons] at hc
  rcases hc with rfl | rfl | hc
  · exact hs.symm
  · exact hs.symm
  · rcases isNameChar_of_mem hc with hc | rfl
    · exact ne_of_isNameChar hc hd
    · exact hs.symm

/-- A text without characters to be taken off its ends stays as it is. -/
theorem strip_eq_self (h : ∀ c ∈ cs, p c = false) : ((cs.dropWhile p).reverse.dropWhile p).reverse = cs := by
  have hdrop : ∀ l : List Char, (∀ c ∈ l, p c = false) → l.dropWhile p = l := fun l hl =>
    List.dropWhile_eq_self_iff.2 fun hpos => by simp [hl _ (List.getElem_mem hpos)]
  rw [hdrop cs h, hdrop cs.reverse fun c hc => h c (List.mem_reverse.1 hc), List.reverse_reverse]

theorem takeWhile_chars : n.chars.takeWhile (· ≠ '/') = n.first := by
  have hfirst : ∀ c ∈ n.first, decide (c ≠ '/') = true := fun c hc =>
    decide_eq_true (ne_of_isNameChar (n.isStep_first.names c hc) (by decide))
  rw [chars, List.takeWhile_append_of_pos hfirst]
  cases n.rest with
  | nil => exact List.append_nil _
  | cons s rest => exact List.append_nil _

theorem drop_chars : n.chars.drop (n.first.length + 1) = (join n.rest).drop 1 := by
  rw [chars, ← List.drop_drop, List.drop_left]

/-- The URL that the host and the steps behind it make. -/
def urlOf (h : Host) (rest : List (List Char)) : Url where
  scheme := "file"
  host := if h = .name "localhost" then none else some h
  port := none
  path := tail rest
  query := none

theorem readFile_chars : readFile ('/' :: '/' :: n.chars) = (Host.ofDomain n.first).map fun h => urlOf h n.rest := by
  have hslashed : ('/' :: '/' :: n.chars).map (fun c => if c = '\\' then '/' else c) = '/' :: '/' :: n.chars :=
    (List.map_congr_left fun c hc => if_neg (ne_of_mem_slashed hc (by decide) (by decide))).trans (List.map_id _)
  have hhead : ('/' :: '/' :: n.chars).takeWhile (fun c => c ≠ '?' && c ≠ '#') = '/' :: '/' :: n.chars :=
    List.takeWhile_eq_self_iff.2 fun c hc => by
      rw [Bool.and_eq_true, decide_eq_true_eq, decide_eq_true_eq]
      exact ⟨ne_of_mem_slashed hc (by decide) (by decide), ne_of_mem_slashed hc (by decide) (by decide)⟩
  have hne : ¬ (n.first = [] ∨ isDrive n.first = true) := by
    simp [n.isStep_first.ne_nil, isDrive_of_names n.isStep_first.names]
  obtain ⟨htail, hdrive⟩ := read_join n.isStep_rest
  rw [readFile]
  simp only [hslashed, hhead, takeWhile_chars, if_neg hne, drop_chars, htail, hdrive, List.drop_length]
  cases Host.ofDomain n.first with
  | error e => rfl
  | ok h => rfl

/-- Reading the URL of a name: the first step is a host. -/
theorem parse_url : Url.parse n.url = (Host.ofDomain n.first).map fun h => urlOf h n.rest := by
  have houter : ∀ c ∈ n.url.toList, decide (c ≤ ' ') = false := fun c hc => decide_eq_false fun hle => by
    have := toNat_of_mem_url hc
    have hle : c.toNat ≤ 32 := UInt32.le_iff_toNat_le.1 hle
    omega
  have hfilter : n.url.toList.filter (fun c => c ≠ '\t' && c ≠ '\n' && c ≠ '\r') = n.url.toList :=
    List.filter_eq_self.2 fun c hc => by
      have hn := toNat_of_mem_url hc
      have hne : ∀ d : Char, d.toNat < 45 → c ≠ d := by
        rintro d hd rfl
        omega
      simp [hne '\t' (by decide), hne '\n' (by decide), hne '\r' (by decide)]
  rw [Url.parse]
  simp only [strip_eq_self houter, hfilter]
  rw [toList_url]
  change readFile ('/' :: '/' :: n.chars) = _
  exact readFile_chars

end RelativeName

namespace Url

open RelativeName

variable {n : RelativeName} {u : Url} {h : Host}

/-- What is laid down of URLs with the scheme `file` and a relative name behind two slashes. A label of a host that has
the mark `xn--` stands for characters beyond ASCII, if it can be read; which of them can is left open. -/
structure Library.Names (lib : Library) (readable : List Char → Prop) : Prop where
  /-- Labels without the mark are readable. -/
  unmarked {s : List Char} : (∀ c ∈ s, isNameChar c) → (∀ l ∈ splitOn '.' s, l.take 4 ≠ Domain.mark) → readable s
  /-- The first step is read as a host: in lower case, with readable labels, and as an address if it ends in a
  number. -/
  parses (n : RelativeName) : (∃ u, lib.parse n.url = .ok u) ↔
    readable (n.first.map Char.toLower) ∧ ∃ h, Host.IsNamed (n.first.map Char.toLower) h
  scheme {n : RelativeName} {u : lib.Parsed} : lib.parse n.url = .ok u → lib.scheme u = "file"
  /-- This host is left out, any other is kept. -/
  host {n : RelativeName} {u : lib.Parsed} : lib.parse n.url = .ok u →
    ∃ h, Host.IsNamed (n.first.map Char.toLower) h ∧
      lib.host u = if h = .name "localhost" then none else some h.text
  /-- The other steps are the path, which is a slash if there are none. -/
  path {n : RelativeName} {u : lib.Parsed} : lib.parse n.url = .ok u → lib.path u = String.ofList (Path.tail n.rest)
  queryPairs {n : RelativeName} {u : lib.Parsed} : lib.parse n.url = .ok u → lib.queryPairs u = []
  /-- Without a host a file is named from the root. -/
  rooted {n : RelativeName} {u : lib.Parsed} {name : ByteArray} : lib.parse n.url = .ok u →
    lib.filePath u = some name → name.data.toList.head? = some 47

/-- A path starts with a slash, and so does the name of its file. -/
theorem head?_fileBytes (rest : List (List Char)) : (Path.fileBytes (Path.tail rest)).head? = some 47 := by
  obtain ⟨t, ht⟩ : ∃ t, Path.tail rest = '/' :: t := by
    cases rest with
    | nil => exact ⟨[], rfl⟩
    | cons s rest => exact ⟨_, rfl⟩
  have hb : percentDecode (bytesOf ('/' :: t)) = 47 :: percentDecode (bytesOf t) := by
    rw [bytesOf_eq, List.flatMap_cons, ← bytesOf_eq]
    exact percentDecode_cons (by decide) _
  rw [ht, Path.fileBytes, hb]
  split
  · split <;> rfl
  · rfl

theorem parse_standard (text : String) : Library.standard.parse text = Url.parse text := rfl

/-- The URL of a name is read from the host and the steps that it is made of. -/
theorem exists_of_parse_url {u : Library.standard.Parsed} (hu : Library.standard.parse n.url = .ok u) :
    ∃ h, Host.IsNamed (n.first.map Char.toLower) h ∧ u = urlOf h n.rest := by
  have hstep := n.isStep_first
  rw [parse_standard, parse_url] at hu
  cases hd : Host.ofDomain n.first with
  | error e =>
    rw [hd] at hu
    cases hu
  | ok h =>
    rw [hd] at hu
    exact ⟨h, ((Host.ofDomain_eq_ok_iff hstep.ne_nil hstep.names).1 hd).2, (Except.ok.inj hu).symm⟩

/-- What is laid down of the URLs of names holds for the library that is used. -/
theorem standard_names : Library.standard.Names Domain.IsReadable where
  unmarked hs := Domain.isReadable_of_unmarked fun c hc => isHigh_of_isNameChar (hs c hc)
  parses n := by
    have hstep := n.isStep_first
    rw [parse_standard, parse_url]
    constructor
    · rintro ⟨u, hu⟩
      cases hd : Host.ofDomain n.first with
      | error e =>
        rw [hd] at hu
        cases hu
      | ok h =>
        obtain ⟨hr, hn⟩ := (Host.ofDomain_eq_ok_iff hstep.ne_nil hstep.names).1 hd
        exact ⟨hr, h, hn⟩
    · rintro ⟨hr, h, hn⟩
      rw [(Host.ofDomain_eq_ok_iff hstep.ne_nil hstep.names).2 ⟨hr, hn⟩]
      exact ⟨_, rfl⟩
  scheme hu := by
    obtain ⟨h, -, rfl⟩ := exists_of_parse_url hu
    rfl
  host hu := by
    obtain ⟨h, hn, rfl⟩ := exists_of_parse_url hu
    refine ⟨h, hn, ?_⟩
    change (urlOf h _).host.map Host.text = _
    rw [urlOf]
    split <;> rfl
  path hu := by
    obtain ⟨h, -, rfl⟩ := exists_of_parse_url hu
    rfl
  queryPairs hu := by
    obtain ⟨h, -, rfl⟩ := exists_of_parse_url hu
    rfl
  rooted {n u name} hu hname := by
    obtain ⟨h, -, rfl⟩ := exists_of_parse_url hu
    change (if _ then some (Path.fileBytes (Path.tail n.rest)).toByteArray else none) = some name at hname
    obtain ⟨-, hname⟩ := Option.ite_none_right_eq_some.1 hname
    rw [← Option.some.inj hname, List.data_toByteArray]
    exact head?_fileBytes n.rest

end Url
end PubSub
