import PubSub.Journal.Basic
import PubSub.Proofs.Journal.Row

/-!
# Reading a journal while it grows

A reader reads one record after the other. Between two reads the file may have grown.

* `Journal.follow`: what a reader is given at each of some states of the store.
* `scans`: the same on the contents of the file alone.
* `returned`: the records among the answers.

Results:

* `follow_eq_scans`: the two agree.
* `scan_row`: what is found in a part of a row from the start of a record on.
* `scans_row`: reading a row to its end, and once more.
* `advance_scan`: a record that is found has room between the places of the reader.
-/

namespace PubSub.Journal

/-! ## Answers -/

/-- Asks for the next record once at each of some states of the store. -/
def follow (j : Journal) : List Store → List (Except Error (Option Record)) × Journal
  | [] => ([], j)
  | s :: ss =>
    let rest := (j.next s).2.1.follow ss
    ((j.next s).1 :: rest.1, rest.2)

/-- Looks for a record from `c` on in each of some contents of a file, each time from where the reader stands. -/
def scans (c : Nat) : List ByteArray → List (Option Record) × Nat
  | [] => ([], c)
  | f :: fs =>
    let rest := scans (scan f c).cursor fs
    ((scan f c).found.map Prod.snd :: rest.1, rest.2)

/-- The records among some answers. -/
def returned (answers : List (Except Error (Option Record))) : List Record :=
  answers.filterMap fun
    | .ok found => found
    | .error _ => none

/-- A reader looks at what it finds in its file. -/
theorem follow_eq_scans_of_read {j : Journal} {file c : Nat} {fs : List ByteArray} {ss : List Store}
    (hj : j.use = .reading file c) (hss : ss.map (fun s => (s.node file).read) = fs.map .ok) :
    (j.follow ss).1 = (scans c fs).1.map .ok ∧ (j.follow ss).2.use = .reading file (scans c fs).2 := by
  induction ss generalizing j c fs with
  | nil =>
    obtain rfl : fs = [] := List.map_eq_nil_iff.1 hss.symm
    exact ⟨rfl, hj⟩
  | cons s ss ih =>
    cases fs with
    | nil => cases hss
    | cons f fs =>
      obtain ⟨hs, hss⟩ := List.cons.inj hss
      have hnext : j.next s =
          (.ok ((scan f c).found.map Prod.snd), { j with use := .reading file (scan f c).cursor },
            notices j.path (scan f c).skipped) := by
        simp only [Journal.next, hj, hs]
      obtain ⟨hanswers, huse⟩ := ih (j := { j with use := .reading file (scan f c).cursor }) rfl hss
      rw [follow, hnext, scans]
      simp only [hanswers, huse, List.map_cons, and_self]

/-- A reader looks at the content of its file. -/
theorem follow_eq_scans {j : Journal} {file c : Nat} {fs : List ByteArray} {ss : List Store}
    (hj : j.use = .reading file c) (hss : ss.map (fun s => s.node file) = fs.map .file) :
    (j.follow ss).1 = (scans c fs).1.map .ok ∧ (j.follow ss).2.use = .reading file (scans c fs).2 := by
  refine follow_eq_scans_of_read hj ?_
  have hreads := congrArg (List.map Node.read) hss
  rwa [List.map_map, List.map_map] at hreads

theorem filterMap_concat (answers : List (Option Record)) (answer : Option Record) :
    (answers ++ [answer]).filterMap id = answers.filterMap id ++ answer.toList := by
  rw [List.filterMap_append]
  cases answer <;> rfl

theorem returned_ok (found : List (Option Record)) : returned (found.map .ok) = found.filterMap id := by
  rw [returned, List.filterMap_map]
  rfl

/-! ## One read -/

variable {rs : List Record} {f : ByteArray} {k : Nat}

/-- What is found in a part of a row from the start of a record on. The record is read, or waited for, or gone past
where the file ends within its sync word. -/
theorem scan_row (hf : Bytes.Prefix f (row rs)) (hrs : ∀ r ∈ rs, r.Fits) (hk : k ≤ rs.length)
    (hreach : startOf rs k ≤ f.size) :
    (∃ h : k < rs.length, startOf rs (k + 1) ≤ f.size ∧
      scan f (startOf rs k) = ⟨some (startOf rs k, rs[k]), startOf rs (k + 1), []⟩) ∨
    (scan f (startOf rs k) = ⟨none, startOf rs k, []⟩ ∧ (k < rs.length → f.size < startOf rs (k + 1)) ∧
      ¬ (k < rs.length ∧ startOf rs k < f.size ∧ f.size < startOf rs k + 4)) ∨
    (k < rs.length ∧ startOf rs k < f.size ∧ f.size < startOf rs k + 4 ∧
      scan f (startOf rs k) = ⟨none, f.size, []⟩) := by
  by_cases hlast : k = rs.length
  · subst hlast
    rw [startOf_length] at hreach ⊢
    have hend : f.size = (row rs).size := Nat.le_antisymm hf.size_le hreach
    exact Or.inr (Or.inl ⟨scan_of_end hend, fun h => absurd h (Nat.lt_irrefl _), fun h => absurd h.1 (Nat.lt_irrefl _)⟩)
  have hlt : k < rs.length := by omega
  have hsize := startOf_succ hlt
  rw [Record.size_encode, Record.length, headerSize] at hsize
  by_cases hwhole : startOf rs (k + 1) ≤ f.size
  · exact Or.inl ⟨hlt, hwhole, scan_of_whole hf hrs hlt hwhole⟩
  have hshort : f.size < startOf rs (k + 1) := Nat.not_le.1 hwhole
  by_cases hsync : startOf rs k + 4 ≤ f.size
  · exact Or.inr (Or.inl ⟨scan_of_torn hf hrs hlt hsync hshort, fun _ => hshort, fun h => by omega⟩)
  by_cases hnone : f.size = startOf rs k
  · exact Or.inr (Or.inl ⟨scan_of_end hnone, fun _ => hshort, fun h => by omega⟩)
  · refine Or.inr (Or.inr ⟨hlt, by omega, by omega, ?_⟩)
    rw [scan_of_short (by omega), Nat.max_eq_right hreach]

/-! ## Reading to the end -/

/-- Reading a row to its end, and once more, gives its records and then nothing. -/
theorem scans_row (hrs : ∀ r ∈ rs, r.Fits) (hk : k ≤ rs.length) :
    scans (startOf rs k) (List.replicate (rs.length - k + 1) (row rs)) =
      ((rs.drop k).map some ++ [none], (row rs).size) := by
  -- induction on the number of records that are left
  induction hd : rs.length - k generalizing k with
  | zero =>
    obtain rfl : k = rs.length := by omega
    have hend := scan_of_end (startOf_length rs).symm
    rw [List.drop_length, Nat.zero_add, List.replicate_one, scans, hend, startOf_length]
    rfl
  | succ d ih =>
    have hlt : k < rs.length := by omega
    have hwhole := scan_of_whole (Bytes.prefix_rfl (row rs)) hrs hlt (startOf_le_size rs (k + 1))
    have hrest := ih hlt (by omega)
    rw [List.replicate_succ, scans, hwhole, List.drop_eq_getElem_cons hlt]
    simp only [hrest]
    rfl

/-! ## Room for records -/

/-- A record takes the bytes from its sync word to its end. -/
theorem stop_eq_of_examine {p stop : Nat} {r : Record} (h : examine f p = .record r stop) :
    stop = p + r.encode.size := by
  unfold examine at h
  split at h
  · cases h
  · split at h
    · cases h
    · rename_i header hdecode
      simp only at h
      split at h
      · cases h
      · rename_i hfits
        split at h
        · cases h
        · split at h
          · cases h
          · rename_i channel hchannel
            cases h
            have hsize := Bytes.size_of_fromUTF8? hchannel
            rw [ByteArray.size_extract] at hsize
            rw [Record.size_encode, Record.length]
            simp only [ByteArray.size_extract, hsize]
            rw [Header.bodyLength] at hfits ⊢
            omega

/-- A reader goes past what it finds, does not go back, and stays within what the file has ever had. -/
theorem advance_scan {f : ByteArray} (c : Nat) :
    c + (row ((scan f c).found.map Prod.snd).toList).size ≤ (scan f c).cursor ∧
      ∀ {limit : Nat}, c ≤ limit → f.size ≤ limit → (scan f c).cursor ≤ limit := by
  fun_induction scan f c with
  | case1 c hf => exact ⟨Nat.le_max_left .., fun hc hsize => Nat.max_le.2 ⟨hc, hsize⟩⟩
  | case2 c p hf r stop he =>
    have hstop := stop_eq_of_examine he
    have hbounds := stop_of_examine he
    have hle := le_of_findSync hf
    refine ⟨?_, fun _ hsize => Nat.le_trans hbounds.2 hsize⟩
    show c + (row [r]).size ≤ stop
    rw [row_singleton]
    omega
  | case3 c p hf he =>
    have hlt := lt_size_of_findSync hf
    refine ⟨le_of_findSync hf, fun _ hsize => ?_⟩
    show p ≤ _
    omega
  | case4 c p hf d he rest ih =>
    have hlt := lt_size_of_findSync hf
    have hle := le_of_findSync hf
    refine ⟨?_, fun hc hsize => ih.2 (by omega) hsize⟩
    show c + (row (rest.found.map Prod.snd).toList).size ≤ rest.cursor
    have hroom : p + 1 + (row (rest.found.map Prod.snd).toList).size ≤ rest.cursor := ih.1
    omega

end PubSub.Journal
