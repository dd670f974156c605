import PubSub.Proofs.Journal.Following
import PubSub.Proofs.Journal.Images

/-!
# Moving within a row

A reader that is sent to a place of a row goes before the first record from there on exactly if nothing on the way looks
like a record. A payload may hold the image of a record; a reader that is sent into it stops there if the payload and
the image end together, or if the image claims more bytes than the file has.

* `firstFrom`: the record before which the reader is to stand.

Results:

* `cursor_locate_iff`: where a move leads.
* `Journal.seek_lands_iff`: a reader lands on the start of a record exactly if the way there is clear, and then reads
  this record.
-/

namespace PubSub.Journal

variable {rs : List Record} {offset : Nat}

/-- The number of the first record of a row that starts at `offset` or later; the number behind the last record if none
does. -/
def firstFrom (rs : List Record) (offset : Nat) : Nat :=
  (List.range rs.length).findIdx fun k => offset ≤ startOf rs k

theorem firstFrom_le (rs : List Record) (offset : Nat) : firstFrom rs offset ≤ rs.length := by
  have h : firstFrom rs offset ≤ (List.range rs.length).length := List.findIdx_le_length
  rwa [List.length_range] at h

theorem le_startOf_firstFrom (h : firstFrom rs offset < rs.length) : offset ≤ startOf rs (firstFrom rs offset) := by
  have hlt : firstFrom rs offset < (List.range rs.length).length := by
    rw [List.length_range]
    exact h
  have hfound : decide (offset ≤ startOf rs (List.range rs.length)[firstFrom rs offset]) = true :=
    List.findIdx_getElem (p := fun k => decide (offset ≤ startOf rs k)) (w := hlt)
  simpa only [List.getElem_range, decide_eq_true_eq] using hfound

/-- The records before it start before `offset`. -/
theorem startOf_lt_of_lt_firstFrom {k : Nat} (h : k < firstFrom rs offset) : startOf rs k < offset := by
  have hbefore := List.not_of_lt_findIdx h
  simpa only [List.getElem_range, Bool.not_eq_true, decide_eq_false_iff_not, Nat.not_le] using hbefore

/-! ## Moves -/

theorem cursor_locate (f : ByteArray) (offset : Nat) :
    (locate f offset).cursor =
      ((scan f (min offset f.size)).found.map Prod.fst).getD (scan f (min offset f.size)).cursor := by
  unfold locate
  cases h : (scan f (min offset f.size)).found <;> simp only [h, Option.map_none, Option.map_some, Option.getD]

/-- At the start of a record of a row a reader finds it, and at the end of the row nothing. -/
theorem scan_startOf (hrs : ∀ r ∈ rs, r.Fits) {k : Nat} (hk : k ≤ rs.length) :
    (scan (row rs) (startOf rs k)).found = rs[k]?.map (startOf rs k, ·) ∧
      (k = rs.length → (scan (row rs) (startOf rs k)).cursor = startOf rs k) := by
  by_cases hlast : k = rs.length
  · subst hlast
    rw [scan_of_end (startOf_length rs).symm, List.getElem?_eq_none (Nat.le_refl _)]
    exact ⟨rfl, fun _ => rfl⟩
  · have hlt : k < rs.length := by omega
    rw [scan_of_whole (Bytes.prefix_rfl _) hrs hlt (startOf_le_size rs (k + 1)), List.getElem?_eq_getElem hlt]
    exact ⟨rfl, fun h => absurd h hlast⟩

/-- A move leads to the start of the record if the way there is clear, and elsewhere otherwise. -/
theorem cursor_locate_iff (hrs : ∀ r ∈ rs, r.Fits) :
    (locate (row rs) offset).cursor = startOf rs (firstFrom rs offset) ↔
      Clear (row rs) offset (startOf rs (firstFrom rs offset)) := by
  have hle := firstFrom_le rs offset
  have hafter : firstFrom rs offset < rs.length → offset ≤ startOf rs (firstFrom rs offset) := le_startOf_firstFrom
  generalize firstFrom rs offset = k at hle hafter ⊢
  have hsize := startOf_le_size rs k
  have hstart : min offset (row rs).size ≤ startOf rs k := by
    by_cases hlast : k = rs.length
    · rw [hlast, startOf_length]
      exact Nat.min_le_right ..
    · exact Nat.le_trans (Nat.min_le_left ..) (hafter (by omega))
  -- behind the end of the row there is nothing to go past
  have hway : Clear (row rs) offset (startOf rs k) ↔ Clear (row rs) (min offset (row rs).size) (startOf rs k) := by
    by_cases hin : offset ≤ (row rs).size
    · rw [Nat.min_eq_left hin]
    · exact ⟨fun _ p h₁ h₂ => by omega, fun _ p h₁ h₂ => by omega⟩
  rw [hway, cursor_locate]
  constructor
  · intro hland
    by_contra hcaught
    obtain ⟨p, hlow, hhigh, himage, hclear⟩ := exists_image hcaught
    obtain ⟨hfound, hcursor⟩ := scan_of_clear hlow (by omega) hclear
    rw [hfound, hcursor] at hland
    rcases scan_of_image himage with ⟨r, hr⟩ | hnone
    · rw [hr] at hland
      exact absurd hland (Nat.ne_of_lt hhigh)
    · rw [hnone] at hland
      exact absurd hland (Nat.ne_of_lt hhigh)
  · intro hclear
    obtain ⟨hfound, hcursor⟩ := scan_of_clear hstart hsize hclear
    obtain ⟨hthere, hend⟩ := scan_startOf hrs hle
    rw [hfound, hcursor, hthere]
    by_cases hlast : k = rs.length
    · rw [hend hlast, List.getElem?_eq_none (by omega)]
      rfl
    · rw [List.getElem?_eq_getElem (by omega)]
      rfl

/-- A reader that is sent to `offset` lands on the start of the first record from there on, or at the end of the row if
there is none, exactly if nothing before it looks like a record; then it reads this record, or nothing. -/
theorem seek_lands_iff (hrs : ∀ r ∈ rs, r.Fits) {j : Journal} {s : Store} {file c : Nat} (hj : j.use = .reading file c)
    (hs : s.node file = .file (row rs)) (offset : Nat) :
    (j.seek s offset).1 = .ok () ∧
      ((j.seek s offset).2.1.tell = startOf rs (firstFrom rs offset) ↔
        Clear (row rs) offset (startOf rs (firstFrom rs offset))) ∧
      ((j.seek s offset).2.1.tell = startOf rs (firstFrom rs offset) →
        ((j.seek s offset).2.1.next s).1 = .ok rs[firstFrom rs offset]?) := by
  have hseek : j.seek s offset = (.ok (), { j with use := .reading file (locate (row rs) offset).cursor },
      notices j.path (locate (row rs) offset).skipped) := by
    simp only [seek, move, hj, hs, Node.read]
  rw [hseek]
  refine ⟨rfl, cursor_locate_iff hrs, fun hland => ?_⟩
  have hland : (locate (row rs) offset).cursor = startOf rs (firstFrom rs offset) := hland
  simp only [next, hs, Node.read, hland, (scan_startOf hrs (firstFrom_le rs offset)).1, Option.map_map]
  exact congrArg Except.ok (by cases rs[firstFrom rs offset]? <;> rfl)

/-! ## Payloads that hold images of records -/

/-- A record whose payload is a record with four bytes behind it, and another record. -/
def enclosing : List Record := [⟨0, 5, "c", lone.encode ++ Bytes.ofNat 4 0⟩, lone]

/-- A store in which file 0 holds a row. -/
def holding (rs : List Record) : Store := ⟨#[.file (row rs)], [], []⟩

/-- The image of a record within a payload is gone past if other bytes come behind it. -/
theorem seek_lands_enclosing :
    (∀ r ∈ enclosing, r.Fits) ∧ (reader.seek (holding enclosing) 1).2.1.tell = 62 := by
  have hfits : ∀ r ∈ enclosing, r.Fits := by
    intro r hr
    rcases List.mem_cons.1 hr with rfl | hr
    · exact ⟨by decide, by decide, by decide +kernel⟩
    · exact fits_lone r hr
  have hfirst : startOf enclosing (firstFrom enclosing 1) = 62 := by decide +kernel
  have hclear : Clear (row enclosing) 1 62 := clear_of_isDamage (by decide +kernel)
  have h := (seek_lands_iff hfits (j := reader) (s := holding enclosing) rfl rfl 1).2.1
  rw [hfirst] at h
  exact ⟨hfits, h.2 hclear⟩

/-- A record whose payload is a record. -/
def nested : List Record := [⟨0, 5, "c", lone.encode⟩]

/-- A reader that is sent into a payload may stop at the image of a record: the payload and the image end together. -/
theorem seek_stops_nested :
    ¬ ∀ (rs : List Record) (s : Store) (offset : Nat), (∀ r ∈ rs, r.Fits) → s.node 0 = .file (row rs) →
      (reader.seek s offset).2.1.tell = startOf rs (firstFrom rs offset) := by
  intro h
  have hfits : ∀ r ∈ nested, r.Fits := by
    intro r hr
    obtain rfl := List.mem_singleton.1 hr
    exact ⟨by decide, by decide, by decide +kernel⟩
  have hland := h nested (holding nested) 1 hfits rfl
  have hplace : (reader.seek (holding nested) 1).2.1.tell = 29 := by decide +kernel
  have hend : startOf nested (firstFrom nested 1) = 58 := by decide +kernel
  rw [hplace, hend] at hland
  exact absurd hland (by decide)

end PubSub.Journal
