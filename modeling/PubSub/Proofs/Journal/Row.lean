import PubSub.Proofs.Journal.Record

/-!
# Rows of records

A journal that was only written by writers is a row of records. A reader that stands where a record starts reads it if
it is all there, whatever bytes its payload and the payloads behind it have.

* `row`: the bytes of records one behind the other.
* `startOf`: where a record of a row starts.

Results:

* `scan_of_whole`: a record that is all there is read.
* `scan_of_torn`: a record of which the end is missing is waited for.
* `scan_of_short`: fewer bytes than the sync word has are gone past.
* `scanAll_row`: reading a row from a record on gives the records from that one on.
-/

namespace PubSub.Journal

open Bytes

/-- The bytes of records one behind the other. -/
def row : List Record → ByteArray
  | [] => .empty
  | r :: rs => r.encode ++ row rs

/-- Where record number `k` of a row starts; the end of the row for the number behind the last one. -/
def startOf (rs : List Record) (k : Nat) : Nat := (row (rs.take k)).size

theorem row_append (rs ss : List Record) : row (rs ++ ss) = row rs ++ row ss := by
  induction rs with
  | nil => exact ByteArray.empty_append.symm
  | cons r rs ih => rw [List.cons_append, row, row, ih, ByteArray.append_assoc]

theorem row_singleton (r : Record) : row [r] = r.encode := ByteArray.append_empty

variable {rs : List Record} {k : Nat}

@[simp] theorem startOf_zero (rs : List Record) : startOf rs 0 = 0 := rfl

@[simp] theorem startOf_length (rs : List Record) : startOf rs rs.length = (row rs).size := by
  rw [startOf, List.take_length]

theorem startOf_succ (hk : k < rs.length) : startOf rs (k + 1) = startOf rs k + rs[k].encode.size := by
  rw [startOf, List.take_succ_eq_append_getElem hk, row_append, row_singleton, ByteArray.size_append]
  rfl

theorem startOf_le_succ (rs : List Record) (k : Nat) : startOf rs k ≤ startOf rs (k + 1) := by
  by_cases hk : k < rs.length
  · rw [startOf_succ hk]
    exact Nat.le_add_right ..
  · have hall : rs.take k = rs := List.take_of_length_le (Nat.not_lt.1 hk)
    exact Nat.le_of_eq (by rw [startOf, startOf, hall, List.take_of_length_le (by omega)])

theorem startOf_mono {i : Nat} (h : i ≤ k) : startOf rs i ≤ startOf rs k := by
  induction h with
  | refl => exact Nat.le_refl _
  | step _ ih => exact Nat.le_trans ih (startOf_le_succ rs _)

theorem startOf_le_size (rs : List Record) (k : Nat) : startOf rs k ≤ (row rs).size := by
  rw [← startOf_length]
  by_cases hk : k ≤ rs.length
  · exact startOf_mono hk
  · have hall : rs.take k = rs := List.take_of_length_le (by omega)
    exact Nat.le_of_eq (by rw [startOf, startOf, hall, List.take_length])

/-- Records behind a row leave its records where they are. -/
theorem startOf_append {ss : List Record} (hk : k ≤ rs.length) : startOf (rs ++ ss) k = startOf rs k := by
  rw [startOf, startOf, List.take_append_of_le_length hk]

theorem startOf_concat (rs : List Record) (r : Record) : startOf (rs ++ [r]) rs.length = (row rs).size := by
  rw [startOf_append (Nat.le_refl _), startOf_length]

/-- A record stands in the row where it starts. -/
theorem stands_row (hk : k < rs.length) : Stands (row rs) rs[k].encode (startOf rs k) := by
  have hsplit : row rs = row (rs.take k) ++ rs[k].encode ++ row (rs.drop (k + 1)) := by
    rw [← row_singleton, ← row_append, ← row_append, ← List.take_succ_eq_append_getElem hk, List.take_append_drop]
  exact hsplit ▸ stands_middle _ _ _

/-! ## Looking for the sync word -/

variable {f : ByteArray} {c : Nat}

theorem findSync_self (h : syncAt f c = true) : findSync f c = some c :=
  (findSync_eq_some_iff f c c).2 ⟨Nat.le_refl _, h, fun _ h₁ h₂ => absurd h₁ (Nat.not_le_of_lt h₂)⟩

theorem findSync_short (h : f.size < c + 4) : findSync f c = none := by
  rw [findSync, if_neg (by omega)]

/-- Fewer bytes than the sync word has are gone past. -/
theorem scan_of_short (h : f.size < c + 4) : scan f c = ⟨none, max c f.size, []⟩ := by
  unfold scan
  split
  · rfl
  · rename_i p hp
    rw [findSync_short h] at hp
    cases hp

theorem scan_of_record {r : Record} {stop : Nat} (hs : syncAt f c = true) (he : examine f c = .record r stop) :
    scan f c = ⟨some (c, r), stop, []⟩ := by
  unfold scan
  split
  · rename_i hn
    rw [findSync_self hs] at hn
    cases hn
  · rename_i p hp
    rw [findSync_self hs] at hp
    cases hp
    rw [he]

theorem scan_of_missing (hs : syncAt f c = true) (he : examine f c = .torn) : scan f c = ⟨none, c, []⟩ := by
  unfold scan
  split
  · rename_i hn
    rw [findSync_self hs] at hn
    cases hn
  · rename_i p hp
    rw [findSync_self hs] at hp
    cases hp
    rw [he]

/-! ## The start of a row -/

theorem syncAt_startOf (hf : Prefix f (row rs)) (hk : k < rs.length) (hend : startOf rs k + 4 ≤ f.size) :
    syncAt f (startOf rs k) = true :=
  syncAt_of_stands ((stands_syncWord (stands_row hk).left.left).within hf (by rw [size_ofNat]; exact hend))

/-- A record that is all there is read. -/
theorem scan_of_whole (hf : Prefix f (row rs)) (hrs : ∀ r ∈ rs, r.Fits) (hk : k < rs.length)
    (hend : startOf rs (k + 1) ≤ f.size) :
    scan f (startOf rs k) = ⟨some (startOf rs k, rs[k]), startOf rs (k + 1), []⟩ := by
  have hsize := startOf_succ hk
  have hlength := Record.size_encode rs[k]
  rw [Record.length, headerSize] at hlength
  have hstands := (stands_row hk).within hf (by rw [← hsize]; exact hend)
  rw [hsize]
  refine scan_of_record (syncAt_startOf hf hk (by omega)) (examine_of_stands hstands (hrs _ (List.getElem_mem hk)) ?_)
  -- behind the record comes the next one, if anything does
  intro hmore
  rw [← hsize] at hmore ⊢
  refine syncAt_startOf hf ?_ hmore
  by_contra hlast
  have hwhole : startOf rs (k + 1) = (row rs).size := by
    rw [show k + 1 = rs.length by omega, startOf_length]
  have := hf.size_le
  omega

/-- A record of which the end is missing is waited for. -/
theorem scan_of_torn (hf : Prefix f (row rs)) (hrs : ∀ r ∈ rs, r.Fits) (hk : k < rs.length)
    (hsync : startOf rs k + 4 ≤ f.size) (hend : f.size < startOf rs (k + 1)) :
    scan f (startOf rs k) = ⟨none, startOf rs k, []⟩ := by
  rw [startOf_succ hk] at hend
  refine scan_of_missing (syncAt_startOf hf hk hsync)
    (examine_of_torn (fun hh => ?_) (hrs _ (List.getElem_mem hk)) hend)
  exact (stands_row hk).left.left.within hf (by rw [Header.size_encode]; exact hh)

/-- At the end of what there is, nothing is found. -/
theorem scan_of_end (h : f.size = c) : scan f c = ⟨none, c, []⟩ := by
  rw [scan_of_short (by omega), h, Nat.max_self]

/-- Reading a row from a record on gives the records from that one on. -/
theorem scanAll_row (hrs : ∀ r ∈ rs, r.Fits) (hk : k ≤ rs.length) :
    scanAll (row rs) (startOf rs k) = ⟨rs.drop k, (row rs).size, []⟩ := by
  -- induction on the number of records that are left
  induction hd : rs.length - k generalizing k with
  | zero =>
    have hlast : k = rs.length := by omega
    subst hlast
    have hend := scan_of_end (startOf_length rs).symm
    rw [List.drop_length]
    unfold scanAll
    split
    · rw [hend, startOf_length]
    · rename_i p r hp
      rw [hend] at hp
      cases hp
  | succ d ih =>
    have hlt : k < rs.length := by omega
    have hwhole := scan_of_whole (prefix_rfl (row rs)) hrs hlt (startOf_le_size rs (k + 1))
    rw [List.drop_eq_getElem_cons hlt]
    unfold scanAll
    split
    · rename_i hn
      rw [hwhole] at hn
      cases hn
    · rename_i p r hp
      rw [hwhole] at hp ⊢
      cases hp
      rw [ih hlt (by omega)]
      rfl

end PubSub.Journal
