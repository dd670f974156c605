import PubSub.Proofs.Journal.Recovering

/-!
# Damage between records

Other bytes may have come between the records of a journal. A reader goes past them to the records behind, if no header
can be read on the way. What it loses is the record before the damage at most: that one is not followed by a sync word
any more, unless the damage starts with one, and so it is taken for damage, too.

* `damaged`: some records, other bytes, and further records.
* `Spoilt`: no header can be read in a stretch; `behindLast`: where the stretch starts.
* `spared`: the records before the damage that are still found.

Results:

* `clear_of_spoilt`, `clear_of_unfollowed`: a reader goes past a spoilt stretch, and past a record before one.
* `visits_damaged`: what is found in a damaged file.
* `Journal.follow_damaged`: a reader is given this, and stands at the end of the file then.
-/

namespace PubSub.Journal

open Bytes

variable {f g : ByteArray} {a b c : Nat} {r : Record} {old new : List Record}

/-! ## Stretches in which no header can be read -/

/-- At each sync word from `a` on and before `b` the header is refused. -/
def Spoilt (f : ByteArray) (a b : Nat) : Prop :=
  ∀ p, a ≤ p → p < b → syncAt f p = true → ∃ cause, Header.decodeAt f p = .error cause

/-- A reader goes past a spoilt stretch, if the file does not end within the last header. -/
theorem clear_of_spoilt (h : Spoilt f a b) (hroom : b + headerSize ≤ f.size) : Clear f a b := by
  intro p hlow hhigh himage
  obtain ⟨cause, hcause⟩ := h p hlow hhigh himage.sync
  rcases himage.looks with hshort | ⟨header, hdecode, -⟩
  · omega
  · rw [hcause] at hdecode
    cases hdecode

/-- A reader goes past a record that is not followed as a record is, and past a spoilt stretch behind its first byte. -/
theorem clear_of_unfollowed (hs : Stands f r.encode c) (hr : r.Fits) (hnext : ¬ Followed f (c + r.encode.size))
    (h : Spoilt f (c + 1) b) (hroom : b + headerSize ≤ f.size) : Clear f c b := by
  intro p hlow hhigh himage
  by_cases hfirst : p = c
  · subst hfirst
    have hstop : p + headerSize + r.header.bodyLength = p + r.encode.size := by
      rw [Record.bodyLength_header hr, Record.size_encode, Record.length]
      omega
    have hdecode := Record.decodeAt_header hs.left.left hr
    rcases himage.looks with hshort | ⟨header, hheader, hlooks⟩
    · omega
    · obtain rfl : r.header = header := Except.ok.inj (hdecode.symm.trans hheader)
      rw [hstop] at hlooks
      rcases hlooks with hlong | ⟨hfollowed, -⟩
      · have := hs.le_size
        omega
      · exact hnext hfollowed
  · exact clear_of_spoilt h hroom p (by omega) hhigh himage

/-! ## What is found -/

/-- Some records, other bytes, and further records. -/
def damaged (old : List Record) (g : ByteArray) (new : List Record) : ByteArray := row old ++ g ++ row new

/-- Behind the first byte of the last record of a row; at the start if there is no record. -/
def behindLast (rs : List Record) : Nat := if rs = [] then 0 else startOf rs (rs.length - 1) + 1

/-- The records before the damage that are found: all of them, but for the last one if no sync word comes behind it. -/
def spared (old : List Record) (g : ByteArray) (new : List Record) : List Record :=
  if syncAt (damaged old g new) (row old).size = true then old else old.dropLast

theorem size_damaged (old : List Record) (g : ByteArray) (new : List Record) :
    (damaged old g new).size = (row old).size + g.size + (row new).size := by
  rw [damaged, ByteArray.size_append, ByteArray.size_append]

theorem stands_before (old : List Record) (g : ByteArray) (new : List Record) :
    Stands (damaged old g new) (row old) 0 := (stands_self _).left.left

theorem stands_behind (old : List Record) (g : ByteArray) (new : List Record) :
    Stands (damaged old g new) (row new) ((row old).size + g.size) := by
  have h := (stands_self (damaged old g new)).right
  rwa [Nat.zero_add, ByteArray.size_append] at h

theorem row_spared_le (old : List Record) (g : ByteArray) (new : List Record) :
    (row (spared old g new)).size ≤ (row old).size := by
  rw [spared]
  split
  · exact Nat.le_refl _
  · rw [List.dropLast_eq_take]
    exact startOf_le_size old _

theorem headerSize_le_row (h : new ≠ []) : headerSize ≤ (row new).size := by
  obtain ⟨x, rest, rfl⟩ := List.exists_cons_of_ne_nil h
  rw [row, ByteArray.size_append, Record.size_encode, Record.length]
  omega

theorem behindLast_concat (rs : List Record) (r : Record) : behindLast (rs ++ [r]) = (row rs).size + 1 := by
  have hlast : (rs ++ [r]).length - 1 = rs.length := by
    rw [List.length_append, List.length_singleton, Nat.add_sub_cancel]
  rw [behindLast, if_neg (by simp), hlast, startOf_concat]

theorem behindLast_le (rs : List Record) : behindLast rs ≤ (row rs).size := by
  rcases List.eq_nil_or_concat rs with rfl | ⟨init, last, rfl⟩
  · exact Nat.le_refl _
  · rw [List.concat_eq_append, behindLast_concat, row_append, row_singleton, ByteArray.size_append, Record.size_encode,
      Record.length, headerSize]
    omega

section Damage

variable (hold : ∀ x ∈ old, x.Fits) (hne : new ≠ [])
  (hspoilt : Spoilt (damaged old g new) (behindLast old) ((row old).size + g.size))
include hold hne hspoilt

/-- Up to the damage the reader finds the records that are spared, and from there on it goes past the damage. -/
theorem visits_spared :
    visits (damaged old g new) 0 =
        placed 0 (spared old g new) ++ visits (damaged old g new) (row (spared old g new)).size ∧
      Clear (damaged old g new) (row (spared old g new)).size ((row old).size + g.size) := by
  have hroom : (row old).size + g.size + headerSize ≤ (damaged old g new).size := by
    rw [size_damaged]
    have := headerSize_le_row hne
    omega
  have hstands := stands_before old g new
  by_cases hsync : syncAt (damaged old g new) (row old).size = true
  · rw [spared, if_pos hsync]
    have hvisits := visits_row hstands hold fun _ _ => by rwa [Nat.zero_add]
    rw [Nat.zero_add] at hvisits
    have hrest : Spoilt (damaged old g new) (row old).size ((row old).size + g.size) := fun p hlow =>
      hspoilt p (Nat.le_trans (behindLast_le old) hlow)
    exact ⟨hvisits, clear_of_spoilt hrest hroom⟩
  · rw [spared, if_neg hsync]
    rcases List.eq_nil_or_concat old with rfl | ⟨init, last, rfl⟩
    · exact ⟨rfl, clear_of_spoilt hspoilt hroom⟩
    · rw [List.concat_eq_append] at *
      rw [behindLast_concat] at hspoilt
      rw [List.dropLast_concat]
      rw [row_append, row_singleton] at hstands
      have hlast : Stands (damaged (init ++ [last]) g new) last.encode (row init).size := by
        have h := hstands.right
        rwa [Nat.zero_add] at h
      have hvisits := visits_row hstands.left (fun x hx => hold x (List.mem_append_left _ hx)) fun _ _ => by
        rw [Nat.zero_add]
        exact syncAt_of_stands (stands_syncWord hlast.left.left)
      rw [Nat.zero_add] at hvisits
      refine ⟨hvisits, clear_of_unfollowed hlast (hold last (by simp)) (fun hfollowed => hsync ?_) hspoilt hroom⟩
      have hend : (row init).size + last.encode.size = (row (init ++ [last])).size := by
        rw [row_append, row_singleton, ByteArray.size_append]
      rw [hend] at hfollowed
      exact hfollowed (by rw [headerSize] at hroom; omega)

/-- A reader finds the records that are spared, and then all that come behind the damage. -/
theorem visits_damaged (hnew : ∀ x ∈ new, x.Fits) :
    visits (damaged old g new) 0 = placed 0 (spared old g new) ++ placed ((row old).size + g.size) new := by
  have hsize := size_damaged old g new
  obtain ⟨hvisits, hclear⟩ := visits_spared hold hne hspoilt
  have hbehind := visits_row (stands_behind old g new) hnew fun _ hroom => by omega
  rw [← hsize, visits_eq _ (damaged old g new).size, scan_of_end rfl, List.append_nil] at hbehind
  have hle := row_spared_le old g new
  rw [hvisits, visits_of_clear (by omega) (by omega) hclear, hbehind]

/-- Then the reader stands at the end. -/
theorem cursor_damaged (hnew : ∀ x ∈ new, x.Fits) :
    (scanAll (damaged old g new) 0).cursor = (damaged old g new).size := by
  obtain ⟨init, last, rfl⟩ : ∃ init last, new = init ++ [last] := ⟨_, _, (List.dropLast_concat_getLast hne).symm⟩
  have hvisits := visits_damaged hold hne hspoilt hnew
  rw [placed_append, placed, placed, ← List.append_assoc] at hvisits
  have hend : (row old).size + g.size + (row init).size + last.encode.size = (damaged old g (init ++ [last])).size := by
    rw [size_damaged, row_append, row_singleton, ByteArray.size_append, Nat.add_assoc _ (row init).size]
  rw [cursor_scanAll hvisits, hend, scan_of_end rfl]

/-- A reader of a damaged file is given the records before the damage, but for the last one if no sync word comes behind
it, and then all records behind the damage. Then it is told that there is nothing, and stands at the end of the file. -/
theorem follow_damaged (hnew : ∀ x ∈ new, x.Fits) {s : Store} {path : ByteArray} {id : Nat}
    (hs : s.Holds path id (damaged old g new)) :
    ∃ j k, openFile s path .read = (.ok j, s, []) ∧
      j.follow (List.replicate ((spared old g new ++ new).length + 1) s) =
        ((spared old g new ++ new).map (fun x => .ok (some x)) ++ [.ok none], k) ∧
      k.tell = k.size s := by
  obtain ⟨j, k, hopen, hfollow, huse⟩ := follow_scanAll hs
  have hrecords : (visits (damaged old g new) 0).map Prod.snd = spared old g new ++ new := by
    rw [visits_damaged hold hne hspoilt hnew, List.map_append, map_placed, map_placed]
  refine ⟨j, k, hopen, ?_, ?_⟩
  · rw [← hrecords, List.length_map, List.map_map]
    exact hfollow
  · rw [tell, size, huse]
    show (scanAll _ 0).cursor = (s.node id).size
    rw [cursor_damaged hold hne hspoilt hnew, hs.node]
    rfl

end Damage

/-- Four bytes, and a header that tells of a channel name of less than no bytes. -/
def bogus : ByteArray := Bytes.ofNat 4 0x13371337 ++ Header.encode ⟨9, 9, -4, 0⟩

/-- Two records, the bogus header, and another record. -/
def tainted : ByteArray := damaged [lone, lone] bogus [⟨2, 7, "d", .empty⟩]

/-- The record before the bogus header is lost, the other ones are found. -/
theorem follow_damaged_tainted :
    ∃ j k, openFile (stored tainted) "a".toUTF8 .read = (.ok j, stored tainted, []) ∧
      j.follow (List.replicate 3 (stored tainted)) =
        ([.ok (some lone), .ok (some ⟨2, 7, "d", .empty⟩), .ok none], k) ∧ k.tell = k.size (stored tainted) := by
  have hfits : ∀ x ∈ [lone, lone], x.Fits := fun x hx => fits_lone x (by simpa using hx)
  have hnew : ∀ x ∈ [(⟨2, 7, "d", .empty⟩ : Record)], x.Fits := by
    intro x hx
    obtain rfl := List.mem_singleton.1 hx
    exact ⟨by decide, by decide, by decide⟩
  have hspoilt : Spoilt tainted (behindLast [lone, lone]) ((row [lone, lone]).size + bogus.size) := by
    have hsync : ∀ p < 90, 30 ≤ p → syncAt tainted p = true → p = 62 := by decide +kernel
    have hplaces : behindLast [lone, lone] = 30 ∧ (row [lone, lone]).size + bogus.size = 90 := by decide +kernel
    rw [hplaces.1, hplaces.2]
    intro p hlow hhigh hp
    rw [hsync p hhigh hlow hp]
    exact ⟨.channelLength, by decide +kernel⟩
  have hspared : spared [lone, lone] bogus [⟨2, 7, "d", .empty⟩] = [lone] := by
    rw [spared, if_neg (by decide +kernel)]
    rfl
  have h := follow_damaged hfits (List.cons_ne_nil _ _) hspoilt hnew (holds_stored tainted)
  rw [hspared] at h
  exact h

end PubSub.Journal
