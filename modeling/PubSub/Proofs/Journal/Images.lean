import Mathlib.Data.Nat.Find
import PubSub.Proofs.Journal.Reading
import PubSub.Proofs.Journal.Writing

/-!
# Images of records

A reader that looks for a record goes past the bytes up to the next sync word, and past a sync word behind which no
record can be. It stops where something looks like a record, or like the start of one that the end of the file cuts
off, whether a writer put a record there or not.

* `Image`: something looks like a record.
* `Clear`: nothing does, in a stretch of a file.
* `visits`: the records that a reader finds, each with the place where it starts; `placed`: those of a row.
* `Gives`: the records that a reader is given before it is told that there is nothing.

Results:

* `image_iff`: a reader stops at images and nowhere else.
* `scan_of_clear`: a stretch that is clear is gone past.
* `visits_row`: a row that stands in a file is read, if another record or the end of the file comes behind it.
* `gives_scanAll`: a reader is given the records that there are from where it stands on.
-/

namespace PubSub.Journal

open Bytes

variable {f : ByteArray} {a b c p : Nat}

/-! ## What looks like a record -/

/-- Behind a record comes another sync word, or the file ends before there is room for one. -/
def Followed (f : ByteArray) (q : Nat) : Prop := q + 4 ≤ f.size → syncAt f q = true

/-- What stands at `p` looks like a record, or like the start of one: behind the sync word the file ends within the
header, or the header can be read and either the file ends within the body or the channel name is text and the body is
followed as that of a record is. -/
structure Image (f : ByteArray) (p : Nat) : Prop where
  sync : syncAt f p = true
  looks : f.size < p + headerSize ∨ ∃ h, Header.decodeAt f p = .ok h ∧
    (f.size < p + headerSize + h.bodyLength ∨ Followed f (p + headerSize + h.bodyLength) ∧
      (String.fromUTF8? (f.extract (p + headerSize) (p + headerSize + h.channelLength.toInt.toNat))).isSome)

theorem followed_of_examine {r : Record} {stop : Nat} (h : examine f p = .record r stop) : Followed f stop := by
  unfold examine at h
  split at h
  · cases h
  · split at h
    · cases h
    · simp only at h
      split at h
      · cases h
      · split at h
        · cases h
        · rename_i hnext
          split at h
          · cases h
          · cases h
            exact fun hroom => by simpa [hroom] using hnext

/-- A reader stops at images and nowhere else. -/
theorem image_iff : Image f p ↔ syncAt f p = true ∧ ∀ d, examine f p ≠ .damaged d := by
  suffices hlooks : (f.size < p + headerSize ∨ ∃ h, Header.decodeAt f p = .ok h ∧
      (f.size < p + headerSize + h.bodyLength ∨ Followed f (p + headerSize + h.bodyLength) ∧
        (String.fromUTF8? (f.extract (p + headerSize) (p + headerSize + h.channelLength.toInt.toNat))).isSome)) ↔
      ∀ d, examine f p ≠ .damaged d from
    ⟨fun h => ⟨h.sync, hlooks.1 h.looks⟩, fun h => ⟨h.1, hlooks.2 h.2⟩⟩
  unfold examine
  by_cases hshort : f.size < p + headerSize
  · simp [hshort]
  cases hdecode : Header.decodeAt f p with
  | error cause => simp [hshort]
  | ok h =>
    simp only [hshort, false_or, Except.ok.injEq, exists_eq_left']
    by_cases htorn : f.size < p + headerSize + h.bodyLength
    · simp [htorn]
    simp only [htorn, false_or]
    by_cases hnext : p + headerSize + h.bodyLength + 4 ≤ f.size ∧ syncAt f (p + headerSize + h.bodyLength) = false
    · simp [hnext, Followed]
    · have hfollowed : Followed f (p + headerSize + h.bodyLength) := fun hroom => by simpa [hroom] using hnext
      rw [if_neg hnext]
      cases String.fromUTF8? (f.extract (p + headerSize) (p + headerSize + h.channelLength.toInt.toNat)) <;>
        simp [hfollowed]

/-- Nothing between `a` and `b` looks like a record. -/
def Clear (f : ByteArray) (a b : Nat) : Prop := ∀ p, a ≤ p → p < b → ¬ Image f p

/-- Whether what stands at a sync word is no record. -/
def Finding.isDamage : Finding → Bool
  | damaged _ => true
  | _ => false

theorem clear_of_isDamage (h : ∀ p < b, a ≤ p → syncAt f p = true → (examine f p).isDamage = true) : Clear f a b := by
  intro p hlow hhigh himage
  obtain ⟨hsync, hlooks⟩ := image_iff.1 himage
  have hdamage := h p hhigh hlow hsync
  cases he : examine f p with
  | damaged d => exact hlooks d he
  | record | torn =>
    rw [he] at hdamage
    cases hdamage

/-- What is not clear has a first image. -/
theorem exists_image (h : ¬ Clear f a b) : ∃ p, a ≤ p ∧ p < b ∧ Image f p ∧ Clear f a p := by
  classical
  have hsome : ∃ p, a ≤ p ∧ p < b ∧ Image f p := by
    simpa only [Clear, not_forall, not_not, exists_prop] using h
  obtain ⟨hlow, hhigh, himage⟩ := Nat.find_spec hsome
  refine ⟨Nat.find hsome, hlow, hhigh, himage, fun q hq hlt hqi => ?_⟩
  exact Nat.find_min hsome hlt ⟨hq, by omega, hqi⟩

/-! ## Going past -/

theorem findSync_of_le (hab : a ≤ b) (hbp : b ≤ p) (h : findSync f a = some p) : findSync f b = some p := by
  obtain ⟨-, hsync, hbefore⟩ := (findSync_eq_some_iff f a p).1 h
  exact (findSync_eq_some_iff f b p).2 ⟨hbp, hsync, fun r hr => hbefore r (Nat.le_trans hab hr)⟩

theorem syncAt_of_findSync_none (h : findSync f a = none) (hap : a ≤ p) : syncAt f p = false := by
  by_contra hsync
  -- the first sync word from `a` on would be found
  have hsome : ∃ q, a ≤ q ∧ syncAt f q = true := ⟨p, hap, by simpa using hsync⟩
  obtain ⟨hlow, hq⟩ := Nat.find_spec hsome
  have hfirst : findSync f a = some (Nat.find hsome) :=
    (findSync_eq_some_iff f a _).2 ⟨hlow, hq, fun r hr hlt => by simpa [hr] using Nat.find_min hsome hlt⟩
  rw [h] at hfirst
  cases hfirst

theorem findSync_none_of_le (hab : a ≤ b) (h : findSync f a = none) : findSync f b = none := by
  cases hb : findSync f b with
  | none => rfl
  | some p =>
    obtain ⟨hbp, hsync, -⟩ := (findSync_eq_some_iff f b p).1 hb
    rw [syncAt_of_findSync_none h (Nat.le_trans hab hbp)] at hsync
    cases hsync

theorem scan_eq (f : ByteArray) (c : Nat) :
    scan f c =
      match findSync f c with
      | none => ⟨none, max c f.size, []⟩
      | some p =>
        match examine f p with
        | .record r stop => ⟨some (p, r), stop, []⟩
        | .torn => ⟨none, p, []⟩
        | .damaged d => { scan f (p + 1) with skipped := (p, d) :: (scan f (p + 1)).skipped } := by
  rw [scan]
  split
  · rename_i hf
    rw [hf]
  · rename_i p hf
    cases hx : examine f p <;> simp only [hf, hx]

/-- A stretch that is clear is gone past. -/
theorem scan_of_clear (hab : a ≤ b) (hb : b ≤ f.size) (hclear : Clear f a b) :
    (scan f a).found = (scan f b).found ∧ (scan f a).cursor = (scan f b).cursor := by
  -- induction on the length of the stretch, which each sync word gone past makes shorter
  induction hn : b - a using Nat.strongRecOn generalizing a with
  | ind n ih =>
    cases ha : findSync f a with
    | none =>
      rw [scan_eq f a, scan_eq f b, ha, findSync_none_of_le hab ha]
      exact ⟨rfl, by simp only [Nat.max_eq_right hb, Nat.max_eq_right (Nat.le_trans hab hb)]⟩
    | some p =>
      have hap := le_of_findSync ha
      by_cases hpb : b ≤ p
      · rw [scan_eq f a, scan_eq f b, ha, findSync_of_le hab hpb ha]
        exact ⟨rfl, rfl⟩
      · have hsync := ((findSync_eq_some_iff f a p).1 ha).2.1
        have hno := hclear p hap (by omega)
        rw [image_iff] at hno
        obtain ⟨d, hd⟩ : ∃ d, examine f p = .damaged d := by simpa [hsync] using hno
        have hrest := ih (b - (p + 1)) (by omega) (by omega) (fun q hq => hclear q (by omega)) rfl
        rw [scan_eq f a, ha]
        simp only [hd]
        exact hrest

/-- At an image a reader finds a record, or waits for the rest of one. -/
theorem scan_of_image (h : Image f p) :
    (∃ r, (scan f p).found = some (p, r)) ∨ scan f p = ⟨none, p, []⟩ := by
  obtain ⟨hsync, hlooks⟩ := image_iff.1 h
  cases he : examine f p with
  | record r stop => exact Or.inl ⟨r, by rw [scan_of_record hsync he]⟩
  | torn => exact Or.inr (scan_of_missing hsync he)
  | damaged d => exact absurd he (hlooks d)

/-- Before what is found nothing looks like a record. -/
theorem clear_of_scan {r : Record} (h : (scan f a).found = some (p, r)) : Clear f a p := by
  by_contra hcaught
  obtain ⟨q, hlow, hhigh, himage, hclear⟩ := exists_image hcaught
  have hroom := lt_size_of_syncAt himage.sync
  rw [(scan_of_clear hlow (by omega) hclear).1] at h
  rcases scan_of_image himage with ⟨r', hr'⟩ | hnone
  · rw [hr'] at h
    cases h
    exact Nat.lt_irrefl _ hhigh
  · rw [hnone] at h
    cases h

/-- What is found is what stands there at a sync word, and the reader then stands at its end. -/
theorem examine_of_scan {r : Record} (h : (scan f c).found = some (p, r)) :
    syncAt f p = true ∧ examine f p = .record r (scan f c).cursor := by
  fun_induction scan f c with
  | case1 c hf => cases h
  | case2 c q hf r' stop he =>
    cases h
    exact ⟨((findSync_eq_some_iff f c p).1 hf).2.1, he⟩
  | case3 c q hf he => cases h
  | case4 c q hf d he rest ih => exact ih h

theorem cursor_scan {r : Record} (h : (scan f c).found = some (p, r)) : (scan f c).cursor = p + r.encode.size :=
  stop_eq_of_examine (examine_of_scan h).2

/-- What is found is followed as a record is. -/
theorem followed_of_scan {r : Record} (h : (scan f c).found = some (p, r)) : Followed f (p + r.encode.size) := by
  rw [← cursor_scan h]
  exact followed_of_examine (examine_of_scan h).2

/-! ## Looking again -/

/-- Where a record was found it is found again. -/
theorem scan_of_found {r : Record} (h : (scan f c).found = some (p, r)) :
    scan f p = ⟨some (p, r), (scan f c).cursor, []⟩ := by
  obtain ⟨hsync, he⟩ := examine_of_scan h
  exact scan_of_record hsync he

/-- Where nothing was found, nothing is found when the reader looks again. -/
theorem scan_of_none (h : (scan f c).found = none) : scan f (scan f c).cursor = ⟨none, (scan f c).cursor, []⟩ := by
  fun_induction scan f c with
  | case1 c hf =>
    have hend : f.size ≤ max c f.size := Nat.le_max_right c f.size
    show scan f (max c f.size) = ⟨none, max c f.size, []⟩
    rw [scan_of_short (by omega), Nat.max_eq_left hend]
  | case2 c q hf r' stop he => cases h
  | case3 c q hf he => exact scan_of_missing ((findSync_eq_some_iff f c q).1 hf).2.1 he
  | case4 c q hf d he rest ih => exact ih h

/-! ## All that is found -/

/-- The records that a reader finds from `c` on before the first time that it finds nothing, each with the place where
it starts. -/
def visits (f : ByteArray) (c : Nat) : List (Nat × Record) :=
  match _ : (scan f c).found with
  | none => []
  | some found => found :: visits f (scan f c).cursor
termination_by f.size - c
decreasing_by
  rename_i h
  have := lt_cursor_scan h
  omega

theorem visits_eq (f : ByteArray) (c : Nat) :
    visits f c =
      match (scan f c).found with
      | none => []
      | some found => found :: visits f (scan f c).cursor := by
  rw [visits]
  split <;> simp_all

theorem scan_of_visits_cons {v : Nat × Record} {vs : List (Nat × Record)} (h : visits f c = v :: vs) :
    (scan f c).found = some v := by
  rw [visits_eq] at h
  cases hfound : (scan f c).found with
  | none =>
    rw [hfound] at h
    cases h
  | some found =>
    rw [hfound] at h
    exact congrArg some (List.cons.inj h).1

theorem followed_of_mem_visits {v : Nat × Record} (h : v ∈ visits f c) : Followed f (v.1 + v.2.encode.size) := by
  fun_induction visits f c with
  | case1 c hnone => cases h
  | case2 c found hfound ih =>
    rcases List.mem_cons.1 h with rfl | h
    · exact followed_of_scan hfound
    · exact ih h

theorem scanAll_eq (f : ByteArray) (c : Nat) :
    scanAll f c =
      match (scan f c).found with
      | none => ⟨[], (scan f c).cursor, (scan f c).skipped⟩
      | some (_, r) =>
        ⟨r :: (scanAll f (scan f c).cursor).records, (scanAll f (scan f c).cursor).cursor,
          (scan f c).skipped ++ (scanAll f (scan f c).cursor).skipped⟩ := by
  rw [scanAll]
  split <;> simp_all

/-- A reader that has found nothing finds nothing from where it stands on. -/
theorem records_scan_of_none (h : (scan f c).found = none) : (scanAll f (scan f c).cursor).records = [] := by
  rw [scanAll_eq, scan_of_none h]

/-- A move to a place leaves the records from there on. -/
theorem records_locate (f : ByteArray) (c : Nat) : (scanAll f (locate f c).cursor).records = (scanAll f c).records := by
  have hbeyond : (scanAll f c).records = (scanAll f (min c f.size)).records := by
    by_cases hin : c ≤ f.size
    · rw [Nat.min_eq_left hin]
    · rw [Nat.min_eq_right (by omega), scanAll_eq, scanAll_eq f f.size, scan_of_short (by omega),
        scan_of_short (by omega)]
  rw [hbeyond, locate]
  cases hfound : (scan f (min c f.size)).found with
  | none =>
    simp only
    rw [records_scan_of_none hfound, scanAll_eq, hfound]
  | some found =>
    obtain ⟨p, r⟩ := found
    simp only
    rw [scanAll_eq f p, scan_of_found hfound, scanAll_eq f (min c f.size), hfound]

theorem length_records_le (f : ByteArray) (c : Nat) : (scanAll f c).records.length ≤ f.size := by
  suffices h : (scanAll f c).records.length ≤ f.size - c by omega
  fun_induction scanAll f c with
  | case1 c h => exact Nat.zero_le _
  | case2 c p r h rest ih =>
    have := lt_cursor_scan h
    show (scanAll f (scan f c).cursor).records.length + 1 ≤ f.size - c
    omega

theorem map_visits (f : ByteArray) (c : Nat) : (visits f c).map Prod.snd = (scanAll f c).records := by
  fun_induction visits f c with
  | case1 c h => rw [scanAll_eq, h]; rfl
  | case2 c found h ih => rw [scanAll_eq, h, List.map_cons, ih]

/-- The reader has looked on behind the last record that it has found. -/
theorem cursor_scanAll {v : Nat × Record} {vs : List (Nat × Record)} (h : visits f c = vs ++ [v]) :
    (scanAll f c).cursor = (scan f (v.1 + v.2.encode.size)).cursor := by
  fun_induction visits f c generalizing vs with
  | case1 c hnone => exact absurd h.symm (by simp)
  | case2 c found hfound ih =>
    obtain ⟨p, r⟩ := found
    rw [scanAll_eq, hfound]
    show (scanAll f (scan f c).cursor).cursor = _
    cases vs with
    | nil =>
      obtain ⟨rfl, hrest⟩ := List.cons.inj h
      rw [visits_eq] at hrest
      have hnone : (scan f (scan f c).cursor).found = none := by
        cases hnext : (scan f (scan f c).cursor).found with
        | none => rfl
        | some next =>
          rw [hnext] at hrest
          cases hrest
      rw [scanAll_eq, hnone, cursor_scan hfound]
    | cons w vs => exact ih (List.cons.inj h).2

/-- A reader that is asked once more than there are records is given them, and then nothing. -/
theorem scans_visits (f : ByteArray) (c : Nat) :
    scans c (List.replicate ((visits f c).length + 1) f) =
      ((visits f c).map (fun v => some v.2) ++ [none], (scanAll f c).cursor) := by
  fun_induction visits f c with
  | case1 c h => rw [scanAll_eq, List.length_nil, Nat.zero_add, List.replicate_one, scans, h]; rfl
  | case2 c found h ih => rw [scanAll_eq, List.length_cons, List.replicate_succ, scans, ih, h]; rfl

theorem visits_of_clear (hab : a ≤ b) (hb : b ≤ f.size) (hclear : Clear f a b) : visits f a = visits f b := by
  obtain ⟨hfound, hcursor⟩ := scan_of_clear hab hb hclear
  rw [visits_eq f a, visits_eq f b, hfound, hcursor]

/-- The records of a row, each with the place where it starts, if the row starts at `c`. -/
def placed (c : Nat) : List Record → List (Nat × Record)
  | [] => []
  | r :: rs => (c, r) :: placed (c + r.encode.size) rs

theorem placed_append (c : Nat) (rs ss : List Record) :
    placed c (rs ++ ss) = placed c rs ++ placed (c + (row rs).size) ss := by
  induction rs generalizing c with
  | nil => rfl
  | cons r rs ih => rw [List.cons_append, placed, placed, ih, row, ByteArray.size_append, Nat.add_assoc]; rfl

theorem map_placed (c : Nat) (rs : List Record) : (placed c rs).map Prod.snd = rs := by
  induction rs generalizing c with
  | nil => rfl
  | cons r rs ih => rw [placed, List.map_cons, ih]

theorem syncAt_of_stands_row {rs : List Record} (h : Stands f (row rs) c) (hne : rs ≠ []) : syncAt f c = true := by
  cases rs with
  | nil => exact absurd rfl hne
  | cons r rs => exact syncAt_of_stands (stands_syncWord h.left.left.left)

/-- A row that stands in a file is read, if another record or the end of the file comes behind it. -/
theorem visits_row {rs : List Record} (hs : Stands f (row rs) c) (hrs : ∀ r ∈ rs, r.Fits)
    (hnext : rs ≠ [] → Followed f (c + (row rs).size)) :
    visits f c = placed c rs ++ visits f (c + (row rs).size) := by
  induction rs generalizing c with
  | nil => rfl
  | cons r rs ih =>
    have hrow : (row (r :: rs)).size = r.encode.size + (row rs).size := ByteArray.size_append
    rw [hrow, ← Nat.add_assoc] at hnext ⊢
    have hbehind : Followed f (c + r.encode.size) := by
      cases rs with
      | nil => exact hnext (List.cons_ne_nil _ _)
      | cons r' rs => exact fun _ => syncAt_of_stands_row hs.right (List.cons_ne_nil _ _)
    have hscan : scan f c = ⟨some (c, r), c + r.encode.size, []⟩ :=
      scan_of_record (syncAt_of_stands_row hs (List.cons_ne_nil _ _))
        (examine_of_stands hs.left (hrs r List.mem_cons_self) hbehind)
    rw [visits_eq, hscan, placed, List.cons_append]
    exact congrArg _ (ih hs.right (fun r' hr' => hrs r' (List.mem_cons_of_mem _ hr'))
      fun _ => hnext (List.cons_ne_nil _ _))

/-- The reader of a journal is given the records `rs` one after the other, and then it is told that there is nothing. -/
def Gives (j : Journal) (s : Store) (rs : List Record) : Prop :=
  (j.follow (List.replicate (rs.length + 1) s)).1 = rs.map (fun r => .ok (some r)) ++ [.ok none]

/-- A reader that is asked more often is given the same at first. -/
theorem follow_prefix (j : Journal) (s : Store) {n m : Nat} (h : n ≤ m) :
    (j.follow (List.replicate n s)).1 <+: (j.follow (List.replicate m s)).1 := by
  induction n generalizing j m with
  | zero => exact List.nil_prefix
  | succ n ih =>
    obtain ⟨m, rfl⟩ : ∃ k, m = k + 1 := ⟨m - 1, by omega⟩
    rw [List.replicate_succ, List.replicate_succ, follow, follow]
    exact (List.prefix_cons_inj _).2 (ih _ (by omega))

/-- What a reader is given before it is told that there is nothing is determined. -/
theorem Gives.unique {j : Journal} {s : Store} {rs ss : List Record} (hr : j.Gives s rs) (hs : j.Gives s ss) :
    rs = ss := by
  have hinitial : ∀ {rs ss : List Record}, j.Gives s rs → j.Gives s ss → rs.length ≤ ss.length → rs = ss := by
    intro rs ss hr hs hle
    have hle' : rs.length + 1 ≤ ss.length + 1 := by omega
    have h := follow_prefix j s hle'
    rw [hr, hs] at h
    have hlength : rs.length = ss.length := by
      by_contra hne
      have hlt : rs.length < ss.length := by omega
      have hend := h.getElem (i := rs.length) (by simp)
      simp [hlt] at hend
    have hsame := h.eq_of_length (by simp [hlength])
    have hmap := List.append_cancel_right hsame
    exact (List.map_inj_right fun a b hab => Option.some.inj (Except.ok.inj hab)).1 hmap
  rcases Nat.le_total rs.length ss.length with hle | hle
  · exact hinitial hr hs hle
  · exact (hinitial hs hr hle).symm

/-- A reader is given the records that there are from where it stands on. -/
theorem gives_scanAll {j : Journal} {s : Store} {file : Nat} (hj : j.use = .reading file c)
    (readable : (s.node file).read = .ok f) : j.Gives s (scanAll f c).records := by
  have hreads : (List.replicate ((visits f c).length + 1) s).map (fun s => (s.node file).read) =
      (List.replicate ((visits f c).length + 1) f).map .ok := by
    rw [List.map_replicate, List.map_replicate, readable]
  have hanswers := (follow_eq_scans_of_read hj hreads).1
  rw [scans_visits, List.map_append, List.map_map] at hanswers
  rw [Gives, ← map_visits, List.length_map, List.map_map]
  exact hanswers

/-- A reader that opens a file is given the records that it finds there, and then nothing, and has looked through the
file. -/
theorem follow_scanAll {s : Store} {path : ByteArray} {id : Nat} (h : s.Holds path id f) :
    ∃ j k, openFile s path .read = (.ok j, s, []) ∧
      j.follow (List.replicate ((visits f 0).length + 1) s) =
        ((visits f 0).map (fun v => .ok (some v.2)) ++ [.ok none], k) ∧
      k.use = .reading id (scanAll f 0).cursor := by
  have hnodes : (List.replicate ((visits f 0).length + 1) s).map (fun s => s.node id) =
      (List.replicate ((visits f 0).length + 1) f).map .file := by
    rw [List.map_replicate, List.map_replicate, h.node]
  obtain ⟨hanswers, huse⟩ := follow_eq_scans (j := ⟨path, .read, .reading id 0⟩) (c := 0) rfl hnodes
  rw [scans_visits, List.map_append, List.map_map] at hanswers
  rw [scans_visits] at huse
  exact ⟨_, _, open_reading h, Prod.ext hanswers rfl, huse⟩

theorem follow_visits {s : Store} {path : ByteArray} {id : Nat} (h : s.Holds path id f) :
    ∃ j k, openFile s path .read = (.ok j, s, []) ∧
      j.follow (List.replicate ((visits f 0).length + 1) s) =
        ((visits f 0).map (fun v => .ok (some v.2)) ++ [.ok none], k) := by
  obtain ⟨j, k, hopen, hfollow, -⟩ := follow_scanAll h
  exact ⟨j, k, hopen, hfollow⟩

end PubSub.Journal
