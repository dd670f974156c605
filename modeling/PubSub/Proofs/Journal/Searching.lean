import Mathlib.Algebra.Ring.Nat
import PubSub.Proofs.Journal.Recovering
import PubSub.Proofs.Journal.Seeking

/-!
# Searching for a time

A reader that is to go before the first record of a time or later halves the file. It looks for a record from the middle
on: one that is earlier puts the places up to its start behind the reader, anything else the places from the middle on
before it. This comes to an end whatever bytes the file has, and the reader then finds nothing that is too early. It
finds the right record if times never decrease and the sync word stands nowhere but where a record starts.

* `narrow`: one step of the search; `narrowed`: the search in so many steps.
* `Brackets`: what is found behind the stretch that is left is late enough.
* `Spaced`: the sync word stands nowhere but where a record starts.

Results:

* `narrow_halves`, `narrowed_eq`: the search ends after as many steps as the length of the file has binary digits.
* `Brackets.narrow`: a step does not lose the place.
* `Journal.seekTime_lands`: what a reader finds after the search.
-/

namespace PubSub.Journal

open Bytes

variable {f : ByteArray} {time t : Timestamp} {lo hi c p n k offset : Nat}

/-! ## Halving -/

/-- What is left of a stretch after one step of the search. -/
def narrow (f : ByteArray) (time : Timestamp) (lo hi : Nat) : Nat × Nat :=
  match (locate f (lo + (hi - lo) / 2)).found with
  | some (p, t) => if t < time then (p + 1, hi) else (lo, lo + (hi - lo) / 2)
  | none => (lo, lo + (hi - lo) / 2)

/-- The place where the search closes. There is none if that takes more than so many steps. -/
def narrowed (f : ByteArray) (time : Timestamp) : Nat → Nat → Nat → Option Nat
  | 0, lo, hi => if lo < hi then none else some lo
  | n + 1, lo, hi =>
    if lo < hi then narrowed f time n (narrow f time lo hi).1 (narrow f time lo hi).2 else some lo

/-- A step drops either what is not behind an early record, or what is not before the middle. -/
theorem narrow_cases (f : ByteArray) (time : Timestamp) (lo hi : Nat) :
    (∃ p t, (locate f (lo + (hi - lo) / 2)).found = some (p, t) ∧ t < time ∧ narrow f time lo hi = (p + 1, hi)) ∨
    ((∀ p t, (locate f (lo + (hi - lo) / 2)).found = some (p, t) → time ≤ t) ∧
      narrow f time lo hi = (lo, lo + (hi - lo) / 2)) := by
  unfold narrow
  cases hfound : (locate f (lo + (hi - lo) / 2)).found with
  | none => exact Or.inr ⟨fun _ _ h => absurd h (by simp), rfl⟩
  | some v =>
    obtain ⟨p, t⟩ := v
    by_cases hearly : t < time
    · exact Or.inl ⟨p, t, rfl, hearly, if_pos hearly⟩
    · refine Or.inr ⟨fun q u h => ?_, if_neg hearly⟩
      cases h
      exact Int64.not_lt.1 hearly

theorem bisect_eq (f : ByteArray) (time : Timestamp) (lo hi : Nat) :
    (bisect f time lo hi).1 =
      if lo < hi then (bisect f time (narrow f time lo hi).1 (narrow f time lo hi).2).1 else lo := by
  by_cases hlt : lo < hi
  · rw [bisect, if_pos hlt, if_pos hlt, narrow]
    dsimp only
    split
    · rename_i p t hfound
      rw [hfound]
      by_cases hearly : t < time
      · simp only [if_pos hearly]
      · simp only [if_neg hearly]
    · rename_i hfound
      rw [hfound]
  · rw [bisect, if_neg hlt, if_neg hlt]

/-- A step leaves half of the stretch at most. -/
theorem narrow_halves (f : ByteArray) (time : Timestamp) (hlt : lo < hi) :
    2 * ((narrow f time lo hi).2 - (narrow f time lo hi).1) ≤ hi - lo ∧
      (narrow f time lo hi).2 - (narrow f time lo hi).1 < hi - lo := by
  rcases narrow_cases f time lo hi with ⟨p, t, hfound, -, heq⟩ | ⟨-, heq⟩
  · have := le_of_locate hfound
    rw [heq]
    omega
  · rw [heq]
    omega

/-- As many steps as the length of the stretch has binary digits are enough. -/
theorem narrowed_eq (h : hi - lo < 2 ^ n) : narrowed f time n lo hi = some (bisect f time lo hi).1 := by
  induction n generalizing lo hi with
  | zero =>
    have hclosed : ¬ lo < hi := by omega
    rw [narrowed, bisect_eq, if_neg hclosed, if_neg hclosed]
  | succ n ih =>
    rw [narrowed, bisect_eq]
    by_cases hlt : lo < hi
    · have hhalf := (narrow_halves f time hlt).1
      rw [Nat.pow_succ] at h
      rw [if_pos hlt, if_pos hlt]
      exact ih (by omega)
    · rw [if_neg hlt, if_neg hlt]

/-- What every step keeps still holds when the search closes. -/
theorem bisect_keeps {P : Nat → Nat → Prop}
    (step : ∀ lo hi, lo < hi → P lo hi → P (narrow f time lo hi).1 (narrow f time lo hi).2) (h : P lo hi) :
    ∃ hi', hi' ≤ (bisect f time lo hi).1 ∧ P (bisect f time lo hi).1 hi' := by
  induction hn : hi - lo using Nat.strongRecOn generalizing lo hi with
  | ind n ih =>
    rw [bisect_eq]
    by_cases hlt : lo < hi
    · rw [if_pos hlt]
      have hless := (narrow_halves f time hlt).2
      exact ih _ (hn ▸ hless) (step lo hi hlt h) rfl
    · rw [if_neg hlt]
      exact ⟨hi, Nat.not_lt.1 hlt, h⟩

/-! ## What the reader finds -/

theorem found_locate (f : ByteArray) (offset : Nat) :
    (locate f offset).found = (scan f (min offset f.size)).found.map fun v => (v.1, v.2.timestamp) := by
  rw [locate]
  cases (scan f (min offset f.size)).found <;> simp

/-- After a move a reader finds what it was moved to. -/
theorem found_scan_locate (f : ByteArray) (offset : Nat) :
    (scan f (locate f offset).cursor).found = (scan f (min offset f.size)).found := by
  rw [cursor_locate]
  cases hfound : (scan f (min offset f.size)).found with
  | none =>
    show (scan f (scan f (min offset f.size)).cursor).found = none
    rw [scan_of_none hfound]
  | some v =>
    show (scan f v.1).found = some v
    rw [scan_of_found hfound]

/-- What is found behind a place on the way is found from there. -/
theorem found_locate_of_le (h : (locate f c).found = some (p, t)) (hco : c ≤ offset) (hop : offset ≤ p) :
    (locate f offset).found = some (p, t) := by
  rw [found_locate] at h ⊢
  obtain ⟨⟨q, r⟩, hfound, hpt⟩ := Option.map_eq_some_iff.1 h
  obtain ⟨rfl, rfl⟩ := Prod.mk.inj hpt
  have hbounds := bounds_of_scan hfound
  rw [headerSize] at hbounds
  have hclear : Clear f offset q := fun i hlow => clear_of_scan hfound i (by omega)
  rw [Nat.min_eq_left (by omega), (scan_of_clear hop (by omega) hclear).1, scan_of_found hfound]
  rfl

/-- What is found behind the stretch from `lo` to `hi` is not too early. -/
structure Brackets (f : ByteArray) (time : Timestamp) (lo hi : Nat) : Prop where
  order : lo ≤ hi
  late : ∀ p t, (locate f hi).found = some (p, t) → time ≤ t

theorem brackets_start (f : ByteArray) (time : Timestamp) : Brackets f time 0 f.size := by
  refine ⟨Nat.zero_le _, fun p t h => ?_⟩
  rw [found_locate, Nat.min_self, scan_of_end rfl] at h
  cases h

/-- An early record starts before the end of the stretch, because it would be found from there, too. -/
theorem Brackets.narrow (h : Brackets f time lo hi) (hlt : lo < hi) :
    Brackets f time (narrow f time lo hi).1 (narrow f time lo hi).2 := by
  rcases narrow_cases f time lo hi with ⟨p, t, hfound, hearly, heq⟩ | ⟨hlate, heq⟩
  · rw [heq]
    refine ⟨?_, h.late⟩
    by_contra hover
    have hthere : (locate f hi).found = some (p, t) := found_locate_of_le hfound (by omega) (by omega)
    exact Int64.not_lt.2 (h.late p t hthere) hearly
  · rw [heq]
    exact ⟨by omega, hlate⟩

/-! ## Rows in which times never decrease -/

variable {rs : List Record} {r : Record}

/-- The number of the first record whose time is `time` or later; the number behind the last record if there is none. -/
def firstAt (rs : List Record) (time : Timestamp) : Nat := rs.findIdx fun r => time ≤ r.timestamp

/-- The sync word stands nowhere in a file but where a record starts, or the torn one behind the last. -/
def Spaced (f : ByteArray) (rs : List Record) : Prop :=
  ∀ p, syncAt f p = true → ∃ k ≤ rs.length, p = startOf rs k

/-- Where times never decrease, the records from the first one that is late enough on are late enough. -/
theorem firstAt_le_iff (hsorted : rs.Pairwise fun x y => x.timestamp ≤ y.timestamp) (hk : k < rs.length) :
    firstAt rs time ≤ k ↔ time ≤ rs[k].timestamp := by
  constructor
  · intro hle
    have hlt : firstAt rs time < rs.length := by omega
    have hfirst : time ≤ rs[firstAt rs time].timestamp :=
      of_decide_eq_true (List.findIdx_getElem (p := fun r : Record => decide (time ≤ r.timestamp)) (w := hlt))
    rcases Nat.eq_or_lt_of_le hle with heq | hless
    · simpa only [heq] using hfirst
    · exact Int64.le_trans hfirst (List.pairwise_iff_getElem.1 hsorted _ _ hlt hk hless)
  · intro hlate
    by_contra hbefore
    have hearly := List.not_of_lt_findIdx (Nat.not_le.1 hbefore)
    simp [hlate] at hearly

section Row

variable (hrs : ∀ x ∈ rs, x.Fits) (hr : r.Fits) (hn : n < r.encode.size) (hspaced : Spaced (row rs ++ torn r n) rs)
include hrs hr hn

/-- A record of the row is read, though another one is torn behind it. -/
theorem found_whole (hk : k < rs.length) :
    (scan (row rs ++ torn r n) (startOf rs k)).found = some (startOf rs k, rs[k]) := by
  have hlength : k < (rs ++ [r]).length := by
    rw [List.length_append]
    omega
  have hroom : startOf (rs ++ [r]) (k + 1) ≤ (row rs ++ torn r n).size := by
    rw [startOf_append hk, ByteArray.size_append]
    exact Nat.le_add_right_of_le (startOf_le_size rs (k + 1))
  have hscan := scan_of_whole (prefix_row_torn rs hn) (fits_concat hrs hr) hlength hroom
  rw [startOf_append (Nat.le_of_lt hk), List.getElem_append_left hk] at hscan
  rw [hscan]

include hspaced

/-- From a place on the first record is found that starts there or later. -/
theorem found_from (offset : Nat) :
    (scan (row rs ++ torn r n) (min offset (row rs ++ torn r n).size)).found =
      rs[firstFrom rs offset]?.map (startOf rs (firstFrom rs offset), ·) := by
  have hsize : (row rs).size ≤ (row rs ++ torn r n).size := by
    rw [ByteArray.size_append]
    exact Nat.le_add_right ..
  by_cases hk : firstFrom rs offset < rs.length
  · -- the way to the record is clear, as the records before it start before the place
    have hclear : Clear (row rs ++ torn r n) (min offset (row rs ++ torn r n).size)
        (startOf rs (firstFrom rs offset)) := by
      intro p hlow hhigh himage
      obtain ⟨i, -, rfl⟩ := hspaced p himage.sync
      have hbefore : i < firstFrom rs offset := by
        by_contra hbehind
        have hmono : startOf rs (firstFrom rs offset) ≤ startOf rs i := startOf_mono (Nat.not_lt.1 hbehind)
        omega
      have := startOf_lt_of_lt_firstFrom hbefore
      have := lt_size_of_syncAt himage.sync
      omega
    have hstart := le_startOf_firstFrom hk
    have hwithin := startOf_le_size rs (firstFrom rs offset)
    rw [(scan_of_clear (by omega) (by omega) hclear).1, found_whole hrs hr hn hk, List.getElem?_eq_getElem hk]
    rfl
  · rw [List.getElem?_eq_none (Nat.not_lt.1 hk), Option.map_none]
    by_contra hsome
    obtain ⟨⟨p, x⟩, hfound⟩ := Option.ne_none_iff_exists'.1 hsome
    have hlow := (bounds_of_scan hfound).1
    have hsync := (examine_of_scan hfound).1
    have hroom := lt_size_of_syncAt hsync
    obtain ⟨i, hi, rfl⟩ := hspaced p hsync
    have hlast : i = rs.length := by
      by_contra hne
      have hbefore : startOf rs i < offset := startOf_lt_of_lt_firstFrom (by omega)
      omega
    have hthere := congrArg Scan.found (scan_of_found hfound)
    rw [hlast, startOf_length, found_torn hrs hr hn] at hthere
    cases hthere

theorem found_locate_row (offset : Nat) :
    (locate (row rs ++ torn r n) offset).found =
      rs[firstFrom rs offset]?.map fun x => (startOf rs (firstFrom rs offset), x.timestamp) := by
  rw [found_locate, found_from hrs hr hn hspaced, Option.map_map]
  rfl

/-- The stretch that is left by a step still starts before the first record that is late enough, or within the record
before it, and still ends before no other record. -/
theorem firstAt_narrow (hsorted : rs.Pairwise fun x y => x.timestamp ≤ y.timestamp)
    (hlo : firstFrom rs lo ≤ firstAt rs time) (hhi : firstAt rs time ≤ firstFrom rs hi) :
    firstFrom rs (narrow (row rs ++ torn r n) time lo hi).1 ≤ firstAt rs time ∧
      firstAt rs time ≤ firstFrom rs (narrow (row rs ++ torn r n) time lo hi).2 := by
  obtain ⟨k, hmid⟩ : ∃ k, firstFrom rs (lo + (hi - lo) / 2) = k := ⟨_, rfl⟩
  have hfirst := found_locate_row hrs hr hn hspaced (lo + (hi - lo) / 2)
  rw [hmid] at hfirst
  rcases narrow_cases (row rs ++ torn r n) time lo hi with ⟨p, t, hfound, hearly, heq⟩ | ⟨hlate, heq⟩
  · rw [hfirst] at hfound
    obtain ⟨x, hx, hpt⟩ := Option.map_eq_some_iff.1 hfound
    obtain ⟨hk, rfl⟩ := List.getElem?_eq_some_iff.1 hx
    obtain ⟨rfl, rfl⟩ := Prod.mk.inj hpt
    have hbefore : ¬ firstAt rs time ≤ k := by
      rw [firstAt_le_iff hsorted hk]
      exact Int64.not_le.2 hearly
    have hnext : firstFrom rs (startOf rs k + 1) ≤ k + 1 := by
      by_contra hbehind
      have hlt := startOf_lt_of_lt_firstFrom (Nat.not_le.1 hbehind)
      rw [startOf_succ hk, Record.size_encode, Record.length, headerSize] at hlt
      omega
    rw [heq]
    refine ⟨?_, hhi⟩
    show firstFrom rs (startOf rs k + 1) ≤ firstAt rs time
    omega
  · rw [heq, hmid]
    refine ⟨hlo, ?_⟩
    by_cases hk : k < rs.length
    · rw [List.getElem?_eq_getElem hk] at hfirst
      exact (firstAt_le_iff hsorted hk).2 (hlate _ _ hfirst)
    · exact Nat.le_trans List.findIdx_le_length (Nat.not_lt.1 hk)

/-- The search closes at a place from which on the first record that is late enough comes first. -/
theorem firstFrom_bisect (hsorted : rs.Pairwise fun x y => x.timestamp ≤ y.timestamp) :
    firstFrom rs (bisect (row rs ++ torn r n) time 0 (row rs ++ torn r n).size).1 = firstAt rs time := by
  have hstart : firstFrom rs 0 ≤ firstAt rs time := by
    by_contra hlater
    have := startOf_lt_of_lt_firstFrom (Nat.not_le.1 hlater)
    omega
  have hend : firstAt rs time ≤ firstFrom rs (row rs ++ torn r n).size := by
    have hfirst := found_from hrs hr hn hspaced (row rs ++ torn r n).size
    rw [Nat.min_self, scan_of_end rfl] at hfirst
    have hlast := List.getElem?_eq_none_iff.1 (Option.map_eq_none_iff.1 hfirst.symm)
    exact Nat.le_trans List.findIdx_le_length hlast
  obtain ⟨hi, hle, hbrackets, hlo, hhi⟩ := bisect_keeps
    (P := fun lo hi => Brackets (row rs ++ torn r n) time lo hi ∧
      firstFrom rs lo ≤ firstAt rs time ∧ firstAt rs time ≤ firstFrom rs hi)
    (fun lo hi hlt h => ⟨h.1.narrow hlt, firstAt_narrow hrs hr hn hspaced hsorted h.2.1 h.2.2⟩)
    ⟨brackets_start _ time, hstart, hend⟩
  rw [Nat.le_antisymm hbrackets.order hle] at hlo ⊢
  exact Nat.le_antisymm hlo hhi

end Row

/-! ## The search -/

/-- After the search nothing is found that is too early. -/
theorem late_bisect (f : ByteArray) (time : Timestamp) (v : Nat × Record)
    (h : (scan f (locate f (bisect f time 0 f.size).1).cursor).found = some v) : time ≤ v.2.timestamp := by
  obtain ⟨hi, hle, hbrackets⟩ := bisect_keeps (fun _ _ hlt h => h.narrow hlt) (brackets_start f time)
  have hclosed := Nat.le_antisymm hbrackets.order hle
  refine hbrackets.late v.1 v.2.timestamp ?_
  rw [← hclosed, found_locate, ← found_scan_locate, h]
  rfl

theorem seekTime_eq {j : Journal} {s : Store} {file : Nat} (hj : j.use = .reading file c)
    (readable : (s.node file).read = .ok f) (time : Timestamp) :
    j.seekTime s time =
      (.ok (), { j with use := .reading file (locate f (bisect f time 0 f.size).1).cursor },
        notices j.path (locateTime f time).skipped) := by
  simp only [seekTime, move, hj, readable]
  rfl

/-- The search comes to an end whatever bytes a file has, and the reader then finds nothing or a record whose time is
`time` or later. If the file is a row in which times never decrease, with a torn record behind it or none, and the sync
word stands nowhere but where a record starts, then the reader stands where the first record of this time or later
starts, and reads it; it reads nothing if there is none. -/
theorem seekTime_lands {j : Journal} {s : Store} {file : Nat} (hj : j.use = .reading file c)
    (readable : (s.node file).read = .ok f) (time : Timestamp) :
    ∃ place found,
      narrowed f time (f.size.log2 + 1) 0 f.size = some place ∧
      (j.seekTime s time).1 = .ok () ∧ (j.seekTime s time).2.1.tell = (locate f place).cursor ∧
      ((j.seekTime s time).2.1.next s).1 = .ok found ∧
      (∀ x, found = some x → time ≤ x.timestamp) ∧
      ∀ rs r n, (∀ x ∈ rs, x.Fits) → r.Fits → n < r.encode.size → f = row rs ++ torn r n → Spaced f rs →
        (rs.Pairwise fun x y => x.timestamp ≤ y.timestamp) →
        found = rs[firstAt rs time]? ∧
          (firstAt rs time < rs.length → (j.seekTime s time).2.1.tell = startOf rs (firstAt rs time)) := by
  have hsteps : f.size - 0 < 2 ^ (f.size.log2 + 1) := Nat.lt_log2_self
  rw [seekTime_eq hj readable]
  refine ⟨_, _, narrowed_eq hsteps, rfl, rfl, by simp only [next, readable]; rfl, ?_, ?_⟩
  · intro x hx
    obtain ⟨v, hv, rfl⟩ := Option.map_eq_some_iff.1 hx
    exact late_bisect f time v hv
  · rintro rs r n hrs hr hn rfl hspaced hsorted
    have hfirst := found_from hrs hr hn hspaced
      (bisect (row rs ++ torn r n) time 0 (row rs ++ torn r n).size).1
    rw [firstFrom_bisect hrs hr hn hspaced hsorted] at hfirst
    refine ⟨?_, fun hk => ?_⟩
    · rw [found_scan_locate, hfirst, Option.map_map]
      exact Option.map_id'
    · show (locate (row rs ++ torn r n) _).cursor = _
      rw [cursor_locate, hfirst, List.getElem?_eq_getElem hk]
      rfl

/-- Three records, two of them of the same time. -/
def ticking : List Record := [⟨0, 5, "c", .empty⟩, ⟨1, 7, "c", .empty⟩, ⟨2, 7, "d", .empty⟩]

/-- Of records of the same time the reader goes before the first. -/
theorem seekTime_lands_ticking :
    ∃ j, (reader.seekTime ⟨#[.file (row ticking ++ torn lone 10)], [], []⟩ 7).2.1 = j ∧ j.tell = 29 ∧
      (j.next ⟨#[.file (row ticking ++ torn lone 10)], [], []⟩).1 = .ok (some ⟨1, 7, "c", .empty⟩) := by
  have hsize : (row ticking ++ torn lone 10).size = 97 := by decide +kernel
  have hspaced : Spaced (row ticking ++ torn lone 10) ticking := by
    intro p hsync
    have hroom := lt_size_of_syncAt hsync
    have hplaces : ∀ p < 97, syncAt (row ticking ++ torn lone 10) p = true → ∃ k ≤ 3, p = startOf ticking k := by
      decide +kernel
    exact hplaces p (by omega) hsync
  have hfits : ∀ x ∈ ticking, x.Fits := by
    intro x hx
    simp only [ticking, List.mem_cons, List.not_mem_nil, or_false] at hx
    rcases hx with rfl | rfl | rfl <;> exact ⟨by decide, by decide, by decide⟩
  obtain ⟨place, found, -, -, -, hnext, -, hrow⟩ :=
    seekTime_lands (j := reader) (s := ⟨#[.file (row ticking ++ torn lone 10)], [], []⟩) rfl
      (f := row ticking ++ torn lone 10) rfl 7
  obtain ⟨hfound, htell⟩ := hrow ticking lone 10 hfits (fits_lone lone List.mem_cons_self) (by decide +kernel) rfl
    hspaced (by decide)
  refine ⟨_, rfl, ?_, ?_⟩
  · rw [htell (by decide)]
    decide +kernel
  · rw [hnext, hfound]
    rfl

end PubSub.Journal
