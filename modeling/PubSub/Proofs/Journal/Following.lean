import Mathlib.Data.List.Induction
import PubSub.Proofs.Journal.Reading

/-!
# Following a journal that is being written

A reader follows a row of records while the file that holds it grows. It is given the records in order, and each as soon
as it is all there, as long as it is never told that there is nothing just when the file ends within a sync word. Where
that happens, the reader goes past the start of the record and does not find it any more.

* `CutInSync`: a file of some length ends within a sync word.
* `Unbroken`: no answer that there is nothing was given at such a length.

Results:

* `scans_unbroken`: where the reader stands then, and what it was given.
* `scans_broken`: there is no room for all records otherwise.
* `Journal.follow_returns`: the records are given back exactly when no such answer was given.
-/

namespace PubSub.Journal

variable {rs : List Record} {ns : List Nat} {n k : Nat}

/-! ## Files that end within a sync word -/

/-- The first `n` bytes of a row end after one, two or three bytes of the sync word of a record. -/
def CutInSync (rs : List Record) (n : Nat) : Prop := ∃ k < rs.length, startOf rs k < n ∧ n < startOf rs k + 4

/-- Wherever nothing was found, at the lengths `ns` of the file, the file did not end within a sync word. -/
def Unbroken {α : Type} (rs : List Record) (nothing : α) (ns : List Nat) (answers : List α) : Prop :=
  ∀ p ∈ ns.zip answers, p.2 = nothing → ¬ CutInSync rs p.1

/-- The sync word in which a file ends is the one of the first record that is not all there. -/
theorem cutInSync_iff (hlow : startOf rs k ≤ n) (hhigh : k < rs.length → n < startOf rs (k + 1)) :
    CutInSync rs n ↔ k < rs.length ∧ startOf rs k < n ∧ n < startOf rs k + 4 := by
  refine ⟨fun ⟨i, hi, hstart, hend⟩ => ?_, fun h => ⟨k, h⟩⟩
  rcases Nat.lt_trichotomy i k with hik | rfl | hki
  · -- a record before is longer than its sync word
    have hsize := startOf_succ hi
    rw [Record.size_encode, Record.length, headerSize] at hsize
    have hnext : startOf rs (i + 1) ≤ startOf rs k := startOf_mono hik
    omega
  · exact ⟨hi, hstart, hend⟩
  · have hnext : startOf rs (k + 1) ≤ startOf rs i := startOf_mono hki
    have := hhigh (by omega)
    omega

/-! ## The first bytes of a row -/

/-- The first `n` bytes of a row. -/
def part (rs : List Record) (n : Nat) : ByteArray := (row rs).extract 0 n

theorem size_part (hn : n ≤ (row rs).size) : (part rs n).size = n := by
  rw [part, ByteArray.size_extract]
  omega

theorem prefix_part (hn : n ≤ (row rs).size) : Bytes.Prefix (part rs n) (row rs) := by
  refine ⟨(row rs).extract n (row rs).size, ?_⟩
  rw [part, ← ByteArray.extract_eq_extract_append_extract n (Nat.zero_le n) hn, ByteArray.extract_zero_size]

theorem scans_concat (c : Nat) (fs : List ByteArray) (f : ByteArray) :
    scans c (fs ++ [f]) =
      ((scans c fs).1 ++ [(scan f (scans c fs).2).found.map Prod.snd], (scan f (scans c fs).2).cursor) := by
  induction fs generalizing c with
  | nil => rfl
  | cons g fs ih => rw [List.cons_append, scans, scans, ih]; rfl

theorem length_scans (c : Nat) (fs : List ByteArray) : (scans c fs).1.length = fs.length := by
  induction fs generalizing c with
  | nil => rfl
  | cons f fs ih => rw [scans, List.length_cons, List.length_cons, ih]

/-- The answers of a reader that follows a row, at some lengths of the file, and where it stands afterwards. -/
def chase (rs : List Record) (ns : List Nat) : List (Option Record) × Nat := scans 0 (ns.map (part rs))

theorem chase_concat (rs : List Record) (ns : List Nat) (n : Nat) :
    chase rs (ns ++ [n]) =
      ((chase rs ns).1 ++ [(scan (part rs n) (chase rs ns).2).found.map Prod.snd],
        (scan (part rs n) (chase rs ns).2).cursor) := by
  rw [chase, List.map_append, List.map_singleton, scans_concat]
  rfl

theorem unbroken_concat {answer : Option Record} {answers : List (Option Record)}
    (hlength : ns.length = answers.length) :
    Unbroken rs none (ns ++ [n]) (answers ++ [answer]) ↔
      Unbroken rs none ns answers ∧ (answer = none → ¬ CutInSync rs n) := by
  rw [Unbroken, List.zip_append hlength]
  constructor
  · intro h
    exact ⟨fun p hp => h p (List.mem_append_left _ hp),
      h (n, answer) (List.mem_append_right _ (List.mem_singleton_self _))⟩
  · rintro ⟨hbefore, hlast⟩ p hp
    rcases List.mem_append.1 hp with hp | hp
    · exact hbefore p hp
    · rw [List.zip_cons_cons, List.zip_nil_left, List.mem_singleton] at hp
      subst hp
      exact hlast

theorem length_chase (rs : List Record) (ns : List Nat) : ns.length = (chase rs ns).1.length := by
  rw [chase, length_scans, List.length_map]

/-! ## Following without a break -/

/-- The reader stands at the start of record number `k` and was given the records before it. -/
structure Level (rs : List Record) (ns : List Nat) (k : Nat) : Prop where
  le_length : k ≤ rs.length
  given : (chase rs ns).1.filterMap id = rs.take k
  place : (chase rs ns).2 = startOf rs k
  reached : ∀ n, (∀ m ∈ ns, m ≤ n) → startOf rs k ≤ n
  /-- If there was nothing at last, the next record is not all there. -/
  upToDate : ∀ n, ns.getLast? = some n → (chase rs ns).1.getLast? = some none → k < rs.length → n < startOf rs (k + 1)

theorem level_nil (rs : List Record) : Level rs [] 0 :=
  ⟨Nat.zero_le _, rfl, rfl, fun _ _ => Nat.zero_le _, fun _ h => nomatch h⟩

/-- A read gives the next record, or nothing and leaves the reader where it stands, or finds the file cut within a sync
word and takes the reader past the start of a record. -/
theorem Level.step (hrs : ∀ r ∈ rs, r.Fits) (h : Level rs ns k) (hmono : ∀ m ∈ ns, m ≤ n) (hn : n ≤ (row rs).size) :
    (∃ hk : k < rs.length, Level rs (ns ++ [n]) (k + 1) ∧ (chase rs (ns ++ [n])).1 = (chase rs ns).1 ++ [some rs[k]]) ∨
    (Level rs (ns ++ [n]) k ∧ (chase rs (ns ++ [n])).1 = (chase rs ns).1 ++ [none] ∧ ¬ CutInSync rs n) ∨
    (chase rs (ns ++ [n]) = ((chase rs ns).1 ++ [none], n) ∧ startOf rs k < n ∧ CutInSync rs n) := by
  have hreach := h.reached n hmono
  have hsize := size_part hn
  have hbound : ∀ m, (∀ i ∈ ns ++ [n], i ≤ m) → n ≤ m := fun m hm =>
    hm n (List.mem_append_right _ (List.mem_singleton_self _))
  have hscan := scan_row (prefix_part hn) hrs h.le_length (by rw [hsize]; exact hreach)
  rw [hsize] at hscan
  rcases hscan with ⟨hk, hwhole, hfound⟩ | ⟨hnone, hshort, hcut⟩ | ⟨hk, hlow, hhigh, hnone⟩
  · have hchase : chase rs (ns ++ [n]) = ((chase rs ns).1 ++ [some rs[k]], startOf rs (k + 1)) := by
      rw [chase_concat, h.place, hfound]
      rfl
    refine Or.inl ⟨hk, ⟨hk, ?_, ?_, fun m hm => Nat.le_trans hwhole (hbound m hm), fun m _ hlast => ?_⟩, ?_⟩
    · rw [hchase, filterMap_concat, h.given, List.take_succ_eq_append_getElem hk]
      rfl
    · rw [hchase]
    · rw [hchase, List.getLast?_concat] at hlast
      cases hlast
    · rw [hchase]
  · have hchase : chase rs (ns ++ [n]) = ((chase rs ns).1 ++ [none], startOf rs k) := by
      rw [chase_concat, h.place, hnone]
      rfl
    refine Or.inr (Or.inl ⟨⟨h.le_length, ?_, ?_, fun m hm => Nat.le_trans hreach (hbound m hm), fun m hm _ hk => ?_⟩,
      ?_, ?_⟩)
    · rw [hchase, filterMap_concat, h.given]
      exact List.append_nil _
    · rw [hchase]
    · rw [List.getLast?_concat] at hm
      cases hm
      exact hshort hk
    · rw [hchase]
    · rw [cutInSync_iff hreach hshort]
      exact hcut
  · refine Or.inr (Or.inr ⟨?_, hlow, k, hk, hlow, hhigh⟩)
    rw [chase_concat, h.place, hnone]
    rfl

/-- Sizes that grow up to a bound, the last one taken off. -/
theorem growing_concat {n bound : Nat} (hns : (ns ++ [n]).Pairwise (· ≤ ·)) (hle : ∀ m ∈ ns ++ [n], m ≤ bound) :
    ns.Pairwise (· ≤ ·) ∧ (∀ m ∈ ns, m ≤ n) ∧ (∀ m ∈ ns, m ≤ bound) ∧ n ≤ bound := by
  obtain ⟨hbefore, -, hlast⟩ := List.pairwise_append.1 hns
  refine ⟨hbefore, fun m hm => hlast m hm n (List.mem_singleton_self n), fun m hm => ?_, ?_⟩
  · exact hle m (List.mem_append_left _ hm)
  · exact hle n (List.mem_append_right _ (List.mem_singleton_self n))

/-- As long as it is not broken off, the reader keeps level with the file. -/
theorem scans_unbroken (hrs : ∀ r ∈ rs, r.Fits) (hns : ns.Pairwise (· ≤ ·)) (hle : ∀ n ∈ ns, n ≤ (row rs).size)
    (h : Unbroken rs none ns (chase rs ns).1) : ∃ k, Level rs ns k := by
  -- induction on the reads, the last one taken off
  induction ns using List.reverseRecOn with
  | nil => exact ⟨0, level_nil rs⟩
  | append_singleton ns n ih =>
    obtain ⟨hns, hmono, hbefore, hn⟩ := growing_concat hns hle
    rw [chase_concat, unbroken_concat (length_chase rs ns)] at h
    obtain ⟨k, hk⟩ := ih hns hbefore h.1
    rcases hk.step hrs hmono hn with ⟨_, hlevel, -⟩ | ⟨hlevel, -, -⟩ | ⟨hchase, -, hcut⟩
    · exact ⟨k + 1, hlevel⟩
    · exact ⟨k, hlevel⟩
    · rw [chase_concat] at hchase
      have hnone := List.append_inj_right' (congrArg Prod.fst hchase) rfl
      exact absurd hcut (h.2 (List.cons.inj hnone).1)

/-- Once it is broken off, the reader stands further on than there is room for what it was given. -/
theorem scans_broken (hrs : ∀ r ∈ rs, r.Fits) (hns : ns.Pairwise (· ≤ ·)) (hle : ∀ n ∈ ns, n ≤ (row rs).size)
    (h : ¬ Unbroken rs none ns (chase rs ns).1) :
    (row ((chase rs ns).1.filterMap id)).size < (chase rs ns).2 ∧ (chase rs ns).2 ≤ (row rs).size := by
  induction ns using List.reverseRecOn with
  | nil => exact absurd (fun p hp => by cases hp) h
  | append_singleton ns n ih =>
    obtain ⟨hns, hmono, hbefore, hn⟩ := growing_concat hns hle
    by_cases hclear : Unbroken rs none ns (chase rs ns).1
    · -- this read is the one that breaks off
      obtain ⟨k, hk⟩ := scans_unbroken hrs hns hbefore hclear
      rcases hk.step hrs hmono hn with ⟨_, -, hanswers⟩ | ⟨-, hanswers, hcut⟩ | ⟨hchase, hlow, -⟩
      · rw [hanswers, unbroken_concat (length_chase rs ns)] at h
        exact absurd ⟨hclear, fun hnone => nomatch hnone⟩ h
      · rw [hanswers, unbroken_concat (length_chase rs ns)] at h
        exact absurd ⟨hclear, fun _ => hcut⟩ h
      · rw [hchase, filterMap_concat, hk.given]
        refine ⟨?_, hn⟩
        show (row (rs.take k ++ [])).size < n
        rw [List.append_nil]
        exact hlow
    · obtain ⟨hroom, hlimit⟩ := ih hns hbefore hclear
      obtain ⟨hadvance, hstay⟩ := advance_scan (f := part rs n) (chase rs ns).2
      rw [chase_concat]
      refine ⟨?_, hstay hlimit (by rw [size_part hn]; exact hn)⟩
      rw [filterMap_concat, row_append, ByteArray.size_append]
      exact Nat.lt_of_lt_of_le (Nat.add_lt_add_right hroom _) hadvance

/-! ## Whole runs -/

theorem unbroken_map_ok {found : List (Option Record)} :
    Unbroken rs (.ok none) ns (found.map (Except.ok (ε := Error))) ↔ Unbroken rs none ns found := by
  rw [Unbroken, List.zip_map_right]
  constructor
  · intro h p hp hnone
    exact h (Prod.map id Except.ok p) (List.mem_map_of_mem hp) (congrArg Except.ok hnone)
  · intro h p hp hnone
    obtain ⟨q, hq, rfl⟩ := List.mem_map.1 hp
    exact h q hq (Except.ok.inj hnone)

/-- A reader follows a row while its file grows, through the lengths `ns`. If it is never told that there is nothing
where the file ends within a sync word, it has at each time been given an initial part of the records, and all that are
there when it is told that there is nothing. When it is told so at the end of the row, it was given all records exactly
if this is so. -/
theorem follow_returns (hrs : ∀ r ∈ rs, r.Fits) {j : Journal} {file : Nat} (hj : j.use = .reading file 0)
    {ss : List Store} (hss : ss.map (fun s => s.node file) = ns.map fun n => .file (part rs n))
    (hns : ns.Pairwise (· ≤ ·)) (hle : ∀ n ∈ ns, n ≤ (row rs).size) :
    (∀ answer ∈ (j.follow ss).1, ∃ found, answer = .ok found) ∧
      (Unbroken rs (.ok none) ns (j.follow ss).1 →
        (∀ i, returned ((j.follow ss).1.take i) <+: rs) ∧
          ∀ n, ns.getLast? = some n → (j.follow ss).1.getLast? = some (.ok none) →
            ∀ k ≤ rs.length, startOf rs k ≤ n → k ≤ (returned (j.follow ss).1).length) ∧
      (ns.getLast? = some (row rs).size → (j.follow ss).1.getLast? = some (.ok none) →
        (returned (j.follow ss).1 = rs ↔ Unbroken rs (.ok none) ns (j.follow ss).1)) := by
  have hfiles : ss.map (fun s => s.node file) = (ns.map (part rs)).map .file := by
    rw [hss, List.map_map]
    rfl
  have hanswers : (j.follow ss).1 = (chase rs ns).1.map .ok := (follow_eq_scans hj hfiles).1
  have hnothing : (j.follow ss).1.getLast? = some (.ok none) → (chase rs ns).1.getLast? = some none := by
    rw [hanswers, List.getLast?_map, Option.map_eq_some_iff]
    rintro ⟨answer, hlast, hnone⟩
    rw [hlast, Except.ok.inj hnone]
  -- what is complete was given
  have hall : ∀ k, Level rs ns k → ∀ n, ns.getLast? = some n → (chase rs ns).1.getLast? = some none →
      ∀ i ≤ rs.length, startOf rs i ≤ n → i ≤ k := by
    intro k hk n hn hlast i hi hstart
    by_contra hki
    have hnext : startOf rs (k + 1) ≤ startOf rs i := startOf_mono (Nat.not_le.1 hki)
    have := hk.upToDate n hn hlast (by omega)
    omega
  have htake : ∀ i, returned ((j.follow ss).1.take i) <+: returned (j.follow ss).1 := fun i =>
    (List.take_prefix i (j.follow ss).1).filterMap _
  have hreturned : returned (j.follow ss).1 = (chase rs ns).1.filterMap id := by rw [hanswers, returned_ok]
  have hbreak : Unbroken rs (.ok none) ns (j.follow ss).1 ↔ Unbroken rs none ns (chase rs ns).1 := by
    rw [hanswers, unbroken_map_ok]
  rw [hbreak, hreturned]
  rw [hreturned] at htake
  refine ⟨fun answer h => ?_, fun hclear => ?_, fun hn hlast => ⟨fun hgiven => ?_, fun hclear => ?_⟩⟩
  · rw [hanswers] at h
    obtain ⟨found, -, rfl⟩ := List.mem_map.1 h
    exact ⟨found, rfl⟩
  · obtain ⟨k, hk⟩ := scans_unbroken hrs hns hle hclear
    rw [hk.given] at htake ⊢
    refine ⟨fun i => (htake i).trans (List.take_prefix k rs), fun n hn hlast i hi hstart => ?_⟩
    rw [List.length_take, Nat.min_eq_left hk.le_length]
    exact hall k hk n hn (hnothing hlast) i hi hstart
  · by_contra hbroken
    have hroom := scans_broken hrs hns hle hbroken
    rw [hgiven] at hroom
    omega
  · obtain ⟨k, hk⟩ := scans_unbroken hrs hns hle hclear
    have hwhole := hall k hk _ hn (hnothing hlast) rs.length (Nat.le_refl _) (Nat.le_of_eq (startOf_length rs))
    rw [hk.given, List.take_of_length_le hwhole]

/-! ## A file that ends within a sync word -/

/-- A record of 29 bytes. -/
def lone : Record := ⟨0, 5, "c", .empty⟩

/-- Stores in which file 0 holds the first bytes of a row. -/
def growing (rs : List Record) (ns : List Nat) : List Store := ns.map fun n => ⟨#[.file (part rs n)], [], []⟩

theorem node_growing (rs : List Record) (ns : List Nat) :
    (growing rs ns).map (fun s => s.node 0) = ns.map fun n => .file (part rs n) := by
  rw [growing, List.map_map]
  rfl

theorem fits_lone : ∀ r ∈ [lone], r.Fits := by
  intro r hr
  obtain rfl := List.mem_singleton.1 hr
  exact ⟨by decide, by decide, by decide⟩

/-- A reader of file 0 that has not read anything. -/
def reader : Journal := ⟨.empty, .read, .reading 0 0⟩

theorem follow_reader (rs : List Record) (ns : List Nat) :
    (reader.follow (growing rs ns)).1 = (chase rs ns).1.map .ok := by
  have hfiles : (growing rs ns).map (fun s => s.node 0) = (ns.map (part rs)).map .file := by
    rw [node_growing, List.map_map]
    rfl
  exact (follow_eq_scans (j := reader) rfl hfiles).1

theorem getLast?_of_isNone {answers : List (Option Record)} (h : answers.getLast?.map Option.isNone = some true) :
    answers.getLast? = some none := by
  obtain ⟨answer, hlast, hnone⟩ := Option.map_eq_some_iff.1 h
  rw [hlast, Option.isNone_iff_eq_none.1 hnone]

theorem size_lone : (row [lone]).size = 29 := by decide +kernel

/-- A record that is cut after ten bytes is given once it is complete. -/
theorem follow_returns_lone : returned (reader.follow (growing [lone] [10, 29, 29])).1 = [lone] := by
  have hnone : (chase [lone] [10, 29, 29]).1.getLast?.map Option.isNone = some true := by decide +kernel
  have hle : ∀ n ∈ [10, 29, 29], n ≤ (row [lone]).size := by
    rw [size_lone]
    decide
  have hlast : (reader.follow (growing [lone] [10, 29, 29])).1.getLast? = some (.ok none) := by
    rw [follow_reader, List.getLast?_map, getLast?_of_isNone hnone]
    rfl
  refine ((follow_returns fits_lone (j := reader) rfl (node_growing _ _) (by decide) hle).2.2
    (by rw [size_lone]; rfl) hlast).2 ?_
  intro p hp _ hcut
  obtain ⟨k, hk, hlow, hhigh⟩ := hcut
  obtain rfl : k = 0 := Nat.lt_one_iff.1 hk
  have hmem : p.1 ∈ [10, 29, 29] := (List.of_mem_zip hp).1
  rw [startOf_zero] at hhigh
  simp only [List.mem_cons, List.not_mem_nil, or_false] at hmem
  omega

/-- A record that is cut after one byte is not given any more, if the reader was told then that there is nothing. -/
theorem follow_misses_lone :
    ¬ ∀ (rs : List Record) (ns : List Nat) (ss : List Store), (∀ r ∈ rs, r.Fits) →
      ss.map (fun s => s.node 0) = ns.map (fun n => .file (part rs n)) → ns.Pairwise (· ≤ ·) →
      (∀ n ∈ ns, n ≤ (row rs).size) →
        returned (reader.follow ss).1 <+: rs ∧
          ∀ n, ns.getLast? = some n → (reader.follow ss).1.getLast? = some (.ok none) →
            ∀ k ≤ rs.length, startOf rs k ≤ n → k ≤ (returned (reader.follow ss).1).length := by
  intro h
  have hle : ∀ n ∈ [1, 29], n ≤ (row [lone]).size := by
    rw [size_lone]
    decide
  have hnone : (chase [lone] [1, 29]).1.getLast?.map Option.isNone = some true := by decide +kernel
  have hmissed : ((chase [lone] [1, 29]).1.filterMap id).length = 0 := by decide +kernel
  have hlast : (reader.follow (growing [lone] [1, 29])).1.getLast? = some (.ok none) := by
    rw [follow_reader, List.getLast?_map, getLast?_of_isNone hnone]
    rfl
  have hgiven := (h [lone] [1, 29] _ fits_lone (node_growing _ _) (by decide) hle).2 29 rfl hlast 1 (Nat.le_refl _)
    (Nat.le_of_eq (startOf_length [lone] ▸ size_lone))
  rw [follow_reader, returned_ok, hmissed] at hgiven
  exact absurd hgiven (by decide)

end PubSub.Journal
