import PubSub.Proofs.Journal.Following
import PubSub.Proofs.Journal.Images
import PubSub.Proofs.Journal.Sessions

/-!
# Going on behind a torn record

A writer that is stopped while it writes a record leaves the first bytes of it at the end of the file. The next session
goes on behind them: it counts the records that are all there, and the torn one stays where it is. What a reader makes
of it then depends on the bytes that were added, which the torn header may claim for its body.

* `torn`: what is left of a record; `resumed`: the file after records were added behind it.
* `Passable`: a reader goes past what is left.

Results:

* `visits_torn`: what is left of a record is not counted.
* `visits_resumed_iff`: a reader finds the old records and the added ones exactly if it can go past what is left.
* `Journal.append_resumes_iff`: so does a reader of the file after the session.
-/

namespace PubSub.Journal

open Bytes

variable {old new : List Record} {r : Record} {n : Nat}

/-- The first `n` bytes of a record. -/
def torn (r : Record) (n : Nat) : ByteArray := r.encode.extract 0 n

theorem size_torn (hn : n < r.encode.size) : (torn r n).size = n := by
  rw [torn, ByteArray.size_extract]
  omega

theorem prefix_torn (hn : n < r.encode.size) : Prefix (torn r n) r.encode := by
  refine ⟨r.encode.extract n r.encode.size, ?_⟩
  rw [torn, ← ByteArray.extract_eq_extract_append_extract n (Nat.zero_le n) (Nat.le_of_lt hn),
    ByteArray.extract_zero_size]

/-- Sync words do not overlap. -/
theorem le_of_syncAt {f : ByteArray} {p q : Nat} (hp : syncAt f p = true) (hq : syncAt f q = true) (hlt : p < q) :
    p + 4 ≤ q := by
  have hroom := lt_size_of_syncAt hp
  by_contra hover
  unfold syncAt at hp hq
  rw [dif_pos hroom] at hp
  rw [dif_pos (by by_contra hno; rw [dif_neg hno] at hq; cases hq)] at hq
  simp only [Bool.and_eq_true, beq_iff_eq] at hp hq
  obtain ⟨⟨⟨-, h₁⟩, h₂⟩, h₃⟩ := hp
  have hfirst := hq.1.1.1
  obtain rfl | rfl | rfl : q = p + 1 ∨ q = p + 2 ∨ q = p + 3 := by omega
  · exact absurd (h₁.symm.trans hfirst) (by decide)
  · exact absurd (h₂.symm.trans hfirst) (by decide)
  · exact absurd (h₃.symm.trans hfirst) (by decide)

/-! ## Before the session -/

/-- A row with a torn record behind it is the start of a row. -/
theorem prefix_row_torn (old : List Record) (hn : n < r.encode.size) :
    Prefix (row old ++ torn r n) (row (old ++ [r])) := by
  obtain ⟨rest, hrest⟩ := prefix_torn hn
  exact ⟨rest, by rw [row_append, row_singleton, ByteArray.append_assoc, ← hrest]⟩

theorem fits_concat (hold : ∀ x ∈ old, x.Fits) (hr : r.Fits) : ∀ x ∈ old ++ [r], x.Fits := by
  intro x hx
  rcases List.mem_append.1 hx with hx | hx
  · exact hold x hx
  · exact List.mem_singleton.1 hx ▸ hr

/-- At what is left of a record nothing is found. -/
theorem found_torn (hold : ∀ x ∈ old, x.Fits) (hr : r.Fits) (hn : n < r.encode.size) :
    (scan (row old ++ torn r n) (row old).size).found = none := by
  have hlength : old.length < (old ++ [r]).length := by simp
  have hstart := startOf_concat old r
  have hnext : startOf (old ++ [r]) (old.length + 1) = (row old).size + r.encode.size := by
    rw [startOf_succ hlength, hstart, List.getElem_concat_length rfl]
  have hsize : (row old ++ torn r n).size = (row old).size + n := by rw [ByteArray.size_append, size_torn hn]
  have hscan := scan_row (prefix_row_torn old hn) (fits_concat hold hr) (Nat.le_of_lt hlength) (by omega)
  rw [hstart] at hscan
  rcases hscan with ⟨_, hwhole, -⟩ | ⟨hnone, -⟩ | ⟨-, -, -, hnone⟩
  · omega
  · rw [hnone]
  · rw [hnone]

/-- What is left of a record is not counted: a reader finds the records before it and then nothing. -/
theorem visits_torn (hold : ∀ x ∈ old, x.Fits) (hr : r.Fits) (hn : n < r.encode.size) :
    visits (row old ++ torn r n) 0 = placed 0 old := by
  have hlength : old.length < (old ++ [r]).length := by simp
  have hstart := startOf_concat old r
  have hstands : Stands (row old ++ torn r n) (row old) 0 := (stands_self _).left
  have hvisits := visits_row hstands hold fun _ hroom => by
    have hsync := syncAt_startOf (prefix_row_torn old hn) hlength (by rw [hstart]; omega)
    rwa [hstart, ← Nat.zero_add (row old).size] at hsync
  rw [hvisits, Nat.zero_add, visits_eq, found_torn hold hr hn, List.append_nil]

/-! ## After the session -/

/-- The file after records were added behind what is left of one. -/
def resumed (old : List Record) (r : Record) (n : Nat) (new : List Record) : ByteArray :=
  row old ++ torn r n ++ row new

/-- A reader goes past what is left of a record: the record before it is followed by a sync word, and nothing in what
is left looks like a record, now that there are other bytes behind it. -/
def Passable (old : List Record) (r : Record) (n : Nat) (new : List Record) : Prop :=
  (old = [] ∨ n = 0 ∨ 4 ≤ n) ∧ Clear (resumed old r n new) (row old).size ((row old).size + n)

theorem size_resumed (old new : List Record) (hn : n < r.encode.size) :
    (resumed old r n new).size = (row old).size + n + (row new).size := by
  rw [resumed, ByteArray.size_append, ByteArray.size_append, size_torn hn]

theorem stands_old (old : List Record) (r : Record) (n : Nat) (new : List Record) :
    Stands (resumed old r n new) (row old) 0 := (stands_self _).left.left

theorem stands_new (old new : List Record) (hn : n < r.encode.size) :
    Stands (resumed old r n new) (row new) ((row old).size + n) := by
  have h := (stands_self (resumed old r n new)).right
  rwa [Nat.zero_add, ByteArray.size_append, size_torn hn] at h

/-- Behind the old records there is a sync word, unless it is cut off. -/
theorem syncAt_resumed (hn : n < r.encode.size) (hnew : new ≠ []) (hword : n = 0 ∨ 4 ≤ n) :
    syncAt (resumed old r n new) (row old).size = true := by
  rcases hword with rfl | hword
  · exact syncAt_of_stands_row (stands_new old new hn) hnew
  · have hleft : Stands (torn r n) (ofNat 4 syncWord.toNat) 0 :=
      (stands_syncWord (stands_self r.encode).left.left).within (prefix_torn hn)
        (by rw [size_ofNat, size_torn hn]; omega)
    have htorn : Stands (resumed old r n new) (torn r n) (0 + (row old).size) := (stands_self _).left.right
    rw [Nat.zero_add] at htorn
    exact syncAt_of_stands (htorn.trans hleft)

/-- A cut off sync word is none. -/
theorem syncAt_cut (hn : n < r.encode.size) (hnew : new ≠ []) (hcut : ¬ (n = 0 ∨ 4 ≤ n)) :
    syncAt (resumed old r n new) (row old).size = false := by
  by_contra hsync
  have := le_of_syncAt (by simpa using hsync) (syncAt_of_stands_row (stands_new old new hn) hnew) (by omega)
  omega

theorem visits_new (hfits : ∀ x ∈ new, x.Fits) (hn : n < r.encode.size) :
    visits (resumed old r n new) ((row old).size + n) = placed ((row old).size + n) new := by
  have hsize := size_resumed old new hn
  have hvisits := visits_row (stands_new old new hn) hfits fun _ hroom => by omega
  rw [hvisits, ← hsize, visits_eq, scan_of_end rfl, List.append_nil]

/-- A reader finds the old records and the added ones, each where it stands, exactly if nothing was added or the reader
can go past what is left. -/
theorem visits_resumed_iff (hold : ∀ x ∈ old, x.Fits) (hr : r.Fits) (hn : n < r.encode.size)
    (hfits : ∀ x ∈ new, x.Fits) :
    visits (resumed old r n new) 0 = placed 0 old ++ placed ((row old).size + n) new ↔
      new = [] ∨ Passable old r n new := by
  have hsize := size_resumed old new hn
  by_cases hnew : new = []
  · subst hnew
    rw [resumed, row, ByteArray.append_empty, visits_torn hold hr hn, placed, List.append_nil]
    exact iff_of_true rfl (Or.inl rfl)
  rw [or_iff_right hnew]
  -- the old records are found if the last of them is followed by a sync word
  have hbefore (hword : old = [] ∨ n = 0 ∨ 4 ≤ n) :
      visits (resumed old r n new) 0 = placed 0 old ++ visits (resumed old r n new) (row old).size := by
    have hvisits := visits_row (stands_old old r n new) hold fun hne _ => by
      rw [Nat.zero_add]
      exact syncAt_resumed hn hnew (hword.resolve_left hne)
    rwa [Nat.zero_add] at hvisits
  constructor
  · intro hall
    have hword : old = [] ∨ n = 0 ∨ 4 ≤ n := by
      by_contra hno
      obtain ⟨hne, hcut⟩ := not_or.1 hno
      obtain ⟨init, last, rfl⟩ : ∃ init last, old = init ++ [last] :=
        ⟨_, _, (List.dropLast_concat_getLast hne).symm⟩
      have hmem : ((row init).size, last) ∈ visits (resumed (init ++ [last]) r n new) 0 := by
        rw [hall, placed_append, Nat.zero_add, placed]
        exact List.mem_append_left _ (List.mem_append_right _ List.mem_cons_self)
      have hfollowed := followed_of_mem_visits hmem
      have hend : (row init).size + last.encode.size = (row (init ++ [last])).size := by
        rw [row_append, row_singleton, ByteArray.size_append]
      have hroom := lt_size_of_syncAt (syncAt_of_stands_row (stands_new (init ++ [last]) new hn) hnew)
      have hsync := hfollowed (by simp only [hend]; omega)
      simp only [hend, syncAt_cut hn hnew hcut] at hsync
      cases hsync
    refine ⟨hword, ?_⟩
    rw [hbefore hword] at hall
    obtain ⟨x, rest, rfl⟩ := List.exists_cons_of_ne_nil hnew
    exact clear_of_scan (scan_of_visits_cons (List.append_cancel_left hall))
  · rintro ⟨hword, hclear⟩
    rw [hbefore hword, visits_of_clear (Nat.le_add_right ..) (by omega) hclear, visits_new hfits hn]

/-! ## Sessions -/

variable {s : Store} {path : ByteArray} {id : Nat}

/-- A session adds the records that it takes behind what is left, numbered after those that are all there. -/
theorem session_torn (hold : ∀ x ∈ old, x.Fits) (hr : r.Fits) (hn : n < r.encode.size)
    (hs : s.Holds path id (row old ++ torn r n)) (cs : List Call) :
    ∃ t i, session s path .append cs = .ok t ∧
      t.Holds path i (resumed old r n (Call.records old.length (Call.accepted cs))) := by
  obtain ⟨j, hopen, hcontinues⟩ := open_behind hs
  have hcount : (scanAll (row old ++ torn r n) 0).records.length = old.length := by
    rw [← map_visits, visits_torn hold hr hn, map_placed]
  rw [hcount] at hcontinues
  exact session_of_continues hopen hcontinues cs

/-- After a session that goes on behind what is left of a record, a reader finds the old records and then those that the
session took, each where it stands, exactly if the session took none or the reader can go past what is left. The
records are given back in order then, and the new ones have the numbers after the old ones. -/
theorem append_resumes_iff (hold : ∀ x ∈ old, x.Fits) (hr : r.Fits) (hn : n < r.encode.size)
    (hs : s.Holds path id (row old ++ torn r n)) (cs : List Call)
    (hnew : new = Call.records old.length (Call.accepted cs)) :
    ∃ t i, session s path .append cs = .ok t ∧ t.Holds path i (resumed old r n new) ∧
      (visits (resumed old r n new) 0 = placed 0 old ++ placed ((row old).size + n) new ↔
        new = [] ∨ Passable old r n new) ∧
      (new = [] ∨ Passable old r n new → ∃ j k, openFile t path .read = (.ok j, t, []) ∧
        j.follow (List.replicate ((old ++ new).length + 1) t) =
          ((old ++ new).map (fun x => .ok (some x)) ++ [.ok none], k)) := by
  obtain ⟨t, i, hsession, ht⟩ := session_torn hold hr hn hs cs
  rw [← hnew] at ht
  have hfits : ∀ x ∈ new, x.Fits := by
    rw [hnew]
    exact Call.fits_accepted cs _
  have hiff := visits_resumed_iff hold hr hn hfits
  refine ⟨t, i, hsession, ht, hiff, fun hpass => ?_⟩
  obtain ⟨j, k, hopen, hfollow⟩ := follow_visits ht
  have hrecords : (visits (resumed old r n new) 0).map Prod.snd = old ++ new := by
    rw [hiff.2 hpass, List.map_append, map_placed, map_placed]
  refine ⟨j, k, hopen, ?_⟩
  rw [← hrecords, List.length_map, List.map_map]
  exact hfollow

/-! ## Records that are torn -/

/-- A store in which a file holds some bytes. -/
def stored (content : ByteArray) : Store :=
  ((Store.start [[0x68]] [0x64]).add [[0x68], [0x61]] (.file content)).1

theorem holds_stored (content : ByteArray) : (stored content).Holds "a".toUTF8 3 content :=
  ⟨⟨_, Store.locate_add (Store.sound_start _ _) locate_start⟩, rfl, Store.node_add_self _ _ _⟩

/-- A header of which ten bytes are left claims, with the first bytes of the next record, an impossible channel name. -/
theorem append_resumes_lone :
    ∃ t j k, session (stored (row [lone] ++ torn lone 10)) "a".toUTF8 .append [⟨6, "d", .empty⟩] = .ok t ∧
      openFile t "a".toUTF8 .read = (.ok j, t, []) ∧
      j.follow (List.replicate 3 t) = ([.ok (some lone), .ok (some ⟨1, 6, "d", .empty⟩), .ok none], k) := by
  have hfits : lone.Fits := fits_lone lone List.mem_cons_self
  have hclear : Clear (resumed [lone] lone 10 [⟨1, 6, "d", .empty⟩]) (row [lone]).size ((row [lone]).size + 10) := by
    rw [size_lone]
    exact clear_of_isDamage (by decide +kernel)
  obtain ⟨t, i, hsession, -, -, hread⟩ := append_resumes_iff fits_lone hfits (n := 10) (by decide +kernel)
    (holds_stored _) [⟨6, "d", .empty⟩] rfl
  obtain ⟨j, k, hopen, hfollow⟩ := hread (Or.inr ⟨Or.inr (Or.inr (by decide)), hclear⟩)
  exact ⟨t, j, k, hsession, hopen, hfollow⟩

/-- If only the first byte of a header is left, the record before it is not followed by a sync word any more, and is
lost. -/
theorem append_loses_lone :
    ¬ ∀ (old : List Record) (r : Record) (n : Nat) (s : Store) (id : Nat) (cs : List Call), (∀ x ∈ old, x.Fits) →
      r.Fits → n < r.encode.size → s.Holds "a".toUTF8 id (row old ++ torn r n) →
        ∃ t j k, session s "a".toUTF8 .append cs = .ok t ∧ openFile t "a".toUTF8 .read = (.ok j, t, []) ∧
          j.follow (List.replicate ((old ++ Call.records old.length (Call.accepted cs)).length + 1) t) =
            ((old ++ Call.records old.length (Call.accepted cs)).map (fun x => .ok (some x)) ++ [.ok none], k) := by
  intro h
  have hfits : lone.Fits := fits_lone lone List.mem_cons_self
  have hn : 1 < lone.encode.size := by decide +kernel
  obtain ⟨t, j, k, hsession, hopen, hfollow⟩ :=
    h [lone] lone 1 _ 3 [⟨6, "d", .empty⟩] fits_lone hfits hn (holds_stored _)
  obtain ⟨u, i, hu, hholds⟩ := session_torn fits_lone hfits hn (holds_stored _) [⟨6, "d", .empty⟩]
  obtain rfl : t = u := Except.ok.inj (hsession.symm.trans hu)
  obtain rfl : j = ⟨_, .read, .reading i 0⟩ :=
    Except.ok.inj (congrArg Prod.fst (hopen.symm.trans (open_reading hholds)))
  have hnodes : (List.replicate 3 t).map (fun s => s.node i) =
      (List.replicate 3 (resumed [lone] lone 1 [⟨1, 6, "d", .empty⟩])).map .file := by
    rw [List.map_replicate, List.map_replicate, hholds.node]
    rfl
  have hanswers := congrArg returned (follow_eq_scans (j := ⟨"a".toUTF8, .read, .reading i 0⟩) rfl hnodes).1
  rw [returned_ok] at hanswers
  have hcount :
      ((scans 0 (List.replicate 3 (resumed [lone] lone 1 [⟨1, 6, "d", .empty⟩]))).1.filterMap id).length = 1 := by
    decide +kernel
  have hlength := congrArg (fun answers => (returned answers.1).length) hfollow
  exact absurd (hlength.symm.trans ((congrArg List.length hanswers).trans hcount)) (show ¬ 2 = 1 by decide)

end PubSub.Journal
