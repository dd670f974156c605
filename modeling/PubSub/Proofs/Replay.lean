import PubSub.Proofs.Journal.Images
import PubSub.Transport.Replay

/-!
# What replays give out

A replay without pauses gives out the wanted records in order, and its signal is up as long as one remains, whatever was
read ahead and whatever was wanted before.

* `Replay.rest`: the records that a replay has not gone past; `Replay.ahead`: those of them that are wanted.
* `Replay.skip`: the records that are left when the unwanted ones at the front are gone past.
* `Replay.Runs`: an open replay without pauses.
* `Replay.Exact`: an open replay, with pauses or not, whose signal tells whether a wanted record is ahead.

Results:

* `Replay.skip_findWanted`: the search for a wanted record goes past the unwanted ones before it and nothing else.
* `Replay.take_of_skip_cons`, `Replay.take_of_skip_nil`: what a replay gives out, and what it goes past then.
* `Replay.take_of_cons`, `Replay.take_of_nil`: the same of the wanted records alone.
* `Replay.refresh_rest`: bringing the signal up to date goes past nothing.
* `Replay.exact_refresh`, `Replay.Exact.take`: the signal is exact when it has been brought up to date, and stays so.
-/

namespace PubSub.Replay

open Journal

variable {r : Replay} {f : ByteArray} {wants : String → Bool} {file : Nat}

/-- The records that a replay has not gone past: the one read ahead, and those from where the reader stands on. -/
def rest (r : Replay) (f : ByteArray) : List Record := r.pending.toList ++ (scanAll f r.cursor).records

/-- The wanted ones among some records. -/
def wanted (wants : String → Bool) (rs : List Record) : List Record := rs.filter fun x => wants x.channel

/-- The wanted records that a replay has not gone past. -/
def ahead (r : Replay) (f : ByteArray) (wants : String → Bool) : List Record := wanted wants (r.rest f)

theorem wanted_cons_of_pos {x : Record} (hx : wants x.channel = true) (rs : List Record) :
    wanted wants (x :: rs) = x :: wanted wants rs :=
  List.filter_cons_of_pos hx

theorem wanted_cons_of_neg {x : Record} (hx : ¬ wants x.channel = true) (rs : List Record) :
    wanted wants (x :: rs) = wanted wants rs :=
  List.filter_cons_of_neg hx

/-- A replay that reads a file. -/
def Reads (r : Replay) (file : Nat) : Prop := ∃ c, r.journal.use = .reading file c

/-- A replay of a file that is open and does not wait for records to be due. -/
structure Runs (r : Replay) (file : Nat) : Prop where
  isOpen : r.closed = false
  unpaced : ¬ 0 < r.speed
  reads : r.Reads file
  consistent : r.signal.Consistent

/-! ## Going past unwanted records -/

/-- The records from the first wanted one on. -/
def skip (wants : String → Bool) (rs : List Record) : List Record := rs.dropWhile fun x => !wants x.channel

theorem skip_cons_of_pos {x : Record} (hx : wants x.channel = true) (rs : List Record) :
    skip wants (x :: rs) = x :: rs :=
  List.dropWhile_cons_of_neg (by simp [hx])

theorem skip_cons_of_neg {x : Record} (hx : ¬ wants x.channel = true) (rs : List Record) :
    skip wants (x :: rs) = skip wants rs :=
  List.dropWhile_cons_of_pos (by simpa using hx)

/-- The unwanted records at the front are no wanted ones. -/
theorem wanted_skip (rs : List Record) : wanted wants (skip wants rs) = wanted wants rs := by
  induction rs with
  | nil => rfl
  | cons x rs ih =>
    by_cases hx : wants x.channel = true
    · rw [skip_cons_of_pos hx]
    · rw [skip_cons_of_neg hx, wanted_cons_of_neg hx, ih]

/-- The record at which the going past ends is wanted. -/
theorem wants_of_skip_cons {rs xs : List Record} {x : Record} (h : skip wants rs = x :: xs) :
    wants x.channel = true := by
  have hhead := List.head?_dropWhile_not (fun x : Record => !wants x.channel) rs
  rw [show rs.dropWhile _ = x :: xs from h] at hhead
  simpa using hhead

theorem wanted_of_skip_cons {rs xs : List Record} {x : Record} (h : skip wants rs = x :: xs) :
    wanted wants rs = x :: wanted wants xs := by
  rw [← wanted_skip, h, wanted_cons_of_pos (wants_of_skip_cons h)]

theorem skip_eq_nil_iff {rs : List Record} : skip wants rs = [] ↔ wanted wants rs = [] := by
  constructor
  · intro h
    rw [← wanted_skip, h]
    rfl
  · intro h
    cases hskip : skip wants rs with
    | nil => rfl
    | cons x xs =>
      rw [wanted_of_skip_cons hskip] at h
      cases h

/-- The search for a wanted record goes past the unwanted ones before it and nothing else. -/
theorem skip_findWanted (f : ByteArray) (wants : String → Bool) (c : Nat) :
    skip wants (scanAll f c).records =
      (findWanted f wants c).1.toList ++ (scanAll f (findWanted f wants c).2.1).records ∧
    ((findWanted f wants c).1 = none → (scanAll f (findWanted f wants c).2.1).records = []) := by
  fun_induction findWanted f wants c with
  | case1 c s damages hnone =>
    have hrest : (scanAll f (scan f c).cursor).records = [] := records_scan_of_none hnone
    refine ⟨?_, fun _ => hrest⟩
    show skip wants (scanAll f c).records = [] ++ (scanAll f (scan f c).cursor).records
    rw [hrest, scanAll_eq, hnone]
    rfl
  | case2 c s damages p x hfound hwanted =>
    refine ⟨?_, fun hnone => nomatch hnone⟩
    rw [scanAll_eq, hfound]
    exact skip_cons_of_pos hwanted _
  | case3 c s damages p x hfound hunwanted rest ih =>
    refine ⟨?_, ih.2⟩
    rw [scanAll_eq, hfound]
    exact (skip_cons_of_neg hunwanted _).trans ih.1

theorem findWanted_eq_head? (f : ByteArray) (wants : String → Bool) (c : Nat) :
    (findWanted f wants c).1 = (skip wants (scanAll f c).records).head? := by
  obtain ⟨hsplit, hend⟩ := skip_findWanted f wants c
  rw [hsplit]
  cases hfound : (findWanted f wants c).1 with
  | none =>
    rw [hend hfound]
    rfl
  | some x => rfl

theorem isSome_findWanted_iff (f : ByteArray) (wants : String → Bool) (c : Nat) :
    (findWanted f wants c).1.isSome = true ↔ wanted wants (scanAll f c).records ≠ [] := by
  rw [findWanted_eq_head?, ne_eq, ← skip_eq_nil_iff]
  cases skip wants (scanAll f c).records <;> simp

/-! ## Reading ahead -/

theorem readAhead_eq (h : r.Reads file) (f : ByteArray) (wants : String → Bool) : (r.readAhead f wants).1 =
    { r with
      journal := { r.journal with use := .reading file (findWanted f wants r.cursor).2.1 }
      pending := (findWanted f wants r.cursor).1 } := by
  obtain ⟨c, hc⟩ := h
  simp only [readAhead, setCursor, hc]

/-- Reading ahead goes past unwanted records from where the reader stands. -/
theorem Reads.rest_readAhead (h : r.Reads file) (f : ByteArray) (wants : String → Bool) :
    (r.readAhead f wants).1.rest f = skip wants (scanAll f r.cursor).records ∧
      (r.readAhead f wants).1.pending = (skip wants (scanAll f r.cursor).records).head? := by
  rw [readAhead_eq h f wants]
  exact ⟨(skip_findWanted f wants r.cursor).1.symm, findWanted_eq_head? f wants r.cursor⟩

/-- Advancing moves the reader, and reads ahead, and does nothing else. -/
theorem Reads.advance_eq (h : r.Reads file) (f : ByteArray) (wants : String → Bool) :
    ∃ c pending, (r.advance f wants).1 =
      { r with journal := { r.journal with use := .reading file c }, pending } := by
  unfold Replay.advance
  split
  · exact ⟨_, _, readAhead_eq h f wants⟩
  · split
    · obtain ⟨c, hc⟩ := h
      exact ⟨c, r.pending, by rw [← hc]⟩
    · exact ⟨_, _, readAhead_eq h f wants⟩

/-- Advancing goes past unwanted records at the front, and the first one after them is read ahead then. -/
theorem Reads.rest_advance (h : r.Reads file) (f : ByteArray) (wants : String → Bool) :
    (r.advance f wants).1.rest f = skip wants (r.rest f) ∧
      (r.advance f wants).1.pending = (skip wants (r.rest f)).head? := by
  unfold Replay.advance
  split
  · rename_i hpending
    have hrest : r.rest f = (scanAll f r.cursor).records := by rw [rest, hpending]; rfl
    rw [hrest]
    exact h.rest_readAhead f wants
  · rename_i x hpending
    have hrest : r.rest f = x :: (scanAll f r.cursor).records := by rw [rest, hpending]; rfl
    by_cases hx : wants x.channel = true
    · rw [if_pos hx, hrest, skip_cons_of_pos hx]
      exact ⟨rfl, hpending⟩
    · rw [if_neg hx, hrest, skip_cons_of_neg hx]
      exact h.rest_readAhead f wants

theorem readAhead_rest (h : r.Runs file) (f : ByteArray) (wants : String → Bool) :
    (r.readAhead f wants).1.Runs file ∧
      (r.readAhead f wants).1.rest f = skip wants (scanAll f r.cursor).records ∧
      (r.readAhead f wants).1.pending = (skip wants (scanAll f r.cursor).records).head? := by
  refine ⟨?_, h.reads.rest_readAhead f wants⟩
  rw [readAhead_eq h.reads f wants]
  exact ⟨h.isOpen, h.unpaced, ⟨_, rfl⟩, h.consistent⟩

theorem advance_rest (h : r.Runs file) (f : ByteArray) (wants : String → Bool) :
    (r.advance f wants).1.Runs file ∧ (r.advance f wants).1.rest f = skip wants (r.rest f) ∧
      (r.advance f wants).1.pending = (skip wants (r.rest f)).head? := by
  refine ⟨?_, h.reads.rest_advance f wants⟩
  obtain ⟨c, pending, he⟩ := h.reads.advance_eq f wants
  rw [he]
  exact ⟨h.isOpen, h.unpaced, ⟨c, rfl⟩, h.consistent⟩

/-! ## Whatever the pace -/

theorem Reads.setCursor (h : r.Reads file) (c : Nat) : (r.setCursor c).Reads file := by
  obtain ⟨c₀, hc⟩ := h
  exact ⟨c, by simp only [Replay.setCursor, hc]⟩

theorem Reads.readAhead (h : r.Reads file) (f : ByteArray) (wants : String → Bool) :
    (r.readAhead f wants).1.Reads file :=
  h.setCursor _

theorem Reads.advance (h : r.Reads file) (f : ByteArray) (wants : String → Bool) :
    (r.advance f wants).1.Reads file := by
  unfold Replay.advance
  split
  · exact h.readAhead f wants
  · split
    · exact h
    · exact h.readAhead f wants

theorem Reads.due (h : r.Reads file) (now : Nat) (time : Timestamp) : (r.due now time).2.Reads file := by
  unfold Replay.due
  split <;> exact h

/-- A replay goes on reading its file. -/
theorem Reads.take (h : r.Reads file) (f : ByteArray) (wants : String → Bool) (now : Nat) :
    (r.take f wants now).2.1.Reads file := by
  have hadvance := h.advance f wants
  unfold Replay.take
  split
  · exact h
  · simp only
    split
    · exact hadvance
    · rename_i record _
      have hdue := hadvance.due now record.timestamp
      split
      · exact hdue
      · exact Reads.readAhead (r := { ((r.advance f wants).1.due now record.timestamp).2 with pending := none }) hdue f
          wants

/-! ## Taking -/

/-- The first wanted record is given out, and the unwanted ones behind it are gone past. -/
theorem take_of_skip_cons (h : r.Runs file) {x : Record} {xs : List Record} (hskip : skip wants (r.rest f) = x :: xs)
    (now : Nat) :
    ∃ r' notices, r.take f wants now = (.ok (.message x.message), r', notices) ∧ r'.Runs file ∧
      r'.rest f = skip wants xs ∧ (r'.signal.raised = true ↔ skip wants xs ≠ []) := by
  obtain ⟨hruns, hrest, hpending⟩ := advance_rest h f wants
  rw [hskip] at hrest hpending
  generalize hr : (r.advance f wants).1 = q at hruns hrest hpending
  have hbehind : (scanAll f q.cursor).records = xs := by
    rw [rest, hpending] at hrest
    exact (List.cons.inj hrest).2
  have hempty : Runs { q with pending := none } file := ⟨hruns.isOpen, hruns.unpaced, hruns.reads, hruns.consistent⟩
  obtain ⟨hread, hgone, hnext⟩ := readAhead_rest hempty f wants
  have htake : r.take f wants now = (.ok (.message x.message),
      { ({ q with pending := none }.readAhead f wants).1 with
        signal := ({ q with pending := none }.readAhead f wants).1.signal.set
          ({ q with pending := none }.readAhead f wants).1.pending.isSome },
      (r.advance f wants).2 ++ ({ q with pending := none }.readAhead f wants).2) := by
    simp only [take, h.isOpen, Bool.false_eq_true, if_false, hr, hpending, List.head?_cons, due, hruns.unpaced,
      Option.any_none, giveOut]
  have hsame : skip wants (scanAll f ({ q with pending := none } : Replay).cursor).records = skip wants xs :=
    congrArg (skip wants) hbehind
  rw [hsame] at hgone hnext
  refine ⟨_, _, htake, ⟨hread.isOpen, hread.unpaced, hread.reads, Signal.consistent_set hread.consistent _⟩,
    hgone, ?_⟩
  show (Signal.set _ _).raised = true ↔ _
  rw [Signal.raised_set, hnext]
  cases skip wants xs <;> simp

/-- Without a wanted record a replay is at its end, and has gone past all that there was. -/
theorem take_of_skip_nil (h : r.Runs file) (hskip : skip wants (r.rest f) = []) (now : Nat) :
    ∃ r' notices, r.take f wants now = (.error .endOfLog, r', notices) ∧ r'.Runs file ∧ r'.rest f = [] ∧
      r'.signal.raised = false := by
  obtain ⟨hruns, hrest, hpending⟩ := advance_rest h f wants
  rw [hskip] at hrest hpending
  refine ⟨{ (r.advance f wants).1 with signal := (r.advance f wants).1.signal.lower }, (r.advance f wants).2, ?_,
    ⟨hruns.isOpen, hruns.unpaced, hruns.reads, Signal.consistent_lower hruns.consistent⟩, hrest,
    Signal.raised_lower _⟩
  simp only [take, h.isOpen, Bool.false_eq_true, if_false, hpending, List.head?_nil]

/-- The first wanted record is given out. -/
theorem take_of_cons (h : r.Runs file) {x : Record} {xs : List Record} (hahead : r.ahead f wants = x :: xs)
    (now : Nat) :
    ∃ r' notices, r.take f wants now = (.ok (.message x.message), r', notices) ∧ r'.Runs file ∧
      r'.ahead f wants = xs ∧ (r'.signal.raised = true ↔ xs ≠ []) := by
  rw [ahead] at hahead
  cases hskip : skip wants (r.rest f) with
  | nil =>
    rw [skip_eq_nil_iff.1 hskip] at hahead
    cases hahead
  | cons y ys =>
    rw [wanted_of_skip_cons hskip] at hahead
    cases hahead
    obtain ⟨r', notices, htake, hruns, hrest, hup⟩ := take_of_skip_cons h hskip now
    rw [ne_eq, skip_eq_nil_iff] at hup
    exact ⟨r', notices, htake, hruns, by rw [ahead, hrest, wanted_skip], hup⟩

/-- Without a wanted record a replay is at its end. -/
theorem take_of_nil (h : r.Runs file) (hahead : r.ahead f wants = []) (now : Nat) :
    ∃ r' notices, r.take f wants now = (.error .endOfLog, r', notices) ∧ r'.Runs file ∧ r'.ahead f wants = [] ∧
      r'.signal.raised = false := by
  obtain ⟨r', notices, htake, hruns, hrest, hlow⟩ := take_of_skip_nil h (skip_eq_nil_iff.2 hahead) now
  exact ⟨r', notices, htake, hruns, by rw [ahead, hrest]; rfl, hlow⟩

/-! ## Bringing the signal up to date -/

/-- Bringing the signal up to date goes past nothing, whether the replay is open or not. -/
theorem refresh_of_reads (h : r.Reads file) (f : ByteArray) (wants : String → Bool) :
    (∃ c up, (r.refresh f wants).1 = { r with
        journal := { r.journal with use := .reading file c }, signal := r.signal.set up }) ∧
      (r.refresh f wants).1.rest f = r.rest f ∧
      ((r.refresh f wants).1.signal.raised = true ↔ r.ahead f wants ≠ []) := by
  obtain ⟨c, hc⟩ := h
  by_cases hwanted : ∃ x, r.pending = some x ∧ wants x.channel = true
  · obtain ⟨x, hpending, hx⟩ := hwanted
    have hrefresh : r.refresh f wants = ({ r with signal := r.signal.raise }, []) := by
      simp only [refresh, hpending, hx, if_true]
    rw [hrefresh]
    refine ⟨⟨c, true, by rw [← hc]; rfl⟩, rfl, ?_⟩
    have hne : r.ahead f wants ≠ [] := by
      rw [ahead, rest, hpending]
      exact List.ne_nil_of_mem (List.mem_filter.2 ⟨List.mem_cons_self, hx⟩)
    exact iff_of_true (Signal.raised_raise _) hne
  · have hrefresh : (r.refresh f wants).1 =
        { r with
          journal := { r.journal with use := .reading file (locate f r.cursor).cursor }
          signal := r.signal.set (findWanted f wants r.cursor).1.isSome } ∧
        r.ahead f wants = wanted wants (scanAll f r.cursor).records := by
      cases hpending : r.pending with
      | none =>
        refine ⟨?_, by rw [ahead, rest, hpending]; rfl⟩
        simp only [refresh, hpending, Bool.false_eq_true, if_false, setCursor, hc]
      | some x =>
        have hx : wants x.channel = false := by
          by_contra hx
          exact hwanted ⟨x, hpending, by simpa using hx⟩
        refine ⟨?_, by rw [ahead, rest, hpending]; exact wanted_cons_of_neg (by simp [hx]) _⟩
        simp only [refresh, hpending, hx, Bool.false_eq_true, if_false, setCursor, hc]
    obtain ⟨hrefresh, hahead⟩ := hrefresh
    rw [hrefresh]
    refine ⟨⟨_, _, rfl⟩, ?_, ?_⟩
    · show r.pending.toList ++ (scanAll f (locate f r.cursor).cursor).records = r.rest f
      rw [records_locate]
      rfl
    · rw [Signal.raised_set, hahead, isSome_findWanted_iff]

/-- Bringing the signal up to date goes past nothing. -/
theorem refresh_rest (h : r.Runs file) (f : ByteArray) (wants : String → Bool) :
    (r.refresh f wants).1.Runs file ∧ (r.refresh f wants).1.rest f = r.rest f ∧
      ((r.refresh f wants).1.signal.raised = true ↔ r.ahead f wants ≠ []) := by
  obtain ⟨⟨c, up, he⟩, hrest, hup⟩ := refresh_of_reads h.reads f wants
  refine ⟨?_, hrest, hup⟩
  rw [he]
  exact ⟨h.isOpen, h.unpaced, ⟨c, rfl⟩, Signal.consistent_set h.consistent up⟩

theorem ahead_refresh (h : r.Runs file) (f : ByteArray) (wants : String → Bool) :
    (r.refresh f wants).1.ahead f wants = r.ahead f wants := by
  rw [ahead, (refresh_rest h f wants).2.1, ahead]

/-! ## Signals -/

/-- The signal of a replay that is open tells whether a wanted record is ahead, whatever the pace. -/
structure Exact (r : Replay) (file : Nat) (f : ByteArray) (wants : String → Bool) : Prop where
  isOpen : r.closed = false
  reads : r.Reads file
  consistent : r.signal.Consistent
  raised : r.signal.raised = true ↔ r.ahead f wants ≠ []

theorem exact_refresh (isOpen : r.closed = false) (reads : r.Reads file) (consistent : r.signal.Consistent)
    (f : ByteArray) (wants : String → Bool) :
    (r.refresh f wants).1.Exact file f wants ∧ (r.refresh f wants).1.speed = r.speed := by
  obtain ⟨⟨c, up, he⟩, hrest, hup⟩ := refresh_of_reads reads f wants
  refine ⟨⟨?_, ?_, ?_, ?_⟩, by rw [he]⟩
  · rw [he]
    exact isOpen
  · rw [he]
    exact ⟨c, rfl⟩
  · rw [he]
    exact Signal.consistent_set consistent up
  · rw [hup, ahead, ahead, hrest]

/-- When a record has been given out, the signal tells whether there is another one. -/
theorem Exact.giveOut (h : r.Exact file f wants) (record : Record) :
    (r.giveOut f wants record).2.1.Exact file f wants ∧ (r.giveOut f wants record).2.1.speed = r.speed := by
  have hreads : Reads { r with pending := none } file := h.reads
  obtain ⟨hrest, hpending⟩ := hreads.rest_readAhead f wants
  have he := readAhead_eq hreads f wants
  simp only [Replay.giveOut]
  generalize (({ r with pending := none } : Replay).readAhead f wants).1 = q at hrest hpending he
  have hup : q.pending.isSome = true ↔ q.ahead f wants ≠ [] := by
    rw [ahead, hrest, hpending, wanted_skip, ne_eq, ← skip_eq_nil_iff]
    cases skip wants (scanAll f ({ r with pending := none } : Replay).cursor).records <;> simp
  refine ⟨⟨?_, ?_, ?_, ?_⟩, by rw [he]⟩
  · rw [he]
    exact h.isOpen
  · rw [he]
    exact ⟨_, rfl⟩
  · refine Signal.consistent_set ?_ _
    rw [he]
    exact h.consistent
  · rw [Signal.raised_set]
    exact hup

/-- The signal stays exact when a replay is asked for a record, whether one is due or not. -/
theorem Exact.take (h : r.Exact file f wants) (now : Nat) :
    (r.take f wants now).2.1.Exact file f wants ∧ (r.take f wants now).2.1.speed = r.speed := by
  obtain ⟨hrest, hpending⟩ := h.reads.rest_advance f wants
  obtain ⟨c, pending, he⟩ := h.reads.advance_eq f wants
  simp only [Replay.take, h.isOpen, Bool.false_eq_true, if_false]
  generalize (r.advance f wants).1 = q at hrest hpending he
  have hahead : q.ahead f wants = r.ahead f wants := by rw [ahead, ahead, hrest, wanted_skip]
  have hq : q.Exact file f wants := by
    refine ⟨?_, ?_, ?_, ?_⟩
    · rw [he]
      exact h.isOpen
    · rw [he]
      exact ⟨c, rfl⟩
    · rw [he]
      exact h.consistent
    · rw [hahead, he]
      exact h.raised
  have hspeed : q.speed = r.speed := by rw [he]
  cases hnext : q.pending with
  | none =>
    have hnone : wanted wants ((none : Option Record).toList ++ (scanAll f q.cursor).records) = [] := by
      rw [hnext, eq_comm, List.head?_eq_none_iff, skip_eq_nil_iff] at hpending
      rw [← hnext]
      exact hahead.trans hpending
    exact ⟨⟨hq.isOpen, hq.reads, Signal.consistent_lower hq.consistent,
      iff_of_false (by simp) fun hne => hne hnone⟩, hspeed⟩
  | some record =>
    have hdue : (q.due now record.timestamp).2.Exact file f wants ∧ (q.due now record.timestamp).2.speed = q.speed := by
      unfold Replay.due
      split <;> exact ⟨⟨hq.isOpen, hq.reads, hq.consistent, hq.raised⟩, rfl⟩
    simp only
    split
    · exact ⟨hdue.1, hdue.2.trans hspeed⟩
    · obtain ⟨hgiven, hsame⟩ := hdue.1.giveOut record
      exact ⟨hgiven, hsame.trans (hdue.2.trans hspeed)⟩

end PubSub.Replay
