import PubSub.Journal.Record
import PubSub.Notice

/-!
# Finding records

A journal has no index. A reader looks for the sync word and takes what stands there for a record only if the header
can be read, the channel name is text and the bytes after the record are another sync word or the end of the file.
Otherwise it goes on looking one byte further, so a torn or damaged stretch costs no more than itself.

* `Journal.syncAt`, `Journal.findSync`: where the sync word stands.
* `Journal.examine`: what stands at a sync word.
* `Journal.scan`: the record at or after a place, and where the reader stands afterwards.
* `Journal.scanAll`, `Journal.locate`, `Journal.locateTime`: all records from a place on, and moves within a file.

Results:

* `Journal.findSync_eq_some_iff`: the place found is the least one.
* `Journal.lt_cursor_scan`: each record takes the reader forward.
-/

namespace PubSub.Journal

/-- Whether the sync word stands at `p`. -/
def syncAt (f : ByteArray) (p : Nat) : Bool :=
  if h : p + 3 < f.size then f[p] == 0xED && f[p + 1] == 0xA1 && f[p + 2] == 0xDA && f[p + 3] == 0x01 else false

/-- The least place from `p` on where the sync word stands. -/
def findSync (f : ByteArray) (p : Nat) : Option Nat :=
  if p + 3 < f.size then if syncAt f p then some p else findSync f (p + 1) else none
termination_by f.size - p

theorem lt_size_of_syncAt {f : ByteArray} {p : Nat} (h : syncAt f p = true) : p + 3 < f.size := by
  unfold syncAt at h
  split at h
  · assumption
  · cases h

theorem findSync_eq_some_iff (f : ByteArray) (p q : Nat) :
    findSync f p = some q ↔ p ≤ q ∧ syncAt f q = true ∧ ∀ r, p ≤ r → r < q → syncAt f r = false := by
  fun_induction findSync f p with
  | case1 p hp hs =>
    constructor
    · rintro ⟨⟩
      exact ⟨Nat.le_refl _, hs, fun r h1 h2 => absurd h1 (Nat.not_le_of_lt h2)⟩
    · rintro ⟨h1, _, h3⟩
      rcases Nat.eq_or_lt_of_le h1 with rfl | h
      · rfl
      · exact absurd hs (by simp [h3 p (Nat.le_refl _) h])
  | case2 p hp hs ih =>
    rw [ih]
    constructor
    · rintro ⟨h1, h2, h3⟩
      refine ⟨Nat.le_of_succ_le h1, h2, fun r h4 h5 => ?_⟩
      rcases Nat.eq_or_lt_of_le h4 with rfl | h
      · exact Bool.eq_false_iff.2 hs
      · exact h3 r h h5
    · rintro ⟨h1, h2, h3⟩
      rcases Nat.eq_or_lt_of_le h1 with rfl | h
      · exact absurd h2 hs
      · exact ⟨h, h2, fun r h4 h5 => h3 r (Nat.le_of_succ_le h4) h5⟩
  | case3 p hp =>
    constructor
    · rintro ⟨⟩
    · rintro ⟨h1, h2, _⟩
      have := lt_size_of_syncAt h2
      omega

theorem le_of_findSync {f : ByteArray} {p q : Nat} (h : findSync f p = some q) : p ≤ q :=
  ((findSync_eq_some_iff f p q).1 h).1

theorem lt_size_of_findSync {f : ByteArray} {p q : Nat} (h : findSync f p = some q) : q + 3 < f.size :=
  lt_size_of_syncAt ((findSync_eq_some_iff f p q).1 h).2.1

/-! ## What stands at a sync word -/

/-- Why what stands at a sync word is no record. -/
inductive Damage
  /-- The header cannot be read. -/
  | header (cause : Corruption)
  /-- The bytes behind it are neither a sync word nor the end. -/
  | notFollowed
  /-- The channel name is not text. -/
  | channel

/-- The wording of a damage at a place in a file. -/
def Damage.notice (path : String) (place : Nat) : Damage → Notice
  | header cause => Notice.warn s!"{path}: {(Error.corrupt cause).message} at offset {place}, resyncing"
  | notFollowed => Notice.warn s!"{path}: record at offset {place} not followed by a sync word, resyncing"
  | channel => Notice.warn s!"{path}: non-utf8 channel at offset {place}, resyncing"

/-- What stands at a sync word. -/
inductive Finding
  /-- A record, and where it ends. -/
  | record (r : Record) (stop : Nat)
  /-- A record of which the end is missing. -/
  | torn
  | damaged (damage : Damage)

/-- What stands at the sync word at `p`. -/
def examine (f : ByteArray) (p : Nat) : Finding :=
  if f.size < p + headerSize then .torn
  else
    match Header.decodeAt f p with
    | .error cause => .damaged (.header cause)
    | .ok h =>
      let body := p + headerSize
      let payload := body + h.channelLength.toInt.toNat
      let stop := body + h.bodyLength
      if f.size < stop then .torn
      else if stop + 4 ≤ f.size ∧ syncAt f stop = false then .damaged .notFollowed
      else
        match String.fromUTF8? (f.extract body payload) with
        | none => .damaged .channel
        | some channel =>
          .record ⟨h.eventNumber, h.timestamp, channel, f.extract payload stop⟩ stop

/-- A record ends behind its header and within the file. -/
theorem stop_of_examine {f : ByteArray} {p stop : Nat} {r : Record} (h : examine f p = .record r stop) :
    p + headerSize ≤ stop ∧ stop ≤ f.size := by
  unfold examine at h
  split at h
  · cases h
  · split at h
    · cases h
    · simp only at h
      split at h
      · cases h
      · split at h
        · cases h
        · split at h
          · cases h
          · cases h
            omega

/-! ## Reading on -/

/-- What a reader has found. -/
structure Scan where
  /-- The record, if there is one, and where it starts. -/
  found : Option (Nat × Record)
  /-- Where the reader stands afterwards. -/
  cursor : Nat
  /-- What it went past, and where. -/
  skipped : List (Nat × Damage)

/-- Looks for a record from `c` on (`EventLog.read_next_record`). At a torn record the reader stops, so that it sees the
record once the rest of it has been written. -/
def scan (f : ByteArray) (c : Nat) : Scan :=
  match _ : findSync f c with
  | none => ⟨none, max c f.size, []⟩
  | some p =>
    match examine f p with
    | .record r stop => ⟨some (p, r), stop, []⟩
    | .torn => ⟨none, p, []⟩
    | .damaged d =>
      let rest := scan f (p + 1)
      { rest with skipped := (p, d) :: rest.skipped }
termination_by f.size - c
decreasing_by
  rename_i h
  have := le_of_findSync h
  have := lt_size_of_findSync h
  omega

/-- A record starts at or after the place where the search began and ends within the file, where the reader then
stands. -/
theorem bounds_of_scan {f : ByteArray} {c p : Nat} {r : Record} (h : (scan f c).found = some (p, r)) :
    c ≤ p ∧ p + headerSize ≤ (scan f c).cursor ∧ (scan f c).cursor ≤ f.size := by
  fun_induction scan f c with
  | case1 c hf => cases h
  | case2 c q hf r' stop he =>
    cases h
    have := stop_of_examine he
    exact ⟨le_of_findSync hf, this.1, this.2⟩
  | case3 c q hf he => cases h
  | case4 c q hf d he rest ih =>
    have := ih h
    have := le_of_findSync hf
    exact ⟨by omega, by simpa using (ih h).2⟩

theorem lt_cursor_scan {f : ByteArray} {c p : Nat} {r : Record} (h : (scan f c).found = some (p, r)) :
    c < (scan f c).cursor ∧ (scan f c).cursor ≤ f.size := by
  have := bounds_of_scan h
  simp only [headerSize] at this
  omega

/-- All that is read from a place on before the first time that nothing is found. -/
structure Passage where
  records : List Record
  /-- Where the reader stands afterwards. -/
  cursor : Nat
  /-- What it went past, and where. -/
  skipped : List (Nat × Damage)

/-- Reads until nothing more is found. -/
def scanAll (f : ByteArray) (c : Nat) : Passage :=
  match _ : (scan f c).found with
  | none => ⟨[], (scan f c).cursor, (scan f c).skipped⟩
  | some (_, r) =>
    let rest := scanAll f (scan f c).cursor
    ⟨r :: rest.records, rest.cursor, (scan f c).skipped ++ rest.skipped⟩
termination_by f.size - c
decreasing_by
  rename_i h
  have := lt_cursor_scan h
  omega

/-! ## Moving -/

/-- Where a move has led. -/
structure Landing where
  /-- The start and the time of the record before which the reader stands, if there is one. -/
  found : Option (Nat × Timestamp)
  /-- Where the reader stands. -/
  cursor : Nat
  /-- What it went past, and where. -/
  skipped : List (Nat × Damage)

/-- Goes before the first record from `offset` on; where there is none, as far as looking for it leads
(`EventLog.locate`). -/
def locate (f : ByteArray) (offset : Nat) : Landing :=
  let s := scan f (min offset f.size)
  match s.found with
  | some (p, r) => ⟨some (p, r.timestamp), p, s.skipped⟩
  | none => ⟨none, s.cursor, s.skipped⟩

theorem le_of_locate {f : ByteArray} {offset p : Nat} {t : Timestamp} (h : (locate f offset).found = some (p, t)) :
    offset ≤ p := by
  unfold locate at h
  dsimp only at h
  split at h
  · rename_i q r hq
    cases h
    have := bounds_of_scan hq
    simp only [headerSize] at this
    omega
  · cases h

/-- Halves the stretch from `lo` to `hi` until it is empty, keeping records before `time` on its left. Gives the place
where it closes and what was gone past. -/
def bisect (f : ByteArray) (time : Timestamp) (lo hi : Nat) : Nat × List (Nat × Damage) :=
  if lo < hi then
    let mid := lo + (hi - lo) / 2
    let skipped := (locate f mid).skipped
    match _ : (locate f mid).found with
    | some (p, t) =>
      let r := if t < time then bisect f time (p + 1) hi else bisect f time lo mid
      (r.1, skipped ++ r.2)
    | none =>
      let r := bisect f time lo mid
      (r.1, skipped ++ r.2)
  else (lo, [])
termination_by hi - lo
decreasing_by
  · rename_i hf _
    have := le_of_locate hf
    omega
  · omega
  · omega

/-- Goes before the first record whose time is `time` or later, where times never decrease along the file
(`EventLog.seek_to_timestamp`). -/
def locateTime (f : ByteArray) (time : Timestamp) : Landing :=
  let (place, skipped) := bisect f time 0 f.size
  let landing := locate f place
  { landing with skipped := skipped ++ landing.skipped }

end PubSub.Journal
