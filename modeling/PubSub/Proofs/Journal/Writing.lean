import PubSub.Journal.Basic
import PubSub.Proofs.Journal.Row
import PubSub.Proofs.Store

/-!
# A writer adds to the row

What a writer was given is in its file and its buffer, one behind the other, whenever the buffer was written out.

* `Writer.Has`: the file and the buffer of a writer together.
* `Call`: what a writer is asked to take.
* `Journal.Continues`: a journal that is being written has taken some calls, behind what it found.
* `Journal.Logged`: it has nothing but records, found or taken.
* `Writer.Touches`: writing changes one file at most.

Results:

* `Writer.Has.put`: a piece is added, whether it goes to the buffer or to the file.
* `Journal.Continues.write`, `Journal.Continues.write_refused`: a record is taken, or refused without a trace.
* `Journal.Continues.close`: closing leaves all of it in the file.
* `Journal.open_created`, `Journal.open_emptied`, `Journal.open_behind`: what a journal has when it is opened for
  writing.
-/

namespace PubSub.Journal

/-! ## The file and the buffer -/

namespace Writer

/-- A writer stands at the end of its file, a regular one under `path` with a content. -/
structure Backed (w : Writer) (s : Store) (path content : ByteArray) : Prop where
  holds : s.Holds path w.file content
  offset : w.offset = none ∨ w.offset = some content.size

/-- The file under `path` and the buffer of the writer make up `bytes`. -/
def Has (w : Writer) (s : Store) (path bytes : ByteArray) : Prop :=
  ∃ content, w.Backed s path content ∧ content ++ w.buffer = bytes

variable {w : Writer} {s : Store} {path content bytes piece : ByteArray}

/-- Bytes are written at the end of the file. -/
theorem Backed.emit (h : w.Backed s path content) (piece : ByteArray) :
    ∃ o t, w.emit s piece = .ok ({ w with offset := o }, t) ∧
      ({ w with offset := o } : Writer).Backed t path (content ++ piece) := by
  refine ⟨w.offset.map (· + piece.size), s.setNode w.file (.file (content ++ piece)), ?_, h.holds.setNode _, ?_⟩
  · rw [Writer.emit, h.holds.append h.offset]
    rfl
  · rcases h.offset with ho | ho
    · exact Or.inl (by rw [ho]; rfl)
    · refine Or.inr ?_
      show w.offset.map (· + piece.size) = _
      rw [ho, ByteArray.size_append]
      rfl

theorem eq_empty_of_size {b : ByteArray} (h : b.size = 0) : b = .empty := ByteArray.size_eq_zero_iff.1 h

/-- The buffer is written out. -/
theorem Has.flush (h : w.Has s path bytes) :
    ∃ o t, w.flush s = (.ok (), { w with offset := o, buffer := .empty }, t) ∧
      ({ w with offset := o, buffer := .empty } : Writer).Backed t path bytes := by
  obtain ⟨content, hb, rfl⟩ := h
  unfold Writer.flush
  by_cases hempty : w.buffer.size = 0
  · have hbuffer := eq_empty_of_size hempty
    refine ⟨w.offset, s, ?_, ?_⟩
    · rw [if_pos hempty, ← hbuffer]
    · rw [hbuffer, ByteArray.append_empty]
      exact ⟨hb.holds, hb.offset⟩
  · obtain ⟨o, t, he, ht⟩ := hb.emit w.buffer
    refine ⟨o, t, ?_, ht.holds, ht.offset⟩
    rw [if_neg hempty, he]

/-- A piece is taken by a buffer with room for it, or goes past an empty one. -/
theorem Has.accept (h : w.Has s path bytes) (hempty : bufferSize ≤ piece.size → w.buffer.size = 0) :
    ∃ o b t, w.accept s piece = (.ok (), { w with offset := o, buffer := b }, t) ∧
      ({ w with offset := o, buffer := b } : Writer).Has t path (bytes ++ piece) := by
  obtain ⟨content, hb, rfl⟩ := h
  unfold Writer.accept
  by_cases hlong : bufferSize ≤ piece.size
  · obtain ⟨o, t, he, ht⟩ := hb.emit piece
    refine ⟨o, w.buffer, t, ?_, content ++ piece, ⟨ht.holds, ht.offset⟩, ?_⟩
    · rw [if_pos hlong, he]
    · show content ++ piece ++ w.buffer = content ++ w.buffer ++ piece
      rw [eq_empty_of_size (hempty hlong), ByteArray.append_empty, ByteArray.append_empty]
  · refine ⟨w.offset, w.buffer ++ piece, s, ?_, content, ⟨hb.holds, hb.offset⟩, ?_⟩
    · rw [if_neg hlong]
    · exact ByteArray.append_assoc.symm

/-- A piece is added, whether it goes to the buffer or to the file. -/
theorem Has.put (h : w.Has s path bytes) (piece : ByteArray) :
    ∃ o b t, w.put s piece = (.ok (), { w with offset := o, buffer := b }, t) ∧
      ({ w with offset := o, buffer := b } : Writer).Has t path (bytes ++ piece) := by
  unfold Writer.put
  by_cases hfull : bufferSize < w.buffer.size + piece.size
  · obtain ⟨o, t, hf, ht⟩ := h.flush
    have hhas : ({ w with offset := o, buffer := .empty } : Writer).Has t path bytes :=
      ⟨bytes, ht, ByteArray.append_empty⟩
    rw [if_pos hfull, hf]
    exact hhas.accept fun _ => rfl
  · rw [if_neg hfull]
    exact h.accept fun hlong => by omega

/-- Pieces are added in order. -/
theorem Has.putAll (h : w.Has s path bytes) (pieces : List ByteArray) :
    ∃ o b t, w.putAll s pieces = (.ok (), { w with offset := o, buffer := b }, t) ∧
      ({ w with offset := o, buffer := b } : Writer).Has t path (pieces.foldl (· ++ ·) bytes) := by
  induction pieces generalizing w s bytes with
  | nil => exact ⟨w.offset, w.buffer, s, rfl, h⟩
  | cons piece rest ih =>
    obtain ⟨o, b, t, hput, ht⟩ := h.put piece
    obtain ⟨o', b', t', hrest, ht'⟩ := ih ht
    refine ⟨o', b', t', ?_, ht'⟩
    rw [Writer.putAll, hput]
    exact hrest

end Writer

/-! ## Calls -/

/-- What a writer is asked to take. -/
structure Call where
  time : Timestamp
  channel : String
  payload : ByteArray

namespace Call

/-- Whether a writer takes it. -/
def fits (c : Call) : Bool :=
  decide (1 ≤ c.channel.utf8ByteSize ∧ c.channel.utf8ByteSize ≤ maxChannelLength ∧ c.payload.size ≤ maxPayloadLength)

/-- The record that it becomes as number `n`. -/
def record (c : Call) (n : Nat) : Record := ⟨Int64.ofNat n, c.time, c.channel, c.payload⟩

/-- How many bytes the record takes. -/
def length (c : Call) : Nat := Record.length c.channel c.payload

/-- How many bytes the records of calls take together. -/
def total : List Call → Nat
  | [] => 0
  | c :: cs => c.length + total cs

/-- The calls that a writer takes. -/
def accepted (cs : List Call) : List Call := cs.filter fits

/-- The records that calls become, numbered from `n` on. -/
def records (n : Nat) : List Call → List Record
  | [] => []
  | c :: cs => c.record n :: records (n + 1) cs

theorem fits_iff {c : Call} {n : Nat} : c.fits = true ↔ (c.record n).Fits := by
  rw [fits, decide_eq_true_iff]
  exact ⟨fun h => ⟨h.1, h.2.1, h.2.2⟩, fun h => ⟨h.channel_pos, h.channel_le, h.payload_le⟩⟩

@[simp] theorem length_records (n : Nat) (cs : List Call) : (records n cs).length = cs.length := by
  induction cs generalizing n with
  | nil => rfl
  | cons c cs ih => rw [records, List.length_cons, List.length_cons, ih]

theorem records_append (n : Nat) (cs ds : List Call) :
    records n (cs ++ ds) = records n cs ++ records (n + cs.length) ds := by
  induction cs generalizing n with
  | nil => rfl
  | cons c cs ih =>
    have hn : n + 1 + cs.length = n + (c :: cs).length := by
      rw [List.length_cons]
      omega
    rw [List.cons_append, records, records, ih, hn]
    rfl

@[simp] theorem accepted_nil : accepted [] = [] := rfl

theorem accepted_append (cs ds : List Call) : accepted (cs ++ ds) = accepted cs ++ accepted ds := List.filter_append ..

theorem accepted_cons_of_fits {c : Call} (h : c.fits = true) (cs : List Call) : accepted (c :: cs) = c :: accepted cs :=
  List.filter_cons_of_pos h

theorem accepted_cons_of_unfit {c : Call} (h : ¬ c.fits = true) (cs : List Call) : accepted (c :: cs) = accepted cs :=
  List.filter_cons_of_neg h

theorem fits_records {cs : List Call} (h : ∀ c ∈ cs, c.fits = true) (n : Nat) : ∀ r ∈ records n cs, r.Fits := by
  induction cs generalizing n with
  | nil =>
    intro r hr
    cases hr
  | cons c cs ih =>
    intro r hr
    rcases List.mem_cons.1 hr with rfl | hr
    · exact fits_iff.1 (h c List.mem_cons_self)
    · exact ih (fun d hd => h d (List.mem_cons_of_mem _ hd)) (n + 1) r hr

theorem fits_accepted (cs : List Call) (n : Nat) : ∀ r ∈ records n (accepted cs), r.Fits :=
  fits_records (fun _ hc => (List.mem_filter.1 hc).2) n

/-- The bytes of records are as many as their calls tell. -/
theorem size_row_records (n : Nat) (cs : List Call) : (row (records n cs)).size = total cs := by
  induction cs generalizing n with
  | nil => rfl
  | cons c cs ih =>
    rw [records, row, ByteArray.size_append, ih, Record.size_encode, total]
    rfl

theorem total_append (cs ds : List Call) : total (cs ++ ds) = total cs + total ds := by
  induction cs with
  | nil => exact (Nat.zero_add _).symm
  | cons c cs ih => rw [List.cons_append, total, total, ih, Nat.add_assoc]

end Call

/-! ## A journal that is being written -/

variable {j : Journal} {s : Store} {path before : ByteArray} {n : Nat} {taken : List Call} {rs : List Record}

/-- A journal that is open for writing under `path` found the bytes `before` there, numbers records from `n` on, and has
taken the calls `taken`. -/
def Continues (j : Journal) (s : Store) (path before : ByteArray) (n : Nat) (taken : List Call) : Prop :=
  ∃ w, j.use = .writing w ∧ w.Has s path (before ++ row (Call.records n taken)) ∧
    w.length = before.size + Call.total taken ∧ w.next = Int64.ofNat (n + taken.length)

/-- A journal that is open for writing under `path` has taken the records `rs`, or found them there. -/
def Logged (j : Journal) (s : Store) (path : ByteArray) (rs : List Record) : Prop :=
  ∃ w, j.use = .writing w ∧ w.Has s path (row rs) ∧ w.length = (row rs).size ∧ w.next = Int64.ofNat rs.length

theorem Logged.continues (h : j.Logged s path rs) : j.Continues s path (row rs) rs.length [] := by
  obtain ⟨w, hw, hhas, hlength, hnext⟩ := h
  refine ⟨w, hw, ?_, hlength, hnext⟩
  rw [Call.records, row, ByteArray.append_empty]
  exact hhas

theorem Continues.logged (h : j.Continues s path (row rs) rs.length taken) :
    j.Logged s path (rs ++ Call.records rs.length taken) := by
  obtain ⟨w, hw, hhas, hlength, hnext⟩ := h
  refine ⟨w, hw, by rw [row_append]; exact hhas, ?_, ?_⟩
  · rw [hlength, row_append, ByteArray.size_append, Call.size_row_records]
  · rw [hnext, List.length_append, Call.length_records]

theorem Logged.tell (h : j.Logged s path rs) : j.tell = (row rs).size := by
  obtain ⟨w, hw, -, hlength, -⟩ := h
  rw [Journal.tell, hw]
  exact hlength

theorem Logged.nextNumber (h : j.Logged s path rs) : j.nextNumber = Int64.ofNat rs.length := by
  obtain ⟨w, hw, -, -, hnext⟩ := h
  rw [Journal.nextNumber, hw]
  exact hnext

/-- Asks a journal to take a record. -/
def call (j : Journal) (s : Store) (c : Call) : Except Error Int64 × Journal × Store :=
  j.write s c.time c.channel c.payload

/-- A record is taken under the next number. -/
theorem Continues.write (h : j.Continues s path before n taken) {c : Call} (hc : c.fits = true) :
    (j.call s c).1 = .ok (Int64.ofNat (n + taken.length)) ∧
      (j.call s c).2.1.Continues (j.call s c).2.2 path before n (taken ++ [c]) := by
  obtain ⟨w, hw, hhas, hlength, hnext⟩ := h
  have hcheck : Record.check c.channel c.payload = .ok () :=
    Record.check_eq_ok_iff.2 (Call.fits_iff (n := n + taken.length).1 hc)
  obtain ⟨o, b, t, hput, ht⟩ := hhas.putAll
    [(c.record (n + taken.length)).header.encode, c.channel.toUTF8, c.payload]
  have hrow : before ++ row (Call.records n (taken ++ [c])) =
      [(c.record (n + taken.length)).header.encode, c.channel.toUTF8, c.payload].foldl (· ++ ·)
        (before ++ row (Call.records n taken)) := by
    rw [Call.records_append, Call.records, Call.records, row_append, row_singleton]
    show before ++ (row (Call.records n taken) ++
      ((c.record (n + taken.length)).header.encode ++ c.channel.toUTF8 ++ c.payload)) = _
    simp only [List.foldl_cons, List.foldl_nil, ByteArray.append_assoc]
  have hrecord : (⟨w.next, c.time, c.channel, c.payload⟩ : Record) = c.record (n + taken.length) := by
    rw [hnext]
    rfl
  have hcall : j.call s c = (.ok w.next, { j with use := .writing { w with
      offset := o, buffer := b, length := w.length + c.length, next := w.next + 1 } }, t) := by
    simp only [call, Journal.write, hw, Writer.write, hcheck, hrecord, hput]
    rfl
  rw [hcall]
  refine ⟨congrArg Except.ok hnext, _, rfl, ?_, ?_, ?_⟩
  · rw [hrow]
    obtain ⟨content, hb, hbytes⟩ := ht
    exact ⟨content, ⟨hb.holds, hb.offset⟩, hbytes⟩
  · show w.length + c.length = _
    rw [hlength, Call.total_append, Nat.add_assoc]
    rfl
  · show w.next + 1 = _
    rw [hnext, List.length_append, List.length_singleton]
    exact (Int64.ofNat_add (n + taken.length) 1).symm

/-- What is refused is refused as an argument, and leaves no trace. -/
theorem Continues.write_refused (h : j.Continues s path before n taken) {c : Call} (hc : c.fits = false) :
    ∃ d, j.call s c = (.error (.invalidArgument d), j, s) := by
  obtain ⟨w, hw, -, -, -⟩ := h
  cases hcheck : Record.check c.channel c.payload with
  | ok =>
    have := Call.fits_iff.2 (Record.check_eq_ok_iff (r := c.record 0).1 hcheck)
    rw [hc] at this
    cases this
  | error e =>
    obtain ⟨d, rfl⟩ := Record.check_error hcheck
    refine ⟨d, ?_⟩
    have hw' : w.write s c.time c.channel c.payload = (.error (.invalidArgument d), w, s) := by
      rw [Writer.write, hcheck]
    rw [call, Journal.write, hw]
    simp only [hw', ← hw]

/-- Closing leaves in the file what was there and the records that were taken. -/
theorem Continues.close (h : j.Continues s path before n taken) :
    (j.close s).1 = .ok () ∧ ∃ id, (j.close s).2.1.Holds path id (before ++ row (Call.records n taken)) := by
  obtain ⟨w, hw, hhas, -, -⟩ := h
  obtain ⟨o, t, hflush, ht⟩ := hhas.flush
  have hagain : ({ w with offset := o, buffer := .empty } : Writer).release t = t := rfl
  have hclose : (j.close s).1 = .ok () ∧ (j.close s).2.1 = t := by
    simp only [Journal.close, Journal.flush, hw, hflush, Except.mapError, Journal.release, hagain, and_self]
  exact ⟨hclose.1, w.file, by rw [hclose.2]; exact ht.holds⟩

theorem Logged.write (h : j.Logged s path rs) {c : Call} (hc : c.fits = true) :
    (j.call s c).1 = .ok (Int64.ofNat rs.length) ∧
      (j.call s c).2.1.Logged (j.call s c).2.2 path (rs ++ [c.record rs.length]) :=
  ⟨(h.continues.write hc).1, (h.continues.write hc).2.logged⟩

theorem Logged.write_refused (h : j.Logged s path rs) {c : Call} (hc : c.fits = false) :
    ∃ d, j.call s c = (.error (.invalidArgument d), j, s) := h.continues.write_refused hc

/-- After writing out, the row is in the file, and writing goes on. -/
theorem Logged.flush (h : j.Logged s path rs) :
    (j.flush s).1 = .ok () ∧ (j.flush s).2.1.Logged (j.flush s).2.2 path rs ∧
      ∃ id, (j.flush s).2.2.Holds path id (row rs) := by
  obtain ⟨w, hw, hhas, hlength, hnext⟩ := h
  obtain ⟨o, t, hflush, ht⟩ := hhas.flush
  have hflush : j.flush s = (.ok (), { j with use := .writing { w with offset := o, buffer := .empty } }, t) := by
    simp only [Journal.flush, hw, hflush, Except.mapError]
  rw [hflush]
  exact ⟨rfl, ⟨_, rfl, ⟨row rs, ht, ByteArray.append_empty⟩, hlength, hnext⟩, w.file, ht.holds⟩

/-- Closing leaves the row in the file. -/
theorem Logged.close (h : j.Logged s path rs) :
    (j.close s).1 = .ok () ∧ ∃ id, (j.close s).2.1.Holds path id (row rs) := by
  have hclose := h.continues.close
  rwa [Call.records, row, ByteArray.append_empty] at hclose

/-! ## Other files -/

namespace Writer

/-- What became of a writer `w` and the store `s` by writing: of all files only that of the writer may have changed, and
it is still what it was. -/
structure Touches (w : Writer) (s : Store) (w' : Writer) (t : Store) : Prop where
  file : w'.file = w.file
  others : ∀ i ≠ w.file, t.node i = s.node i
  later : s.Later t

variable {w w' w'' : Writer} {t u : Store}

theorem Touches.rfl : Touches w s w s := ⟨Eq.refl _, fun _ _ => Eq.refl _, .rfl⟩

theorem Touches.trans (h : Touches w s w' t) (h' : Touches w' t w'' u) : Touches w s w'' u :=
  ⟨h'.file.trans h.file, fun i hi => (h'.others i (h.file ▸ hi)).trans (h.others i hi), h.later.trans h'.later⟩

theorem touches_emit {bytes : ByteArray} (h : w.emit s bytes = .ok (w', t)) : Touches w s w' t := by
  rw [Writer.emit] at h
  cases hwrite : s.write w.file w.offset bytes with
  | error e =>
    rw [hwrite] at h
    cases h
  | ok t =>
    rw [hwrite] at h
    cases h
    refine ⟨Eq.refl _, fun i hi => ?_, Store.later_write hwrite⟩
    rw [Store.write] at hwrite
    cases hnode : (s.node w.file).write w.offset bytes with
    | error e =>
      rw [hnode] at hwrite
      cases hwrite
    | ok n =>
      rw [hnode] at hwrite
      cases hwrite
      exact Store.node_setNode_other (Ne.symm hi) n

theorem touches_flush (w : Writer) (s : Store) : Touches w s (w.flush s).2.1 (w.flush s).2.2 := by
  unfold Writer.flush
  split
  · exact .rfl
  · split
    · exact .rfl
    · rename_i he
      exact ⟨(touches_emit he).file, (touches_emit he).others, (touches_emit he).later⟩

theorem touches_accept (w : Writer) (s : Store) (piece : ByteArray) :
    Touches w s (w.accept s piece).2.1 (w.accept s piece).2.2 := by
  unfold Writer.accept
  split
  · split
    · exact .rfl
    · rename_i he
      exact touches_emit he
  · exact ⟨Eq.refl _, fun _ _ => Eq.refl _, .rfl⟩

theorem touches_put (w : Writer) (s : Store) (piece : ByteArray) :
    Touches w s (w.put s piece).2.1 (w.put s piece).2.2 := by
  unfold Writer.put
  split
  · have hflush := touches_flush w s
    split
    · rename_i hf
      rw [hf] at hflush
      exact hflush
    · rename_i hf
      rw [hf] at hflush
      exact hflush.trans (touches_accept ..)
  · exact touches_accept ..

theorem touches_putAll (w : Writer) (s : Store) (pieces : List ByteArray) :
    Touches w s (w.putAll s pieces).2.1 (w.putAll s pieces).2.2 := by
  induction pieces generalizing w s with
  | nil => exact .rfl
  | cons piece rest ih =>
    have hput := touches_put w s piece
    rw [Writer.putAll]
    split
    · rename_i hp
      rw [hp] at hput
      exact hput
    · rename_i hp
      rw [hp] at hput
      exact hput.trans (ih ..)

theorem touches_write (w : Writer) (s : Store) (time : Timestamp) (channel : String) (payload : ByteArray) :
    Touches w s (w.write s time channel payload).2.1 (w.write s time channel payload).2.2 := by
  unfold Writer.write
  split
  · exact .rfl
  · have hput := touches_putAll w s
      [(⟨w.next, time, channel, payload⟩ : Record).header.encode, channel.toUTF8, payload]
    simp only
    split
    · rename_i hp
      rw [hp] at hput
      exact hput
    · rename_i hp
      rw [hp] at hput
      exact ⟨hput.file, hput.others, hput.later⟩

end Writer

/-- A journal that is not written into file `file`. -/
def Spares (j : Journal) (file : Nat) : Prop := ∀ w, j.use = .writing w → w.file ≠ file

theorem Spares.call {file : Nat} (h : j.Spares file) (s : Store) (c : Call) :
    (j.call s c).2.1.Spares file ∧ (j.call s c).2.2.node file = s.node file := by
  unfold Journal.call Journal.write
  split
  · exact ⟨h, rfl⟩
  · rename_i w hw
    have htouches := w.touches_write s c.time c.channel c.payload
    refine ⟨fun w' hw' => ?_, htouches.others file (Ne.symm (h w hw))⟩
    cases hw'
    exact htouches.file ▸ h w hw

theorem Spares.flush {file : Nat} (h : j.Spares file) (s : Store) :
    (j.flush s).2.1.Spares file ∧ (j.flush s).2.2.node file = s.node file := by
  unfold Journal.flush
  split
  · exact ⟨h, rfl⟩
  · rename_i w hw
    have htouches := w.touches_flush s
    refine ⟨fun w' hw' => ?_, htouches.others file (Ne.symm (h w hw))⟩
    cases hw'
    exact htouches.file ▸ h w hw

/-! ## Opening -/

/-- A writer at the end of a row. -/
theorem logged_of_holds {id : Nat} {mode : Mode} {offset : Option Nat} (h : s.Holds path id (row rs))
    (ho : offset = none ∨ offset = some (row rs).size) :
    Logged ⟨path, mode, .writing
      { file := id, offset, length := (row rs).size, next := Int64.ofNat rs.length }⟩ s path rs :=
  ⟨_, rfl, ⟨row rs, ⟨h, ho⟩, ByteArray.append_empty⟩, rfl, rfl⟩

/-- A file is continued behind what it holds, with numbers from that of its records on. -/
theorem open_behind {id : Nat} {content : ByteArray} (h : s.Holds path id content) :
    ∃ j, (openFile s path .append).1 = .ok j ∧
      j.Continues (openFile s path .append).2.1 path content (scanAll content 0).records.length [] := by
  have hopen : openFile s path .append = openAppend s path := rfl
  rw [hopen, openAppend]
  simp only [h.present, if_true, h.readFile, Except.map, h.openWrite, h.node, Node.size]
  refine ⟨_, rfl, _, rfl, ⟨content, ⟨h, Or.inl rfl⟩, ?_⟩, rfl, rfl⟩
  rw [Call.records, row]

/-- A row is continued. -/
theorem open_again {id : Nat} (h : s.Holds path id (row rs)) (hrs : ∀ r ∈ rs, r.Fits) :
    ∃ j, (openFile s path .append).1 = .ok j ∧ j.Logged (openFile s path .append).2.1 path rs := by
  have hall := scanAll_row hrs (Nat.zero_le _)
  rw [startOf_zero, List.drop_zero] at hall
  obtain ⟨j, hopen, hcontinues⟩ := open_behind h
  rw [hall] at hcontinues
  have hlogged := hcontinues.logged
  rw [Call.records, List.append_nil] at hlogged
  exact ⟨j, hopen, hlogged⟩

/-- A file that is emptied holds no records. -/
theorem open_emptied {id : Nat} {content : ByteArray} (h : s.Holds path id content) :
    ∃ j, (openFile s path .write).1 = .ok j ∧ j.Logged (openFile s path .write).2.1 path [] := by
  simp only [openFile, Store.openEmpty, h.openWrite, Except.map, h.node, Node.truncate]
  have hrow : (s.setNode id (.file .empty)).Holds path id (row []) := h.setNode .empty
  exact ⟨_, rfl, logged_of_holds hrow (Or.inr rfl)⟩

/-- A file that is created holds no records. -/
theorem open_created (hs : s.Sound) (h : s.Vacant path) {mode : Mode} (hmode : mode ≠ .read) :
    ∃ j, (openFile s path mode).1 = .ok j ∧ j.Logged (openFile s path mode).2.1 path [] := by
  obtain ⟨t, id, hopen, ht⟩ := h.openWrite hs
  cases mode with
  | read => exact absurd rfl hmode
  | write =>
    simp only [openFile, Store.openEmpty, hopen, Except.map, ht.node, Node.truncate]
    have hrow : (t.setNode id (.file .empty)).Holds path id (row []) := ht.setNode .empty
    exact ⟨_, rfl, logged_of_holds hrow (Or.inr rfl)⟩
  | append =>
    simp only [openFile, openAppend, h.present, Bool.false_eq_true, if_false, hopen, ht.node, Node.size]
    have hrow : t.Holds path id (row []) := ht
    exact ⟨_, rfl, logged_of_holds hrow (Or.inl rfl)⟩

/-- A file is opened for reading from its start. -/
theorem open_reading {id : Nat} {content : ByteArray} (h : s.Holds path id content) :
    openFile s path .read = (.ok ⟨path, .read, .reading id 0⟩, s, []) := by
  simp only [openFile, h.openRead]

end PubSub.Journal
