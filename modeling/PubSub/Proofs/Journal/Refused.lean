import PubSub.Proofs.Journal.Spent

/-!
# Writing where there is no room

A writer takes a record in three pieces, the header, the channel name and the payload. If its file takes nothing, each
piece still goes to the buffer while there is room for it. The first piece for which there is none fails, and the writer
tells of it; but the pieces before it stay in the buffer, and the next record comes behind them.

* `Writer.kept`: the pieces that go to the buffer.
* `Journal.waiting`: what waits to be written.

Results:

* `Writer.putAll_refused`: what becomes of pieces if the file takes nothing; `Writer.putAll_taken`: if it takes
  everything, they are taken.
* `Journal.failed_write_leaves`: what a write that fails leaves behind, and when this is nothing.
-/

namespace PubSub.Journal

open Bytes

/-- The bytes of some pieces. -/
def joined (pieces : List ByteArray) : ByteArray := pieces.foldr (· ++ ·) .empty

theorem joined_append (as bs : List ByteArray) : joined (as ++ bs) = joined as ++ joined bs := by
  induction as with
  | nil => exact ByteArray.empty_append.symm
  | cons a as ih =>
    show a ++ joined (as ++ bs) = a ++ joined as ++ joined bs
    rw [ih, ByteArray.append_assoc]

namespace Writer

variable {w w' : Writer} {s t : Store} {e : OsError} {piece : ByteArray} {pieces : List ByteArray}

/-! ## A file that takes everything -/

theorem Touches.takes (h : Touches w s w' t) (ht : (s.node w.file).kind.Takes) : (t.node w'.file).kind.Takes := by
  rw [h.file, h.later _ ht.ne_directory]
  exact ht

theorem emit_taken (h : (s.node w.file).kind.Takes) (bytes : ByteArray) : ∃ w' t, w.emit s bytes = .ok (w', t) := by
  obtain ⟨n, hn⟩ := h _ rfl w.offset bytes
  rw [emit, Store.write, hn]
  exact ⟨_, _, rfl⟩

theorem flush_taken (h : (s.node w.file).kind.Takes) : (w.flush s).1 = .ok () := by
  unfold flush
  split
  · rfl
  · obtain ⟨w', t, he⟩ := emit_taken h w.buffer
    rw [he]

theorem accept_taken (h : (s.node w.file).kind.Takes) (piece : ByteArray) : (w.accept s piece).1 = .ok () := by
  unfold accept
  split
  · obtain ⟨w', t, he⟩ := emit_taken h piece
    rw [he]
  · rfl

theorem put_taken (h : (s.node w.file).kind.Takes) (piece : ByteArray) : (w.put s piece).1 = .ok () := by
  have hflush := flush_taken h
  have htakes := (w.touches_flush s).takes h
  unfold put
  split
  · split
    · rename_i hf
      rw [hf] at hflush
      cases hflush
    · rename_i hf
      rw [hf] at htakes
      exact accept_taken htakes piece
  · exact accept_taken h piece

/-- Pieces are taken if the file takes everything. -/
theorem putAll_taken (h : (s.node w.file).kind.Takes) (pieces : List ByteArray) : (w.putAll s pieces).1 = .ok () := by
  induction pieces generalizing w s with
  | nil => rfl
  | cons piece rest ih =>
    have hput := put_taken h piece
    have htakes := (w.touches_put s piece).takes h
    rw [putAll]
    split
    · rename_i hp
      rw [hp] at hput
      cases hput
    · rename_i hp
      rw [hp] at htakes
      exact ih htakes

/-! ## A file that takes nothing -/

/-- The pieces that go to a buffer in which `used` bytes wait, up to the first for which there is no room. A piece as
long as the buffer is never put there. -/
def kept (used : Nat) : List ByteArray → List ByteArray
  | [] => []
  | piece :: rest =>
    if used + piece.size ≤ bufferSize ∧ piece.size < bufferSize then piece :: kept (used + piece.size) rest else []

theorem kept_prefix (used : Nat) (pieces : List ByteArray) : kept used pieces <+: pieces := by
  induction pieces generalizing used with
  | nil => exact List.prefix_rfl
  | cons piece rest ih =>
    rw [kept]
    split
    · exact (List.prefix_cons_inj piece).2 (ih _)
    · exact List.nil_prefix

theorem emit_refused (h : (s.node w.file).Refuses e) {bytes : ByteArray} (hsize : bytes.size ≠ 0) :
    w.emit s bytes = .error e := by
  rw [emit, Store.write, h _ _ hsize]
  rfl

theorem flush_refused (h : (s.node w.file).Refuses e) :
    w.flush s = if w.buffer.size = 0 then (.ok (), w, s) else (.error e, w, s) := by
  rw [flush]
  by_cases hempty : w.buffer.size = 0
  · rw [if_pos hempty, if_pos hempty]
  · rw [if_neg hempty, if_neg hempty, emit_refused h hempty]

theorem accept_refused (h : (s.node w.file).Refuses e) (piece : ByteArray) :
    w.accept s piece =
      if piece.size < bufferSize then (.ok (), { w with buffer := w.buffer ++ piece }, s) else (.error e, w, s) := by
  have hlimit : bufferSize = 8192 := rfl
  rw [accept]
  by_cases hshort : piece.size < bufferSize
  · rw [if_neg (by omega), if_pos hshort]
  · rw [if_pos (by omega), if_neg hshort, emit_refused h (by omega)]

/-- A piece goes to the buffer if there is room for it, and is refused without a trace otherwise. -/
theorem put_refused (h : (s.node w.file).Refuses e) (piece : ByteArray) :
    w.put s piece =
      if w.buffer.size + piece.size ≤ bufferSize ∧ piece.size < bufferSize then
        (.ok (), { w with buffer := w.buffer ++ piece }, s)
      else (.error e, w, s) := by
  rw [put, flush_refused h, accept_refused h]
  by_cases hroom : w.buffer.size + piece.size ≤ bufferSize
  · have hshort : w.buffer.size + piece.size ≤ bufferSize ∧ piece.size < bufferSize ↔ piece.size < bufferSize := by
      omega
    rw [if_neg (by omega)]
    simp only [hshort]
  · have hfull : ¬ (w.buffer.size + piece.size ≤ bufferSize ∧ piece.size < bufferSize) := fun hfits => hroom hfits.1
    rw [if_pos (by omega), if_neg hfull]
    by_cases hempty : w.buffer.size = 0
    · rw [if_pos hempty]
      simp only
      rw [accept_refused h, if_neg (by omega)]
    · rw [if_neg hempty]

/-- Pieces go to the buffer, all of them or those before the first for which there is no room, which fails. -/
theorem putAll_refused (h : (s.node w.file).Refuses e) (pieces : List ByteArray) :
    w.putAll s pieces = (.ok (), { w with buffer := w.buffer ++ joined pieces }, s) ∨
      w.putAll s pieces = (.error e, { w with buffer := w.buffer ++ joined (kept w.buffer.size pieces) }, s) := by
  induction pieces generalizing w with
  | nil =>
    left
    show (Except.ok (), w, s) = (.ok (), { w with buffer := w.buffer ++ .empty }, s)
    rw [ByteArray.append_empty]
  | cons piece rest ih =>
    rw [putAll, put_refused h, kept]
    by_cases hfits : w.buffer.size + piece.size ≤ bufferSize ∧ piece.size < bufferSize
    · have hrest := ih (w := { w with buffer := w.buffer ++ piece }) h
      simp only [ByteArray.size_append, ByteArray.append_assoc] at hrest
      rw [if_pos hfits, if_pos hfits]
      exact hrest
    · right
      rw [if_neg hfits, if_neg hfits]
      show (Except.error e, w, s) = (.error e, { w with buffer := w.buffer ++ .empty }, s)
      rw [ByteArray.append_empty]

end Writer

/-! ## Records -/

/-- The pieces in which a record is taken. -/
def Record.pieces (r : Record) : List ByteArray := [r.header.encode, r.channel.toUTF8, r.payload]

theorem Record.joined_pieces (r : Record) : joined r.pieces = r.encode := by
  show r.header.encode ++ (r.channel.toUTF8 ++ (r.payload ++ .empty)) = r.header.encode ++ r.channel.toUTF8 ++ r.payload
  rw [ByteArray.append_empty, ByteArray.append_assoc]

/-- Nothing of a record is kept exactly if there is no room for its header. -/
theorem kept_pieces_iff (used : Nat) (r : Record) :
    joined (Writer.kept used r.pieces) = .empty ↔ bufferSize < used + headerSize := by
  have hheader : r.header.encode.size = headerSize := Header.size_encode _
  have hlimits : headerSize = 28 ∧ bufferSize = 8192 := ⟨rfl, rfl⟩
  rw [Record.pieces, Writer.kept]
  constructor
  · intro hempty
    by_contra hroom
    rw [if_pos (by omega)] at hempty
    have hsize := congrArg ByteArray.size hempty
    rw [joined, List.foldr_cons, ByteArray.size_append, hheader, ByteArray.size_empty] at hsize
    omega
  · intro hfull
    rw [if_neg (by omega)]
    rfl

/-- What waits to be written. -/
def waiting (j : Journal) : ByteArray :=
  match j.use with
  | .reading .. => .empty
  | .writing w => w.buffer

/-- A journal in whose buffer other bytes have come behind those that wait. -/
def laden (j : Journal) (bytes : ByteArray) : Journal :=
  match j.use with
  | .reading .. => j
  | .writing w => { j with use := .writing { w with buffer := w.buffer ++ bytes } }

variable {j : Journal} {s : Store} {w : Writer}

theorem laden_eq (hj : j.use = .writing w) (bytes : ByteArray) :
    j.laden bytes = { j with use := .writing { w with buffer := w.buffer ++ bytes } } := by
  simp only [laden, hj]

theorem laden_empty (j : Journal) : j.laden .empty = j := by
  unfold laden
  split
  · rfl
  · rename_i w hw
    rw [ByteArray.append_empty, ← hw]

@[simp] theorem tell_laden (j : Journal) (bytes : ByteArray) : (j.laden bytes).tell = j.tell := by
  unfold laden
  split
  · rfl
  · rename_i w hw
    simp only [tell, hw]

@[simp] theorem nextNumber_laden (j : Journal) (bytes : ByteArray) : (j.laden bytes).nextNumber = j.nextNumber := by
  unfold laden
  split
  · rfl
  · rename_i w hw
    simp only [nextNumber, hw]

theorem waiting_laden (hj : j.use = .writing w) (bytes : ByteArray) :
    (j.laden bytes).waiting = j.waiting ++ bytes := by
  simp only [laden_eq hj, waiting, hj]

/-- A record goes to the buffer if the file takes nothing, all of it or the pieces before the first for which there is
no room. -/
theorem write_refused (hj : j.use = .writing w) {e : OsError} (h : (s.node w.file).Refuses e) (time : Timestamp)
    {channel : String} {payload : ByteArray} (hcheck : Record.check channel payload = .ok ()) :
    (∃ k, j.write s time channel payload = (.ok w.next, k, s) ∧
        k.waiting = j.waiting ++ (⟨w.next, time, channel, payload⟩ : Record).encode) ∨
      j.write s time channel payload =
        (.error (.io e),
          j.laden (joined (Writer.kept w.buffer.size (⟨w.next, time, channel, payload⟩ : Record).pieces)), s) := by
  have hpieces : (⟨w.next, time, channel, payload⟩ : Record).pieces =
      [(⟨w.next, time, channel, payload⟩ : Record).header.encode, channel.toUTF8, payload] := rfl
  rw [← Record.joined_pieces, laden_eq hj]
  rcases Writer.putAll_refused h (⟨w.next, time, channel, payload⟩ : Record).pieces with hput | hput
  · left
    simp only [Journal.write, hj, Writer.write, hcheck, ← hpieces, hput]
    exact ⟨_, rfl, by simp only [waiting, hj]⟩
  · right
    simp only [Journal.write, hj, Writer.write, hcheck, ← hpieces, hput]

/-- What is refused as an argument leaves no trace. -/
theorem write_unfit (hj : j.use = .writing w) (s : Store) (time : Timestamp) {channel : String} {payload : ByteArray}
    {e : Error} (hcheck : Record.check channel payload = .error e) :
    j.write s time channel payload = (.error e, j, s) := by
  simp only [Journal.write, hj, Writer.write, hcheck]
  rw [← hj]

theorem write_taken (hj : j.use = .writing w) (h : (s.node w.file).kind.Takes) (time : Timestamp) {channel : String}
    {payload : ByteArray} (hcheck : Record.check channel payload = .ok ()) :
    (j.write s time channel payload).1 = .ok w.next := by
  have hput := Writer.putAll_taken h
    [(⟨w.next, time, channel, payload⟩ : Record).header.encode, channel.toUTF8, payload]
  simp only [Journal.write, hj, Writer.write, hcheck]
  split
  · rename_i hp
    rw [hp] at hput
    cases hput
  · rfl

/-- A record that is taken though the file takes nothing comes behind what waits. -/
theorem waiting_of_taken (hj : j.use = .writing w) {e : OsError} (h : (s.node w.file).Refuses e) {time : Timestamp}
    {channel : String} {payload : ByteArray} {number : Int64} {k : Journal} {t : Store}
    (hwrite : j.write s time channel payload = (.ok number, k, t)) :
    t = s ∧ k.waiting = j.waiting ++ (⟨number, time, channel, payload⟩ : Record).encode := by
  cases hcheck : Record.check channel payload with
  | error cause =>
    rw [write_unfit hj s time hcheck] at hwrite
    cases hwrite
  | ok =>
    rcases write_refused hj h time hcheck with ⟨k', hk, hwaiting⟩ | hfail
    · rw [hk] at hwrite
      cases hwrite
      exact ⟨rfl, hwaiting⟩
    · rw [hfail] at hwrite
      cases hwrite

/-- What is kept of a record is an initial part of its bytes. -/
theorem prefix_kept (used : Nat) (r : Record) : Prefix (joined (Writer.kept used r.pieces)) r.encode := by
  obtain ⟨rest, hrest⟩ := Writer.kept_prefix used r.pieces
  refine ⟨joined rest, ?_⟩
  rw [← Record.joined_pieces, ← joined_append, hrest]

/-- A write that fails changes neither the files nor the next number nor the length that the journal tells. It leaves an
initial part of its record in the buffer: nothing exactly if the record was refused as an argument, or if there was no
room for its header in the buffer. If it leaves something, the length that is told is no longer that of the journal with
what waits, and a record that is taken later comes behind the part that was left. -/
theorem failed_write_leaves (hj : j.use = .writing w) {time : Timestamp} {channel : String} {payload : ByteArray}
    {e : Error} (h : (j.write s time channel payload).1 = .error e) :
    ∃ k left, j.write s time channel payload = (.error e, k, s) ∧
      k.nextNumber = j.nextNumber ∧ k.tell = j.tell ∧ k.waiting = j.waiting ++ left ∧
      Prefix left (⟨j.nextNumber, time, channel, payload⟩ : Record).encode ∧
      (left = .empty ↔ (∃ d, e = .invalidArgument d) ∨ bufferSize < j.waiting.size + headerSize) ∧
      (left = .empty → k = j) ∧
      (∀ n, j.tell = n + j.waiting.size → (k.tell = n + k.waiting.size ↔ left = .empty)) ∧
      (left ≠ .empty → ∀ time channel payload number l t, k.write s time channel payload = (.ok number, l, t) →
        t = s ∧ l.waiting = j.waiting ++ left ++ (⟨number, time, channel, payload⟩ : Record).encode) := by
  have hnumber : j.nextNumber = w.next := by simp only [nextNumber, hj]
  have hbuffer : j.waiting = w.buffer := by simp only [waiting, hj]
  cases hcheck : Record.check channel payload with
  | error cause =>
    obtain ⟨d, rfl⟩ := Record.check_error hcheck
    have hwrite := write_unfit hj s time hcheck
    rw [hwrite] at h
    cases h
    exact ⟨j, .empty, hwrite, rfl, rfl, ByteArray.append_empty.symm, ⟨_, ByteArray.empty_append.symm⟩,
      iff_of_true rfl (Or.inl ⟨d, rfl⟩), fun _ => rfl, fun n hn => iff_of_true hn rfl, fun hne => absurd rfl hne⟩
  | ok =>
    rcases (s.node w.file).refuses_or_takes with ⟨cause, hrefuses⟩ | htakes
    · rcases write_refused hj hrefuses time hcheck with ⟨k, hk, -⟩ | hwrite
      · rw [hk] at h
        cases h
      · rw [hwrite] at h
        cases h
        generalize hleft : joined (Writer.kept w.buffer.size _) = left at hwrite
        have hwaiting := waiting_laden hj left
        refine ⟨j.laden left, left, hwrite, nextNumber_laden j left, tell_laden j left, hwaiting, ?_, ?_, ?_, ?_, ?_⟩
        · rw [← hleft, hnumber]
          exact prefix_kept _ _
        · rw [← hleft, kept_pieces_iff, hbuffer, or_iff_right]
          rintro ⟨d, hd⟩
          cases hd
        · rintro rfl
          exact laden_empty j
        · intro n hn
          rw [tell_laden, hwaiting, hn, ByteArray.size_append, ← ByteArray.size_eq_zero_iff]
          omega
        · intro _ time channel payload number l t hlater
          have huse : (j.laden left).use = .writing { w with buffer := w.buffer ++ left } := by rw [laden_eq hj]
          rw [← hwaiting]
          exact waiting_of_taken huse hrefuses hlater
    · rw [write_taken hj htakes time hcheck] at h
      cases h

/-! ## The device without room -/

/-- The store at the start. -/
def plain : Store := Store.start [[0x68]] [0x64]

/-- The path of the device without room. -/
def fullPath : ByteArray := "/dev/full".toUTF8

/-- A journal on the device without room. -/
def congested : Journal := ⟨fullPath, .write, .writing { file := 2, offset := some 0, length := 0, next := 0 }⟩

/-- A payload as long as the buffer. -/
def long : ByteArray := ⟨Array.replicate 8192 0⟩

theorem locate_full : plain.locate fullPath = .ok (.taken [[0x64, 0x65, 0x76], [0x66, 0x75, 0x6C, 0x6C]] 2) := by
  have hnames : Store.names fullPath = [[0x64, 0x65, 0x76], [0x66, 0x75, 0x6C, 0x6C]] := by decide +kernel
  have habsolute : Store.isAbsolute fullPath = true := by decide +kernel
  rw [Store.locate, if_neg (by decide +kernel), if_neg (by decide +kernel), if_neg (by decide +kernel), hnames,
    habsolute]
  rfl

theorem open_congested : openFile plain fullPath .write = (.ok congested, plain, []) := by
  have hslash : Store.endsInSlash fullPath = false := by decide +kernel
  have hopen : plain.openEmpty fullPath = .ok (plain, 2) := by
    simp only [Store.openEmpty, Store.openWrite, locate_full, hslash]
    rfl
  simp only [openFile, hopen]
  rfl

theorem write_congested : (congested.write plain 0 "c" long).1 = .error (.io .noSpace) := by
  decide +kernel

/-- A part of a record whose payload is as long as the buffer stays there. -/
theorem failed_write_leaves_congested :
    ∃ k left, congested.write plain 0 "c" long = (.error (.io .noSpace), k, plain) ∧ k.tell = 0 ∧
      k.waiting = congested.waiting ++ left ∧ left ≠ .empty := by
  obtain ⟨k, left, hwrite, -, htell, hwaiting, -, hempty, -⟩ := failed_write_leaves rfl write_congested
  refine ⟨k, left, hwrite, htell, hwaiting, fun hnone => ?_⟩
  rcases hempty.1 hnone with ⟨d, hd⟩ | hfull
  · cases hd
  · exact absurd hfull (by decide)

/-- A write that fails need not leave what waits as it was, and what is told is then not what was written and what
waits. -/
theorem failed_write_stays_congested :
    ¬ ∀ (s t u : Store) (path : ByteArray) (mode : Mode) (j k : Journal) (time : Timestamp) (channel : String)
      (payload : ByteArray) (e : Error), mode ≠ .read → openFile s path mode = (.ok j, t, []) →
        j.write t time channel payload = (.error e, k, u) →
          u = t ∧ k.waiting = j.waiting ∧ k.nextNumber = j.nextNumber ∧
            ∀ n, j.tell = n + j.waiting.size → k.tell = n + k.waiting.size := by
  intro h
  have hresult := write_congested
  have hsize : (congested.write plain 0 "c" long).2.1.waiting.size = 29 := by decide +kernel
  rcases hwrite : congested.write plain 0 "c" long with ⟨result, k, u⟩
  rw [hwrite] at hresult hsize
  obtain rfl : result = .error (.io .noSpace) := hresult
  have hkept := (h plain plain u fullPath .write congested k 0 "c" long _ (by decide) open_congested hwrite).2.1
  rw [hkept] at hsize
  exact absurd hsize (by decide)

end PubSub.Journal
