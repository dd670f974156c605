import PubSub.Proofs.Journal.Reading
import PubSub.Proofs.Journal.Writing

/-!
# A journal over many sessions

A file that is built from nothing by sessions of writers gives back, in order, the records that they took.

* `Journal.callAll`: what a writer makes of many calls.
* `Journal.sessions`: sessions one after the other, each of which opens the file, writes and closes it.
* `Journal.Begins`: a file can be built from nothing.
* `Journal.Keeps`: what is told during one session.

Results:

* `Journal.Continues.callAll`, `Journal.Logged.keeps`: a session adds the records that it takes, and tells so.
* `Journal.sessions_of_holds`: so do many sessions.
* `Journal.sessions_round_trip`: what was written in all sessions is read back.
-/

namespace PubSub.Journal

/-! ## Many calls -/

/-- Asks a journal to take records, one after the other. -/
def callAll (j : Journal) (s : Store) : List Call → List (Except Error Int64) × Journal × Store
  | [] => ([], j, s)
  | c :: cs =>
    let rest := callAll (j.call s c).2.1 (j.call s c).2.2 cs
    ((j.call s c).1 :: rest.1, rest.2)

variable {j : Journal} {s : Store} {path before : ByteArray} {n : Nat} {taken : List Call}

/-- The calls that a writer takes are added to those it has taken. -/
theorem Continues.callAll (h : j.Continues s path before n taken) (cs : List Call) :
    (j.callAll s cs).2.1.Continues (j.callAll s cs).2.2 path before n (taken ++ Call.accepted cs) := by
  induction cs generalizing j s taken with
  | nil =>
    rw [Call.accepted_nil, List.append_nil]
    exact h
  | cons c cs ih =>
    rw [Journal.callAll]
    cases hc : c.fits with
    | true =>
      have hrest := ih (h.write hc).2
      rw [List.append_assoc, List.singleton_append] at hrest
      rw [Call.accepted_cons_of_fits hc]
      exact hrest
    | false =>
      obtain ⟨d, hd⟩ := h.write_refused hc
      rw [Call.accepted_cons_of_unfit (by rw [hc]; exact Bool.false_ne_true), hd]
      exact ih h

theorem Logged.callAll {before : List Call} (h : j.Logged s path (Call.records 0 before)) (cs : List Call) :
    (j.callAll s cs).2.1.Logged (j.callAll s cs).2.2 path (Call.records 0 (before ++ Call.accepted cs)) := by
  have hlogged := (h.continues.callAll cs).logged
  rw [List.nil_append, Call.length_records] at hlogged
  rw [Call.records_append, Nat.zero_add]
  exact hlogged

/-- What is told during one session that makes the calls `cs` after the calls `before` were taken: the number of the
next record, the length of the journal at each time, what becomes of each call, and that it closes. -/
structure Keeps (j : Journal) (s : Store) (before cs : List Call) : Prop where
  next : j.nextNumber = Int64.ofNat before.length
  length : j.tell = Call.total before
  tell : ∀ done left, cs = done ++ left →
    (j.callAll s done).2.1.tell = j.tell + Call.total (Call.accepted done)
  taken : ∀ done c left, cs = done ++ c :: left → c.fits = true →
    ((j.callAll s done).2.1.call (j.callAll s done).2.2 c).1 =
      .ok (Int64.ofNat (before.length + (Call.accepted done).length))
  refused : ∀ done c left, cs = done ++ c :: left → c.fits = false → ∃ d,
    (j.callAll s done).2.1.call (j.callAll s done).2.2 c = (.error (.invalidArgument d), (j.callAll s done).2)
  closed : ((j.callAll s cs).2.1.close (j.callAll s cs).2.2).1 = .ok ()

theorem Logged.keeps {before : List Call} (h : j.Logged s path (Call.records 0 before)) (cs : List Call) :
    j.Keeps s before cs := by
  have htell : j.tell = Call.total before := by rw [h.tell, Call.size_row_records]
  refine ⟨?_, htell, fun done left _ => ?_, fun done c left _ hc => ?_, fun done c left _ hc => ?_, ?_⟩
  · rw [h.nextNumber, Call.length_records]
  · rw [(h.callAll done).tell, Call.size_row_records, htell, Call.total_append]
  · rw [((h.callAll done).write hc).1, Call.length_records, List.length_append]
  · obtain ⟨d, hd⟩ := (h.callAll done).write_refused hc
    exact ⟨d, hd⟩
  · exact (h.callAll cs).close.1

/-! ## Sessions -/

/-- Opens a file, makes some calls and closes it. -/
def session (s : Store) (path : ByteArray) (mode : Mode) (cs : List Call) : Except Error Store :=
  match openFile s path mode with
  | (.error e, _, _) => .error (.io e)
  | (.ok j, s, _) =>
    match (j.callAll s cs).2.1.close (j.callAll s cs).2.2 with
    | (.error e, _, _) => .error e
    | (.ok (), s, _) => .ok s

/-- Sessions with the same file one after the other. -/
def sessions (s : Store) (path : ByteArray) : List (Mode × List Call) → Except Error Store
  | [] => .ok s
  | (mode, cs) :: rest =>
    match session s path mode cs with
    | .error e => .error e
    | .ok s => sessions s path rest

/-- What a session leaves in the file. -/
theorem session_of_continues {mode : Mode} (hopen : (openFile s path mode).1 = .ok j)
    (h : j.Continues (openFile s path mode).2.1 path before n taken) (cs : List Call) :
    ∃ t id, session s path mode cs = .ok t ∧
      t.Holds path id (before ++ row (Call.records n (taken ++ Call.accepted cs))) := by
  obtain ⟨hclose, id, hholds⟩ := (h.callAll cs).close
  unfold session
  generalize openFile s path mode = opened at hopen hclose hholds
  obtain ⟨r, u, notices⟩ := opened
  cases hopen
  simp only at hclose hholds ⊢
  generalize (j.callAll u cs).2.1.close (j.callAll u cs).2.2 = final at hclose hholds
  obtain ⟨r, t, notices⟩ := final
  cases hclose
  exact ⟨t, id, rfl, hholds⟩

theorem session_of_logged {before : List Call} {mode : Mode} (hopen : (openFile s path mode).1 = .ok j)
    (h : j.Logged (openFile s path mode).2.1 path (Call.records 0 before)) (cs : List Call) :
    ∃ t id, session s path mode cs = .ok t ∧ t.Holds path id (row (Call.records 0 (before ++ Call.accepted cs))) := by
  have hsession := session_of_continues hopen h.continues cs
  rw [List.nil_append, Call.length_records] at hsession
  rw [Call.records_append, Nat.zero_add, row_append]
  exact hsession

/-- What sessions that go on leave in the file. -/
theorem sessions_of_holds {before : List Call} (hfits : ∀ c ∈ before, c.fits = true) {id : Nat}
    (h : s.Holds path id (row (Call.records 0 before))) (more : List (List Call)) :
    ∃ t id, sessions s path (more.map (Prod.mk .append)) = .ok t ∧
      t.Holds path id (row (Call.records 0 (before ++ Call.accepted more.flatten))) := by
  induction more generalizing s before id with
  | nil => exact ⟨s, id, rfl, by rw [List.flatten_nil, Call.accepted_nil, List.append_nil]; exact h⟩
  | cons cs more ih =>
    obtain ⟨j, hopen, hlogged⟩ := open_again h (Call.fits_records hfits 0)
    obtain ⟨t, id, hsession, ht⟩ := session_of_logged hopen hlogged cs
    have hfits' : ∀ c ∈ before ++ Call.accepted cs, c.fits = true := by
      intro c hc
      rcases List.mem_append.1 hc with hc | hc
      · exact hfits c hc
      · exact (List.mem_filter.1 hc).2
    obtain ⟨u, id, hsessions, hu⟩ := ih hfits' ht
    refine ⟨u, id, ?_, ?_⟩
    · rw [List.map_cons, sessions, hsession]
      exact hsessions
    · rw [List.flatten_cons, Call.accepted_append, ← List.append_assoc]
      exact hu

/-- A file can be built from nothing under `path` by a writer of the given mode: it is created, or emptied. -/
def Begins (s : Store) (path : ByteArray) (mode : Mode) : Prop :=
  (s.Sound ∧ s.Vacant path ∧ mode ≠ .read) ∨ (mode = .write ∧ ∃ id content, s.Holds path id content)

theorem Begins.openFile {mode : Mode} (h : Begins s path mode) :
    ∃ j, (openFile s path mode).1 = .ok j ∧ j.Logged (Journal.openFile s path mode).2.1 path (Call.records 0 []) := by
  rcases h with ⟨hs, hv, hm⟩ | ⟨rfl, id, content, hh⟩
  · exact open_created hs hv hm
  · exact open_emptied hh

/-- What the first session and sessions that go on leave in the file. -/
theorem sessions_of_begins {mode : Mode} (h : Begins s path mode) (cs : List Call) (more : List (List Call)) :
    ∃ t id, sessions s path ((mode, cs) :: more.map (Prod.mk .append)) = .ok t ∧
      t.Holds path id (row (Call.records 0 (Call.accepted (cs ++ more.flatten)))) := by
  obtain ⟨j, hopen, hlogged⟩ := h.openFile
  obtain ⟨u, id, hsession, hu⟩ := session_of_logged hopen hlogged cs
  rw [List.nil_append] at hu
  obtain ⟨t, id, hsessions, ht⟩ := sessions_of_holds (fun c hc => (List.mem_filter.1 hc).2) hu more
  refine ⟨t, id, ?_, ?_⟩
  · rw [sessions, hsession]
    exact hsessions
  · rw [Call.accepted_append]
    exact ht

theorem keeps_of_logged {mode : Mode} {before : List Call} (hopen : (openFile s path mode).1 = .ok j)
    (h : j.Logged (openFile s path mode).2.1 path (Call.records 0 before)) (cs : List Call) :
    ∃ t notices, openFile s path mode = (.ok j, t, notices) ∧ j.Keeps t before cs :=
  ⟨_, _, Prod.ext hopen rfl, h.keeps cs⟩

/-- What is told during each session. -/
theorem keeps_of_begins {mode : Mode} (h : Begins s path mode) {cs : List Call} {more : List (List Call)}
    {earlier later : List (Mode × List Call)} {m : Mode} {ds : List Call}
    (hruns : (mode, cs) :: more.map (Prod.mk .append) = earlier ++ (m, ds) :: later) :
    ∃ t j u notices, sessions s path earlier = .ok t ∧ openFile t path m = (.ok j, u, notices) ∧
      j.Keeps u (Call.accepted (earlier.flatMap Prod.snd)) ds := by
  cases earlier with
  | nil =>
    obtain ⟨hrun, -⟩ := List.cons.inj hruns
    cases hrun
    obtain ⟨j, hopen, hlogged⟩ := h.openFile
    obtain ⟨u, notices, hfile, hkeeps⟩ := keeps_of_logged hopen hlogged cs
    exact ⟨s, j, u, notices, rfl, hfile, hkeeps⟩
  | cons run earlier =>
    obtain ⟨rfl, hrest⟩ := List.cons.inj hruns
    -- the sessions before are the first one and some that go on, and this one goes on as well
    obtain ⟨before, after, rfl, rfl, hafter⟩ := List.map_eq_append_iff.1 hrest
    obtain ⟨d, after, rfl, hd, -⟩ := List.map_eq_cons_iff.1 hafter
    cases hd
    obtain ⟨t, id, hsessions, ht⟩ := sessions_of_begins h cs before
    obtain ⟨j, hopen, hlogged⟩ := open_again ht (Call.fits_accepted _ 0)
    obtain ⟨u, notices, hfile, hkeeps⟩ := keeps_of_logged hopen hlogged ds
    refine ⟨t, j, u, notices, hsessions, hfile, ?_⟩
    have hcalls : ((mode, cs) :: before.map (Prod.mk .append)).flatMap Prod.snd = cs ++ before.flatten := by
      rw [List.flatMap_cons, List.flatMap_map, List.flatMap_id']
    rw [hcalls]
    exact hkeeps

/-- What was written in all sessions is read back. Each session goes on where the one before ended, and a reader is
given the records that were taken, in order and numbered from 0, and then nothing, at the end of the file. -/
theorem sessions_round_trip {mode : Mode} (h : Begins s path mode) (cs : List Call) (more : List (List Call)) :
    (∀ earlier m ds later, (mode, cs) :: more.map (Prod.mk .append) = earlier ++ (m, ds) :: later →
      ∃ t j u notices, sessions s path earlier = .ok t ∧ openFile t path m = (.ok j, u, notices) ∧
        j.Keeps u (Call.accepted (earlier.flatMap Prod.snd)) ds) ∧
      ∃ t j k, sessions s path ((mode, cs) :: more.map (Prod.mk .append)) = .ok t ∧
        openFile t path .read = (.ok j, t, []) ∧
        j.follow (List.replicate ((Call.accepted (cs ++ more.flatten)).length + 1) t) =
          ((Call.records 0 (Call.accepted (cs ++ more.flatten))).map (fun r => .ok (some r)) ++ [.ok none], k) ∧
        k.tell = k.size t := by
  refine ⟨fun earlier m ds later hruns => keeps_of_begins h hruns, ?_⟩
  obtain ⟨t, id, hsessions, ht⟩ := sessions_of_begins h cs more
  have hfits := Call.fits_accepted (cs ++ more.flatten) 0
  have hlength := Call.length_records 0 (Call.accepted (cs ++ more.flatten))
  generalize Call.accepted (cs ++ more.flatten) = taken at ht hfits hlength ⊢
  generalize Call.records 0 taken = rs at ht hfits hlength ⊢
  rw [← hlength]
  have hnodes : (List.replicate (rs.length + 1) t).map (fun s => s.node id) =
      (List.replicate (rs.length + 1) (row rs)).map .file := by
    rw [List.map_replicate, List.map_replicate, ht.node]
  obtain ⟨hanswers, huse⟩ := follow_eq_scans (j := ⟨path, .read, .reading id 0⟩) (c := 0) rfl hnodes
  have hscans := scans_row hfits (Nat.zero_le _)
  rw [startOf_zero, Nat.sub_zero, List.drop_zero] at hscans
  rw [hscans] at hanswers huse
  refine ⟨t, _, _, hsessions, open_reading ht, Prod.ext ?_ rfl, ?_⟩
  · rw [hanswers, List.map_append, List.map_map]
    rfl
  · rw [tell, size, huse]
    simp only [ht.node, Node.size]

/-- At the start, a name with nothing under it leads to a free place. -/
theorem locate_start : (Store.start [[0x68]] [0x64]).locate "a".toUTF8 = .ok (.free [[0x68], [0x61]]) := by
  have hnames : Store.names "a".toUTF8 = [[0x61]] := rfl
  rw [Store.locate, if_neg (by decide +kernel), if_neg (by decide +kernel), if_neg (by decide +kernel), hnames]
  rfl

theorem vacant_start : (Store.start [[0x68]] [0x64]).Vacant "a".toUTF8 := ⟨⟨_, locate_start⟩, rfl⟩

/-- A payload may hold the sync word, and a channel without a name leaves no trace. -/
theorem sessions_round_trip_two :
    ∃ t j k, sessions (Store.start [[0x68]] [0x64]) "a".toUTF8
        [(.append, [⟨5, "c", Bytes.ofNat 4 syncWord.toNat⟩, ⟨6, "", .empty⟩]), (.append, [⟨7, "d", .empty⟩])] = .ok t ∧
      openFile t "a".toUTF8 .read = (.ok j, t, []) ∧
      j.follow (List.replicate 3 t) =
        ([.ok (some ⟨0, 5, "c", Bytes.ofNat 4 syncWord.toNat⟩), .ok (some ⟨1, 7, "d", .empty⟩), .ok none], k) ∧
      k.tell = k.size t := by
  have hbegins : Begins (Store.start [[0x68]] [0x64]) "a".toUTF8 .append :=
    Or.inl ⟨Store.sound_start _ _, vacant_start, by decide⟩
  exact (sessions_round_trip hbegins [⟨5, "c", Bytes.ofNat 4 syncWord.toNat⟩, ⟨6, "", .empty⟩]
    [[⟨7, "d", .empty⟩]]).2

end PubSub.Journal
