import PubSub.Proofs.Journal.Writing

/-!
# Journals that have nothing more to write

When a journal has been written out, nothing waits, or the file does not take it. Files stay what they are, so that in
either case nothing is written later, however often the journal is written out again.

* `Journal.Written`: a journal is open for writing, and its file is no directory.
* `Journal.Spent`: writing out does nothing any more.

Results:

* `Journal.later_openFile`: opening a journal changes no file into another kind.
* `Journal.Written.write`, `Journal.Written.flush`: a journal stays open for writing.
* `Journal.spent_flush`: a journal that has been written out is spent.
-/

namespace PubSub.Journal

variable {j : Journal} {s t : Store}

/-- A journal is open for writing, and its file is no directory. -/
def Written (j : Journal) (s : Store) : Prop := ∃ w, j.use = .writing w ∧ (s.node w.file).kind ≠ .directory

theorem Written.later (h : j.Written s) (hl : s.Later t) : j.Written t := by
  obtain ⟨w, hw, hkind⟩ := h
  exact ⟨w, hw, hl _ hkind ▸ hkind⟩

theorem later_write (j : Journal) (s : Store) (time : Timestamp) (channel : String) (payload : ByteArray) :
    s.Later (j.write s time channel payload).2.2 := by
  unfold Journal.write
  split
  · exact .rfl
  · rename_i w hw
    exact (w.touches_write s time channel payload).later

theorem later_flush (j : Journal) (s : Store) : s.Later (j.flush s).2.2 := by
  unfold Journal.flush
  split
  · exact .rfl
  · rename_i w hw
    exact (w.touches_flush s).later

/-- A journal stays open for writing. -/
theorem Written.write (h : j.Written s) (time : Timestamp) (channel : String) (payload : ByteArray) :
    (j.write s time channel payload).2.1.Written (j.write s time channel payload).2.2 := by
  have hlater := j.later_write s time channel payload
  obtain ⟨w, hw, hkind⟩ := h
  simp only [Journal.write, hw] at hlater ⊢
  exact ⟨_, rfl, by rw [(w.touches_write s time channel payload).file, hlater _ hkind]; exact hkind⟩

theorem Written.flush (h : j.Written s) : (j.flush s).2.1.Written (j.flush s).2.2 := by
  have hlater := j.later_flush s
  obtain ⟨w, hw, hkind⟩ := h
  simp only [Journal.flush, hw] at hlater ⊢
  exact ⟨_, rfl, by rw [(w.touches_flush s).file, hlater _ hkind]; exact hkind⟩

theorem later_release (j : Journal) (s : Store) : s.Later (j.release s) := by
  unfold Journal.release
  split
  · exact .rfl
  · rename_i w hw
    exact (w.touches_flush s).later

/-- A journal that is opened for writing can be written. -/
theorem later_openFile (s : Store) (path : ByteArray) (mode : Mode) :
    s.Later (openFile s path mode).2.1 ∧
      ∀ j, mode ≠ .read → (openFile s path mode).1 = .ok j → j.Written (openFile s path mode).2.1 := by
  cases mode with
  | read =>
    simp only [openFile]
    split <;> exact ⟨.rfl, fun _ hmode => absurd rfl hmode⟩
  | write =>
    simp only [openFile]
    split
    · exact ⟨.rfl, fun _ _ h => by cases h⟩
    · rename_i hopen
      obtain ⟨hlater, hkind⟩ := Store.later_openEmpty hopen
      refine ⟨hlater, fun j _ h => ?_⟩
      cases h
      exact ⟨_, rfl, hkind⟩
  | append =>
    simp only [openFile, openAppend]
    split
    · exact ⟨.rfl, fun _ _ h => by cases h⟩
    · split
      · exact ⟨.rfl, fun _ _ h => by cases h⟩
      · rename_i hopen
        obtain ⟨hlater, hkind⟩ := Store.later_openWrite hopen
        refine ⟨hlater, fun j _ h => ?_⟩
        cases h
        exact ⟨_, rfl, hkind⟩

/-! ## Nothing more to write -/

/-- From `s` on, writing out does nothing. -/
def Spent (j : Journal) (s : Store) : Prop := ∀ t, s.Later t → (j.flush t).2 = (j, t)

theorem Spent.later (h : j.Spent s) (hl : s.Later t) : j.Spent t := fun u hu => h u (hl.trans hu)

/-- A journal that has been written out is spent: nothing waits, or its file does not take what waits. -/
theorem spent_flush (h : j.Written s) : (j.flush s).2.1.Spent (j.flush s).2.2 := by
  obtain ⟨w, hw, hkind⟩ := h
  have hempty : ∀ (w : Writer) (t : Store), w.buffer.size = 0 →
      (Journal.flush { j with use := .writing w } t).2 = ({ j with use := .writing w }, t) := fun w t hbuffer => by
    simp only [Journal.flush, Writer.flush, if_pos hbuffer]
  have hsame : ({ j with use := .writing w } : Journal) = j := by rw [← hw]
  by_cases hbuffer : w.buffer.size = 0
  · have hflush := hempty w s hbuffer
    rw [hsame] at hflush
    rw [hflush]
    intro t _
    have hflush := hempty w t hbuffer
    rwa [hsame] at hflush
  · cases hemit : (s.node w.file).write w.offset w.buffer with
    | ok n =>
      have hflush : (j.flush s).2.1 =
          { j with use := .writing { w with offset := w.offset.map (· + w.buffer.size), buffer := .empty } } := by
        simp only [Journal.flush, hw, Writer.flush, if_neg hbuffer, Writer.emit, Store.write, hemit, Except.map]
      rw [hflush]
      exact fun t _ => hempty _ t rfl
    | error e =>
      -- a file that does not take something never will
      have hrefused : ∀ t : Store, s.Later t → (j.flush t).2 = (j, t) := fun t hl => by
        obtain ⟨e', he'⟩ : ∃ e, (t.node w.file).write w.offset w.buffer = .error e :=
          Node.write_error hemit (hl _ hkind)
        simp only [Journal.flush, hw, Writer.flush, if_neg hbuffer, Writer.emit, Store.write, he', Except.map, hsame]
      rw [hrefused s .rfl]
      exact hrefused

end PubSub.Journal
