import Mathlib.Tactic.Common
import PubSub.Store

/-!
# Regular files

A path that leads to a regular file leads to the same one whatever is written to it, and a path that leads to a free
place leads to the file that is created there.

* `Store.Sound`: every place that is taken has a file.
* `Store.Holds`: under a path there is a regular file with a content.
* `Store.Vacant`: under a path there is nothing, and a file can be created there.
* `Node.kind`: what a file is, whatever it holds; `Store.Later`: a store in which the files are what they were.
* `Node.Refuses`, `Node.Kind.Takes`: a file takes nothing, or everything.

Results:

* `Store.sound_start`: the store is sound at the start.
* `Store.Holds.openWrite`, `Store.Vacant.openWrite`: the file under a path is opened, or created.
* `Store.Holds.append`: writing at its end.
* `Store.later_openWrite`, `Store.later_openEmpty`, `Store.later_write`: no file becomes one of another kind.
-/

namespace PubSub

/-- What is read is as long as is told. -/
theorem Node.size_of_read {n : Node} {f : ByteArray} (h : n.read = .ok f) : f.size ≤ n.size := by
  cases n <;> cases h <;> exact Nat.le_refl _

/-- What a file is, whatever it holds. -/
inductive Node.Kind
  | file
  | directory
  | null
  | full
  deriving DecidableEq

namespace Node

/-- What a file is, whatever it holds. -/
def kind : Node → Kind
  | file _ => .file
  | directory => .directory
  | null => .null
  | full => .full

/-- Everything but a directory can be read. -/
theorem read_iff (n : Node) : (∃ f, n.read = .ok f) ↔ n.kind ≠ .directory := by
  cases n <;> simp [read, kind]

theorem kind_write {n n' : Node} {offset : Option Nat} {bytes : ByteArray} (h : n.write offset bytes = .ok n') :
    n'.kind = n.kind := by
  unfold write at h
  split at h
  · split at h
    · cases h
      rfl
    · split at h <;> cases h <;> rfl
  · cases h
  · cases h
    rfl
  · split at h <;> cases h
    rfl

@[simp] theorem kind_truncate (n : Node) : n.truncate.kind = n.kind := by
  cases n <;> rfl

/-- A file that does not take some bytes is a directory, or the device without room. No file of the kind takes them. -/
theorem write_error {n n' : Node} {offset offset' : Option Nat} {bytes : ByteArray} {e : OsError}
    (h : n.write offset bytes = .error e) (hkind : n'.kind = n.kind) : ∃ e, n'.write offset' bytes = .error e := by
  cases n with
  | file content =>
    simp only [write] at h
    split at h
    · cases h
    · split at h <;> cases h
  | null => cases h
  | directory =>
    cases n' <;> cases hkind
    exact ⟨_, rfl⟩
  | full =>
    cases n' <;> cases hkind
    simp only [write] at h ⊢
    by_cases hsize : bytes.size = 0
    · rw [if_pos hsize] at h
      cases h
    · exact ⟨_, if_neg hsize⟩

/-- A file takes nothing that is written to it. -/
def Refuses (n : Node) (e : OsError) : Prop := ∀ offset bytes, bytes.size ≠ 0 → n.write offset bytes = .error e

/-- The files of a kind take everything that is written to them. -/
def Kind.Takes (k : Kind) : Prop := ∀ n : Node, n.kind = k → ∀ offset bytes, ∃ n', n.write offset bytes = .ok n'

/-- A file takes nothing, or it takes everything and so do all files of its kind. -/
theorem refuses_or_takes (n : Node) : (∃ e, n.Refuses e) ∨ n.kind.Takes := by
  cases n with
  | directory => exact Or.inl ⟨.isDirectory, fun _ _ _ => rfl⟩
  | full => exact Or.inl ⟨.noSpace, fun _ _ hsize => if_neg hsize⟩
  | null =>
    refine Or.inr fun n hkind offset bytes => ?_
    cases n <;> cases hkind
    exact ⟨_, rfl⟩
  | file content =>
    refine Or.inr fun n hkind offset bytes => ?_
    cases n <;> cases hkind
    unfold write
    cases offset with
    | none => exact ⟨_, rfl⟩
    | some o =>
      simp only
      split <;> exact ⟨_, rfl⟩

theorem Kind.Takes.ne_directory {k : Kind} (h : k.Takes) : k ≠ .directory := by
  rintro rfl
  obtain ⟨n, hn⟩ := h .directory rfl none .empty
  cases hn

end Node
end PubSub

namespace PubSub.Store

variable {s : Store} {path content bytes : ByteArray} {id : Nat}

/-! ## Files by their numbers -/

/-- Every place that is taken has a file. -/
def Sound (s : Store) : Prop := ∀ e ∈ s.entries, e.2 < s.nodes.size

theorem sound_start (base : Place) (below : PathName) : (start base below).Sound := by
  intro e he
  simp only [start, List.mem_cons, List.not_mem_nil, or_false] at he
  show e.2 < 3
  rcases he with rfl | rfl | rfl | rfl | rfl | rfl | rfl <;> simp

theorem lt_size_of_file (h : s.node id = .file content) : id < s.nodes.size := by
  by_contra hout
  rw [node, Array.getD_eq_getD_getElem?, Array.getElem?_eq_none (Nat.not_lt.1 hout)] at h
  cases h

theorem node_setNode_self (h : id < s.nodes.size) (n : Node) : (s.setNode id n).node id = n := by
  show (s.nodes.setIfInBounds id n).getD id .directory = n
  rw [Array.getD_eq_getD_getElem?, Array.getElem?_setIfInBounds_self_of_lt h]
  rfl

theorem node_setNode_other {i : Nat} (h : id ≠ i) (n : Node) : (s.setNode id n).node i = s.node i := by
  show (s.nodes.setIfInBounds id n).getD i .directory = s.nodes.getD i .directory
  rw [Array.getD_eq_getD_getElem?, Array.getD_eq_getD_getElem?, Array.getElem?_setIfInBounds_ne h]

theorem node_add_self (s : Store) (place : Place) (n : Node) : (s.add place n).1.node s.nodes.size = n := by
  show (s.nodes.push n).getD s.nodes.size .directory = n
  rw [Array.getD_eq_getD_getElem?, Array.getElem?_push_size]
  rfl

theorem node_add_other {i : Nat} (h : i < s.nodes.size) (place : Place) (n : Node) :
    (s.add place n).1.node i = s.node i := by
  show (s.nodes.push n).getD i .directory = s.nodes.getD i .directory
  rw [Array.getD_eq_getD_getElem?, Array.getD_eq_getD_getElem?, Array.getElem?_push_lt h,
    Array.getElem?_eq_getElem h]

/-! ## Paths -/

theorem entry?_lt (hs : s.Sound) {place : Place} {i : Nat} (h : s.entry? place = some i) : i < s.nodes.size := by
  obtain ⟨e, he, rfl⟩ := Option.map_eq_some_iff.1 h
  exact hs e (List.mem_of_find?_eq_some he)

theorem entry?_setNode (s : Store) (id : Nat) (n : Node) (place : Place) :
    entry? (s.setNode id n) place = s.entry? place := rfl

theorem entry?_add_self (s : Store) (place : Place) (n : Node) :
    entry? (s.add place n).1 place = some s.nodes.size := by
  simp [ entry?, add]

theorem entry?_add_other {place other : Place} (h : place ≠ other) (n : Node) :
    entry? (s.add place n).1 other = s.entry? other := by
  simp [ entry?, add, h]

/-- A place is free because nothing was there. -/
theorem entry?_of_free {names : List PathName} {from' place : Place} (h : s.follow from' names = .ok (.free place)) :
    s.entry? place = none := by
  induction names generalizing from' with
  | nil =>
    rw [follow] at h
    split at h <;> cases h
  | cons name rest ih =>
    rw [follow] at h
    split at h
    · exact ih h
    · split at h
      · exact ih h
      · split at h
        · cases h
        · simp only at h
          split at h
          · cases h
            assumption
          · cases h
          · cases h
          · split at h
            · exact ih h
            · cases h

/-- Names that lead to a free place lead to the file that is added there. -/
theorem follow_add (hs : s.Sound) {names : List PathName} {from' place : Place} {n : Node}
    (h : s.follow from' names = .ok (.free place)) :
    (s.add place n).1.follow from' names = .ok (.taken place s.nodes.size) := by
  have hnone := entry?_of_free h
  induction names generalizing from' with
  | nil =>
    rw [follow] at h
    split at h <;> cases h
  | cons name rest ih =>
    rw [follow] at h ⊢
    split at h
    · rename_i hdot
      rw [if_pos hdot]
      exact ih h
    · rename_i hdot
      rw [if_neg hdot]
      split at h
      · rename_i hup
        rw [if_pos hup]
        exact ih h
      · rename_i hup
        rw [if_neg hup]
        split at h
        · cases h
        · rename_i hlong
          rw [if_neg hlong]
          cases he : s.entry? (from' ++ [name]) with
          | none =>
            cases rest with
            | nil =>
              simp only [he] at h
              cases h
              simp only [entry?_add_self]
            | cons name' rest =>
              simp only [he] at h
              cases h
          | some i =>
            have hne : place ≠ from' ++ [name] := by
              rintro rfl
              rw [hnone] at he
              cases he
            have hsame := node_add_other (entry?_lt hs he) place n
            simp only [he, entry?_add_other hne] at h ⊢
            cases rest with
            | nil => cases h
            | cons name' rest =>
              simp only [hsame] at h ⊢
              cases hnode : s.node i with
              | directory =>
                simp only [hnode] at h ⊢
                exact ih h
              | file _ | null | full =>
                simp only [hnode] at h
                cases h

/-- Whatever is written to a regular file, names lead where they led. -/
theorem follow_setNode_file (h : s.node id = .file content) (names : List PathName) (place : Place) :
    (s.setNode id (.file bytes)).follow place names = s.follow place names := by
  induction names generalizing place with
  | nil => rfl
  | cons name rest ih =>
    rw [follow, follow, ih, ih]
    split
    · rfl
    · split
      · rfl
      · split
        · rfl
        · simp only [entry?_setNode]
          cases he : s.entry? (place ++ [name]) with
          | none =>
            cases rest with
            | nil => rfl
            | cons name' rest => rfl
          | some i =>
            cases rest with
            | nil => rfl
            | cons name' rest =>
              simp only
              by_cases hi : id = i
              · subst hi
                rw [node_setNode_self (lt_size_of_file h), h]
              · rw [node_setNode_other hi, ih]

theorem locate_setNode_file (h : s.node id = .file content) (path : ByteArray) :
    (s.setNode id (.file bytes)).locate path = s.locate path := by
  unfold locate
  rw [follow_setNode_file h]
  rfl

theorem locate_add (hs : s.Sound) {place : Place} {n : Node} (h : s.locate path = .ok (.free place)) :
    (s.add place n).1.locate path = .ok (.taken place s.nodes.size) := by
  unfold locate at h ⊢
  split at h
  · cases h
  · rename_i hzero
    rw [if_neg hzero]
    split at h
    · cases h
    · rename_i hempty
      rw [if_neg hempty]
      split at h
      · cases h
      · rename_i hlong
        rw [if_neg hlong]
        exact follow_add hs h

/-! ## Files by their paths -/

/-- Under `path` there is a regular file, number `id`, that holds `content`. -/
structure Holds (s : Store) (path : ByteArray) (id : Nat) (content : ByteArray) : Prop where
  found : ∃ place, s.locate path = .ok (.taken place id)
  plain : endsInSlash path = false
  node : s.node id = .file content

/-- Under `path` there is nothing, but a file can be created. -/
structure Vacant (s : Store) (path : ByteArray) : Prop where
  free : ∃ place, s.locate path = .ok (.free place)
  plain : endsInSlash path = false

theorem Holds.openRead (h : s.Holds path id content) : s.openRead path = .ok id := by
  obtain ⟨place, hplace⟩ := h.found
  simp only [Store.openRead, hplace, h.node, h.plain, Bool.false_eq_true, if_false]

theorem Holds.openWrite (h : s.Holds path id content) : s.openWrite path = .ok (s, id) := by
  obtain ⟨place, hplace⟩ := h.found
  simp only [Store.openWrite, hplace, h.node, h.plain, Bool.false_eq_true, if_false]

theorem Holds.present (h : s.Holds path id content) : s.present path = true := by
  obtain ⟨place, hplace⟩ := h.found
  simp only [Store.present, hplace, h.node, h.plain, Bool.not_false]

theorem Holds.readFile (h : s.Holds path id content) : s.readFile path = .ok content := by
  rw [Store.readFile, h.openRead]
  simp only [h.node, Node.read]

/-- What is put in the place of the content is there. -/
theorem Holds.setNode (h : s.Holds path id content) (bytes : ByteArray) :
    (s.setNode id (.file bytes)).Holds path id bytes := by
  refine ⟨?_, h.plain, node_setNode_self (lt_size_of_file h.node) _⟩
  rw [locate_setNode_file h.node]
  exact h.found

/-- Writing at the end of a file, at an offset or not. -/
theorem Holds.append (h : s.Holds path id content) {offset : Option Nat}
    (ho : offset = none ∨ offset = some content.size) (bytes : ByteArray) :
    s.write id offset bytes = .ok (s.setNode id (.file (content ++ bytes))) := by
  rw [Store.write, h.node]
  rcases ho with rfl | rfl
  · rfl
  · simp only [Node.write, if_true]
    rfl

theorem Vacant.present (h : s.Vacant path) : s.present path = false := by
  obtain ⟨place, hplace⟩ := h.free
  simp only [Store.present, hplace]

/-- A file is created. -/
theorem Vacant.openWrite (hs : s.Sound) (h : s.Vacant path) :
    ∃ t i, s.openWrite path = .ok (t, i) ∧ t.Holds path i .empty := by
  obtain ⟨place, hplace⟩ := h.free
  refine ⟨(s.add place (.file .empty)).1, s.nodes.size, ?_, ⟨place, locate_add hs hplace⟩, h.plain, ?_⟩
  · simp only [Store.openWrite, hplace, h.plain, Bool.false_eq_true, if_false]
    rfl
  · exact node_add_self s place _

/-! ## Files stay what they are -/

/-- `t` comes after `s`: a file that could be read is of the kind that it was. -/
def Later (s t : Store) : Prop := ∀ id, (s.node id).kind ≠ .directory → (t.node id).kind = (s.node id).kind

variable {t u : Store}

theorem Later.rfl : Later s s := fun _ _ => Eq.refl _

theorem Later.trans (h : Later s t) (h' : Later t u) : Later s u := fun id hid =>
  (h' id (h id hid ▸ hid)).trans (h id hid)

theorem later_setNode {n : Node} (h : n.kind = (s.node id).kind) : Later s (s.setNode id n) := fun i _ => by
  by_cases hi : id = i
  · subst hi
    by_cases hlt : id < s.nodes.size
    · rw [node_setNode_self hlt, h]
    · rw [setNode, Array.setIfInBounds_eq_of_size_le (Nat.not_lt.1 hlt)]
  · rw [node_setNode_other hi]

theorem lt_size_of_kind (h : (s.node id).kind ≠ .directory) : id < s.nodes.size := by
  by_contra hout
  rw [node, Array.getD_eq_getD_getElem?, Array.getElem?_eq_none (Nat.not_lt.1 hout)] at h
  exact h (Eq.refl _)

theorem later_add (s : Store) (place : Place) (n : Node) : Later s (s.add place n).1 := fun _ hi => by
  rw [node_add_other (lt_size_of_kind hi)]

theorem later_write {offset : Option Nat} (h : s.write id offset bytes = .ok t) : Later s t := by
  unfold write at h
  cases hwrite : (s.node id).write offset bytes with
  | error e =>
    rw [hwrite] at h
    cases h
  | ok n =>
    rw [hwrite] at h
    cases h
    exact later_setNode (Node.kind_write hwrite)

/-- Opening a file for writing gives one that can be written. -/
theorem later_openWrite (h : s.openWrite path = .ok (t, id)) : Later s t ∧ (t.node id).kind ≠ .directory := by
  unfold openWrite at h
  split at h
  · cases h
  · split at h
    · cases h
    · rename_i place _ _
      cases h
      have hnew := node_add_self s place (.file .empty)
      exact ⟨later_add s place (.file .empty), fun hkind => nomatch (congrArg Node.kind hnew).symm.trans hkind⟩
  · split at h
    · cases h
    · rename_i hnode
      split at h
      · cases h
      · cases h
        refine ⟨.rfl, fun hkind => ?_⟩
        cases hn : s.node id <;> rw [hn] at hkind <;> cases hkind
        exact hnode hn

theorem later_openEmpty (h : s.openEmpty path = .ok (t, id)) : Later s t ∧ (t.node id).kind ≠ .directory := by
  unfold openEmpty at h
  cases hopen : s.openWrite path with
  | error e =>
    rw [hopen] at h
    cases h
  | ok r =>
    obtain ⟨u, i⟩ := r
    rw [hopen] at h
    cases h
    obtain ⟨hlater, hkind⟩ := later_openWrite hopen
    have hcleared := later_setNode (Node.kind_truncate (u.node i))
    exact ⟨hlater.trans hcleared, (hcleared i hkind).symm ▸ hkind⟩

end PubSub.Store
