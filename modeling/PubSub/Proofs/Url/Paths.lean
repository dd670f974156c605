import PubSub.Proofs.Url.Names
import PubSub.Url.Path

/-!
# Plain names as paths

* `Path.IsStep`: a plain name that is neither empty nor one dot nor two.

Results:

* `Path.add_step`: such a step is added to a path as it is written.
* `Path.toList_addAll`: so are many, by induction on the steps.
* `Path.read_join`: the path of a name is its steps, each behind a slash.
-/

namespace PubSub.Url.Path

variable {c : Char} {s : List Char} {segments : List (List Char)}

/-- A step of a file name: of characters of names, not empty, neither one dot nor two. -/
structure IsStep (s : List Char) : Prop where
  ne_nil : s ≠ []
  ne_dot : s ≠ ['.']
  ne_dots : s ≠ ['.', '.']
  names : ∀ c ∈ s, isNameChar c

theorem isStep_iff : IsStep s ↔ s ≠ [] ∧ s ≠ ['.'] ∧ s ≠ ['.', '.'] ∧ s.all isNameChar = true :=
  ⟨fun h => ⟨h.ne_nil, h.ne_dot, h.ne_dots, List.all_eq_true.2 h.names⟩,
    fun ⟨h₀, h₁, h₂, h⟩ => ⟨h₀, h₁, h₂, List.all_eq_true.1 h⟩⟩

instance (s : List Char) : Decidable (IsStep s) := decidable_of_iff _ isStep_iff.symm

theorem isPathEncoded_of_isNameChar (hc : isNameChar c) : isPathEncoded c = false := by
  have hn := toNat_of_isNameChar hc
  have hlow : ¬ c < ' ' := fun hlt => by
    have : c.toNat < 32 := UInt32.lt_iff_toNat_lt.1 hlt
    omega
  have hhigh : ¬ '~' < c := fun hlt => by
    have : 126 < c.toNat := UInt32.lt_iff_toNat_lt.1 hlt
    omega
  have hne : ∀ d, isNameChar d = false → (c == d) = false := fun d hd => beq_false_of_ne (ne_of_isNameChar hc hd)
  simp only [isPathEncoded, isControlOrHigh, decide_eq_false hlow, decide_eq_false hhigh, Bool.or_false,
    hne ' ' (by decide), hne '"' (by decide), hne '<' (by decide), hne '>' (by decide), hne '\x60' (by decide),
    hne '#' (by decide), hne '?' (by decide), hne '\x7b' (by decide), hne '\x7d' (by decide)]

/-- Nothing but a point goes to a point in lower case. -/
theorem eq_dots_of_map_toLower {k : Nat} (h : s.map Char.toLower = List.replicate k '.') :
    s = List.replicate k '.' := by
  rw [List.eq_replicate_iff, List.length_map] at h
  exact List.eq_replicate_iff.2 ⟨h.1, fun c hc => eq_of_toLower_eq (by decide) (h.2 _ (List.mem_map_of_mem hc))⟩

theorem percent_not_mem_lower (h : ∀ c ∈ s, isNameChar c) : '%' ∉ s.map Char.toLower := by
  intro hmem
  obtain ⟨c, hc, he⟩ := List.mem_map.1 hmem
  exact ne_of_isNameChar (h c hc) (d := '%') (by decide) (eq_of_toLower_eq (by decide) he)

theorem IsStep.not_single (hs : IsStep s) : isSingleDot s = false := by
  have hdot : s.map Char.toLower ≠ ['.'] := fun h => hs.ne_dot (eq_dots_of_map_toLower (k := 1) h)
  have hp := percent_not_mem_lower hs.names
  rw [isSingleDot, Bool.or_eq_false_iff, beq_eq_false_iff_ne, beq_eq_false_iff_ne]
  exact ⟨hdot, fun h => hp (h ▸ List.mem_cons_self)⟩

theorem IsStep.not_double (hs : IsStep s) : isDoubleDot s = false := by
  have hdots : s.map Char.toLower ≠ ['.', '.'] := fun h => hs.ne_dots (eq_dots_of_map_toLower (k := 2) h)
  have hp := percent_not_mem_lower hs.names
  have hne : ∀ t, '%' ∈ t → s.map Char.toLower ≠ t := fun t ht h => hp (h ▸ ht)
  simp only [isDoubleDot, Bool.or_eq_false_iff, beq_eq_false_iff_ne]
  exact ⟨⟨⟨hdots, hne _ (by decide)⟩, hne _ (by decide)⟩, hne _ (by decide)⟩

theorem isDrive_of_names (h : ∀ c ∈ s, isNameChar c) : isDrive s = false := by
  rcases s with - | ⟨a, - | ⟨b, - | ⟨c, s⟩⟩⟩
  · rfl
  · rfl
  · have hb := h b (by simp)
    rw [isDrive, beq_false_of_ne (ne_of_isNameChar hb (by decide)), beq_false_of_ne (ne_of_isNameChar hb (by decide))]
    exact Bool.and_false _
  · rfl

/-- A step is added as it is written. -/
theorem add_step (hs : IsStep s) (p : Segments) (slash : Bool) :
    p.add true slash s = if slash then { p with closed := s :: p.closed } else { p with last := s } := by
  have he : percentEncode isPathEncoded s = s :=
    percentEncode_eq_self fun c hc => isPathEncoded_of_isNameChar (hs.names c hc)
  rw [Segments.add]
  simp only [he, hs.not_double, hs.not_single, isDrive_of_names hs.names, Bool.and_false, Bool.or_false,
    Bool.false_eq_true, if_false]

/-- Steps are read one after the other. -/
theorem toList_addAll (hs : ∀ s ∈ segments, IsStep s) (hne : segments ≠ []) (p : Segments) :
    (p.addAll true segments).toList = p.closed.reverse ++ segments ∧ (p.addAll true segments).drive = p.drive := by
  induction segments generalizing p with
  | nil => exact absurd rfl hne
  | cons s rest ih =>
    rw [List.forall_mem_cons] at hs
    cases rest with
    | nil =>
      rw [Segments.addAll, add_step hs.1, if_neg Bool.false_ne_true]
      exact ⟨rfl, rfl⟩
    | cons t rest =>
      rw [Segments.addAll, add_step hs.1, if_pos rfl]
      obtain ⟨hl, hd⟩ := ih hs.2 (List.cons_ne_nil _ _) { p with closed := s :: p.closed }
      exact ⟨by simpa using hl, hd⟩

theorem slash_not_mem (h : ∀ c ∈ s, isNameChar c) : '/' ∉ s := fun hmem => absurd (h '/' hmem) (by decide)

theorem join_eq_cons (hne : segments ≠ []) : join segments = '/' :: ['/'].intercalate segments := by
  induction segments with
  | nil => exact absurd rfl hne
  | cons s rest ih =>
    rw [join, List.flatMap_cons]
    change '/' :: (s ++ join rest) = _
    by_cases hr : rest = []
    · rw [hr, List.intercalate_singleton]
      exact congrArg _ (List.append_nil s)
    · rw [ih hr, List.intercalate_cons_of_ne_nil hr, List.append_assoc]
      rfl

/-- The path of a name: its steps, each behind a slash. -/
def tail (segments : List (List Char)) : List Char := if segments = [] then ['/'] else join segments

/-- What is read behind the first slash of a name are its steps. -/
theorem read_join (hs : ∀ s ∈ segments, IsStep s) :
    fileText (read true ((join segments).drop 1)) = tail segments ∧
      (read true ((join segments).drop 1)).drive = false := by
  by_cases hne : segments = []
  · subst hne
    exact ⟨rfl, rfl⟩
  · have hsplit : splitOn '/' (['/'].intercalate segments) = segments := by
      rw [splitOn_eq, List.splitOn_intercalate '/' (fun s h => slash_not_mem (hs s h).names) hne]
    obtain ⟨hl, hd⟩ := toList_addAll hs hne {}
    rw [join_eq_cons hne, List.drop_succ_cons, List.drop_zero, read, hsplit, fileText, text, hl, tail, if_neg hne]
    refine ⟨?_, hd⟩
    change '/' :: (join segments).dropWhile _ = join segments
    obtain ⟨s, rest, rfl⟩ := List.exists_cons_of_ne_nil hne
    obtain ⟨c, s', rfl⟩ := List.exists_cons_of_ne_nil (hs s List.mem_cons_self).ne_nil
    have hc : c ≠ '/' := ne_of_isNameChar ((hs _ List.mem_cons_self).names c List.mem_cons_self) (by decide)
    rw [join, List.flatMap_cons, List.cons_append, List.cons_append, List.dropWhile_cons_of_pos (by decide),
      List.dropWhile_cons_of_neg (by simpa using hc)]

end PubSub.Url.Path
