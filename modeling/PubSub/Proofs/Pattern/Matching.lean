import PubSub.Proofs.Pattern.Standard

/-!
# Whole names

A pattern is given to the engine within a group, between the conditions that the text starts and that it ends. What
comes of that is shown for every engine that implements what is laid down of expressions.

* `Reference.Escapes`: a pattern closes the group that it is put into.

Results:

* `isExpr_anchored`, `of_isExpr_anchored`: which patterns are expressions within the group.
* `spans_anchored_iff`: what an expression matches within the group.
* `ofText_ok_iff`: which patterns are accepted.
* `accepts_iff`: a pattern that is an expression by itself matches the names that the expression matches as a whole.
-/

namespace PubSub.Pattern

open Unicode (CharSet)

namespace Reference

variable {ref : Reference} {text before stretch after : String}

/-! ## Patterns in their group -/

/-- A text closes a group that it is put into: an expression and a closing parenthesis stand at its start. -/
def Escapes (ref : Reference) (text : String) : Prop :=
  ∃ own rest, text = own ++ ")" ++ rest ∧ ref.IsExpr own ∧ ¬ ref.Hides own

theorem anchored_eq (text : String) : anchored text = "^" ++ (grouped text ++ "$") := by
  refine String.toList_inj.1 ?_
  simp only [anchored, grouped, String.toList_append, List.append_assoc]
  rfl

/-- What closes a group is no expression by itself. -/
theorem Escapes.not_isExpr (h : ref.Escapes text) (hl : ref.Laws) : ¬ ref.IsExpr text := by
  obtain ⟨own, rest, rfl, hown, hshown⟩ := h
  exact hl.unopened hown hshown

theorem sequence_grouped_stop (h : ref.IsExpr text) (hh : ¬ ref.Hides text) : ref.Sequence (grouped text ++ "$") :=
  .after (.group h hh) .stop

/-- An expression that hides no parenthesis is one within the group. -/
theorem Laws.isExpr_anchored (hl : ref.Laws) (h : ref.IsExpr text) (hh : ¬ ref.Hides text) :
    ref.IsExpr (anchored text) := by
  rw [anchored_eq]
  exact hl.sequence (.before .start (sequence_grouped_stop h hh))

/-- Where a text with the end of a group behind it is split at a parenthesis, it is the parenthesis of the group or one
of the text. -/
theorem eq_or_closes {text own rest : String} (h : text ++ ")$" = own ++ ")" ++ rest) :
    own = text ∨ ∃ w, text = own ++ ")" ++ w := by
  have hlist : text.toList ++ [')', '$'] = own.toList ++ ')' :: rest.toList := by
    have hs := congrArg String.toList h
    simp only [String.toList_append, List.append_assoc] at hs
    exact hs
  rcases List.append_eq_append_iff.1 hlist with ⟨s, hown, hs⟩ | ⟨s, htext, hs⟩
  · refine Or.inl (String.toList_inj.1 ?_)
    rcases s with _ | ⟨c, _ | ⟨d, s⟩⟩
    · rw [hown, List.append_nil]
    · cases hs
    · have hlen := congrArg List.length hs
      simp only [List.length_cons, List.length_nil, List.length_append] at hlen
      omega
  · cases s with
    | nil => exact Or.inl (String.toList_inj.1 (by rw [htext, List.append_nil]))
    | cons c s =>
      obtain ⟨rfl, -⟩ := List.cons_eq_cons.1 hs
      refine Or.inr ⟨String.ofList s, String.toList_inj.1 ?_⟩
      simp only [htext, String.toList_append, String.toList_ofList, List.append_assoc]
      rfl

/-- What is an expression within the group is one by itself, or closes the group. -/
theorem Laws.of_isExpr_anchored (hl : ref.Laws) (h : ref.IsExpr (anchored text)) :
    (ref.IsExpr text ∧ ¬ ref.Hides text) ∨ ref.Escapes text := by
  have hopen : anchored text = "^" ++ "(?:" ++ (text ++ ")$") := by
    refine String.toList_inj.1 ?_
    simp only [anchored, String.toList_append, List.append_assoc]
    rfl
  rw [hopen] at h
  obtain ⟨own, rest, hsplit, hown, hshown⟩ := hl.opened .start h
  rcases eq_or_closes hsplit with rfl | ⟨w, rfl⟩
  · exact Or.inl ⟨hown, hshown⟩
  · exact Or.inr ⟨own, w, rfl, hown, hshown⟩

/-- Within the group an expression matches what it matches by itself, as far as that is the whole text. -/
theorem Laws.spans_anchored_iff (hl : ref.Laws) (h : ref.IsExpr text) (hh : ¬ ref.Hides text) :
    ref.Spans (anchored text) before stretch after ↔ before = "" ∧ after = "" ∧ ref.Spans text "" stretch "" := by
  simp only [anchored_eq, hl.spans_before .start (sequence_grouped_stop h hh), hl.spans_start,
    hl.spans_after (.group h hh) .stop, hl.spans_stop, hl.spans_group h hh]
  constructor
  · rintro ⟨x, y, rfl, ⟨rfl, rfl⟩, z, w, rfl, hs, rfl, rfl⟩
    refine ⟨rfl, rfl, ?_⟩
    simpa only [String.empty_append, String.append_empty] using hs
  · rintro ⟨rfl, rfl, hs⟩
    refine ⟨"", stretch, String.empty_append.symm, ⟨rfl, rfl⟩, stretch, "", String.append_empty.symm, ?_, rfl, rfl⟩
    simpa only [String.empty_append, String.append_empty] using hs

/-- Characters that stand for themselves, one behind the other, match what is written the same. -/
theorem Laws.spans_literals_iff (hl : ref.Laws) {cs : List Char} (h : ∀ c ∈ cs, c ∉ metacharacters) :
    ref.Sequence (String.ofList cs) ∧
      ∀ before stretch after, ref.Spans (String.ofList cs) before stretch after ↔ stretch = String.ofList cs := by
  induction cs with
  | nil => exact ⟨.empty, fun _ _ _ => hl.spans_empty⟩
  | cons c cs ih =>
    obtain ⟨hseq, hspans⟩ := ih fun d hd => h d (List.mem_cons_of_mem c hd)
    have hc := h c List.mem_cons_self
    have hcons : String.ofList (c :: cs) = String.singleton c ++ String.ofList cs := by
      refine String.toList_inj.1 ?_
      rw [String.toList_append, String.toList_ofList, String.toList_ofList, String.toList_singleton]
      rfl
    refine ⟨hcons ▸ .before (.literal hc) hseq, fun before stretch after => ?_⟩
    simp only [hcons, hl.spans_before (.literal hc) hseq, hl.spans_literal hc, hspans]
    constructor
    · rintro ⟨x, y, rfl, rfl, rfl⟩
      rfl
    · rintro rfl
      exact ⟨_, _, rfl, rfl, rfl⟩

end Reference

/-! ## Results -/

variable {engine : Engine} {ref : Reference} {text : String} {q : Matcher engine}

theorem ofText_eq_ok_iff :
    Matcher.ofText engine text = .ok q ↔ ∃ r, engine.compile (anchored text) = some r ∧ q = ⟨text, r⟩ := by
  rw [Matcher.ofText]
  cases engine.compile (anchored text) with
  | none => exact ⟨nofun, fun ⟨r, hr, _⟩ => nomatch hr⟩
  | some r =>
    constructor
    · intro h
      exact ⟨r, rfl, (Except.ok.inj h).symm⟩
    · rintro ⟨r', hr, rfl⟩
      rw [Option.some.inj hr]

/-- A pattern is accepted if what is given to the engine is an expression within the limits. -/
theorem exists_ofText_ok_iff (he : engine.Implements ref) :
    (∃ q, Matcher.ofText engine text = .ok q) ↔ ref.IsExpr (anchored text) ∧ ref.Fits (anchored text) := by
  rw [← he.compiles]
  constructor
  · rintro ⟨q, hq⟩
    obtain ⟨r, hr, -⟩ := ofText_eq_ok_iff.1 hq
    exact ⟨r, hr⟩
  · rintro ⟨r, hr⟩
    exact ⟨_, ofText_eq_ok_iff.2 ⟨r, hr, rfl⟩⟩

/-- An accepted pattern that is an expression by itself is matched by the names that the expression spans. -/
theorem accepts_iff_spans (hl : ref.Laws) (he : engine.Implements ref) (h : Matcher.ofText engine text = .ok q)
    (hexpr : ref.IsExpr text) (channel : String) : q.accepts channel = true ↔ ref.Spans text "" channel "" := by
  have hanchored : ref.IsExpr (anchored text) := ((exists_ofText_ok_iff he).1 ⟨q, h⟩).1
  obtain ⟨r, hr, rfl⟩ := ofText_eq_ok_iff.1 h
  have hshown : ¬ ref.Hides text := by
    rcases hl.of_isExpr_anchored hanchored with hown | hescapes
    · exact hown.2
    · exact absurd hexpr (hescapes.not_isExpr hl)
  refine (he.searches hr channel).trans ?_
  simp only [hl.spans_anchored_iff hexpr hshown]
  constructor
  · rintro ⟨before, stretch, after, rfl, rfl, rfl, hs⟩
    simpa only [String.empty_append, String.append_empty] using hs
  · intro hs
    exact ⟨"", channel, "", by rw [String.empty_append, String.append_empty], rfl, rfl, hs⟩

/-- Which patterns are accepted. Those that stay within their group and do not hide its end are accepted if they are
expressions by themselves, as far as the limits allow, and then whole names are matched. A pattern that closes its group
is no expression, whether it is accepted or not; one that hides the end of its group is one, and is refused. -/
theorem ofText_ok_iff (hl : ref.Laws) (he : engine.Implements ref) (text : String) :
    (¬ ref.Escapes text → ¬ ref.Hides text →
      ((∃ q, Matcher.ofText engine text = .ok q) ↔ ref.IsExpr text ∧ ref.Fits (anchored text)) ∧
      ∀ q, Matcher.ofText engine text = .ok q → ∀ channel, q.accepts channel = true → ref.Spans text "" channel "") ∧
    (ref.Escapes text → ¬ ref.IsExpr text) ∧
    (ref.Hides text → ref.IsExpr text ∧ ∀ q, Matcher.ofText engine text ≠ .ok q) := by
  have hsplit : (∃ q, Matcher.ofText engine text = .ok q) → (ref.IsExpr text ∧ ¬ ref.Hides text) ∨ ref.Escapes text :=
    fun h => hl.of_isExpr_anchored ((exists_ofText_ok_iff he).1 h).1
  refine ⟨fun hstays hshows => ⟨?_, fun q hq channel hc => ?_⟩, fun h => h.not_isExpr hl, fun hhides => ?_⟩
  · constructor
    · intro h
      exact ⟨((hsplit h).resolve_right hstays).1, ((exists_ofText_ok_iff he).1 h).2⟩
    · rintro ⟨hexpr, hfits⟩
      exact (exists_ofText_ok_iff he).2 ⟨hl.isExpr_anchored hexpr hshows, hfits⟩
  · have hexpr := ((hsplit ⟨q, hq⟩).resolve_right hstays).1
    exact (accepts_iff_spans hl he hq hexpr channel).1 hc
  · refine ⟨hhides.1, fun q hq => ?_⟩
    rcases hsplit ⟨q, hq⟩ with hown | hescapes
    · exact hown.2 hhides
    · exact hescapes.not_isExpr hl hhides.1

theorem ofText_ok_iff_alternatives :
    (∃ q, ofText "a|b" = .ok q) ∧ ∀ q, ofText "a|b" = .ok q → ∀ channel, q.accepts channel = true →
      Reference.standard.Spans "a|b" "" channel "" := by
  have hexpr : Reference.standard.IsExpr "a|b" := Option.isSome_iff_exists.1 (by decide)
  have hresult := ofText_ok_iff standard_laws standard_implements "a|b"
  have hstays : ¬ Reference.standard.Escapes "a|b" := fun h => hresult.2.1 h hexpr
  have hshows : ¬ Reference.standard.Hides "a|b" := by
    rintro ⟨-, hshown⟩
    exact absurd (Option.isSome_iff_exists.2 hshown) (by decide)
  obtain ⟨r, hr⟩ := Option.isSome_iff_exists.1 (show (Engine.standard.compile (anchored "a|b")).isSome by decide)
  exact ⟨⟨_, ofText_eq_ok_iff.2 ⟨r, hr, rfl⟩⟩, (hresult.1 hstays hshows).2⟩

example : (Node.ofText? "(?x)a#".toList).isSome ∧ (Engine.standard.compile (anchored "(?x)a#")).isNone := by decide

/-- A pattern that closes its group is accepted, and then names are not matched as a whole. -/
theorem ofText_ok_escaping :
    ∃ q, ofText "a)|(b" = .ok q ∧ ¬ Reference.standard.IsExpr "a)|(b" ∧ q.accepts "ax" = true := by
  have hcompile : Engine.standard.compile (anchored "a)|(b") =
      some (.alt (.cat (.look .start) (.set (CharSet.singleton 'a')))
        (.cat (.set (CharSet.singleton 'b')) (.look .stop))) := rfl
  have hnone : Node.ofText? "a)|(b".toList = none := Option.isNone_iff_eq_none.1 (by decide)
  refine ⟨_, ofText_eq_ok_iff.2 ⟨_, hcompile, rfl⟩, ?_, ?_⟩
  · rintro ⟨n, hn⟩
    exact nomatch hnone.symm.trans hn
  · obtain ⟨n, hn, -, hexpr⟩ := compile_standard_eq_some_iff.1 hcompile
    refine (standard_implements.searches hcompile "ax").2 ⟨"", "a", "x", rfl, n, hn, ?_⟩
    rw [hexpr]
    exact .altLeft (.cat (.look (Nat.zero_le _) rfl) (.set rfl (Expr.contains_singleton.2 rfl)))

/-- Matching is whole-name matching. -/
theorem accepts_iff (hl : ref.Laws) (he : engine.Implements ref) (h : Matcher.ofText engine text = .ok q) :
    (ref.IsExpr text → ∀ channel, q.accepts channel = true ↔ ref.Spans text "" channel "") ∧
    ((∀ c ∈ text.toList, c ∉ metacharacters) → ∀ channel, q.accepts channel = true ↔ channel = text) := by
  refine ⟨accepts_iff_spans hl he h, fun hplain channel => ?_⟩
  obtain ⟨hseq, hspans⟩ := hl.spans_literals_iff hplain
  rw [String.ofList_toList] at hseq hspans
  exact (accepts_iff_spans hl he h (hl.sequence hseq) channel).trans (hspans "" channel "")

theorem accepts_iff_alternatives :
    (∃ q, ofText "(?m)a|ab$" = .ok q ∧ Reference.standard.IsExpr "(?m)a|ab$" ∧
      ∀ channel, q.accepts channel = true ↔ Reference.standard.Spans "(?m)a|ab$" "" channel "") ∧
    ∃ q, ofText "IMU" = .ok q ∧ ∀ channel, q.accepts channel = true ↔ channel = "IMU" := by
  have hexpr : Reference.standard.IsExpr "(?m)a|ab$" := Option.isSome_iff_exists.1 (by decide)
  obtain ⟨r, hr⟩ := Option.isSome_iff_exists.1 (show (Engine.standard.compile (anchored "(?m)a|ab$")).isSome by decide)
  obtain ⟨r', hr'⟩ := Option.isSome_iff_exists.1 (show (Engine.standard.compile (anchored "IMU")).isSome by decide)
  have hq := ofText_eq_ok_iff.2 ⟨r, hr, rfl⟩
  have hq' := ofText_eq_ok_iff.2 ⟨r', hr', rfl⟩
  have hplain : ∀ c ∈ "IMU".toList, c ∉ metacharacters := by simp [metacharacters]
  exact ⟨⟨_, hq, hexpr, (accepts_iff standard_laws standard_implements hq).1 hexpr⟩,
    _, hq', (accepts_iff standard_laws standard_implements hq').2 hplain⟩

end PubSub.Pattern
