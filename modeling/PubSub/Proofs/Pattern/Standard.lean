import PubSub.Proofs.Pattern.Enclosing
import PubSub.Proofs.Pattern.Reference
import PubSub.Proofs.Pattern.Searching

/-!
# The engine that is used

The engine that patterns are given to here has what is laid down of regular expressions, and implements it.

* `Reference.standard`: what the engine takes for an expression, and what that matches.
* `Node.Stands`: a text that means the same wherever it stands.
* `Expr.MatchesIn`: an expression matches a stretch between what is before it and behind it.

Results:

* `standard_laws`: what is laid down of expressions holds.
* `standard_implements`: the engine compiles them, and searches for them.
-/

namespace PubSub.Pattern

open Unicode (CharSet)

/-! ## What expressions match -/

namespace Expr

variable {e e' : Expr} {es : List Expr} {c : Char} {b m a : List Char} {text : Array Char} {i j : Nat}

theorem matches_cats_cons :
    Matches text (cats (e :: es)) i j ↔ ∃ k, Matches text e i k ∧ Matches text (cats es) k j := by
  cases es with
  | nil =>
    constructor
    · intro h
      exact ⟨j, h, .empty h.bounds.2⟩
    · rintro ⟨k, h, _ | _⟩
      exact h
  | cons e' es =>
    constructor
    · rintro (_ | _ | _ | ⟨ha, hb⟩)
      exact ⟨_, ha, hb⟩
    · rintro ⟨k, ha, hb⟩
      exact .cat ha hb

theorem matches_cats_append {es es' : List Expr} :
    Matches text (cats (es ++ es')) i j ↔ ∃ k, Matches text (cats es) i k ∧ Matches text (cats es') k j := by
  induction es generalizing i with
  | nil =>
    constructor
    · intro h
      exact ⟨i, .empty (Nat.le_trans h.bounds.1 h.bounds.2), h⟩
    · rintro ⟨k, _ | _, h⟩
      exact h
  | cons e es ih =>
    simp only [List.cons_append, matches_cats_cons, ih]
    constructor
    · rintro ⟨k, he, l, hes, hes'⟩
      exact ⟨l, ⟨k, he, hes⟩, hes'⟩
    · rintro ⟨l, ⟨k, he, hes⟩, hes'⟩
      exact ⟨k, he, l, hes, hes'⟩

theorem contains_singleton {d : Char} : (CharSet.singleton c).contains d = true ↔ d = c := by
  have hnone : ∀ i, CharSet.search #[(c.toNat, c.toNat)] d.toNat i i = false := fun i => by
    rw [CharSet.search, if_neg (Nat.lt_irrefl i)]
  rw [CharSet.contains, CharSet.containsNat, CharSet.singleton, CharSet.search]
  simp only [List.size_toArray, List.length_cons, List.length_nil, Nat.zero_add, Nat.lt_one_iff, if_true,
    Nat.reduceDiv, List.getElem?_toArray, List.getElem?_cons_zero, hnone]
  constructor
  · intro h
    split at h
    · cases h
    · split at h
      · cases h
      · exact Char.toNat_inj.1 (by omega)
  · rintro rfl
    rw [if_neg (Nat.lt_irrefl _), if_neg (Nat.lt_irrefl _)]

/-- An expression matches the stretch `m` of a text, which has `b` before it and `a` behind it. -/
def MatchesIn (e : Expr) (b m a : List Char) : Prop := Matches (b ++ m ++ a).toArray e b.length (b ++ m).length

theorem matchesIn_empty : MatchesIn .empty b m a ↔ m = [] := by
  rw [MatchesIn, List.length_append]
  constructor
  · generalize hj : b.length + m.length = j
    rintro (_ | _)
    exact List.eq_nil_of_length_eq_zero (by omega)
  · rintro rfl
    exact .empty (by simp only [List.size_toArray, List.length_append]; omega)

theorem matchesIn_look {l : Look} :
    MatchesIn (.look l) b m a ↔ m = [] ∧ l.holds (b ++ m ++ a).toArray b.length = true := by
  rw [MatchesIn, List.length_append]
  constructor
  · generalize hj : b.length + m.length = j
    rintro (_ | _ | ⟨_, hl⟩)
    exact ⟨List.eq_nil_of_length_eq_zero (by omega), hl⟩
  · rintro ⟨rfl, hl⟩
    exact .look (by simp only [List.size_toArray, List.length_append]; omega) hl

theorem matchesIn_start : MatchesIn (.look .start) b m a ↔ m = [] ∧ b = [] := by
  rw [matchesIn_look, Look.holds, beq_iff_eq, List.length_eq_zero_iff]

theorem matchesIn_stop : MatchesIn (.look .stop) b m a ↔ m = [] ∧ a = [] := by
  rw [matchesIn_look, Look.holds, beq_iff_eq, List.size_toArray]
  simp only [List.length_append]
  constructor
  · rintro ⟨rfl, h⟩
    exact ⟨rfl, List.eq_nil_of_length_eq_zero (by rw [List.length_nil] at h; omega)⟩
  · rintro ⟨rfl, rfl⟩
    exact ⟨rfl, rfl⟩

theorem matchesIn_singleton : MatchesIn (.set (CharSet.singleton c)) b m a ↔ m = [c] := by
  rw [MatchesIn, List.length_append]
  constructor
  · generalize hj : b.length + m.length = j
    rintro (_ | ⟨hd, hc⟩)
    obtain ⟨d, rfl⟩ := List.length_eq_one_iff.1 (show m.length = 1 by omega)
    rw [List.getElem?_toArray, List.append_assoc, List.getElem?_append_right (Nat.le_refl _), Nat.sub_self] at hd
    rw [Option.some.inj hd, contains_singleton.1 hc]
  · rintro rfl
    refine .set (c := c) ?_ (contains_singleton.2 rfl)
    rw [List.getElem?_toArray, List.append_assoc, List.getElem?_append_right (Nat.le_refl _), Nat.sub_self]
    rfl

/-- A stretch is matched by two lists of expressions in two parts. -/
theorem matchesIn_cats_append {es es' : List Expr} : MatchesIn (cats (es ++ es')) b m a ↔
    ∃ x y, m = x ++ y ∧ MatchesIn (cats es) b x (y ++ a) ∧ MatchesIn (cats es') (b ++ x) y a := by
  simp only [MatchesIn, matches_cats_append]
  constructor
  · rintro ⟨k, hes, hes'⟩
    have hk := hes.bounds.1
    have hle := hes'.bounds.1
    rw [List.length_append] at hle
    obtain ⟨x, y, rfl, rfl⟩ : ∃ x y, m = x ++ y ∧ k = (b ++ x).length :=
      ⟨m.take (k - b.length), m.drop (k - b.length), (List.take_append_drop _ _).symm, by
        rw [List.length_append, List.length_take]
        omega⟩
    refine ⟨x, y, rfl, ?_, ?_⟩
    · rwa [← List.append_assoc, List.append_assoc b x y]
    · rwa [List.append_assoc b x y]
  · rintro ⟨x, y, rfl, hes, hes'⟩
    rw [← List.append_assoc, List.append_assoc b x y] at hes
    rw [List.append_assoc b x y] at hes'
    exact ⟨_, hes, hes'⟩

/-- An expression occurs in a text if it matches a stretch of it. -/
theorem occurs_iff_matchesIn {cs : List Char} :
    e.Occurs cs.toArray ↔ ∃ b m a, cs = b ++ m ++ a ∧ MatchesIn e b m a := by
  constructor
  · rintro ⟨i, j, h⟩
    have hi := h.bounds.1
    have hj := h.bounds.2
    rw [List.size_toArray] at hj
    have htake : (cs.take j).take i = cs.take i := by rw [List.take_take, Nat.min_eq_left hi]
    have hcs : cs = cs.take i ++ (cs.take j).drop i ++ cs.drop j := by
      rw [← htake, List.take_append_drop, List.take_append_drop]
    refine ⟨_, _, _, hcs, ?_⟩
    rw [MatchesIn, ← hcs]
    rw [List.length_append, List.length_take, List.length_drop, List.length_take]
    have hstart : min i cs.length = i := by omega
    have hstop : min i cs.length + (min j cs.length - i) = j := by omega
    rwa [hstop, hstart]
  · rintro ⟨b, m, a, rfl, h⟩
    exact ⟨_, _, h⟩

end Expr

/-! ## What stands by itself -/

namespace Node

variable {s t : List Char} {ns ms : List Node} {n : Node} {a : String}

/-- A text means certain nodes one behind the other, whatever stands before it and behind it. -/
def Stands (s : List Char) (ns : List Node) : Prop :=
  ∃ names, ∀ g rest,
    readFrom? {} g [] (s ++ rest) = readFrom? { names } { g with items := ns.reverse ++ g.items } [] rest

/-- A text means a node, whichever groups have been named before it. -/
def StandsAnywhere (s : List Char) (n : Node) : Prop :=
  ∀ names g rest, readFrom? { names } g [] (s ++ rest) = readFrom? { names } (g.push n) [] rest

/-- The node of a condition or of a set of characters. -/
def single (e : Expr) : Node := ⟨e, 0, true⟩

theorem skip_default (cs : List Char) : ({} : Flags).skip cs = cs := rfl

theorem standsAnywhere_of_readOne {c : Char} {e : Expr}
    (h : ∀ names rest, Token.readOne { names } c rest = some (.unit e 0, { names }, rest)) :
    StandsAnywhere [c] (single e) := by
  intro names g rest
  rw [List.singleton_append, readFrom?_token (skip_default _) (h names rest) rfl]
  rfl

theorem readOne_literal {c : Char} (hc : c ∉ metacharacters) (names : List (List Char)) (rest : List Char) :
    Token.readOne { names } c rest = some (.unit (.set (CharSet.singleton c)) 0, { names }, rest) := by
  rw [Token.readOne]
  · rfl
  all_goals
    rintro rfl
    exact hc (by decide)

theorem standsAnywhere_start : StandsAnywhere ['^'] (single (.look .start)) := standsAnywhere_of_readOne fun _ _ => rfl

theorem standsAnywhere_stop : StandsAnywhere ['$'] (single (.look .stop)) := standsAnywhere_of_readOne fun _ _ => rfl

theorem standsAnywhere_literal {c : Char} (hc : c ∉ metacharacters) :
    StandsAnywhere [c] (single (.set (CharSet.singleton c))) :=
  standsAnywhere_of_readOne (readOne_literal hc)

theorem standsAnywhere_simple (h : Simple a) : ∃ n, StandsAnywhere a.toList n := by
  cases h with
  | start => exact ⟨_, standsAnywhere_start⟩
  | stop => exact ⟨_, standsAnywhere_stop⟩
  | literal hc =>
    rw [String.toList_singleton]
    exact ⟨_, standsAnywhere_literal hc⟩

theorem stands_nil : Stands [] [] := ⟨[], fun _ _ => rfl⟩

theorem Stands.before (hn : StandsAnywhere s n) (ht : Stands t ns) : Stands (s ++ t) (n :: ns) := by
  obtain ⟨names, ht⟩ := ht
  refine ⟨names, fun g rest => ?_⟩
  rw [List.append_assoc, hn [] g, ht, List.reverse_cons, List.append_assoc]
  rfl

theorem Stands.after (hs : Stands s ns) (hn : StandsAnywhere t n) : Stands (s ++ t) (ns ++ [n]) := by
  obtain ⟨names, hs⟩ := hs
  refine ⟨names, fun g rest => ?_⟩
  rw [List.append_assoc, hs, hn, List.reverse_append]
  rfl

theorem StandsAnywhere.stands (h : StandsAnywhere s n) : Stands s [n] := by
  rw [← List.append_nil s]
  exact stands_nil.before h

/-- Parentheses open a group. -/
theorem readFrom?_opening (g : Group) (cs : List Char) :
    readFrom? {} g [] ("(?:".toList ++ cs) = readFrom? (({} : Token.State).inside {}) {} ([] ++ [g]) cs := by
  have hopen : Token.readOne {} '(' ('?' :: ':' :: cs) = some (.opening, ({} : Token.State).inside {}, cs) := rfl
  exact readFrom?_token (skip_default _) hopen rfl

/-- As many flags are saved at the start of a text as groups are open: none. -/
theorem saved_nil : ({} : Token.State).saved.length = ([] : List Group).length := rfl

theorem stands_group (hown : ofText? s = some n) (hshown : ofText? (s ++ [')']) = none) :
    Stands ("(?:".toList ++ s ++ [')']) [n.inGroup] := by
  obtain ⟨names, hclose⟩ := readFrom?_close saved_nil hown hshown
  refine ⟨names, fun g rest => ?_⟩
  rw [List.append_assoc, List.append_assoc, readFrom?_opening]
  exact (hclose rest).2 {} g

theorem Stands.ofText? (h : Stands s ns) : ofText? s = some (sequence ns) := by
  obtain ⟨names, h⟩ := h
  have hs := h {} []
  rw [List.append_nil, List.append_nil] at hs
  rw [ofText?_eq, hs, readFrom?_nil (skip_default []), List.isEmpty_nil, if_pos rfl, Group.node, List.reverse_reverse]
  rfl

end Node

/-! ## What is laid down -/

open Node

/-- What the engine that is used takes for an expression, and what that matches. -/
def Reference.standard : Reference where
  IsExpr text := ∃ n, ofText? text.toList = some n
  Fits text := ∀ n, ofText? text.toList = some n → n.depth ≤ Engine.maxDepth ∧ n.expr.size ≤ Engine.maxSize
  Spans text before stretch after :=
    ∃ n, ofText? text.toList = some n ∧ n.expr.MatchesIn before.toList stretch.toList after.toList

variable {text a s t : String} {n : Node} {ns ms : List Node}

theorem toList_grouped (text : String) : (grouped text).toList = "(?:".toList ++ text.toList ++ [')'] := by
  rw [grouped, String.toList_append, String.toList_append]
  rfl

/-- What hides no parenthesis is no expression with one behind it. -/
theorem ofText?_closing (he : Reference.standard.IsExpr text) (hh : ¬ Reference.standard.Hides text) :
    ofText? (text.toList ++ [')']) = none := by
  refine Option.eq_none_iff_forall_ne_some.2 fun n hn => hh ⟨he, n, ?_⟩
  rw [String.toList_append]
  exact hn

theorem stands_grouped (hn : ofText? text.toList = some n) (hh : ¬ Reference.standard.Hides text) :
    Stands (grouped text).toList [n.inGroup] := by
  rw [toList_grouped]
  exact stands_group hn (ofText?_closing ⟨n, hn⟩ hh)

/-- The group that is opened behind a character is closed behind an expression. -/
theorem exists_closed_group (ha : Simple a) (he : Reference.standard.IsExpr (a ++ "(?:" ++ t)) :
    ∃ text after, t = text ++ ")" ++ after ∧ Reference.standard.IsExpr text ∧ ¬ Reference.standard.Hides text := by
  obtain ⟨k, hk⟩ := standsAnywhere_simple ha
  obtain ⟨n, hn⟩ := he
  have hopen := (hk [] {} ("(?:".toList ++ t.toList)).trans (readFrom?_opening _ t.toList)
  rw [String.toList_append, String.toList_append, List.append_assoc, ofText?_eq, hopen] at hn
  obtain ⟨own, w, hrest, ⟨m, hm⟩, hclosed⟩ := readFrom?_open saved_nil hn
  refine ⟨String.ofList own, String.ofList w, ?_, ⟨m, ?_⟩, ?_⟩
  · refine String.toList_inj.1 ?_
    simp only [hrest, String.toList_append, String.toList_ofList, List.append_assoc]
    rfl
  · rw [String.toList_ofList]
    exact hm
  · rintro ⟨-, l, hl⟩
    rw [String.toList_append, String.toList_ofList] at hl
    cases hclosed.symm.trans hl

/-- A parenthesis behind an expression that does not hide it has nothing to close. -/
theorem not_isExpr_closing (he : Reference.standard.IsExpr text) (hh : ¬ Reference.standard.Hides text) :
    ¬ Reference.standard.IsExpr (text ++ ")" ++ t) := by
  rintro ⟨m, hm⟩
  obtain ⟨n, hn⟩ := he
  obtain ⟨names, hclose⟩ := readFrom?_close saved_nil hn (ofText?_closing ⟨n, hn⟩ hh)
  rw [String.toList_append, String.toList_append, List.append_assoc] at hm
  cases (hclose t.toList).1.symm.trans hm

theorem stands_sequence (h : Reference.standard.Sequence s) : ∃ ns, Stands s.toList ns := by
  induction h with
  | empty => exact ⟨[], stands_nil⟩
  | group he hh =>
    obtain ⟨n, hn⟩ := he
    exact ⟨_, stands_grouped hn hh⟩
  | before ha _ ih =>
    obtain ⟨n, hn⟩ := standsAnywhere_simple ha
    obtain ⟨ns, hns⟩ := ih
    rw [String.toList_append]
    exact ⟨n :: ns, hns.before hn⟩
  | after _ ha ih =>
    obtain ⟨n, hn⟩ := standsAnywhere_simple ha
    obtain ⟨ns, hns⟩ := ih
    rw [String.toList_append]
    exact ⟨ns ++ [n], hns.after hn⟩

section Spans

variable {before stretch after : String}

theorem spans_iff_of_stands (h : Stands text.toList ns) : Reference.standard.Spans text before stretch after ↔
    (Expr.cats (ns.map Node.expr)).MatchesIn before.toList stretch.toList after.toList := by
  rw [← expr_sequence]
  constructor
  · rintro ⟨n, hn, hm⟩
    cases h.ofText?.symm.trans hn
    exact hm
  · intro hm
    exact ⟨_, h.ofText?, hm⟩

theorem spans_append (hs : Stands s.toList ns) (ht : Stands t.toList ms)
    (hst : Stands (s ++ t).toList (ns ++ ms)) : Reference.standard.Spans (s ++ t) before stretch after ↔
    ∃ x y, stretch = x ++ y ∧ Reference.standard.Spans s before x (y ++ after) ∧
      Reference.standard.Spans t (before ++ x) y after := by
  simp only [spans_iff_of_stands hst, spans_iff_of_stands hs, spans_iff_of_stands ht, List.map_append,
    Expr.matchesIn_cats_append, String.toList_append]
  constructor
  · rintro ⟨x, y, hxy, hx, hy⟩
    refine ⟨String.ofList x, String.ofList y, ?_, ?_, ?_⟩
    · rw [← String.ofList_append, ← hxy, String.ofList_toList]
    · rwa [String.toList_ofList, String.toList_ofList]
    · rwa [String.toList_ofList, String.toList_ofList]
  · rintro ⟨x, y, rfl, hx, hy⟩
    exact ⟨x.toList, y.toList, String.toList_append, hx, hy⟩

end Spans

/-- What is laid down of expressions holds for the engine that is used. -/
theorem standard_laws : Reference.standard.Laws where
  sequence h := by
    obtain ⟨ns, hns⟩ := stands_sequence h
    exact ⟨_, hns.ofText?⟩
  opened := exists_closed_group
  unopened := not_isExpr_closing
  spans_empty := by
    intro before stretch after
    have hstands : Stands "".toList [] := stands_nil
    rw [spans_iff_of_stands hstands]
    exact Expr.matchesIn_empty.trans String.toList_eq_nil_iff
  spans_start := by
    intro before stretch after
    have hstands : Stands "^".toList _ := standsAnywhere_start.stands
    rw [spans_iff_of_stands hstands, ← String.toList_eq_nil_iff,
      ← String.toList_eq_nil_iff]
    exact Expr.matchesIn_start
  spans_stop := by
    intro before stretch after
    have hstands : Stands "$".toList _ := standsAnywhere_stop.stands
    rw [spans_iff_of_stands hstands, ← String.toList_eq_nil_iff,
      ← String.toList_eq_nil_iff]
    exact Expr.matchesIn_stop
  spans_literal := by
    intro c before stretch after hc
    have hstands : Stands (String.singleton c).toList [single (.set (CharSet.singleton c))] := by
      rw [String.toList_singleton]
      exact (standsAnywhere_literal hc).stands
    rw [spans_iff_of_stands hstands, ← String.toList_inj, String.toList_singleton]
    exact Expr.matchesIn_singleton
  spans_group := by
    intro text before stretch after he hh
    obtain ⟨n, hn⟩ := he
    rw [spans_iff_of_stands (stands_grouped hn hh)]
    constructor
    · intro hm
      exact ⟨n, hn, hm⟩
    · rintro ⟨m, hm, h⟩
      cases hn.symm.trans hm
      exact h
  spans_before := by
    intro a s before stretch after ha hs
    obtain ⟨n, hn⟩ := standsAnywhere_simple ha
    obtain ⟨ns, hns⟩ := stands_sequence hs
    refine spans_append hn.stands hns ?_
    rw [String.toList_append]
    exact hns.before hn
  spans_after := by
    intro s a before stretch after hs ha
    obtain ⟨n, hn⟩ := standsAnywhere_simple ha
    obtain ⟨ns, hns⟩ := stands_sequence hs
    refine spans_append hns hn.stands ?_
    rw [String.toList_append]
    exact hns.after hn

/-! ## The engine -/

theorem compile_standard_eq_some_iff {e : Expr} : Engine.standard.compile text = some e ↔
    ∃ n, ofText? text.toList = some n ∧ (n.depth ≤ Engine.maxDepth ∧ n.expr.size ≤ Engine.maxSize) ∧ n.expr = e := by
  simp only [Engine.standard]
  cases ofText? text.toList with
  | none => exact ⟨nofun, fun ⟨_, hn, _⟩ => nomatch hn⟩
  | some n =>
    dsimp only
    split
    case isTrue hfits =>
      constructor
      · intro h
        exact ⟨n, rfl, hfits, Option.some.inj h⟩
      · rintro ⟨m, hm, -, rfl⟩
        rw [Option.some.inj hm]
    case isFalse hfits =>
      refine ⟨nofun, ?_⟩
      rintro ⟨m, hm, hlimits, -⟩
      exact absurd (Option.some.inj hm ▸ hlimits) hfits

/-- The engine that is used compiles expressions and searches for them. -/
theorem standard_implements : Engine.standard.Implements .standard where
  compiles text := by
    constructor
    · rintro ⟨r, hr⟩
      obtain ⟨n, hn, hfits, -⟩ := compile_standard_eq_some_iff.1 hr
      refine ⟨⟨n, hn⟩, fun m hm => ?_⟩
      rwa [← Option.some.inj (hn.symm.trans hm)]
    · rintro ⟨⟨n, hn⟩, hfits⟩
      exact ⟨_, compile_standard_eq_some_iff.2 ⟨n, hn, hfits n hn, rfl⟩⟩
  searches {text r} hr name := by
    obtain ⟨n, hn, -, rfl⟩ := compile_standard_eq_some_iff.1 hr
    refine (Expr.occurs_iff (ofText?_sensible hn)).trans (Expr.occurs_iff_matchesIn.trans ?_)
    constructor
    · rintro ⟨b, m, a, hname, h⟩
      refine ⟨String.ofList b, String.ofList m, String.ofList a, String.toList_inj.1 ?_, n, hn, ?_⟩
      · rw [hname]
        simp only [String.toList_append, String.toList_ofList]
      · simp only [String.toList_ofList]
        exact h
    · rintro ⟨b, m, a, rfl, k, hk, h⟩
      cases hn.symm.trans hk
      exact ⟨b.toList, m.toList, a.toList, by simp only [String.toList_append], h⟩

end PubSub.Pattern
