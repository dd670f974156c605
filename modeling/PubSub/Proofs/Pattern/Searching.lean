import PubSub.Pattern.Search

/-!
# Searching finds what matches

Following an expression from a set of positions leads to the ends of the stretches that it matches from there. For an
unbounded repetition this takes an end: a round that adds no position settles the set, and each other round uses up
one of the positions of the text.

* `Expr.Sensible`: repetitions do not ask for more than they allow.
* `Follows`: a function on sets of positions follows a relation between positions.

Results:

* `follows_times`, `mem_reach_iff`, `mem_reach_of_settled`: repeating a function follows repeated steps.
* `Expr.follows_ends`: `Expr.ends` follows `Expr.Matches`.
* `Expr.occurs_iff`: `Expr.occurs` decides `Expr.Occurs`.
-/

namespace PubSub.Pattern.Expr

variable {text : Array Char} {e : Expr} {f : List Nat → List Nat} {as bs s seen new : List Nat} {i j k m n x : Nat}

/-- Repetitions do not ask for more than they allow. -/
def Sensible : Expr → Prop
  | .empty => True
  | .set _ => True
  | .look _ => True
  | .cat a b => a.Sensible ∧ b.Sensible
  | .alt a b => a.Sensible ∧ b.Sensible
  | .rep e least most => e.Sensible ∧ ∀ m, most = some m → least ≤ m

/-! ## Stretches -/

mutual

theorem Matches.bounds {e : Expr} {i j : Nat} : Matches text e i j → i ≤ j ∧ j ≤ text.size
  | .empty h => ⟨Nat.le_refl _, h⟩
  | .set h _ => ⟨Nat.le_succ _, (Array.getElem?_eq_some_iff.1 h).1⟩
  | .look h _ => ⟨Nat.le_refl _, h⟩
  | .cat ha hb => ⟨Nat.le_trans ha.bounds.1 hb.bounds.1, hb.bounds.2⟩
  | .altLeft ha => ha.bounds
  | .altRight hb => hb.bounds
  | .rep _ _ h => h.bounds

theorem Times.bounds {e : Expr} {n i j : Nat} : Times text e n i j → i ≤ j ∧ j ≤ text.size
  | .zero h => ⟨Nat.le_refl _, h⟩
  | .succ ha hb => ⟨Nat.le_trans ha.bounds.1 hb.bounds.1, hb.bounds.2⟩

end

theorem times_zero_iff : Times text e 0 i j ↔ i = j ∧ i ≤ text.size := by
  constructor
  · rintro (h | _)
    exact ⟨rfl, h⟩
  · rintro ⟨rfl, h⟩
    exact .zero h

theorem times_succ_iff : Times text e (n + 1) i j ↔ ∃ k, Matches text e i k ∧ Times text e n k j := by
  constructor
  · rintro (_ | ⟨h, hs⟩)
    exact ⟨_, h, hs⟩
  · rintro ⟨k, h, hs⟩
    exact .succ h hs

theorem times_add_iff : Times text e (m + n) i j ↔ ∃ k, Times text e m i k ∧ Times text e n k j := by
  induction m generalizing i with
  | zero =>
    rw [Nat.zero_add]
    constructor
    · intro h
      exact ⟨i, .zero (Nat.le_trans h.bounds.1 h.bounds.2), h⟩
    · rintro ⟨k, hz, h⟩
      obtain ⟨rfl, -⟩ := times_zero_iff.1 hz
      exact h
  | succ m ih =>
    rw [Nat.succ_add_eq_add_succ, Nat.add_succ, times_succ_iff]
    simp only [ih, times_succ_iff]
    constructor
    · rintro ⟨l, h, k, hm, hn⟩
      exact ⟨k, ⟨l, h, hm⟩, hn⟩
    · rintro ⟨k, ⟨l, h, hm⟩, hn⟩
      exact ⟨l, h, k, hm, hn⟩

theorem matches_rep_iff {least : Nat} {most : Option Nat} :
    Matches text (.rep e least most) i j ↔ ∃ n, least ≤ n ∧ (∀ m, most = some m → n ≤ m) ∧ Times text e n i j := by
  constructor
  · rintro (_ | _ | _ | _ | _ | _ | ⟨hl, hm, h⟩)
    exact ⟨_, hl, hm, h⟩
  · rintro ⟨n, hl, hm, h⟩
    exact .rep hl hm h

/-! ## Sets of positions -/

/-- Positions of a text, each once. -/
structure Positions (text : Array Char) (s : List Nat) : Prop where
  increasing : s.Pairwise (· < ·)
  within : ∀ i ∈ s, i ≤ text.size

theorem mem_merge : x ∈ merge as bs ↔ x ∈ as ∨ x ∈ bs := by
  fun_induction merge as bs with
  | case1 bs => simp only [List.not_mem_nil, false_or]
  | case2 a as => simp only [List.not_mem_nil, or_false]
  | case3 a as b bs hlt ih => simp only [List.mem_cons, ih, or_assoc]
  | case4 a as b bs hle hlt ih =>
    simp only [List.mem_cons, ih]
    exact or_left_comm
  | case5 a as b bs hle hge ih =>
    obtain rfl : a = b := by omega
    simp only [List.mem_cons, ih]
    grind

theorem pairwise_merge (ha : as.Pairwise (· < ·)) (hb : bs.Pairwise (· < ·)) : (merge as bs).Pairwise (· < ·) := by
  fun_induction merge as bs with
  | case1 bs => exact hb
  | case2 a as => exact ha
  | case3 a as b bs hlt ih =>
    rw [List.pairwise_cons] at ha
    refine List.pairwise_cons.2 ⟨fun x hx => ?_, ih ha.2 hb⟩
    rcases mem_merge.1 hx with hx | hx
    · exact ha.1 x hx
    · rcases List.mem_cons.1 hx with rfl | hx
      · exact hlt
      · exact Nat.lt_trans hlt ((List.pairwise_cons.1 hb).1 x hx)
  | case4 a as b bs hle hlt ih =>
    rw [List.pairwise_cons] at hb
    refine List.pairwise_cons.2 ⟨fun x hx => ?_, ih ha hb.2⟩
    rcases mem_merge.1 hx with hx | hx
    · rcases List.mem_cons.1 hx with rfl | hx
      · exact hlt
      · exact Nat.lt_trans hlt ((List.pairwise_cons.1 ha).1 x hx)
    · exact hb.1 x hx
  | case5 a as b bs hle hge ih =>
    rw [List.pairwise_cons] at ha hb
    refine List.pairwise_cons.2 ⟨fun x hx => ?_, ih ha.2 hb.2⟩
    obtain rfl : a = b := by omega
    exact (mem_merge.1 hx).elim (ha.1 x) (hb.1 x)

theorem sublist_without : (without as bs).Sublist as := by
  fun_induction without as bs with
  | case1 bs => exact List.Sublist.refl _
  | case2 a as => exact List.Sublist.refl _
  | case3 a as b bs hlt ih => exact ih.cons_cons a
  | case4 a as b bs hle hlt ih => exact ih
  | case5 a as b bs hle hge ih => exact ih.cons a

theorem mem_without (ha : as.Pairwise (· < ·)) (hb : bs.Pairwise (· < ·)) : x ∈ without as bs ↔ x ∈ as ∧ x ∉ bs := by
  fun_induction without as bs with
  | case1 bs => simp only [List.not_mem_nil, false_and]
  | case2 a as => simp only [List.not_mem_nil, not_false_eq_true, and_true]
  | case3 a as b bs hlt ih =>
    rw [List.mem_cons, ih (List.pairwise_cons.1 ha).2 hb, List.mem_cons]
    -- the smallest of the first list is smaller than all of the second
    have habsent : a ∉ b :: bs := by
      intro hmem
      rcases List.mem_cons.1 hmem with rfl | hmem
      · exact Nat.lt_irrefl _ hlt
      · exact Nat.lt_asymm hlt ((List.pairwise_cons.1 hb).1 a hmem)
    grind
  | case4 a as b bs hle hlt ih =>
    rw [ih ha (List.pairwise_cons.1 hb).2, List.mem_cons (a := x) (b := b)]
    have habsent : b ∉ a :: as := by
      intro hmem
      rcases List.mem_cons.1 hmem with rfl | hmem
      · exact Nat.lt_irrefl _ hlt
      · exact Nat.lt_asymm hlt ((List.pairwise_cons.1 ha).1 b hmem)
    grind
  | case5 a as b bs hle hge ih =>
    obtain rfl : a = b := by omega
    rw [ih (List.pairwise_cons.1 ha).2 (List.pairwise_cons.1 hb).2, List.mem_cons, List.mem_cons]
    have habsent : a ∉ as := fun hmem => Nat.lt_irrefl _ ((List.pairwise_cons.1 ha).1 a hmem)
    grind

theorem Positions.merge (ha : Positions text as) (hb : Positions text bs) : Positions text (merge as bs) :=
  ⟨pairwise_merge ha.increasing hb.increasing, fun i hi => (mem_merge.1 hi).elim (ha.within i) (hb.within i)⟩

theorem Positions.sublist (hb : Positions text bs) (h : as.Sublist bs) : Positions text as :=
  ⟨hb.increasing.sublist h, fun i hi => hb.within i (h.subset hi)⟩

theorem Positions.mem_without (ha : Positions text as) (hb : Positions text bs) :
    x ∈ without as bs ↔ x ∈ as ∧ x ∉ bs :=
  Expr.mem_without ha.increasing hb.increasing

theorem positions_range : Positions text (List.range (text.size + 1)) :=
  ⟨List.pairwise_lt_range, fun _ hi => Nat.le_of_lt_succ (List.mem_range.1 hi)⟩

/-! ## Following a relation -/

/-- From a set of positions, `f` gives the positions that `r` leads to. -/
def Follows (text : Array Char) (r : Nat → Nat → Prop) (f : List Nat → List Nat) : Prop :=
  ∀ s, Positions text s → Positions text (f s) ∧ ∀ j, j ∈ f s ↔ ∃ i ∈ s, r i j

/-- As many rounds as are asked for follow as many stretches. -/
theorem follows_times (h : Follows text (Matches text e) f) (n : Nat) :
    Follows text (Times text e n) (times f n) := by
  induction n with
  | zero =>
    refine fun s hs => ⟨hs, fun j => ⟨fun hj => ⟨j, hj, .zero (hs.within j hj)⟩, ?_⟩⟩
    rintro ⟨i, hi, hz⟩
    exact (times_zero_iff.1 hz).1 ▸ hi
  | succ n ih =>
    intro s hs
    cases s with
    | nil => exact ⟨hs, fun j => by simp only [times, List.not_mem_nil, false_and, exists_false]⟩
    | cons a s =>
      obtain ⟨hone, hmem⟩ := h _ hs
      obtain ⟨hall, hmems⟩ := ih _ hone
      refine ⟨hall, fun j => (hmems j).trans ?_⟩
      simp only [hmem, times_succ_iff]
      constructor
      · rintro ⟨k, ⟨i, hi, hk⟩, hj⟩
        exact ⟨i, hi, k, hk, hj⟩
      · rintro ⟨i, hi, k, hk, hj⟩
        exact ⟨k, ⟨i, hi, hk⟩, hj⟩

/-- What is known when a round starts: `seen` holds the positions met so far and `new` those from which no step has
been made yet. -/
structure Frontier (text : Array Char) (e : Expr) (seen new : List Nat) : Prop where
  met : Positions text seen
  fresh : Positions text new
  subset : ∀ i ∈ new, i ∈ seen
  settled : ∀ i ∈ seen, i ∉ new → ∀ j, Matches text e i j → j ∈ seen

/-- A step stays among the positions met, or the round adds where it leads. -/
theorem Frontier.step (hf : Frontier text e seen new) (h : Follows text (Matches text e) f) (hi : i ∈ seen)
    (hj : Matches text e i j) : j ∈ seen ∨ j ∈ without (f new) seen := by
  obtain ⟨hpos, hmem⟩ := h new hf.fresh
  refine Decidable.or_iff_not_imp_left.2 fun hmet => (hpos.mem_without hf.met).2 ⟨(hmem j).2 ⟨i, ?_, hj⟩, hmet⟩
  exact Decidable.byContradiction fun hnew => hmet (hf.settled i hi hnew j hj)

/-- The positions that a round adds are the next ones to start from. -/
theorem Frontier.round (hf : Frontier text e seen new) (h : Follows text (Matches text e) f) :
    Frontier text e (merge seen (without (f new) seen)) (without (f new) seen) := by
  have hfresh : Positions text (without (f new) seen) := (h new hf.fresh).1.sublist sublist_without
  refine ⟨hf.met.merge hfresh, hfresh, fun i hi => mem_merge.2 (Or.inr hi), fun i hi hold j hj => ?_⟩
  exact mem_merge.2 (hf.step h ((mem_merge.1 hi).resolve_right hold) hj)

/-- No step leads out of the set. -/
def Closed (text : Array Char) (e : Expr) (s : List Nat) : Prop := ∀ i ∈ s, ∀ j, Matches text e i j → j ∈ s

/-- A round that adds nothing has met all there is. -/
theorem Frontier.closed (hf : Frontier text e seen new) (h : Follows text (Matches text e) f)
    (hnone : without (f new) seen = []) : Closed text e seen :=
  fun _ hi _ hj => (hf.step h hi hj).resolve_right (hnone ▸ List.not_mem_nil)

theorem Closed.times (hc : Closed text e s) (hi : i ∈ s) (h : Times text e n i j) : j ∈ s := by
  induction n generalizing i with
  | zero => exact (times_zero_iff.1 h).1 ▸ hi
  | succ n ih =>
    obtain ⟨k, hk, hj⟩ := times_succ_iff.1 h
    exact ih (hc i hi k hk) hj

/-- Rounds lead as far as that many stretches do. -/
theorem mem_reach_iff (h : Follows text (Matches text e) f) (n : Nat) (hf : Frontier text e seen new) :
    Positions text (reach f n seen new) ∧
      ∀ j, j ∈ reach f n seen new ↔ ∃ i ∈ seen, ∃ m, m ≤ n ∧ Times text e m i j := by
  induction n generalizing seen new with
  | zero =>
    refine ⟨hf.met, fun j => ⟨fun hj => ⟨j, hj, 0, Nat.le_refl _, .zero (hf.met.within j hj)⟩, ?_⟩⟩
    rintro ⟨i, hi, m, hm, ht⟩
    obtain rfl := Nat.le_zero.1 hm
    exact (times_zero_iff.1 ht).1 ▸ hi
  | succ n ih =>
    rw [reach]
    split
    case h_1 hnone =>
      refine ⟨hf.met, fun j => ⟨fun hj => ⟨j, hj, 0, Nat.zero_le _, .zero (hf.met.within j hj)⟩, ?_⟩⟩
      rintro ⟨i, hi, m, -, ht⟩
      exact (hf.closed h hnone).times hi ht
    case h_2 a as hsome =>
      rw [← hsome]
      obtain ⟨hpos, hmem⟩ := ih (hf.round h)
      refine ⟨hpos, fun j => (hmem j).trans ⟨?_, ?_⟩⟩
      · rintro ⟨i, hi, m, hm, ht⟩
        rcases mem_merge.1 hi with hi | hi
        · exact ⟨i, hi, m, Nat.le_succ_of_le hm, ht⟩
        · obtain ⟨k, hk, hstep⟩ := ((h new hf.fresh).2 i).1 (sublist_without.subset hi)
          exact ⟨k, hf.subset k hk, m + 1, Nat.succ_le_succ hm, .succ hstep ht⟩
      · rintro ⟨i, hi, m, hm, ht⟩
        cases m with
        | zero => exact ⟨i, mem_merge.2 (Or.inl hi), 0, Nat.zero_le _, ht⟩
        | succ m =>
          obtain ⟨k, hk, hj⟩ := times_succ_iff.1 ht
          exact ⟨k, mem_merge.2 (hf.step h hi hk), m, Nat.le_of_succ_le_succ hm, hj⟩

/-- The positions of a text that are not in a set. -/
def missing (text : Array Char) (s : List Nat) : List Nat := (List.range (text.size + 1)).filter (· ∉ s)

theorem mem_missing : x ∈ missing text s ↔ x ≤ text.size ∧ x ∉ s := by
  simp only [missing, List.mem_filter, List.mem_range, Nat.lt_succ_iff, decide_eq_true_eq]

theorem missing_merge : missing text (merge seen s) = (missing text seen).filter (· ∉ s) := by
  rw [missing, missing, List.filter_filter]
  exact List.filter_congr fun y _ => by simp only [mem_merge, not_or, Bool.decide_and, Bool.and_comm]

theorem length_missing_merge_lt (hs : Positions text s) (hx : x ∈ s) (hnew : x ∉ seen) :
    (missing text (merge seen s)).length < (missing text seen).length := by
  rw [missing_merge]
  refine List.length_filter_lt_length_iff_exists.2 ⟨x, mem_missing.2 ⟨hs.within x hx, hnew⟩, ?_⟩
  simp only [hx, not_true_eq_false, decide_false, Bool.false_eq_true, not_false_eq_true]

/-- With a round for each position that is missing, all there is will be met. -/
theorem closed_reach (h : Follows text (Matches text e) f) (n : Nat) (hf : Frontier text e seen new)
    (hn : (missing text seen).length ≤ n) : Closed text e (reach f n seen new) := by
  induction n generalizing seen new with
  | zero =>
    have hnil : missing text seen = [] := List.eq_nil_of_length_eq_zero (Nat.le_zero.1 hn)
    intro i _ j hj
    refine Decidable.byContradiction fun hout => ?_
    have hmem : j ∈ missing text seen := mem_missing.2 ⟨hj.bounds.2, hout⟩
    rw [hnil] at hmem
    cases hmem
  | succ n ih =>
    rw [reach]
    split
    case h_1 hnone => exact hf.closed h hnone
    case h_2 a as hsome =>
      rw [← hsome]
      have hpos := (h new hf.fresh).1
      have ha : a ∈ without (f new) seen := hsome ▸ List.mem_cons_self
      have hnew : a ∉ seen := ((hpos.mem_without hf.met).1 ha).2
      have hless := length_missing_merge_lt (hpos.sublist sublist_without) ha hnew
      exact ih (hf.round h) (by omega)

/-- A repetition follows as many stretches as it allows. -/
theorem follows_rep (h : Follows text (Matches text e) (ends text e)) {least : Nat} {most : Option Nat}
    (hm : ∀ m, most = some m → least ≤ m) :
    Follows text (Matches text (.rep e least most)) (ends text (.rep e least most)) := by
  intro s hs
  simp only [ends]
  obtain ⟨hstart, hmem⟩ := follows_times h least s hs
  generalize times (ends text e) least s = start at hstart hmem ⊢
  have hf : Frontier text e start start := ⟨hstart, hstart, fun _ hi => hi, fun _ hi hn => absurd hi hn⟩
  have hjoin : ∀ m j, (∃ k ∈ start, Times text e m k j) ↔ ∃ i ∈ s, Times text e (least + m) i j := by
    intro m j
    simp only [hmem, times_add_iff]
    constructor
    · rintro ⟨k, ⟨i, hi, hk⟩, hj⟩
      exact ⟨i, hi, k, hk, hj⟩
    · rintro ⟨i, hi, k, hk, hj⟩
      exact ⟨k, ⟨i, hi, hk⟩, hj⟩
  cases most with
  | none =>
    obtain ⟨hpos, hreach⟩ := mem_reach_iff h (text.size + 1) hf
    have hrounds : (missing text start).length ≤ text.size + 1 :=
      Nat.le_trans (List.length_filter_le _ _) (Nat.le_of_eq List.length_range)
    have hclosed := closed_reach h (text.size + 1) hf hrounds
    refine ⟨hpos, fun j => ⟨fun hj => ?_, ?_⟩⟩
    · obtain ⟨k, hk, m, -, ht⟩ := (hreach j).1 hj
      obtain ⟨i, hi, hall⟩ := (hjoin m j).1 ⟨k, hk, ht⟩
      exact ⟨i, hi, .rep (Nat.le_add_right _ _) (fun _ h => nomatch h) hall⟩
    · rintro ⟨i, hi, hrep⟩
      obtain ⟨n, hl, -, hall⟩ := matches_rep_iff.1 hrep
      obtain ⟨m, rfl⟩ := Nat.exists_eq_add_of_le hl
      obtain ⟨k, hk, ht⟩ := (hjoin m j).2 ⟨i, hi, hall⟩
      exact hclosed.times ((hreach k).2 ⟨k, hk, 0, Nat.zero_le _, .zero (hstart.within k hk)⟩) ht
  | some most =>
    obtain ⟨hpos, hreach⟩ := mem_reach_iff h (most - least) hf
    have hle := hm most rfl
    refine ⟨hpos, fun j => (hreach j).trans ⟨?_, ?_⟩⟩
    · rintro ⟨k, hk, m, hmost, ht⟩
      obtain ⟨i, hi, hall⟩ := (hjoin m j).1 ⟨k, hk, ht⟩
      refine ⟨i, hi, .rep (Nat.le_add_right _ _) (fun m' hm' => ?_) hall⟩
      cases hm'
      omega
    · rintro ⟨i, hi, hrep⟩
      obtain ⟨n, hl, hmost, hall⟩ := matches_rep_iff.1 hrep
      obtain ⟨m, rfl⟩ := Nat.exists_eq_add_of_le hl
      have hm' := hmost most rfl
      obtain ⟨k, hk, ht⟩ := (hjoin m j).2 ⟨i, hi, hall⟩
      exact ⟨k, hk, m, by omega, ht⟩

/-! ## Whole expressions -/

/-- A set leads from each of its characters to the position behind. -/
theorem follows_set (cs : Unicode.CharSet) : Follows text (Matches text (.set cs)) (ends text (.set cs)) := by
  intro s hs
  have hmem : ∀ j, j ∈ ends text (.set cs) s ↔ ∃ i ∈ s, Matches text (.set cs) i j := by
    intro j
    simp only [ends, List.mem_map, List.mem_filter]
    constructor
    · rintro ⟨i, ⟨hi, hc⟩, rfl⟩
      obtain ⟨c, hat, hin⟩ := (Option.any_eq_true _ _).1 hc
      exact ⟨i, hi, .set hat hin⟩
    · rintro ⟨i, hi, (_ | ⟨hat, hin⟩)⟩
      exact ⟨i, ⟨hi, (Option.any_eq_true _ _).2 ⟨_, hat, hin⟩⟩, rfl⟩
  refine ⟨⟨List.pairwise_map.2 ?_, fun j hj => ?_⟩, hmem⟩
  · exact (hs.increasing.sublist List.filter_sublist).imp Nat.succ_lt_succ
  · obtain ⟨i, -, h⟩ := (hmem j).1 hj
    exact h.bounds.2

/-- Following an expression leads to the ends of the stretches that it matches. -/
theorem follows_ends {e : Expr} (he : e.Sensible) : Follows text (Matches text e) (ends text e) := by
  induction e with
  | empty =>
    refine fun s hs => ⟨hs, fun j => ⟨fun hj => ⟨j, hj, .empty (hs.within j hj)⟩, ?_⟩⟩
    rintro ⟨i, hi, ⟨⟩⟩
    exact hi
  | set cs => exact follows_set cs
  | look l =>
    refine fun s hs => ⟨hs.sublist List.filter_sublist, fun j => List.mem_filter.trans ⟨?_, ?_⟩⟩
    · rintro ⟨hj, hl⟩
      exact ⟨j, hj, .look (hs.within j hj) hl⟩
    · rintro ⟨i, hi, (_ | _ | ⟨-, hl⟩)⟩
      exact ⟨hi, hl⟩
  | cat a b iha ihb =>
    intro s hs
    obtain ⟨ha, hmema⟩ := iha he.1 s hs
    obtain ⟨hb, hmemb⟩ := ihb he.2 _ ha
    refine ⟨hb, fun j => (hmemb j).trans ⟨?_, ?_⟩⟩
    · rintro ⟨k, hk, hj⟩
      obtain ⟨i, hi, hik⟩ := (hmema k).1 hk
      exact ⟨i, hi, .cat hik hj⟩
    · rintro ⟨i, hi, (_ | _ | _ | ⟨hik, hkj⟩)⟩
      exact ⟨_, (hmema _).2 ⟨i, hi, hik⟩, hkj⟩
  | alt a b iha ihb =>
    intro s hs
    obtain ⟨ha, hmema⟩ := iha he.1 s hs
    obtain ⟨hb, hmemb⟩ := ihb he.2 s hs
    refine ⟨ha.merge hb, fun j => mem_merge.trans ?_⟩
    rw [hmema, hmemb]
    constructor
    · rintro (⟨i, hi, h⟩ | ⟨i, hi, h⟩)
      · exact ⟨i, hi, .altLeft h⟩
      · exact ⟨i, hi, .altRight h⟩
    · rintro ⟨i, hi, (_ | _ | _ | _ | h | h)⟩
      · exact Or.inl ⟨i, hi, h⟩
      · exact Or.inr ⟨i, hi, h⟩
  | rep e least most ih => exact follows_rep (ih he.1) he.2

/-- Searching decides whether an expression matches some stretch of a text. -/
theorem occurs_iff {e : Expr} (he : e.Sensible) : e.occurs text = true ↔ e.Occurs text := by
  obtain ⟨-, hmem⟩ := follows_ends he _ positions_range
  rw [occurs, Bool.not_eq_true', List.isEmpty_eq_false_iff_exists_mem]
  constructor
  · rintro ⟨j, hj⟩
    obtain ⟨i, -, h⟩ := (hmem j).1 hj
    exact ⟨i, j, h⟩
  · rintro ⟨i, j, h⟩
    have hi : i ≤ text.size := Nat.le_trans h.bounds.1 h.bounds.2
    exact ⟨j, (hmem j).2 ⟨i, List.mem_range.2 (Nat.lt_succ_of_le hi), h⟩⟩

end PubSub.Pattern.Expr
