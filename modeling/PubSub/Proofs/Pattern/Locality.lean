import PubSub.Pattern.Flags
import PubSub.Pattern.Token

/-!
# What stands behind an expression

The text of an expression may have a closing parenthesis behind it, and more. What a reader makes of the text may change
by that only at its end: the reader stops there as before, or it runs on into what is behind the parenthesis, or a
comment that reaches to the end swallows the parenthesis.

* `Edge`: the three ways in which a reader can meet the end of a text.
* `Local`: a reader that meets the end of every text in one of these ways.

Results:

* `Local.bind`, `Local.map`, `local_next`, `Local.choose`: locality of readers put together.
* `Local.afterSkip`, `local_dropWhile`, `local_dropLazy`: locality of and behind what is passed over.
* `local_loop`: locality of a loop over the characters that mean something.
-/

namespace PubSub.Pattern

variable {α β σ : Type} {f : Flags} {c d : Char} {cs rest r : List Char}

/-- A reader of a text with a parenthesis behind it goes on beyond the parenthesis: what it leaves lies there. -/
def Passes (read : List Char → Option (α × List Char)) (cs : List Char) : Prop :=
  ∀ w x r, read (cs ++ ')' :: w) = some (x, r) → r <:+ w

/-- How a reader meets the end of a text that may have a parenthesis behind it. -/
inductive Edge (read : List Char → Option (α × List Char)) (cs : List Char) : Prop
  /-- It ends within the text. -/
  | within {x : α} {r : List Char} :
      read cs = some (x, r) → (∀ w, read (cs ++ ')' :: w) = some (x, r ++ ')' :: w)) → Edge read cs
  /-- The text is too short or wrong; with what is behind it, it may be read into that. -/
  | beyond : read cs = none → Passes read cs → Edge read cs
  /-- A comment hides the parenthesis. -/
  | swallowed {x : α} : read cs = some (x, []) → read (cs ++ [')']) = some (x, []) → Passes read cs → Edge read cs

/-- A reader takes from the start of a text, and what is behind the text matters only at its end. -/
structure Local (read : List Char → Option (α × List Char)) : Prop where
  suffix : ∀ {cs x r}, read cs = some (x, r) → r <:+ cs
  edge : ∀ cs, Edge read cs

/-! ## Readers put together -/

section Combinators

variable {read other : List Char → Option (α × List Char)}

theorem passes_of_none (h : ∀ w, read (cs ++ ')' :: w) = none) : Passes read cs :=
  fun w _ _ hx => nomatch (h w).symm.trans hx

theorem Passes.congr {cs cs' : List Char} (h : Passes read cs)
    (he : ∀ w, other (cs' ++ ')' :: w) = read (cs ++ ')' :: w)) : Passes other cs' :=
  fun w x r hx => h w x r ((he w).symm.trans hx)

theorem Edge.refused (h : read cs = none) (he : ∀ w, read (cs ++ ')' :: w) = none) : Edge read cs :=
  .beyond h (passes_of_none he)

/-- Two readers that agree meet the end in the same way. -/
theorem Edge.congr {cs cs' : List Char} (h : Edge read cs) (hs : other cs' = read cs)
    (he : ∀ w, other (cs' ++ ')' :: w) = read (cs ++ ')' :: w)) : Edge other cs' := by
  cases h with
  | within h hb => exact .within (hs.trans h) fun w => (he w).trans (hb w)
  | beyond h hb => exact .beyond (hs.trans h) (hb.congr he)
  | swallowed h hb hp => exact .swallowed (hs.trans h) ((he []).trans hb) (hp.congr he)

theorem Local.congr (h : Local read) (he : ∀ cs, other cs = read cs) : Local other :=
  ⟨fun hx => h.suffix ((he _).symm.trans hx), fun cs => (h.edge cs).congr (he _) fun _ => he _⟩

theorem local_give (x : α) : Local fun cs => some (x, cs) := by
  refine ⟨fun hx => ?_, fun cs => .within rfl fun _ => rfl⟩
  obtain ⟨-, rfl⟩ := Prod.mk.inj (Option.some.inj hx)
  exact List.suffix_refl _

theorem local_fail : Local fun _ => (Option.none : Option (α × List Char)) :=
  ⟨fun hx => (nomatch hx), fun _ => .refused rfl fun _ => rfl⟩

theorem Passes.bind {next : α → List Char → Option (β × List Char)} (h : Passes read cs) (hn : ∀ a, Local (next a)) :
    Passes (fun cs => (read cs).bind fun p => next p.1 p.2) cs := by
  intro w y s hy
  obtain ⟨⟨x, r⟩, hx, hnext⟩ := Option.bind_eq_some_iff.1 hy
  exact ((hn x).suffix hnext).trans (h w x r hx)

theorem Edge.bind {next : α → List Char → Option (β × List Char)} (h : Edge read cs) (hn : ∀ a, Local (next a)) :
    Edge (fun cs => (read cs).bind fun p => next p.1 p.2) cs := by
  cases h with
  | @within x r hr hb =>
    exact ((hn x).edge r).congr (by simp only [hr, Option.bind_some]) fun w => by simp only [hb w, Option.bind_some]
  | beyond hr hb => exact .beyond (by simp only [hr, Option.bind_none]) (hb.bind hn)
  | @swallowed x hr hb hp =>
    have hs : ((read cs).bind fun p => next p.1 p.2) = next x [] := by rw [hr, Option.bind_some]
    have he : ((read (cs ++ [')'])).bind fun p => next p.1 p.2) = next x [] := by rw [hb, Option.bind_some]
    cases hnext : next x [] with
    | none => exact .beyond (hs.trans hnext) (hp.bind hn)
    | some p =>
      obtain ⟨y, s⟩ := p
      obtain rfl := List.suffix_nil.1 ((hn x).suffix hnext)
      exact .swallowed (hs.trans hnext) (he.trans hnext) (hp.bind hn)

theorem Local.bind {next : α → List Char → Option (β × List Char)} (h : Local read) (hn : ∀ a, Local (next a)) :
    Local fun cs => (read cs).bind fun p => next p.1 p.2 := by
  refine ⟨fun hy => ?_, fun cs => (h.edge cs).bind hn⟩
  obtain ⟨⟨x, r⟩, hx, hnext⟩ := Option.bind_eq_some_iff.1 hy
  exact ((hn x).suffix hnext).trans (h.suffix hx)

theorem Local.map (h : Local read) (g : α → β) : Local fun cs => (read cs).map fun p => (g p.1, p.2) :=
  (h.bind fun a => local_give (g a)).congr fun cs => by cases read cs <;> rfl

theorem Local.ite {p : Prop} [Decidable p] (h : Local read) (ho : Local other) :
    Local fun cs => if p then read cs else other cs := by
  split
  · exact h
  · exact ho

/-- Goes by the first character of a text and what is behind it, if there is one. -/
def byHead {β : Type} (none : β) (next : Char → List Char → β) : List Char → β
  | [] => none
  | c :: rest => next c rest

/-- A reader of one character, and then of what its rest depends on. -/
theorem local_next {next : Char → List Char → Option (α × List Char)} (hn : ∀ c, Local (next c))
    (hnil : read [] = none) (hcons : ∀ c cs, read (c :: cs) = next c cs) : Local read := by
  refine ⟨fun {cs x r} hx => ?_, fun cs => ?_⟩
  · cases cs with
    | nil => exact nomatch hnil.symm.trans hx
    | cons c cs => exact ((hn c).suffix ((hcons c cs).symm.trans hx)).trans (List.suffix_cons c cs)
  · cases cs with
    | nil => exact .beyond hnil fun w x r hx => (hn ')').suffix ((hcons _ _).symm.trans hx)
    | cons c cs => exact ((hn c).edge cs).congr (hcons _ _) fun _ => hcons _ _

/-- A choice by whether a certain character comes next. -/
theorem Local.choose {chosen : List Char → Option (α × List Char)} (c : Char) (hc : c ≠ ')') (h : Local chosen)
    (ho : Local other) (hcons : ∀ cs, read (c :: cs) = chosen cs)
    (helse : ∀ cs, cs.head? ≠ some c → read cs = other cs) : Local read := by
  have hcases : ∀ cs : List Char, (∃ rest, cs = c :: rest) ∨ cs.head? ≠ some c := by
    intro cs
    cases cs with
    | nil => exact Or.inr nofun
    | cons d rest =>
      by_cases hd : d = c
      · exact Or.inl ⟨rest, by rw [hd]⟩
      · exact Or.inr fun h => hd (Option.some.inj h)
  refine ⟨fun {cs x r} hx => ?_, fun cs => ?_⟩
  · rcases hcases cs with ⟨rest, rfl⟩ | hne
    · exact (h.suffix ((hcons rest).symm.trans hx)).trans (List.suffix_cons c rest)
    · exact ho.suffix ((helse cs hne).symm.trans hx)
  · rcases hcases cs with ⟨rest, rfl⟩ | hne
    · exact (h.edge rest).congr (hcons _) fun _ => hcons _
    · refine (ho.edge cs).congr (helse _ hne) fun w => helse _ ?_
      cases cs with
      | nil => exact fun h => hc (Option.some.inj h).symm
      | cons d rest => exact hne

/-- A choice by whether `c` comes next, and then behind it. -/
def pick (c : Char) (chosen other : List Char → Option (α × List Char)) (cs : List Char) : Option (α × List Char) :=
  match cs with
  | [] => other []
  | d :: rest => if d = c then chosen rest else other (d :: rest)

theorem pick_self (c : Char) (rest : List Char) : pick c read other (c :: rest) = read rest := if_pos rfl

theorem pick_of_ne (h : d ≠ c) (rest : List Char) : pick c read other (d :: rest) = other (d :: rest) := if_neg h

theorem pick_else (h : ∀ rest, cs = c :: rest → False) : pick c read other cs = other cs := by
  cases cs with
  | nil => rfl
  | cons d rest => exact pick_of_ne (fun hd => h rest (by rw [hd])) rest

theorem Local.pick (c : Char) (hc : c ≠ ')') (h : Local read) (ho : Local other) : Local (pick c read other) := by
  refine h.choose c hc ho (fun rest => pick_self c rest) fun cs hne => pick_else fun rest hcs => hne ?_
  rw [hcs, List.head?_cons]

end Combinators

/-! ## What is passed over -/

theorem skipBlanks_suffix (inComment : Bool) (cs : List Char) : Flags.skipBlanks inComment cs <:+ cs := by
  induction cs generalizing inComment with
  | nil => cases inComment <;> exact List.suffix_refl _
  | cons c cs ih =>
    have hless : ∀ b, Flags.skipBlanks b cs <:+ c :: cs := fun b => (ih b).trans (List.suffix_cons c cs)
    cases inComment with
    | true => exact hless _
    | false =>
      rw [Flags.skipBlanks]
      split
      · exact hless false
      · split
        · exact hless true
        · exact List.suffix_refl _

theorem skip_suffix (f : Flags) (cs : List Char) : f.skip cs <:+ cs := by
  rw [Flags.skip]
  split
  · exact skipBlanks_suffix false cs
  · exact List.suffix_refl _

theorem skip_nil (f : Flags) : f.skip [] = [] := List.suffix_nil.1 (skip_suffix f [])

/-- What is passed over ends before a parenthesis that stands behind a text, or it is a comment that holds it. -/
theorem skipBlanks_closing (inComment : Bool) (cs : List Char) :
    (∀ w, Flags.skipBlanks inComment (cs ++ ')' :: w) = Flags.skipBlanks inComment cs ++ ')' :: w) ∨
      Flags.skipBlanks inComment cs = [] ∧ Flags.skipBlanks inComment (cs ++ [')']) = [] ∧
        ∀ w, Flags.skipBlanks inComment (cs ++ ')' :: w) <:+ w := by
  induction cs generalizing inComment with
  | nil =>
    cases inComment with
    | true => exact Or.inr ⟨rfl, rfl, fun w => skipBlanks_suffix true w⟩
    | false => exact Or.inl fun w => rfl
  | cons c cs ih =>
    cases inComment with
    | true => exact ih _
    | false =>
      simp only [List.cons_append, Flags.skipBlanks]
      by_cases hb : Text.isBlank c = true
      · simp only [if_pos hb]
        exact ih false
      · simp only [if_neg hb]
        by_cases hm : c = '#'
        · simp only [if_pos hm]
          exact ih true
        · simp only [if_neg hm]
          exact Or.inl fun w => rfl

theorem skip_append_closing (f : Flags) (cs : List Char) :
    (∀ w, f.skip (cs ++ ')' :: w) = f.skip cs ++ ')' :: w) ∨
      f.skip cs = [] ∧ f.skip (cs ++ [')']) = [] ∧ ∀ w, f.skip (cs ++ ')' :: w) <:+ w := by
  simp only [Flags.skip]
  split
  · exact skipBlanks_closing false cs
  · exact Or.inl fun w => rfl

/-- A reader that first passes over what means nothing. -/
theorem Edge.afterSkip {read : List Char → Option (α × List Char)} (h : Edge read (f.skip cs))
    (hs : ∀ {s x r}, read s = some (x, r) → r <:+ s) : Edge (fun cs => read (f.skip cs)) cs := by
  rcases skip_append_closing f cs with hb | ⟨hnil, hb, hp⟩
  · exact h.congr rfl fun w => congrArg read (hb w)
  · have hpass : Passes (fun cs => read (f.skip cs)) cs := fun w x r hx => (hs hx).trans (hp w)
    have he : read (f.skip (cs ++ [')'])) = read (f.skip cs) := by rw [hb, hnil]
    cases hread : read (f.skip cs) with
    | none => exact .beyond hread hpass
    | some p =>
      obtain ⟨x, r⟩ := p
      obtain rfl := List.suffix_nil.1 (hnil ▸ hs hread)
      exact .swallowed hread (he.trans hread) hpass

theorem Local.afterSkip {read : List Char → Option (α × List Char)} (h : Local read) (f : Flags) :
    Local fun cs => read (f.skip cs) :=
  ⟨fun hx => (h.suffix hx).trans (skip_suffix f _), fun _ => (h.edge _).afterSkip h.suffix⟩

/-- A reader of the first character that means something, and then of what its rest depends on. -/
theorem local_skipNext {read : List Char → Option (α × List Char)} {next : Char → List Char → Option (α × List Char)}
    (hn : ∀ c, Local (next c)) (hnil : ∀ cs, f.skip cs = [] → read cs = none)
    (hcons : ∀ cs c rest, f.skip cs = c :: rest → read cs = next c rest) : Local read := by
  have hnext : Local (byHead none next) := local_next hn rfl fun _ _ => rfl
  refine (hnext.afterSkip f).congr fun cs => ?_
  cases hcs : f.skip cs with
  | nil => exact hnil cs hcs
  | cons c rest => exact hcons cs c rest hcs

theorem skipBlanks_idem (cs : List Char) (inComment : Bool) :
    Flags.skipBlanks false (Flags.skipBlanks inComment cs) = Flags.skipBlanks inComment cs := by
  induction cs generalizing inComment with
  | nil => cases inComment <;> rfl
  | cons c cs ih =>
    cases inComment with
    | true => exact ih _
    | false =>
      rw [Flags.skipBlanks]
      split
      case isTrue => exact ih false
      case isFalse hb =>
        split
        case isTrue => exact ih true
        case isFalse hm => rw [Flags.skipBlanks, if_neg hb, if_neg hm]

theorem skip_idem (f : Flags) (cs : List Char) : f.skip (f.skip cs) = f.skip cs := by
  rw [Flags.skip]
  split
  case isTrue hx =>
    rw [Flags.skip, if_pos hx]
    exact skipBlanks_idem cs false
  case isFalse => rfl

theorem dropWhile_closing {p : Char → Bool} (hp : p ')' = false) (cs w : List Char) :
    (cs ++ ')' :: w).dropWhile p = cs.dropWhile p ++ ')' :: w := by
  induction cs with
  | nil => rw [List.nil_append, List.dropWhile_cons, hp, if_neg Bool.false_ne_true, List.dropWhile_nil,
      List.nil_append]
  | cons c cs ih =>
    rw [List.cons_append, List.dropWhile_cons, List.dropWhile_cons, ih]
    split <;> rfl

theorem local_dropWhile {p : Char → Bool} (hp : p ')' = false) : Local fun cs => some ((), cs.dropWhile p) := by
  refine ⟨fun hx => ?_, fun cs => .within rfl fun w => congrArg (fun s => some ((), s)) (dropWhile_closing hp cs w)⟩
  obtain ⟨-, rfl⟩ := Prod.mk.inj (Option.some.inj hx)
  exact List.dropWhile_suffix p

theorem local_dropLazy : Local fun cs => some ((), Token.dropLazy cs) :=
  (local_give ()).choose '?' (by decide) (local_give ()) (fun _ => rfl) fun cs hne => by
    cases cs with
    | nil => rfl
    | cons c cs =>
      rw [Token.dropLazy]
      exact fun _ h => hne (by rw [h]; rfl)

/-! ## Loops -/

/-- What a loop does where it ends. -/
def Stops (step : List Char → Option (α × List Char)) (cs : List Char) : Prop :=
  Edge step cs ∧ ∀ x r, step cs = some (x, r) → r <:+ cs

theorem stops_refused {step : List Char → Option (α × List Char)} (h : step cs = none)
    (he : ∀ w, step (cs ++ ')' :: w) = none) : Stops step cs :=
  ⟨.refused h he, fun _ _ hx => nomatch h.symm.trans hx⟩

theorem stops_within {step : List Char → Option (α × List Char)} {x : α} (h : step cs = some (x, r))
    (he : ∀ w, step (cs ++ ')' :: w) = some (x, r ++ ')' :: w)) (hs : r <:+ cs) : Stops step cs := by
  refine ⟨.within h he, fun y s hy => ?_⟩
  obtain ⟨-, rfl⟩ := Prod.mk.inj (Option.some.inj (h.symm.trans hy))
  exact hs

/-- A loop passes over what means nothing and then goes by the next character: it goes on behind it, or it stops.
Without a character it stops as well, or it needs one and would go on behind a parenthesis. -/
structure Loops (f : Flags) (loop step : σ → List Char → Option (α × List Char)) : Prop where
  skips : ∀ a cs, loop a cs = step a (f.skip cs)
  atEnd : ∀ a, Stops (step a) [] ∨ step a [] = none ∧ ∃ a', ∀ rest, step a (')' :: rest) = loop a' rest
  atChar : ∀ a c, (∃ a', ∀ rest, step a (c :: rest) = loop a' rest) ∨ ∀ rest, Stops (step a) (c :: rest)

variable {loop step : σ → List Char → Option (α × List Char)}

theorem Loops.step_suffix (h : Loops f loop step) {a : σ} {x : α}
    (hless : ∀ a' s, s.length < cs.length → ∀ x r, loop a' s = some (x, r) → r <:+ s) (hx : step a cs = some (x, r)) :
    r <:+ cs := by
  cases cs with
  | nil =>
    rcases h.atEnd a with hstop | ⟨hnone, -⟩
    · exact hstop.2 x r hx
    · exact nomatch hnone.symm.trans hx
  | cons c rest =>
    rcases h.atChar a c with ⟨a', hon⟩ | hstop
    · exact (hless a' rest (Nat.lt_succ_self _) x r ((hon rest).symm.trans hx)).trans (List.suffix_cons c rest)
    · exact (hstop rest).2 x r hx

theorem Loops.suffix (h : Loops f loop step) {a : σ} {x : α} (hx : loop a cs = some (x, r)) : r <:+ cs := by
  induction hn : cs.length using Nat.strongRecOn generalizing a cs x r with
  | ind n ih =>
    have hskip := skip_suffix f cs
    rw [h.skips] at hx
    refine (h.step_suffix (fun a' s hs x r hx => ih s.length ?_ hx rfl) hx).trans hskip
    exact hn ▸ Nat.lt_of_lt_of_le hs hskip.length_le

theorem Loops.edge (h : Loops f loop step) (a : σ) (cs : List Char) : Edge (loop a) cs := by
  induction hn : cs.length using Nat.strongRecOn generalizing a cs with
  | ind n ih =>
    have hless := (skip_suffix f cs).length_le
    have hstep : Edge (step a) (f.skip cs) := by
      cases hcs : f.skip cs with
      | nil =>
        rcases h.atEnd a with hstop | ⟨hnone, a', hon⟩
        · exact hstop.1
        · exact .beyond hnone fun w x r hx => h.suffix ((hon _).symm.trans hx)
      | cons c rest =>
        rw [hcs, List.length_cons] at hless
        rcases h.atChar a c with ⟨a', hon⟩ | hstop
        · exact (ih rest.length (by omega) a' rest rfl).congr (hon rest) fun w => hon (rest ++ ')' :: w)
        · exact (hstop rest).1
    refine (hstep.afterSkip fun hx => ?_).congr (h.skips a cs) fun w => h.skips a _
    exact h.step_suffix (fun _ _ _ _ _ hx => h.suffix hx) hx

/-- A reader is local if it is one for each number of steps that it may take, where enough steps are as good as more. -/
theorem local_of_enough {read : Nat → List Char → Option (α × List Char)} {whole : List Char → Option (α × List Char)}
    (hl : ∀ n, Local (read n)) (he : ∀ {cs n}, cs.length < n → whole cs = read n cs) : Local whole := by
  refine ⟨fun hx => (hl _).suffix ((he (Nat.lt_succ_self _)).symm.trans hx), fun cs => ?_⟩
  let steps (w : List Char) : Nat := cs.length + w.length + 2
  have hsteps : ∀ w, steps w = cs.length + w.length + 2 := fun w => rfl
  have hown : ∀ w, whole cs = read (steps w) cs := fun w => he (by grind)
  have hone : ∀ w, whole (cs ++ [')']) = read (steps w) (cs ++ [')']) := fun w => he (by grind)
  have hext : ∀ w, whole (cs ++ ')' :: w) = read (steps w) (cs ++ ')' :: w) := fun w => he (by grind)
  -- Whatever the number of steps is, the end is met in the way that a single parenthesis behind the text shows.
  cases hx : whole cs with
  | none =>
    refine .beyond hx fun w y s hy => ?_
    cases (hl (steps w)).edge cs with
    | within h _ => exact nomatch (hx.symm.trans (hown w)).trans h
    | beyond _ hp => exact hp w y s ((hext w).symm.trans hy)
    | swallowed h _ _ => exact nomatch (hx.symm.trans (hown w)).trans h
  | some p =>
    obtain ⟨x, r⟩ := p
    by_cases hs : whole (cs ++ [')']) = some (x, r ++ [')'])
    · refine .within hx fun w => ?_
      cases (hl (steps w)).edge cs with
      | within h hb =>
        cases (hx.symm.trans (hown w)).trans h
        exact (hext w).trans (hb w)
      | beyond h _ => exact nomatch (hx.symm.trans (hown w)).trans h
      | swallowed h hb _ =>
        cases (hx.symm.trans (hown w)).trans h
        exact nomatch (hs.symm.trans (hone w)).trans hb
    · have hswallowed : ∀ w, r = [] ∧ whole (cs ++ [')']) = some (x, []) ∧ Passes (read (steps w)) cs := fun w => by
        cases (hl (steps w)).edge cs with
        | within h hb =>
          cases (hx.symm.trans (hown w)).trans h
          exact absurd ((hone w).trans (hb [])) hs
        | beyond h _ => exact nomatch (hx.symm.trans (hown w)).trans h
        | swallowed h hb hp =>
          cases (hx.symm.trans (hown w)).trans h
          exact ⟨rfl, (hone w).trans hb, hp⟩
      obtain ⟨rfl, hb, -⟩ := hswallowed []
      exact .swallowed hx hb fun w y s hy => (hswallowed w).2.2 w y s ((hext w).symm.trans hy)

/-- A loop is local. -/
theorem local_loop (f : Flags) (loop step : σ → List Char → Option (α × List Char)) (h : Loops f loop step) (a : σ) :
    Local (loop a) :=
  ⟨h.suffix, h.edge a⟩

end PubSub.Pattern
