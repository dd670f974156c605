import PubSub.Proofs.Pattern.Sets

/-!
# Tokens are read locally

* `Token.State.inside`: the state within one more group.
* `Token.allFrom?`: the tokens from a state on, without a bound on their number.

Results:

* `Token.readOne_inside`: within one more group a token is read as it is by itself, unless it closes the group.
* `Token.readOne_edge`: how a token meets the end of a text.
* `Token.allFrom?_nil`, `Token.allFrom?_cons`: the tokens of a text, one by one.
-/

namespace PubSub.Pattern

open Unicode (CharSet)

variable {f : Flags} {cs rest r : List Char} {c : Char} {st st' : Token.State} {t : Token}

namespace Token

/-! ## Open groups around a text -/

/-- The state in which a text is read within one more group, outside which the flags `outer` are in force. -/
def State.inside (st : State) (outer : Flags) : State := { st with saved := st.saved ++ [outer] }

/-- What is read within one more group. -/
def insideToo (outer : Flags) (p : Token × State × List Char) : Token × State × List Char :=
  (p.1, p.2.1.inside outer, p.2.2)

theorem readNamed_inside (st : State) (outer : Flags) (cs : List Char) :
    readNamed (st.inside outer) cs = (readNamed st cs).map (insideToo outer) := by
  rw [readNamed, readNamed]
  cases readName? cs with
  | none => rfl
  | some p =>
    simp only [Option.bind_eq_bind, Option.bind_some]
    rw [show (st.inside outer).names = st.names from rfl]
    split <;> rfl

theorem readGroup_inside (st : State) (outer : Flags) (cs : List Char) :
    readGroup (st.inside outer) cs = (readGroup st cs).map (insideToo outer) := by
  rw [readGroup, readGroup]
  rw [show (st.inside outer).flags = st.flags from rfl]
  split
  case h_1 | h_2 | h_3 | h_4 => rfl
  case h_5 | h_6 => exact readNamed_inside st outer _
  case h_7 =>
    cases st.flags.read [] true _ with
    | none => rfl
    | some change =>
      simp only [Option.bind_eq_bind, Option.bind_some]
      split
      · rfl
      · split <;> rfl
  case h_8 => rfl

/-- Apart from parentheses, what a token leaves behind is the state that it found. -/
theorem readOne_inside_plain (h : c ≠ ')') (ho : c ≠ '(') (st : State) (outer : Flags) (rest : List Char) :
    readOne (st.inside outer) c rest = (readOne st c rest).map (insideToo outer) := by
  have hflags : (st.inside outer).flags = st.flags := rfl
  simp only [readOne, hflags]
  split
  case h_1 => exact absurd rfl ho
  case h_2 => exact absurd rfl h
  case h_3 | h_4 | h_5 | h_6 | h_10 | h_11 => rfl
  case h_7 => cases readCount? st.flags rest <;> rfl
  case h_8 => cases readBrackets st.flags rest <;> rfl
  case h_9 => cases dot? st.flags <;> rfl
  case h_12 =>
    cases readEscape st.flags rest with
    | none => rfl
    | some p =>
      simp only [Option.bind_eq_bind, Option.bind_some]
      cases unit? st.flags p.1 <;> rfl
  case h_13 => cases literal? st.flags c false <;> rfl

/-- Within one more group a text is read as it is by itself, except for a parenthesis that closes the group. -/
theorem readOne_inside (h : c = ')' → st.saved ≠ []) (outer : Flags) (rest : List Char) :
    readOne (st.inside outer) c rest = (readOne st c rest).map (insideToo outer) := by
  by_cases hclose : c = ')'
  · subst hclose
    obtain ⟨g, saved, hsaved⟩ := List.exists_cons_of_ne_nil (h rfl)
    simp only [readOne, State.inside, hsaved, List.cons_append, Option.map_some, insideToo]
  · by_cases hopen : c = '('
    · subst hopen
      exact readGroup_inside st outer rest
    · exact readOne_inside_plain hclose hopen st outer rest

/-! ## The end of a text -/

theorem local_readOne (hc : c ≠ '\\') (st : State) : Local fun rest => (readOne st c rest).map paired := by
  have hunit : ∀ o : Option Expr, Local fun rest =>
      (o.map fun e => (Token.unit e 0, st, rest)).map paired :=
    fun o => (local_option o fun e => (Token.unit e 0, st)).congr fun rest => by cases o <;> rfl
  have hlazy : ∀ t : Token, Local fun rest => (some (t, st, dropLazy rest)).map paired :=
    fun t => local_dropLazy.map fun _ => (t, st)
  simp only [readOne]
  split
  case h_1 => exact local_group st
  case h_2 =>
    cases st.saved with
    | nil => exact local_fail
    | cons outer saved => exact local_give (Token.closing, ({ st with flags := outer, saved } : State))
  case h_3 => exact local_give (Token.bar, st)
  case h_4 | h_5 | h_6 => exact hlazy _
  case h_7 =>
    exact ((local_count st.flags).map fun t => (t, st)).congr fun rest => by cases readCount? st.flags rest <;> rfl
  case h_8 =>
    exact ((local_brackets st.flags).map fun n => (Token.unit (.set n.set) n.depth, st)).congr fun rest => by
      cases readBrackets st.flags rest <;> rfl
  case h_9 => exact hunit _
  case h_10 | h_11 => exact local_give (_, st)
  case h_12 => exact absurd rfl hc
  case h_13 => exact hunit _

theorem readOne_escape (st : State) (rest : List Char) :
    (readOne st '\\' rest).map paired = (readEscape st.flags rest).bind fun p =>
      (unit? st.flags p.1).bind fun e => some ((.unit e 0, st), p.2) := by
  simp only [readOne]
  cases readEscape st.flags rest with
  | none => rfl
  | some p =>
    simp only [Option.bind_eq_bind, Option.bind_some]
    cases unit? st.flags p.1 <;> rfl

theorem readOne_suffix {rest : List Char} (h : readOne st c rest = some (t, st', r)) : r <:+ rest := by
  have hpaired : (readOne st c rest).map paired = some ((t, st'), r) := by rw [h]; rfl
  by_cases hc : c = '\\'
  · subst hc
    rw [readOne_escape] at hpaired
    obtain ⟨⟨p, s⟩, hp, hunit⟩ := Option.bind_eq_some_iff.1 hpaired
    obtain ⟨e, -, he⟩ := Option.bind_eq_some_iff.1 hunit
    obtain ⟨-, rfl⟩ := Prod.mk.inj (Option.some.inj he)
    cases rest with
    | nil => cases hp
    | cons d rest =>
      by_cases hd : d = 'b'
      · subst hd
        exact (look_of_boundary hp).2.trans (List.suffix_cons _ _)
      · exact ((local_escape hd st.flags).suffix hp).trans (List.suffix_cons _ _)
  · exact (local_readOne hc st).suffix hpaired

/-- A token meets the end of a text as other readers do, or it is a word boundary before a brace that stands last. -/
theorem readOne_edge (st : State) (c : Char) (rest : List Char) :
    Edge (fun rest => (readOne st c rest).map paired) rest ∨
      c = '\\' ∧ Stranded st.flags (fun rest => (readOne st c rest).map paired) rest := by
  by_cases hc : c = '\\'
  case neg => exact Or.inl ((local_readOne hc st).edge rest)
  subst hc
  have hunit : ∀ p, Local fun cs => (unit? st.flags p).bind fun e => some ((Token.unit e 0, st), cs) :=
    fun p => local_option (unit? st.flags p) fun e => (Token.unit e 0, st)
  have hedge : Edge (readEscape st.flags) rest → Edge (fun rest => (readOne st '\\' rest).map paired) rest :=
    fun h => (h.bind hunit).congr (readOne_escape st rest) fun w => readOne_escape st _
  cases rest with
  | nil =>
    refine Or.inl (hedge (.beyond rfl fun w x r hx => ?_))
    obtain ⟨-, rfl⟩ := Prod.mk.inj (Option.some.inj hx)
    exact List.suffix_refl _
  | cons d rest =>
    by_cases hd : d = 'b'
    case neg => exact Or.inl (hedge (((local_escape hd st.flags).edge rest).congr rfl fun w => rfl))
    subst hd
    rcases boundary_edge st.flags rest with h | ⟨hnone, r, hr, hext⟩
    · exact Or.inl (hedge (h.congr rfl fun w => rfl))
    · have hown : (readEscape st.flags ('b' :: rest)) = none := hnone
      refine Or.inr ⟨rfl, (readOne_escape st _).trans (by rw [hown, Option.bind_none]), r, hr, fun w x s hs => ?_⟩
      obtain ⟨⟨p, s'⟩, hp, hs⟩ := Option.bind_eq_some_iff.1 ((readOne_escape st _).symm.trans hs)
      obtain ⟨e, -, hs⟩ := Option.bind_eq_some_iff.1 hs
      cases hs
      exact hext w p _ hp

/-! ## Tokens one behind the other -/

theorem readAll_enough {m n : Nat} (hm : cs.length < m) (hn : cs.length < n) (st : State) :
    readAll m st cs = readAll n st cs := by
  induction m generalizing n cs st with
  | zero => omega
  | succ m ih =>
    cases n with
    | zero => omega
    | succ n =>
      have hskip := (skip_suffix st.flags cs).length_le
      rw [readAll, readAll]
      cases hcs : st.flags.skip cs with
      | nil => rfl
      | cons c rest =>
        rw [hcs, List.length_cons] at hskip
        dsimp only
        cases hone : readOne st c rest with
        | none => rfl
        | some p =>
          obtain ⟨t, st', r⟩ := p
          have hr := (readOne_suffix hone).length_le
          have hall : readAll m st' r = readAll n st' r := ih (by omega) (by omega) st'
          simp only [Option.bind_eq_bind, Option.bind_some, hall]

/-- The tokens of a text that is read from a state on. -/
def allFrom? (st : State) (cs : List Char) : Option (List Token) := readAll (cs.length + 1) st cs

theorem allFrom?_nil (h : st.flags.skip cs = []) : allFrom? st cs = some [] := by
  rw [allFrom?, readAll, h]

theorem allFrom?_cons (h : st.flags.skip cs = c :: rest) :
    allFrom? st cs = (readOne st c rest).bind fun p => (allFrom? p.2.1 p.2.2).map (p.1 :: ·) := by
  have hskip := (skip_suffix st.flags cs).length_le
  rw [h, List.length_cons] at hskip
  rw [allFrom?, readAll, h]
  dsimp only
  cases hone : readOne st c rest with
  | none => rfl
  | some p =>
    obtain ⟨t, st', r⟩ := p
    have hr := (readOne_suffix hone).length_le
    have hall : readAll cs.length st' r = readAll (r.length + 1) st' r :=
      readAll_enough (by omega) (Nat.lt_succ_self _) st'
    simp only [Option.bind_eq_bind, Option.bind_some, allFrom?, hall]
    cases readAll (r.length + 1) st' r <;> rfl

end Token

end PubSub.Pattern
