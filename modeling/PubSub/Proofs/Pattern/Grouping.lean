import PubSub.Pattern.Grammar
import PubSub.Proofs.Pattern.Searching
import PubSub.Proofs.Pattern.Tokens

/-!
# Reading a text into open groups

* `Node.readToken?`: what one token does to the groups that are open.
* `Node.readFrom?`: the node of a text that is read into open groups.

Results:

* `Token.readOne_cases`: what a token has to do with groups.
* `Node.readFrom?_nil`, `Node.readFrom?_cons`: a text is read token by token.
* `Token.readOne_saved`, `Node.readToken?_length`: the flags saved and the open groups stay as many.
* `Node.ofText?_sensible`: expressions that are read are sensible.
-/

namespace PubSub.Pattern

variable {cs rest r : List Char} {c : Char} {st st' : Token.State} {t : Token}

namespace Token

/-- How many groups a token opens. -/
def opens : Token → Nat
  | .opening => 1
  | _ => 0

/-- How many groups a token closes. -/
def closes : Token → Nat
  | .closing => 1
  | _ => 0

/-! ## What tokens are read -/

theorem readCount?_rep {f : Flags} (h : readCount? f cs = some (t, r)) :
    ∃ least most, t = .rep least most ∧ ∀ m, most = some m → least ≤ m := by
  rw [readCount?_eq] at h
  obtain ⟨⟨least, s⟩, -, h⟩ := Option.bind_eq_some_iff.1 h
  rw [afterLeast.eq_def] at h
  split at h
  case h_1 =>
    cases h
    exact ⟨least, some least, rfl, fun m hm => Nat.le_of_eq (Option.some.inj hm)⟩
  case h_2 =>
    rw [afterComma.eq_def] at h
    split at h
    case h_1 =>
      cases h
      exact ⟨least, none, rfl, fun _ hm => absurd hm (Option.some_ne_none _).symm⟩
    case h_2 =>
      obtain ⟨⟨most, s'⟩, -, h⟩ := Option.bind_eq_some_iff.1 h
      rw [afterMost.eq_def] at h
      split at h
      case h_1 =>
        split at h
        case isTrue hle =>
          cases h
          exact ⟨least, some most, rfl, fun m hm => Option.some.inj hm ▸ hle⟩
        case isFalse => cases h
      case h_2 => cases h
  case h_3 => cases h

/-- What a parenthesis begins is a group, or it is a mere change of flags. -/
theorem readGroup_cases (h : readGroup st cs = some (t, st', r)) :
    t = .opening ∧ st'.saved = st.flags :: st.saved ∨ t = .flags ∧ st'.saved = st.saved := by
  have hnamed : ∀ s, readNamed st s = some (t, st', r) → t = .opening ∧ st'.saved = st.flags :: st.saved := by
    intro s h
    obtain ⟨⟨name, s'⟩, -, h⟩ := Option.bind_eq_some_iff.1 h
    dsimp only at h
    split at h
    · cases h
    · cases h
      exact ⟨rfl, rfl⟩
  rw [readGroup] at h
  split at h
  case h_1 | h_2 | h_3 | h_4 => cases h
  case h_5 | h_6 => exact Or.inl (hnamed _ h)
  case h_7 =>
    obtain ⟨change, -, h⟩ := Option.bind_eq_some_iff.1 h
    split at h
    · cases h
      exact Or.inl ⟨rfl, rfl⟩
    · split at h
      · cases h
      · cases h
        exact Or.inr ⟨rfl, rfl⟩
  case h_8 =>
    cases h
    exact Or.inl ⟨rfl, rfl⟩

/-- A token that has nothing to do with groups. Its expression is sensible, or the repetition that it asks for. -/
inductive Plain : Token → Prop
  | bar : Plain .bar
  | unit {e : Expr} {depth : Nat} : e.Sensible → Plain (.unit e depth)
  | rep {least : Nat} {most : Option Nat} : (∀ m, most = some m → least ≤ m) → Plain (.rep least most)

theorem unit?_sensible {f : Flags} {p : Primitive} {e : Expr} (h : unit? f p = some e) : e.Sensible := by
  cases p with
  | literal c raw =>
    rw [unit?, literal?] at h
    split at h
    · cases h
      trivial
    · split at h
      · cases h
      · split at h <;> cases h <;> trivial
  | set s =>
    cases h
    trivial
  | look l =>
    cases h
    trivial

theorem dot?_sensible {f : Flags} {e : Expr} (h : dot? f = some e) : e.Sensible := by
  rw [dot?] at h
  split at h
  · cases h
  · cases h
    trivial

theorem readOne_plain (h : readOne st c rest = some (t, st', r)) (hc : c ≠ ')') (ho : c ≠ '(') :
    st' = st ∧ t.Plain := by
  have hone : ∀ m, some 1 = some m → 0 ≤ m := fun m _ => Nat.zero_le m
  simp only [readOne] at h
  split at h
  case h_1 => exact absurd rfl ho
  case h_2 => exact absurd rfl hc
  case h_3 =>
    cases h
    exact ⟨rfl, .bar⟩
  case h_4 =>
    cases h
    exact ⟨rfl, .rep fun m _ => Nat.zero_le m⟩
  case h_5 | h_6 =>
    cases h
    exact ⟨rfl, .rep fun _ hm => absurd hm (Option.some_ne_none _).symm⟩
  case h_7 =>
    obtain ⟨⟨t', r'⟩, hcount, hp⟩ := Option.map_eq_some_iff.1 h
    obtain ⟨least, most, rfl, hle⟩ := readCount?_rep hcount
    cases hp
    exact ⟨rfl, .rep hle⟩
  case h_8 =>
    obtain ⟨p, -, hp⟩ := Option.map_eq_some_iff.1 h
    cases hp
    exact ⟨rfl, .unit trivial⟩
  case h_9 =>
    obtain ⟨e, he, hp⟩ := Option.map_eq_some_iff.1 h
    cases hp
    exact ⟨rfl, .unit (dot?_sensible he)⟩
  case h_10 | h_11 =>
    cases h
    exact ⟨rfl, .unit trivial⟩
  case h_12 =>
    obtain ⟨p, -, h⟩ := Option.bind_eq_some_iff.1 h
    obtain ⟨e, he, h⟩ := Option.bind_eq_some_iff.1 h
    cases h
    exact ⟨rfl, .unit (unit?_sensible he)⟩
  case h_13 =>
    obtain ⟨e, he, hp⟩ := Option.map_eq_some_iff.1 h
    cases hp
    exact ⟨rfl, .unit (unit?_sensible (p := .literal c false) he)⟩

/-- What a token has to do with groups: it closes one, opens one or changes flags within one, or it is plain. -/
theorem readOne_cases (h : readOne st c rest = some (t, st', r)) :
    (c = ')' ∧ t = .closing ∧ ∃ f, st.saved = f :: st'.saved) ∨
      (t = .opening ∧ ∃ f, st'.saved = f :: st.saved) ∨ st'.saved = st.saved ∧ (t = .flags ∨ t.Plain) := by
  by_cases hc : c = ')'
  · subst hc
    simp only [readOne] at h
    split at h
    case h_1 => cases h
    case h_2 outer saved hsaved =>
      cases h
      exact Or.inl ⟨rfl, rfl, outer, hsaved⟩
  · by_cases ho : c = '('
    · subst ho
      rcases readGroup_cases h with ⟨ht, hs⟩ | ⟨ht, hs⟩
      · exact Or.inr (Or.inl ⟨ht, _, hs⟩)
      · exact Or.inr (Or.inr ⟨hs, Or.inl ht⟩)
    · obtain ⟨rfl, ht⟩ := readOne_plain h hc ho
      exact Or.inr (Or.inr ⟨rfl, Or.inr ht⟩)

theorem readOne_closing (h : readOne st c rest = some (.closing, st', r)) : c = ')' := by
  rcases readOne_cases h with ⟨hc, -⟩ | ⟨ht, -⟩ | ⟨-, ht | ht⟩
  · exact hc
  · cases ht
  · cases ht
  · cases ht

/-- The flags saved are those outside the groups that are open. -/
theorem readOne_saved (h : readOne st c rest = some (t, st', r)) :
    st'.saved.length + t.closes = st.saved.length + t.opens := by
  rcases readOne_cases h with ⟨-, rfl, f, hs⟩ | ⟨rfl, f, hs⟩ | ⟨hs, rfl | ht⟩
  · rw [hs]
    rfl
  · rw [hs]
    rfl
  · rw [hs]
    rfl
  · rw [hs]
    cases ht <;> rfl

/-- What is asked of the expression or of the repetition of a token. -/
def Sensible : Token → Prop
  | .unit e _ => e.Sensible
  | .rep least most => ∀ m, most = some m → least ≤ m
  | _ => True

theorem readOne_sensible (h : readOne st c rest = some (t, st', r)) : t.Sensible := by
  rcases readOne_cases h with ⟨-, rfl, -⟩ | ⟨rfl, -⟩ | ⟨-, rfl | ht⟩
  · trivial
  · trivial
  · trivial
  · cases ht with
    | bar => trivial
    | unit he => exact he
    | rep hm => exact hm

theorem readAll_sensible {n : Nat} {ts : List Token} (h : readAll n st cs = some ts) : ∀ t ∈ ts, t.Sensible := by
  induction n generalizing st cs ts with
  | zero => cases h
  | succ n ih =>
    rw [readAll] at h
    split at h
    case h_1 =>
      cases h
      exact List.forall_mem_nil _
    case h_2 =>
      obtain ⟨⟨t, st', r⟩, hone, h⟩ := Option.bind_eq_some_iff.1 h
      obtain ⟨ts', hts, h⟩ := Option.bind_eq_some_iff.1 h
      cases h
      exact List.forall_mem_cons.2 ⟨readOne_sensible hone, ih hts⟩

end Token

namespace Node

variable {g g' : Group} {outer outer' : List Group}

/-! ## One token -/

/-- The innermost open group and those around it once a token is read. -/
def readToken? (g : Group) (outer : List Group) : Token → Option (Group × List Group)
  | .opening => some ({}, g :: outer)
  | .closing =>
    match outer with
    | [] => none
    | h :: outer => some (h.push { g.node with depth := g.node.depth + 1, repeatable := true }, outer)
  | .bar => some ({ items := [], branches := sequence g.items.reverse :: g.branches }, outer)
  | .flags => some (g.push ⟨.empty, 0, false⟩, outer)
  | .unit e depth => some (g.push ⟨e, depth, true⟩, outer)
  | .rep least most =>
    match g.items with
    | n :: items => if n.repeatable then some ({ g with items := n.repetition least most :: items }, outer) else none
    | [] => none

theorem readTokens_cons (g : Group) (outer : List Group) (t : Token) (ts : List Token) :
    readTokens g outer (t :: ts) = (readToken? g outer t).bind fun q => readTokens q.1 q.2 ts := by
  cases t with
  | closing => cases outer <;> rfl
  | rep least most =>
    rw [readTokens, readToken?]
    cases g.items with
    | nil => rfl
    | cons n items =>
      dsimp only
      split <;> rfl
  | _ => rfl

/-- Groups further out play no part. -/
theorem readToken?_append (h : t = .closing → outer ≠ []) (more : List Group) :
    readToken? g (outer ++ more) t = (readToken? g outer t).map fun q => (q.1, q.2 ++ more) := by
  cases t with
  | closing =>
    obtain ⟨g', outer', rfl⟩ := List.exists_cons_of_ne_nil (h rfl)
    rfl
  | rep least most =>
    rw [readToken?, readToken?]
    cases g.items with
    | nil => rfl
    | cons n items =>
      dsimp only
      split <;> rfl
  | _ => rfl

/-- A token adds a group and takes one away as a parenthesis does. -/
theorem readToken?_length (h : readToken? g outer t = some (g', outer')) :
    outer'.length + t.closes = outer.length + t.opens := by
  cases t with
  | opening => 
    cases h
    rfl
  | closing =>
    cases outer with
    | nil => cases h
    | cons k outer =>
      cases h
      rfl
  | rep least most =>
    rw [readToken?] at h
    split at h
    · split at h
      · cases h
        rfl
      · cases h
    · cases h
  | _ =>
    cases h
    rfl

/-! ## A whole text -/

/-- Reads the rest of a text into the groups that are open. -/
def readFrom? (st : Token.State) (g : Group) (outer : List Group) (cs : List Char) : Option Node :=
  (Token.allFrom? st cs).bind (readTokens g outer)

theorem ofText?_eq (cs : List Char) : ofText? cs = readFrom? {} {} [] cs := rfl

theorem readFrom?_nil (h : st.flags.skip cs = []) (g : Group) (outer : List Group) :
    readFrom? st g outer cs = if outer.isEmpty then some g.node else none := by
  rw [readFrom?, Token.allFrom?_nil h]
  rfl

theorem readFrom?_cons (h : st.flags.skip cs = c :: rest) (g : Group) (outer : List Group) :
    readFrom? st g outer cs = (Token.readOne st c rest).bind fun p =>
      (readToken? g outer p.1).bind fun q => readFrom? p.2.1 q.1 q.2 p.2.2 := by
  rw [readFrom?, Token.allFrom?_cons h]
  cases Token.readOne st c rest with
  | none => rfl
  | some p =>
    obtain ⟨t, st', r⟩ := p
    simp only [Option.bind_some]
    cases hq : readToken? g outer t with
    | none =>
      cases Token.allFrom? st' r with
      | none => rfl
      | some ts =>
        simp only [Option.map_some, Option.bind_some, readTokens_cons, hq, Option.bind_none]
    | some q =>
      rw [Option.bind_some, readFrom?]
      cases Token.allFrom? st' r with
      | none => rfl
      | some ts => simp only [Option.map_some, Option.bind_some, readTokens_cons, hq]

/-! ## Sensible expressions -/

/-- The expressions of all nodes are sensible. -/
def Group.Sensible (g : Group) : Prop := ∀ n ∈ g.items ++ g.branches, n.expr.Sensible

theorem sensible_empty : ({} : Group).Sensible := fun _ hn => absurd hn List.not_mem_nil

theorem cats_sensible {es : List Expr} (h : ∀ e ∈ es, e.Sensible) : (Expr.cats es).Sensible := by
  induction es using Expr.cats.induct with
  | case1 => trivial
  | case2 e => exact h e List.mem_cons_self
  | case3 e es hne ih =>
    rw [Expr.cats]
    · exact ⟨h e List.mem_cons_self, ih fun e' he' => h e' (List.mem_cons_of_mem e he')⟩
    · exact hne

theorem alts_sensible {es : List Expr} (h : ∀ e ∈ es, e.Sensible) : (Expr.alts es).Sensible := by
  induction es using Expr.alts.induct with
  | case1 => trivial
  | case2 e => exact h e List.mem_cons_self
  | case3 e es hne ih =>
    rw [Expr.alts]
    · exact ⟨h e List.mem_cons_self, ih fun e' he' => h e' (List.mem_cons_of_mem e he')⟩
    · exact hne

theorem expr_sequence (ns : List Node) : (sequence ns).expr = Expr.cats (ns.map Node.expr) := by
  rcases ns with _ | ⟨n, _ | ⟨m, ns⟩⟩ <;> rfl

theorem expr_choice (ns : List Node) : (choice ns).expr = Expr.alts (ns.map Node.expr) := by
  rcases ns with _ | ⟨n, _ | ⟨m, ns⟩⟩ <;> rfl

theorem sequence_sensible {ns : List Node} (h : ∀ n ∈ ns, n.expr.Sensible) : (sequence ns).expr.Sensible := by
  rw [expr_sequence]
  exact cats_sensible (List.forall_mem_map.2 h)

theorem choice_sensible {ns : List Node} (h : ∀ n ∈ ns, n.expr.Sensible) : (choice ns).expr.Sensible := by
  rw [expr_choice]
  exact alts_sensible (List.forall_mem_map.2 h)

theorem Group.Sensible.sequence (hg : g.Sensible) : (sequence g.items.reverse).expr.Sensible :=
  sequence_sensible fun n hn => hg n (List.mem_append_left _ (List.mem_reverse.1 hn))

theorem Group.Sensible.node (hg : g.Sensible) : g.node.expr.Sensible := by
  refine choice_sensible fun n hn => ?_
  rcases List.mem_cons.1 (List.mem_reverse.1 hn) with rfl | hn
  · exact hg.sequence
  · exact hg n (List.mem_append_right _ hn)

theorem Group.Sensible.push {n : Node} (hg : g.Sensible) (hn : n.expr.Sensible) : (g.push n).Sensible := by
  rintro m (_ | ⟨_, hm⟩)
  · exact hn
  · exact hg m hm

theorem repetition_sensible {n : Node} {least : Nat} {most : Option Nat} (h : n.expr.Sensible)
    (hm : ∀ m, most = some m → least ≤ m) : (n.repetition least most).expr.Sensible := by
  rw [repetition]
  split
  · refine ⟨h, fun m hmost => ?_⟩
    cases most with
    | none => 
      cases hmost
      exact Nat.min_le_right _ _
    | some k =>
      cases hmost
      have := hm k rfl
      simp only [Option.getD_some]
      omega
  · exact ⟨h, hm⟩

/-- Sensible tokens put sensible expressions into the groups. -/
theorem readToken?_sensible (ht : t.Sensible) (hg : ∀ k ∈ g :: outer, k.Sensible)
    (h : readToken? g outer t = some (g', outer')) : ∀ k ∈ g' :: outer', k.Sensible := by
  obtain ⟨hinner, houter⟩ := List.forall_mem_cons.1 hg
  cases t with
  | opening =>
    cases h
    exact List.forall_mem_cons.2 ⟨sensible_empty, hg⟩
  | closing =>
    cases outer with
    | nil => cases h
    | cons k outer =>
      cases h
      obtain ⟨hk, hrest⟩ := List.forall_mem_cons.1 houter
      exact List.forall_mem_cons.2 ⟨hk.push hinner.node, hrest⟩
  | bar =>
    cases h
    refine List.forall_mem_cons.2 ⟨?_, houter⟩
    rintro m (_ | ⟨_, hm⟩)
    · exact hinner.sequence
    · exact hinner m (List.mem_append_right _ hm)
  | flags =>
    cases h
    exact List.forall_mem_cons.2 ⟨hinner.push trivial, houter⟩
  | unit e depth =>
    cases h
    exact List.forall_mem_cons.2 ⟨hinner.push ht, houter⟩
  | rep least most =>
    rw [readToken?] at h
    split at h
    case h_1 n items hitems =>
      split at h
      · cases h
        have hn : n.expr.Sensible := hinner n (by rw [hitems]; exact List.mem_cons_self)
        refine List.forall_mem_cons.2 ⟨?_, houter⟩
        rintro m (_ | ⟨_, hm⟩)
        · exact repetition_sensible hn ht
        · exact hinner m (by rw [hitems]; exact List.mem_cons_of_mem n hm)
      · cases h
    case h_2 => cases h

theorem readTokens_sensible {ts : List Token} {n : Node} (ht : ∀ t ∈ ts, t.Sensible)
    (hg : ∀ k ∈ g :: outer, k.Sensible) (h : readTokens g outer ts = some n) : n.expr.Sensible := by
  induction ts generalizing g outer with
  | nil =>
    rw [readTokens] at h
    split at h
    · cases h
      exact (hg g List.mem_cons_self).node
    · cases h
  | cons t ts ih =>
    obtain ⟨hone, hts⟩ := List.forall_mem_cons.1 ht
    rw [readTokens_cons] at h
    obtain ⟨⟨g', outer'⟩, hq, h⟩ := Option.bind_eq_some_iff.1 h
    exact ih hts (readToken?_sensible hone hg hq) h

/-- An expression that is read is sensible. -/
theorem ofText?_sensible {n : Node} (h : ofText? cs = some n) : n.expr.Sensible := by
  obtain ⟨ts, hts, h⟩ := Option.bind_eq_some_iff.1 h
  have hopen : ∀ k ∈ [({} : Group)], k.Sensible := List.forall_mem_cons.2 ⟨sensible_empty, List.forall_mem_nil _⟩
  exact readTokens_sensible (Token.readAll_sensible hts) hopen h

end Node

end PubSub.Pattern
