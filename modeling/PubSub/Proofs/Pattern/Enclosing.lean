import PubSub.Proofs.Pattern.Grouping

/-!
# Expressions in groups

A text in parentheses is read as it is by itself. If it is an expression by itself, the parenthesis behind it closes the
group, unless a comment at its end hides the parenthesis. And a group that is opened is closed behind an expression.

* `Node.inGroup`: an expression in parentheses.

Results:

* `Node.readFrom?_close`: a parenthesis behind an expression closes the group around it, and only that.
* `Node.readFrom?_open`: what is read in a group starts with an expression and the parenthesis behind it.
-/

namespace PubSub.Pattern.Node

variable {cs rest r w : List Char} {c : Char} {st st' : Token.State} {t : Token} {n : Node} {g g' h : Group}
  {outer outer' : List Group}

/-- A node in parentheses. -/
def inGroup (n : Node) : Node := { n with depth := n.depth + 1, repeatable := true }

/-- Without an open group a parenthesis closes none. -/
theorem readFrom?_closing_nil (h : st.flags.skip cs = ')' :: rest) (hs : st.saved = []) (g : Group)
    (outer : List Group) : readFrom? st g outer cs = none := by
  rw [readFrom?_cons h]
  simp only [Token.readOne, hs, Option.bind_none]

/-- A parenthesis closes the innermost group. -/
theorem readFrom?_closing_cons {f : Flags} {saved : List Flags} (h : st.flags.skip cs = ')' :: rest)
    (hs : st.saved = f :: saved) (g k : Group) (outer : List Group) :
    readFrom? st g (k :: outer) cs =
      readFrom? { st with flags := f, saved := saved } (k.push g.node.inGroup) outer rest := by
  rw [readFrom?_cons h]
  simp only [Token.readOne, hs, Option.bind_some]
  rfl

/-- A brace that stands last begins no repetition. -/
theorem readFrom?_brace (hr : st.flags.skip r = []) (g : Group) (outer : List Group) :
    readFrom? st g outer ('\x7b' :: r) = none := by
  have hskip : st.flags.skip ('\x7b' :: r) = '\x7b' :: r := by
    rw [Flags.skip]
    split <;> rfl
  rw [readFrom?_cons hskip]
  simp only [Token.readOne, readCount?_nil hr]
  rfl

/-- A token that is read leads into the rest of the text. -/
theorem readFrom?_token (hcs : st.flags.skip cs = c :: rest) (hone : Token.readOne st c rest = some (t, st', r))
    (htoken : readToken? g outer t = some (g', outer')) : readFrom? st g outer cs = readFrom? st' g' outer' r := by
  rw [readFrom?_cons hcs, hone, Option.bind_some, htoken, Option.bind_some]

/-- The same within one more group. -/
theorem readFrom?_token_inside (hcs : st.flags.skip cs = c :: rest)
    (hone : Token.readOne st c rest = some (t, st', r)) (htoken : readToken? g outer t = some (g', outer'))
    (f : Flags) (h : Group) :
    readFrom? (st.inside f) g (outer ++ [h]) cs = readFrom? (st'.inside f) g' (outer' ++ [h]) r := by
  have hinside : Token.readOne (st.inside f) c rest = some (t, st'.inside f, r) := by
    rw [Token.readOne_inside, hone]
    · rfl
    · rintro rfl hs
      simp only [Token.readOne, hs, reduceCtorEq] at hone
  have hcs' : (st.inside f).flags.skip cs = c :: rest := hcs
  refine readFrom?_token hcs' hinside ?_
  rw [readToken?_append, htoken]
  · rfl
  · rintro rfl rfl
    cases htoken

/-- The flags saved and the open groups stay as many. -/
theorem stays_alike (hsaved : st.saved.length = outer.length) (hone : Token.readOne st c rest = some (t, st', r))
    (htoken : readToken? g outer t = some (g', outer')) : st'.saved.length = outer'.length := by
  have hflags : st'.saved.length + t.closes = st.saved.length + t.opens := Token.readOne_saved hone
  have hgroups : outer'.length + t.closes = outer.length + t.opens := readToken?_length htoken
  omega

/-- In an expression that does not hide a parenthesis behind it no token hides one, and each token is the same with
the parenthesis behind the text. -/
theorem readOne_shown (hcs : st.flags.skip (cs ++ [')']) = c :: (rest ++ [')']))
    (hone : Token.readOne st c rest = some (t, st', r)) (htoken : readToken? g outer t = some (g', outer'))
    (hown : readFrom? st' g' outer' r = some n) (hshown : readFrom? st g outer (cs ++ [')']) = none)
    (w : List Char) : Token.readOne st c (rest ++ ')' :: w) = some (t, st', r ++ ')' :: w) := by
  have hpaired : (Token.readOne st c rest).map paired = some ((t, st'), r) := by
    rw [hone]
    rfl
  rcases Token.readOne_edge st c rest with hedge | ⟨-, hnone, -⟩
  case inr => cases hpaired.symm.trans hnone
  cases hedge with
  | within hx hw =>
    cases hpaired.symm.trans hx
    exact of_paired (hw w)
  | beyond hx _ => cases hpaired.symm.trans hx
  | swallowed hx hw _ =>
    -- The parenthesis is hidden, and so with it the text is still an expression.
    cases hpaired.symm.trans hx
    rw [readFrom?_token hcs (of_paired hw) htoken] at hshown
    cases hshown.symm.trans hown

/-- A parenthesis behind an expression that does not hide it closes a group around the expression, and without such a
group nothing is read. By induction on the length of the text, token by token. -/
theorem readFrom?_close (hsaved : st.saved.length = outer.length) (hown : readFrom? st g outer cs = some n)
    (hshown : readFrom? st g outer (cs ++ [')']) = none) :
    ∃ names, ∀ w, readFrom? st g outer (cs ++ ')' :: w) = none ∧
      ∀ f h, readFrom? (st.inside f) g (outer ++ [h]) (cs ++ ')' :: w) =
        readFrom? { flags := f, names } (h.push n.inGroup) [] w := by
  induction hk : cs.length using Nat.strongRecOn generalizing cs st g outer with
  | ind k ih =>
    cases hcs : st.flags.skip cs with
    | nil =>
      cases outer with
      | cons k outer =>
        rw [readFrom?_nil hcs] at hown
        cases hown
      | nil =>
        have hnone : st.saved = [] := List.eq_nil_of_length_eq_zero hsaved
        rw [readFrom?_nil hcs] at hown
        cases hown
        rcases skip_append_closing st.flags cs with hb | ⟨-, hb, -⟩
        · simp only [hcs, List.nil_append] at hb
          have hin : ∀ f, (st.inside f).saved = [f] := fun f => by rw [Token.State.inside, hnone, List.nil_append]
          have hb' : ∀ f w, (st.inside f).flags.skip (cs ++ ')' :: w) = ')' :: w := fun _ => hb
          exact ⟨st.names, fun w => ⟨readFrom?_closing_nil (hb w) hnone g [],
            fun f h => readFrom?_closing_cons (hb' f w) (hin f) g h []⟩⟩
        · rw [readFrom?_nil hb] at hshown
          cases hshown
    | cons c rest =>
      have hb : ∀ w, st.flags.skip (cs ++ ')' :: w) = st.flags.skip cs ++ ')' :: w := by
        rcases skip_append_closing st.flags cs with hb | ⟨hnil, -⟩
        · exact hb
        · cases hnil.symm.trans hcs
      simp only [hcs, List.cons_append] at hb
      have hless := (skip_suffix st.flags cs).length_le
      rw [hcs, List.length_cons] at hless
      rw [readFrom?_cons hcs] at hown
      obtain ⟨⟨t, st', r⟩, hone, hown⟩ := Option.bind_eq_some_iff.1 hown
      obtain ⟨⟨g', outer'⟩, htoken, hown⟩ := Option.bind_eq_some_iff.1 hown
      have hext := readOne_shown (hb []) hone htoken hown hshown
      have hr := (Token.readOne_suffix hone).length_le
      have hstays := stays_alike hsaved hone htoken
      rw [readFrom?_token (hb []) (hext []) htoken] at hshown
      obtain ⟨names, hnext⟩ := ih r.length (by omega) hstays hown hshown rfl
      refine ⟨names, fun w => ⟨?_, fun f h => ?_⟩⟩
      · rw [readFrom?_token (hb w) (hext w) htoken]
        exact (hnext w).1
      · rw [readFrom?_token_inside (hb w) (hext w) htoken]
        exact (hnext w).2 f h

/-- What is behind a parenthesis does not hold it. -/
theorem not_closing_suffix (own w : List Char) : ¬ own ++ ')' :: w <:+ w := fun h => by
  have hle := h.length_le
  rw [List.length_append, List.length_cons] at hle
  omega

/-- Before a parenthesis that is not passed over, the same is passed over where the text ends there. -/
theorem skip_before {f : Flags} (h : f.skip (cs ++ ')' :: w) = r ++ ')' :: w) :
    f.skip cs = r ∧ f.skip (cs ++ [')']) = r ++ [')'] := by
  rcases skip_append_closing f cs with hb | ⟨-, -, hp⟩
  · obtain rfl := List.append_cancel_right ((hb w).symm.trans h)
    exact ⟨rfl, hb []⟩
  · exact absurd (h ▸ hp w) (not_closing_suffix r w)

/-- A token within a group is read alike by itself. -/
theorem exists_token_of_inside {f : Flags} (hcs : st.flags.skip cs = c :: rest) (hclose : c = ')' → st.saved ≠ [])
    (hsaved : st.saved.length = outer.length) (hall : readFrom? (st.inside f) g (outer ++ [h]) cs = some n) :
    ∃ t st' r g' outer', Token.readOne st c rest = some (t, st', r) ∧ readToken? g outer t = some (g', outer') ∧
      readFrom? (st'.inside f) g' (outer' ++ [h]) r = some n := by
  have hin : (st.inside f).flags.skip cs = c :: rest := hcs
  rw [readFrom?_cons hin, Token.readOne_inside hclose] at hall
  obtain ⟨p, hp, hall⟩ := Option.bind_eq_some_iff.1 hall
  obtain ⟨⟨t, st', r⟩, hone, rfl⟩ := Option.map_eq_some_iff.1 hp
  obtain ⟨q, hq, hall⟩ := Option.bind_eq_some_iff.1 hall
  have ht : (Token.insideToo f (t, st', r)).1 = .closing → outer ≠ [] := by
    rintro rfl rfl
    exact hclose (Token.readOne_closing hone) (List.eq_nil_of_length_eq_zero hsaved)
  rw [readToken?_append ht] at hq
  obtain ⟨⟨g', outer'⟩, htoken, rfl⟩ := Option.map_eq_some_iff.1 hq
  exact ⟨t, st', r, g', outer', hone, htoken, hall⟩

/-- A token before the parenthesis is read alike where the text ends there, and where it goes on with the parenthesis
only. -/
theorem readOne_before (hone : Token.readOne st c (rest ++ ')' :: w) = some (t, st', r ++ ')' :: w))
    (hown : ∃ m, readFrom? st' g outer r = some m) :
    Token.readOne st c rest = some (t, st', r) ∧ Token.readOne st c (rest ++ [')']) = some (t, st', r ++ [')']) := by
  have hpaired : (Token.readOne st c (rest ++ ')' :: w)).map paired = some ((t, st'), r ++ ')' :: w) := by
    rw [hone]
    rfl
  rcases Token.readOne_edge st c rest with hedge | ⟨rfl, -, r', hr', hpass⟩
  · cases hedge with
    | within hx hw =>
      have heq := hpaired.symm.trans (hw w)
      rw [Option.some.injEq, Prod.mk.injEq, List.append_cancel_right_eq] at heq
      obtain ⟨rfl, rfl⟩ := heq
      exact ⟨of_paired hx, of_paired (hw [])⟩
    | beyond _ hp => exact absurd (hp w _ _ hpaired) (not_closing_suffix r w)
    | swallowed _ _ hp => exact absurd (hp w _ _ hpaired) (not_closing_suffix r w)
  · -- A word boundary before a brace: the brace would have to begin a repetition, but there is nothing behind it.
    rcases hpass w _ _ hpaired with h | h
    · exact absurd h (not_closing_suffix r w)
    · rw [← List.cons_append, List.append_cancel_right_eq] at h
      obtain ⟨rfl, -⟩ := Token.readOne_plain hone (by decide) (by decide)
      obtain ⟨m, hm⟩ := hown
      rw [h, readFrom?_brace hr'] at hm
      cases hm

/-- What is read in a group that is open starts with an expression and the parenthesis that closes the group. By
induction on the length of the text, token by token. -/
theorem readFrom?_open {f : Flags} (hsaved : st.saved.length = outer.length)
    (hall : readFrom? (st.inside f) g (outer ++ [h]) cs = some n) :
    ∃ own w, cs = own ++ ')' :: w ∧ (∃ m, readFrom? st g outer own = some m) ∧
      readFrom? st g outer (own ++ [')']) = none := by
  induction hk : cs.length using Nat.strongRecOn generalizing cs st g outer with
  | ind k ih =>
    cases hcs : st.flags.skip cs with
    | nil =>
      have hin : (st.inside f).flags.skip cs = [] := hcs
      rw [readFrom?_nil hin] at hall
      cases outer <;> cases hall
    | cons c rest =>
      obtain ⟨blank, hblank⟩ : c :: rest <:+ cs := hcs ▸ skip_suffix st.flags cs
      by_cases hclose : c = ')' ∧ st.saved = []
      · obtain ⟨rfl, hnone⟩ := hclose
        obtain rfl : outer = [] := List.eq_nil_of_length_eq_zero (hsaved ▸ hnone ▸ rfl)
        rw [← hblank] at hcs
        obtain ⟨hnil, hone⟩ := skip_before (r := []) hcs
        refine ⟨blank, rest, hblank.symm, ⟨g.node, by rw [readFrom?_nil hnil]; rfl⟩, ?_⟩
        exact readFrom?_closing_nil hone hnone g []
      · have hne : c = ')' → st.saved ≠ [] := fun hc hs => hclose ⟨hc, hs⟩
        obtain ⟨t, st', r, g', outer', hone, htoken, hnext⟩ := exists_token_of_inside hcs hne hsaved hall
        obtain ⟨taken, rfl⟩ := Token.readOne_suffix hone
        have hless : r.length < k := by
          have hlen := congrArg List.length hblank
          simp only [List.length_append, List.length_cons] at hlen
          omega
        obtain ⟨own, w, rfl, hown, hshown⟩ := ih r.length hless (stays_alike hsaved hone htoken) hnext rfl
        rw [← List.append_assoc] at hone
        obtain ⟨hfirst, hclosed⟩ := readOne_before hone hown
        have hsplit : cs = (blank ++ c :: (taken ++ own)) ++ ')' :: w := by
          rw [← hblank]
          simp only [List.append_assoc, List.cons_append]
        have hsplit' : c :: (taken ++ (own ++ ')' :: w)) = c :: (taken ++ own) ++ ')' :: w := by
          rw [List.cons_append, List.append_assoc]
        rw [hsplit, hsplit'] at hcs
        obtain ⟨hskip, hskip'⟩ := skip_before hcs
        refine ⟨blank ++ c :: (taken ++ own), w, hsplit, ?_, ?_⟩
        · rw [readFrom?_token hskip hfirst htoken]
          exact hown
        · rw [readFrom?_token hskip' hclosed htoken]
          exact hshown

end PubSub.Pattern.Node
