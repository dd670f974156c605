import PubSub.Proofs.Pattern.Locality

/-!
# The readers of a pattern are local

A parenthesis behind a text makes no difference to escapes, counted repetitions and the beginnings of groups that end
before it. The word boundary is the one exception: whether the brace behind it begins the name of a condition is not
known until something follows.

Results:

* `local_hex`, `local_property`, `local_escape`: escapes, except for the word boundary.
* `boundary_edge`: the word boundary, with a brace that stands last as a case of its own.
* `local_count`, `readCount?_nil`: counted repetitions; there is none without a number.
* `local_group`: groups, names of groups and changes of flags.
-/

namespace PubSub.Pattern

open Unicode (CharSet)

variable {α β : Type} {f : Flags} {cs rest r : List Char}

/-- A reader that takes nothing and may refuse. -/
theorem local_option (o : Option β) (g : β → α) : Local fun cs => o.bind fun b => some (g b, cs) := by
  cases o with
  | none => exact local_fail
  | some b => exact local_give (g b)

/-! ## Numbers and names -/

theorem local_hexBraced (f : Flags) (digits : List Char) : Local (readHexBraced f digits) := by
  refine local_loop f _ (fun digits => byHead none fun c rest =>
    if c = '\x7d' then some (digits.reverse, rest)
    else if (CharSet.hexDigit? c).isSome then readHexBraced f (c :: digits) rest
    else none) ⟨fun digits cs => ?_, fun digits => ?_, fun digits c => ?_⟩ digits
  · rw [readHexBraced]
    split <;> simp only [*, byHead]
  · exact Or.inl (stops_refused rfl fun _ => rfl)
  · by_cases hend : c = '\x7d'
    · exact Or.inr fun rest => stops_within (if_pos hend) (fun _ => if_pos hend) (List.suffix_cons c rest)
    · by_cases hhex : (CharSet.hexDigit? c).isSome
      · exact Or.inl ⟨c :: digits, fun rest => (if_neg hend).trans (if_pos hhex)⟩
      · exact Or.inr fun rest => stops_refused ((if_neg hend).trans (if_neg hhex))
          fun _ => (if_neg hend).trans (if_neg hhex)

theorem local_braced (f : Flags) (name : List Char) : Local (readBraced f name) := by
  refine local_loop f _ (fun name => byHead none fun c rest =>
    if c = '\x7d' then some (name.reverse, rest) else readBraced f (c :: name) rest)
    ⟨fun name cs => ?_, fun name => ?_, fun name c => ?_⟩ name
  · rw [readBraced]
    split <;> simp only [*, byHead]
  · refine Or.inr ⟨rfl, ')' :: name, fun rest => ?_⟩
    rw [byHead, if_neg (by decide)]
  · by_cases hend : c = '\x7d'
    · exact Or.inr fun rest => stops_within (if_pos hend) (fun _ => if_pos hend) (List.suffix_cons c rest)
    · exact Or.inl ⟨c :: name, fun rest => if_neg hend⟩

theorem local_condition (f : Flags) (name : List Char) : Local fun cs => some (readCondition f name cs) := by
  refine local_loop f (fun name cs => some (readCondition f name cs)) (fun name => byHead (some (name.reverse, []))
    fun c rest => if isConditionChar c then some (readCondition f (c :: name) rest) else some (name.reverse, c :: rest))
    ⟨fun name cs => ?_, fun name => ?_, fun name c => ?_⟩ name
  · rw [readCondition]
    split <;> simp only [*, apply_ite some, byHead]
  · exact Or.inl (stops_within rfl (fun _ => rfl) (List.suffix_refl _))
  · by_cases hc : isConditionChar c
    · exact Or.inl ⟨c :: name, fun rest => if_pos hc⟩
    · exact Or.inr fun rest => stops_within (if_neg hc) (fun _ => if_neg hc) (List.suffix_refl _)

theorem local_hexDigits (f : Flags) (n : Nat) (digits : List Char) : Local (readHexDigits f n digits) := by
  induction n generalizing digits with
  | zero => exact local_give _
  | succ n ih =>
    refine local_skipNext (f := f) (fun c => (ih (c :: digits)).ite (p := (CharSet.hexDigit? c).isSome) local_fail)
      (fun cs hcs => ?_) fun cs c rest hcs => ?_
    · simp only [readHexDigits, hcs]
    · simp only [readHexDigits, hcs]

theorem local_charOfHex (raw : Bool) {read : List Char → Option (List Char × List Char)} (h : Local read) :
    Local fun cs => (read cs).bind fun p => (charOfHex? p.1).bind fun c => some (Primitive.literal c raw, p.2) :=
  h.bind fun digits => local_option (charOfHex? digits) fun c => Primitive.literal c raw

theorem local_hex (f : Flags) (width : Nat) : Local (readHex f (width + 1)) := by
  have hbraced := local_charOfHex false (local_hexBraced f [])
  have hdigits := fun c => local_charOfHex (width + 1 = 2)
    ((local_hexDigits f width [c]).ite (p := (CharSet.hexDigit? c).isSome) local_fail)
  refine local_skipNext (f := f) (fun c => hbraced.ite (p := c = '\x7b') (hdigits c)) (fun cs hcs => ?_)
    fun cs c rest hcs => ?_
  · simp only [readHex, hcs]
  · have hagain : f.skip (c :: rest) = c :: rest := hcs ▸ skip_idem f cs
    by_cases hc : c = '\x7b'
    · simp only [readHex, hcs, hc, if_true]
      rfl
    · simp only [readHex, hcs, hc, if_false]
      split
      case h_1 h => cases h
      case h_2 h => exact absurd (List.cons.inj h).1 hc
      case h_3 =>
        simp only [readHexDigits, hagain]
        rfl

theorem local_property (f : Flags) (negated : Bool) : Local (readProperty f negated) := by
  by_cases hu : f.unicode = true
  case neg => exact local_fail.congr fun cs => by rw [readProperty, if_pos (by simp only [hu, Bool.not_false])]
  have hbraced := (local_braced f []).bind fun name =>
    local_option (propertySet? name) fun q => Primitive.set (foldAndNegate f (negated != q.2) q.1)
  have hone := fun c : Char => (local_fail : Local fun _ => (none : Option (Primitive × List Char))).ite
    (p := c = '\\') (local_option (CharClass.property? c.toString) fun s => Primitive.set (foldAndNegate f negated s))
  refine local_skipNext (f := f) (fun c => hbraced.ite (p := c = '\x7b') (hone c)) (fun cs hcs => ?_)
    fun cs c rest hcs => ?_
  · simp only [readProperty, hcs, hu]
    rfl
  · by_cases hc : c = '\x7b'
    · simp only [readProperty, hcs, hc, hu, if_true]
      rfl
    · simp only [readProperty, hcs, hc, hu, if_false, Bool.not_true, Bool.false_eq_true, Option.map_eq_bind]
      rfl

/-- The word condition of a name. -/
def wordCondition? (ascii : Bool) : String → Option Look
  | "start" => some (.wordStart ascii)
  | "end" => some (.wordStop ascii)
  | "start-half" => some (.noWordBefore ascii)
  | "end-half" => some (.noWordAfter ascii)
  | _ => none

/-- The name of a word condition with its closing brace. -/
def readNamedBoundary (f : Flags) (cs : List Char) : Option (Primitive × List Char) :=
  match readCondition f [] cs with
  | (name, '\x7d' :: rest) => (wordCondition? (!f.unicode) (String.ofList name)).map fun l => (.look l, rest)
  | _ => none

theorem readNamedBoundary_named {name : List Char} (h : readCondition f [] cs = (name, '\x7d' :: rest)) :
    readNamedBoundary f cs = (wordCondition? (!f.unicode) (String.ofList name)).map fun l => (.look l, rest) := by
  rw [readNamedBoundary, h]
  rfl

theorem readNamedBoundary_unnamed (h : ∀ name rest, readCondition f [] cs = (name, '\x7d' :: rest) → False) :
    readNamedBoundary f cs = none := by
  rw [readNamedBoundary]
  split
  case h_1 hname => exact (h _ _ hname).elim
  case h_2 => rfl

theorem readBoundary_brace (f : Flags) (rest : List Char) :
    readBoundary f ('\x7b' :: rest) = match f.skip rest with
      | [] => none
      | c :: more =>
        if isConditionChar c then readNamedBoundary f (c :: more)
        else some (.look (.wordBoundary (!f.unicode)), '\x7b' :: rest) := by
  rw [readBoundary]
  cases f.skip rest with
  | nil => rfl
  | cons c more =>
    dsimp only
    by_cases hc : isConditionChar c = true
    · rw [if_pos hc, if_pos hc]
      split
      case h_1 name rest hname =>
        rw [readNamedBoundary_named hname]
        generalize String.ofList name = s
        rw [wordCondition?.eq_def]
        split <;> simp only [*, Option.map_some, Option.map_none]
      case h_2 hne => exact (readNamedBoundary_unnamed hne).symm
    · rw [if_neg hc, if_neg hc]

theorem readBoundary_plain (h : cs.head? ≠ some '\x7b') :
    readBoundary f cs = some (.look (.wordBoundary (!f.unicode)), cs) := by
  rw [readBoundary]
  rintro rest rfl
  exact h rfl

theorem local_namedBoundary (f : Flags) : Local (readNamedBoundary f) := by
  have hclose : ∀ name, Local (pick '\x7d' (fun rest =>
      (wordCondition? (!f.unicode) (String.ofList name)).map fun l => (Primitive.look l, rest)) fun _ => none) := by
    intro name
    have hcondition := local_option (wordCondition? (!f.unicode) (String.ofList name)) Primitive.look
    exact (hcondition.congr fun _ => Option.map_eq_bind).pick '\x7d' (by decide) local_fail
  refine ((local_condition f []).bind hclose).congr fun cs => ?_
  rw [readNamedBoundary, Option.bind_some]
  generalize readCondition f [] cs = p
  obtain ⟨name, s⟩ := p
  split
  case h_1 h =>
    cases h
    rfl
  case h_2 hne =>
    rw [pick_else]
    exact fun rest hs => hne name rest (congrArg (Prod.mk name) hs)

/-- A word boundary may be followed by a brace. At the end of a text it is not clear whether the brace begins the name
of a condition; with a parenthesis behind the text it may turn out that it does not, and then it is left to be read. -/
def Stranded (f : Flags) (read : List Char → Option (α × List Char)) (cs : List Char) : Prop :=
  read cs = none ∧ ∃ rest, f.skip rest = [] ∧
    ∀ w x r, read (cs ++ ')' :: w) = some (x, r) → r <:+ w ∨ r = '\x7b' :: (rest ++ ')' :: w)

theorem boundary_edge (f : Flags) (cs : List Char) : Edge (readBoundary f) cs ∨ Stranded f (readBoundary f) cs := by
  by_cases hbrace : cs.head? = some '\x7b'
  case neg =>
    refine Or.inl (.within (readBoundary_plain hbrace) fun w => readBoundary_plain ?_)
    cases cs with
    | nil => exact fun h => absurd (Option.some.inj h) (by decide)
    | cons c cs => exact hbrace
  obtain ⟨rest, rfl⟩ := List.head?_eq_some_iff.1 hbrace
  cases hcs : f.skip rest with
  | nil =>
    refine Or.inr ⟨by rw [readBoundary_brace, hcs], rest, hcs, fun w x r hx => ?_⟩
    rw [List.cons_append, readBoundary_brace] at hx
    rcases skip_append_closing f rest with hb | ⟨-, -, hp⟩
    · rw [hb, hcs, List.nil_append] at hx
      cases hx
      exact Or.inr rfl
    · have hw := hp w
      split at hx
      case h_1 => cases hx
      case h_2 c more hmore =>
        split at hx
        case isTrue => exact Or.inl (((local_namedBoundary f).suffix hx).trans (hmore ▸ hw))
        case isFalse =>
          cases hx
          exact Or.inr rfl
  | cons c more =>
    have hb := (skip_append_closing f rest).resolve_right fun h => nomatch h.1.symm.trans hcs
    have hown := readBoundary_brace f rest
    have hext := fun w => readBoundary_brace f (rest ++ ')' :: w)
    simp only [hb, hcs, List.cons_append] at hown hext
    by_cases hc : isConditionChar c = true
    · exact Or.inl (((local_namedBoundary f).edge (c :: more)).congr (hown.trans (if_pos hc)) fun w =>
        (hext w).trans (if_pos hc))
    · exact Or.inl (.within (hown.trans (if_neg hc)) fun w => (hext w).trans (if_neg hc))

/-- A word boundary is a condition. -/
theorem look_of_boundary {p : Primitive} (h : readBoundary f cs = some (p, r)) : (∃ l, p = .look l) ∧ r <:+ cs := by
  by_cases hbrace : cs.head? = some '\x7b'
  · obtain ⟨rest, rfl⟩ := List.head?_eq_some_iff.1 hbrace
    rw [readBoundary_brace] at h
    split at h
    case h_1 => cases h
    case h_2 c more hcs =>
      split at h
      case isTrue =>
        have hr : r <:+ f.skip rest := hcs ▸ (local_namedBoundary f).suffix h
        refine ⟨?_, (hr.trans (skip_suffix f rest)).trans (List.suffix_cons _ _)⟩
        rw [readNamedBoundary] at h
        split at h
        · obtain ⟨l, -, hl⟩ := Option.map_eq_some_iff.1 h
          exact ⟨l, (Prod.mk.inj hl).1.symm⟩
        · cases h
      case isFalse =>
        obtain ⟨rfl, rfl⟩ := Prod.mk.inj (Option.some.inj h)
        exact ⟨⟨_, rfl⟩, List.suffix_refl _⟩
  · rw [readBoundary_plain hbrace] at h
    obtain ⟨rfl, rfl⟩ := Prod.mk.inj (Option.some.inj h)
    exact ⟨⟨_, rfl⟩, List.suffix_refl _⟩

/-! ## Escapes -/

theorem local_escape {c : Char} (hc : c ≠ 'b') (f : Flags) : Local fun rest => readEscape f (c :: rest) := by
  have hletter : ∀ d negated, Local fun rest => (letterSet? f d negated).map fun s => (Primitive.set s, rest) :=
    fun d negated => (local_option (letterSet? f d negated) Primitive.set).congr fun _ => Option.map_eq_bind
  by_cases hself : standsForItself c = true
  · exact (local_give (Primitive.literal c false)).congr fun rest => if_pos hself
  simp only [readEscape, hself, Bool.false_eq_true, if_false]
  split
  case h_1 => exact local_hex f 1
  case h_2 => exact local_hex f 3
  case h_3 => exact local_hex f 7
  case h_4 | h_5 => exact local_property f _
  case h_6 | h_7 | h_8 | h_9 | h_10 | h_11 => exact hletter _ _
  case h_20 => exact absurd rfl hc
  case h_24 => exact local_fail
  all_goals exact local_give _

/-! ## Repetitions -/

theorem local_digits (f : Flags) (value : Option Nat) : Local fun cs => some (Token.readDigits f value cs) := by
  refine local_loop f (fun value cs => some (Token.readDigits f value cs)) (fun value => byHead (some (value, []))
    fun c rest =>
      if Text.isDigit c then some (Token.readDigits f (some (value.getD 0 * 10 + (c.toNat - 48))) rest)
      else some (value, c :: rest))
    ⟨fun value cs => ?_, fun value => ?_, fun value c => ?_⟩ value
  · rw [Token.readDigits]
    split <;> simp only [*, apply_ite some, byHead]
  · exact Or.inl (stops_within rfl (fun _ => rfl) (List.suffix_refl _))
  · by_cases hc : Text.isDigit c
    · exact Or.inl ⟨_, fun rest => if_pos hc⟩
    · exact Or.inr fun rest => stops_within (if_neg hc) (fun _ => if_neg hc) (List.suffix_refl _)

/-- A reader behind characters that are passed over. -/
theorem Local.afterDrop {read : List Char → Option (α × List Char)} (h : Local read) {p : Char → Bool}
    (hp : p ')' = false) : Local fun cs => read (cs.dropWhile p) := (local_dropWhile hp).bind fun _ => h

theorem local_number (f : Flags) : Local (Token.readNumber? f) := by
  have hend : ∀ n : Nat, Local fun cs => some (n, f.skip (cs.dropWhile Text.isBlank)) :=
    fun n => ((local_give n).afterSkip f).afterDrop rfl
  have hvalue : ∀ v : Option Nat, Local fun cs => v.bind fun n =>
      if n < UInt32.size then some (n, f.skip (cs.dropWhile Text.isBlank)) else none := by
    intro v
    cases v with
    | none => exact local_fail
    | some n => exact (hend n).ite local_fail
  refine (((local_digits f none).bind hvalue).afterDrop (p := Text.isBlank) rfl).congr fun cs => ?_
  rw [Token.readNumber?]
  split <;> simp only [*, Option.bind_some, Option.bind_none]

/-- The end of a counted repetition. -/
theorem local_countEnd (f : Flags) (t : Token) : Local fun cs => some (t, Token.dropLazy (f.skip cs)) :=
  (local_dropLazy.map fun _ => t).afterSkip f

/-- What follows the largest number of a counted repetition. -/
def afterMost (f : Flags) (least most : Nat) (cs : List Char) : Option (Token × List Char) :=
  match cs with
  | '\x7d' :: rest => if least ≤ most then some (.rep least (some most), Token.dropLazy (f.skip rest)) else none
  | _ => none

/-- What follows the comma of a counted repetition. -/
def afterComma (f : Flags) (least : Nat) (cs : List Char) : Option (Token × List Char) :=
  match cs with
  | '\x7d' :: rest => some (.rep least none, Token.dropLazy (f.skip rest))
  | rest => (Token.readNumber? f rest).bind fun p => afterMost f least p.1 p.2

/-- What follows the least number of a counted repetition. -/
def afterLeast (f : Flags) (least : Nat) (cs : List Char) : Option (Token × List Char) :=
  match cs with
  | '\x7d' :: rest => some (.rep least (some least), Token.dropLazy (f.skip rest))
  | ',' :: rest => afterComma f least (f.skip rest)
  | _ => none

theorem readCount?_eq (f : Flags) (cs : List Char) :
    Token.readCount? f cs = (Token.readNumber? f (f.skip cs)).bind fun p => afterLeast f p.1 p.2 := rfl

theorem local_afterMost (f : Flags) (least most : Nat) : Local (afterMost f least most) := by
  refine ((local_countEnd f (.rep least (some most))).ite local_fail).choose '\x7d' (by decide) local_fail
    (fun _ => rfl) fun cs hne => ?_
  rw [afterMost]
  rintro rest rfl
  exact hne rfl

theorem local_afterComma (f : Flags) (least : Nat) : Local (afterComma f least) := by
  refine (local_countEnd f (.rep least none)).choose '\x7d' (by decide)
    ((local_number f).bind (local_afterMost f least)) (fun _ => rfl) fun cs hne => ?_
  rw [afterComma]
  rintro rest rfl
  exact hne rfl

theorem local_afterLeast (f : Flags) (least : Nat) : Local (afterLeast f least) := by
  have hcomma : Local (pick ',' (fun rest => afterComma f least (f.skip rest)) fun _ => none) :=
    ((local_afterComma f least).afterSkip f).pick ',' (by decide) local_fail
  refine (local_countEnd f (.rep least (some least))).choose '\x7d' (by decide) hcomma (fun _ => rfl) fun cs hne => ?_
  rw [afterLeast.eq_def]
  split
  case h_1 => exact absurd rfl hne
  case h_2 => rfl
  case h_3 hcomma => rw [pick_else hcomma]

theorem local_count (f : Flags) : Local (Token.readCount? f) :=
  (((local_number f).bind (local_afterLeast f)).afterSkip f).congr fun _ => rfl

/-- Without a number there is no counted repetition. -/
theorem readCount?_nil (h : f.skip cs = []) : Token.readCount? f cs = none := by
  have hdigits : Token.readDigits f none [] = (none, []) := by
    rw [Token.readDigits]
    split
    case h_1 => rfl
    case h_2 hs => cases (skip_nil f).symm.trans hs
  have hnumber : Token.readNumber? f [] = none := by
    rw [Token.readNumber?, List.dropWhile_nil, hdigits]
  rw [readCount?_eq, h, hnumber, Option.bind_none]

/-! ## Groups -/

/-- The result of a reader that changes the state, in the form that other readers have. -/
def paired {α β : Type} (p : α × β × List Char) : (α × β) × List Char := ((p.1, p.2.1), p.2.2)

theorem of_paired {α β : Type} {o : Option (α × β × List Char)} {x : α × β} (h : o.map paired = some (x, r)) :
    o = some (x.1, x.2, r) := by
  obtain ⟨p, rfl, hp⟩ := Option.map_eq_some_iff.1 h
  cases hp
  rfl

theorem drop_takeWhile (p : Char → Bool) (cs : List Char) : cs.drop (cs.takeWhile p).length = cs.dropWhile p := by
  have h : (cs.takeWhile p ++ cs.dropWhile p).drop (cs.takeWhile p).length = cs.dropWhile p := List.drop_left
  rwa [List.takeWhile_append_dropWhile] at h

theorem takeWhile_append_of_dropWhile {p : Char → Bool} {c : Char} (h : cs.dropWhile p = c :: rest) (w : List Char) :
    (cs ++ w).takeWhile p = cs.takeWhile p := by
  rw [List.takeWhile_append, if_neg]
  intro hlen
  have hall := congrArg List.length (List.takeWhile_append_dropWhile (p := p) (l := cs))
  rw [List.length_append, hlen, h, List.length_cons] at hall
  omega

theorem dropWhile_append_of_cons {p : Char → Bool} {c : Char} (h : cs.dropWhile p = c :: rest) (w : List Char) :
    (cs ++ w).dropWhile p = c :: (rest ++ w) := by
  rw [List.dropWhile_append, h]
  rfl

/-- Where nothing stops before the end of a text, what is behind the text is passed over up to where something does. -/
theorem dropWhile_append_of_nil {p : Char → Bool} (h : cs.dropWhile p = []) (w : List Char) :
    (cs ++ w).dropWhile p = w.dropWhile p := by
  rw [List.dropWhile_append, h]
  rfl

theorem readName?_of_nil (h : cs.dropWhile (· ≠ '>') = []) : Token.readName? cs = none := by
  simp only [Token.readName?, drop_takeWhile, h]
  split
  · contradiction
  · rfl

/-- The name that ends before the first closing angle bracket, if it is one. -/
def nameBefore (name rest : List Char) : Option (List Char × List Char) :=
  match name with
  | [] => none
  | c :: cs =>
    if Token.isNameChar true c ∧ cs.all (Token.isNameChar false) then some (c :: cs, rest) else none

theorem readName?_of_cons {c : Char} (h : cs.dropWhile (· ≠ '>') = c :: rest) :
    Token.readName? cs = nameBefore (cs.takeWhile (· ≠ '>')) rest := by
  simp only [Token.readName?, drop_takeWhile, h]
  cases cs.takeWhile (· ≠ '>') with
  | nil => rfl
  | cons d name => rfl

theorem readName?_suffix {name : List Char} (h : Token.readName? cs = some (name, r)) :
    r <:+ cs.dropWhile (· ≠ '>') := by
  cases hdrop : cs.dropWhile (· ≠ '>') with
  | nil => exact nomatch (readName?_of_nil hdrop).symm.trans h
  | cons c rest =>
    rw [readName?_of_cons hdrop, nameBefore.eq_def] at h
    split at h
    · cases h
    · split at h
      · cases h
        exact List.suffix_cons c _
      · cases h

theorem local_name : Local Token.readName? := by
  refine ⟨fun hx => (readName?_suffix hx).trans (List.dropWhile_suffix _), fun cs => ?_⟩
  cases hdrop : cs.dropWhile (· ≠ '>') with
  | nil =>
    refine .beyond (readName?_of_nil hdrop) fun w x r hx => ?_
    have hr := readName?_suffix hx
    rw [dropWhile_append_of_nil hdrop, List.dropWhile_cons_of_pos (by decide)] at hr
    exact hr.trans (List.dropWhile_suffix _)
  | cons c after =>
    have hown := readName?_of_cons hdrop
    have hext : ∀ w, Token.readName? (cs ++ w) = nameBefore (cs.takeWhile (· ≠ '>')) (after ++ w) := fun w => by
      rw [readName?_of_cons (dropWhile_append_of_cons hdrop w), takeWhile_append_of_dropWhile hdrop]
    cases htake : cs.takeWhile (· ≠ '>') with
    | nil =>
      rw [htake] at hown
      simp only [htake] at hext
      exact .refused hown fun w => hext _
    | cons d name =>
      rw [htake] at hown
      simp only [htake] at hext
      by_cases hok : Token.isNameChar true d ∧ name.all (Token.isNameChar false)
      · exact .within (hown.trans (if_pos hok)) fun w => (hext _).trans (if_pos hok)
      · exact .refused (hown.trans (if_neg hok)) fun w => (hext _).trans (if_neg hok)

theorem local_namedGroup (st : Token.State) : Local fun cs => (Token.readNamed st cs).map paired := by
  have hcheck : ∀ name, Local fun rest => if st.names.contains name then none
      else some ((Token.opening, { st.enter st.flags with names := name :: st.names }), rest) :=
    fun name => local_fail.ite (local_give _)
  refine (local_name.bind hcheck).congr fun cs => ?_
  rw [Token.readNamed]
  cases Token.readName? cs with
  | none => rfl
  | some p =>
    simp only [Option.bind_eq_bind, Option.bind_some]
    split <;> rfl

/-- What the reading of flags gives, in the form that other readers have. -/
def toldChange (ch : Flags.Change) : (Flags × Bool × Char) × List Char := ((ch.flags, ch.isEmpty, ch.stop), ch.rest)

/-- Reads flags, in the form that other readers have. The first argument is what `Flags.read` goes by. -/
def readFlags (a : Flags × List Char × Bool) (cs : List Char) : Option ((Flags × Bool × Char) × List Char) :=
  (a.1.read a.2.1 a.2.2 cs).map toldChange

theorem local_flags (a : Flags × List Char × Bool) : Local (readFlags a) := by
  refine local_loop {} readFlags readFlags ⟨fun _ _ => rfl, fun ⟨f, seen, on⟩ => Or.inl ?_, fun ⟨f, seen, on⟩ c => ?_⟩ a
  · refine ⟨.beyond rfl fun w x r hx => ?_, fun _ _ hx => (nomatch hx)⟩
    simp only [readFlags, List.nil_append, Flags.read, or_true, if_true] at hx
    split at hx
    · cases hx
    · obtain ⟨-, rfl⟩ := Prod.mk.inj (Option.some.inj hx)
      exact List.suffix_refl _
  · by_cases hstop : c = ':' ∨ c = ')'
    · by_cases hminus : seen.head? = some '-'
      · refine Or.inr fun rest => stops_refused ?_ fun w => ?_ <;>
          simp only [List.cons_append, readFlags, Flags.read, if_pos hstop, if_pos hminus, Option.map_none]
      · refine Or.inr fun rest => stops_within (x := (f, seen.isEmpty, c)) (r := rest) ?_ (fun w => ?_)
          (List.suffix_cons c rest) <;>
          simp only [List.cons_append, readFlags, Flags.read, if_pos hstop, if_neg hminus, Option.map_some, toldChange]
    · by_cases hseen : seen.contains c = true
      · refine Or.inr fun rest => stops_refused ?_ fun w => ?_ <;>
          simp only [List.cons_append, readFlags, Flags.read, if_neg hstop, if_pos hseen, Option.map_none]
      · by_cases hminus : c = '-'
        · refine Or.inl ⟨(f, c :: seen, false), fun rest => ?_⟩
          simp only [readFlags, Flags.read, if_neg hstop, if_neg hseen, if_pos hminus]
        · cases hon : f.switch c on with
          | none =>
            refine Or.inr fun rest => stops_refused ?_ fun w => ?_ <;>
              simp only [List.cons_append, readFlags, Flags.read, if_neg hstop, if_neg hseen, if_neg hminus, hon,
                Option.map_none]
          | some f' =>
            refine Or.inl ⟨(f', c :: seen, on), fun rest => ?_⟩
            simp only [readFlags, Flags.read, if_neg hstop, if_neg hseen, if_neg hminus, hon]

/-- What the flags behind a question mark come to. -/
def readChange (st : Token.State) (cs : List Char) : Option ((Token × Token.State) × List Char) :=
  (readFlags (st.flags, [], true) cs).bind fun p =>
    if p.1.2.2 = ':' then some ((.opening, st.enter p.1.1), p.2)
    else if p.1.2.1 then none
    else some ((.flags, { st with flags := p.1.1 }), p.2)

theorem local_change (st : Token.State) : Local (readChange st) := by
  have hnext : ∀ q : Flags × Bool × Char, Local fun cs =>
      if q.2.2 = ':' then some ((Token.opening, st.enter q.1), cs)
      else if q.2.1 then none
      else some ((Token.flags, { st with flags := q.1 }), cs) :=
    fun q => (local_give _).ite (local_fail.ite (local_give _))
  exact (local_flags (st.flags, [], true)).bind hnext

theorem readChange_eq (st : Token.State) (cs : List Char) :
    (do
      let change ← st.flags.read [] true cs
      if change.stop = ':' then return (Token.opening, st.enter change.flags, change.rest)
      else if change.isEmpty then none
      else return (Token.flags, { st with flags := change.flags }, change.rest)).map paired = readChange st cs := by
  rw [readChange, readFlags]
  cases st.flags.read [] true cs with
  | none => rfl
  | some change =>
    simp only [Option.bind_eq_bind, Option.bind_some, Option.map_some, toldChange]
    split
    · rfl
    · split <;> rfl

theorem readGroup_eq (st : Token.State) (cs : List Char) :
    (Token.readGroup st cs).map paired =
      pick '?'
        (pick '=' (fun _ => none) <| pick '!' (fun _ => none) <|
          pick '<'
            (pick '=' (fun _ => none) <| pick '!' (fun _ => none) fun cs => (Token.readNamed st cs).map paired) <|
          pick 'P' (pick '<' (fun cs => (Token.readNamed st cs).map paired) fun _ => none) <|
          readChange st)
        (fun cs => some ((.opening, st.enter st.flags), cs)) (st.flags.skip cs) := by
  rw [Token.readGroup]
  generalize st.flags.skip cs = s
  split
  case h_1 | h_2 | h_3 | h_4 => rfl
  case h_5 rest => rfl
  case h_6 rest h1 h2 =>
    rcases rest with _ | ⟨c, rest⟩
    · rfl
    · have hc : c ≠ '=' := fun h => h1 _ (by rw [h])
      have hc' : c ≠ '!' := fun h => h2 _ (by rw [h])
      simp only [pick_self, pick_of_ne, ne_eq, Char.reduceEq, not_false_eq_true, hc, hc']
  case h_7 rest h1 h2 h3 h4 h5 h6 =>
    refine (readChange_eq st rest).trans ?_
    rcases rest with _ | ⟨c, rest⟩
    · rfl
    · rw [pick_self, pick_of_ne fun h => h1 _ (by rw [h]), pick_of_ne fun h => h2 _ (by rw [h]),
        pick_of_ne fun h => h6 _ (by rw [h])]
      by_cases hc : c = 'P'
      · subst hc
        rcases rest with _ | ⟨d, rest⟩
        · rfl
        · rw [pick_self, pick_of_ne fun h => h5 _ (by rw [h])]
          rfl
      · rw [pick_of_ne hc]
  case h_8 hne =>
    rcases s with _ | ⟨c, s⟩
    · rfl
    · rw [pick_of_ne fun h => hne s (by rw [h])]
      rfl

theorem local_group (st : Token.State) : Local fun cs => (Token.readGroup st cs).map paired := by
  have hfail : Local fun _ => (none : Option ((Token × Token.State) × List Char)) := local_fail
  have hless := (hfail.pick '=' (by decide) (hfail.pick '!' (by decide) (local_namedGroup st)))
  have hmark := hfail.pick '=' (by decide) <| hfail.pick '!' (by decide) <| hless.pick '<' (by decide) <|
    ((local_namedGroup st).pick '<' (by decide) hfail).pick 'P' (by decide) (local_change st)
  exact ((hmark.pick '?' (by decide) (local_give _)).afterSkip st.flags).congr (readGroup_eq st)

end PubSub.Pattern
