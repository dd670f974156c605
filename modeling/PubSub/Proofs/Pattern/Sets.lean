import Mathlib.Data.List.TakeWhile
import PubSub.Proofs.Pattern.Readers

/-!
# The reader of sets is local

A set in brackets ends at its closing bracket. Its items are read here without word boundaries, which no set holds, and
without asking whether the text goes on behind an item, since a set always does: so each reader is put together from
local ones.

* `openRange`: an item or a range.
* `itemsFrom`: the items of a set, by the first character.

Results:

* `readItems_succ`, `readItems_enough`: the items of a set are read as `itemsFrom` says, whatever number of steps is
  allowed beyond the length of the text.
* `local_brackets`: the reader of sets is local.
-/

namespace PubSub.Pattern

open Unicode (CharSet)

variable {α : Type} {f : Flags} {cs rest r : List Char}

/-! ## Items and ranges -/

/-- An escape that is no word boundary. -/
def plainEscape (f : Flags) (cs : List Char) : Option (Primitive × List Char) :=
  match cs with
  | [] => none
  | c :: rest => if c = 'b' then none else readEscape f (c :: rest)

/-- One character as it stands. -/
def readChar (cs : List Char) : Option (Primitive × List Char) :=
  match cs with
  | [] => none
  | c :: rest => some (.literal c false, rest)

/-- One character or escape that is no word boundary. -/
def readPlainItem (f : Flags) : List Char → Option (Primitive × List Char) := pick '\\' (plainEscape f) readChar

theorem local_plainEscape (f : Flags) : Local (plainEscape f) := by
  refine local_next (fun c => ?_) rfl fun _ _ => rfl
  by_cases hc : c = 'b'
  · exact local_fail.congr fun _ => if_pos hc
  · exact (local_escape hc f).congr fun _ => if_neg hc

theorem local_plainItem (f : Flags) : Local (readPlainItem f) := by
  have hchar : Local readChar := local_next (fun c => local_give (Primitive.literal c false)) rfl fun _ _ => rfl
  exact (local_plainEscape f).pick '\\' (by decide) hchar

/-- Without word boundaries all items are read as they are with them. -/
theorem readSetItem_cases (f : Flags) (cs : List Char) : readSetItem f cs = readPlainItem f cs ∨
    readPlainItem f cs = none ∧ ∀ p r, readSetItem f cs = some (p, r) → ∃ l, p = .look l := by
  rcases cs with _ | ⟨c, cs⟩
  · exact Or.inl rfl
  · by_cases hc : c = '\\'
    · subst hc
      rcases cs with _ | ⟨d, cs⟩
      · exact Or.inl rfl
      · by_cases hd : d = 'b'
        · subst hd
          exact Or.inr ⟨rfl, fun p r h => (look_of_boundary h).1⟩
        · refine Or.inl ?_
          rw [readPlainItem, pick_self, plainEscape, if_neg hd]
          rfl
    · refine Or.inl ?_
      rw [readPlainItem, pick_of_ne hc, readSetItem]
      · rfl
      · exact hc

/-- What follows the first item of a range, or of nothing. -/
def rangeFrom (item : List Char → Option (Primitive × List Char)) (f : Flags) (first : Primitive) (cs : List Char) :
    Option (CharSet × List Char) :=
  match cs with
  | '-' :: more =>
    if f.peek more = some ']' ∨ f.peek more = some '-' then (first.set? f).map fun s => (s, '-' :: more)
    else (item (f.skip more)).bind fun p => (first.char? f).bind fun a => (p.1.char? f).bind fun b =>
      if a ≤ b then some (CharSet.range a b, p.2) else none
  | cs => (first.set? f).map fun s => (s, cs)

theorem rangeFrom_other {item : List Char → Option (Primitive × List Char)} {first : Primitive}
    (h : cs.head? ≠ some '-') : rangeFrom item f first cs = (first.set? f).map fun s => (s, cs) := by
  rw [rangeFrom]
  rintro more rfl
  exact h rfl

/-- An item or a range of two, read without word boundaries, which no set holds. The text may end behind it. -/
def openRange (f : Flags) (cs : List Char) : Option (CharSet × List Char) :=
  (readPlainItem f cs).bind fun p => rangeFrom (readPlainItem f) f p.1 (f.skip p.2)

/-- Conditions are no members of a set. -/
theorem rangeFrom_look (item : List Char → Option (Primitive × List Char)) (l : Look) (cs : List Char) :
    rangeFrom item f (.look l) cs = none := by
  rw [rangeFrom.eq_def]
  split
  · split
    · rfl
    · cases item (f.skip _) <;> rfl
  · rfl

theorem rangeFrom_plain (first : Primitive) (cs : List Char) :
    rangeFrom (readSetItem f) f first cs = rangeFrom (readPlainItem f) f first cs := by
  rw [rangeFrom.eq_def, rangeFrom.eq_def]
  split
  case h_1 more =>
    rcases readSetItem_cases f (f.skip more) with h | ⟨hnone, hlook⟩
    · rw [h]
    · rw [hnone]
      cases hitem : readSetItem f (f.skip more) with
      | none => rfl
      | some p =>
        obtain ⟨p, r⟩ := p
        obtain ⟨l, rfl⟩ := hlook p r hitem
        split
        · rfl
        · cases first.char? f <;> rfl
  case h_2 => rfl

theorem readRange_eq (f : Flags) (cs : List Char) :
    readRange f cs = (readSetItem f cs).bind fun p =>
      byHead none (fun c rest => rangeFrom (readSetItem f) f p.1 (c :: rest)) (f.skip p.2) := by
  rw [readRange]
  cases readSetItem f cs with
  | none => rfl
  | some p =>
    obtain ⟨first, r⟩ := p
    simp only [Option.bind_eq_bind, Option.bind_some]
    cases f.skip r with
    | nil => rfl
    | cons c rest =>
      rw [byHead]
      by_cases hc : c = '-'
      · subst hc
        simp only [rangeFrom]
        split
        · cases first.set? f <;> rfl
        · rfl
      · rw [rangeFrom_other fun h : (c :: rest).head? = some '-' => hc (Option.some.inj h)]
        split
        case h_1 h => cases h
        case h_2 h => exact absurd (List.cons.inj h).1 hc
        case h_3 => cases first.set? f <;> rfl

/-- Items that cannot end a set need not ask whether the text goes on. -/
theorem readRange_bind {next : CharSet × List Char → Option α} (hnext : ∀ s, next (s, []) = none) (f : Flags)
    (cs : List Char) : (readRange f cs).bind next = (openRange f cs).bind next := by
  have hlook : ∀ l s, byHead none (fun c rest => rangeFrom (readSetItem f) f (.look l) (c :: rest)) s = none := by
    intro l s
    cases s with
    | nil => rfl
    | cons c rest => exact rangeFrom_look _ _ _
  rw [readRange_eq, openRange]
  cases hitem : readSetItem f cs with
  | none =>
    rcases readSetItem_cases f cs with h | ⟨hnone, -⟩
    · rw [← h, hitem]
      rfl
    · rw [hnone]
      rfl
  | some p =>
    obtain ⟨p, r⟩ := p
    rcases readSetItem_cases f cs with h | ⟨hnone, hcond⟩
    · rw [← h, hitem, Option.bind_some, Option.bind_some]
      dsimp only
      cases hcs : f.skip r with
      | nil =>
        rw [rangeFrom_other fun h : [].head? = some '-' => nomatch h]
        cases p.set? f with
        | none => rfl
        | some s => exact (hnext s).symm
      | cons c rest => exact congrArg (Option.bind · next) (rangeFrom_plain p (c :: rest))
    · obtain ⟨l, rfl⟩ := hcond p r hitem
      rw [hnone, Option.bind_some, hlook]
      rfl

/-- The first character of a text with a parenthesis behind it. -/
theorem head?_append_closing (cs w : List Char) :
    (cs ++ ')' :: w).head? = cs.head? ∨ cs = [] ∧ (cs ++ ')' :: w).head? = some ')' := by
  rcases cs with _ | ⟨c, cs⟩
  · exact Or.inr ⟨rfl, rfl⟩
  · exact Or.inl rfl

/-- A look ahead finds what it would find without a parenthesis behind the text, or the parenthesis. -/
theorem peek_append_closing (f : Flags) (cs w : List Char) :
    f.peek (cs ++ ')' :: w) = f.peek cs ∨ f.peek cs = none ∧ f.peek (cs ++ ')' :: w) = some ')' := by
  have hhead : ∀ l : List Char, (l ++ ')' :: w).head? = l.head? ∨ l.head? = none ∧ (l ++ ')' :: w).head? = some ')' :=
    fun l => (head?_append_closing l w).imp_right fun h => ⟨by rw [h.1]; rfl, h.2⟩
  simp only [Flags.peek]
  split
  case isFalse => exact hhead cs
  case isTrue =>
    rw [dropWhile_closing rfl]
    rcases cs.dropWhile Text.isBlank with _ | ⟨c, l⟩
    · exact Or.inr ⟨rfl, rfl⟩
    · by_cases hm : (c :: l).head? = some '#'
      · rw [if_pos hm, if_pos (show (c :: l ++ ')' :: w).head? = some '#' from hm), List.cons_append, List.tail_cons,
          dropWhile_closing rfl]
        exact hhead _
      · rw [if_neg hm, if_neg (show ¬ (c :: l ++ ')' :: w).head? = some '#' from hm)]
        exact Or.inl rfl

/-- A parenthesis ends no range. -/
theorem endsRange_closing (f : Flags) (more w : List Char) :
    (f.peek (more ++ ')' :: w) = some ']' ∨ f.peek (more ++ ')' :: w) = some '-') ↔
      f.peek more = some ']' ∨ f.peek more = some '-' := by
  rcases peek_append_closing f more w with h | ⟨hnone, h⟩
  · rw [h]
  · rw [hnone, h]
    decide

/-- The characters of a range are in order. -/
theorem local_ordered (f : Flags) (first last : Primitive) : Local fun cs => (first.char? f).bind fun a =>
    (last.char? f).bind fun b => if a ≤ b then some (CharSet.range a b, cs) else none := by
  cases first.char? f with
  | none => exact local_fail
  | some a =>
    cases last.char? f with
    | none => exact local_fail
    | some b => exact (local_give _).ite local_fail

theorem local_rangeFrom (f : Flags) (first : Primitive) : Local (rangeFrom (readPlainItem f) f first) := by
  have hset : Local fun cs => (first.set? f).map fun s => (s, cs) :=
    (local_option (first.set? f) id).congr fun _ => Option.map_eq_bind
  have hlast := ((local_plainItem f).bind (local_ordered f first)).afterSkip f
  refine ⟨fun {cs x r} hx => ?_, fun cs => ?_⟩
  · by_cases hdash : cs.head? = some '-'
    · obtain ⟨more, rfl⟩ := List.head?_eq_some_iff.1 hdash
      rw [rangeFrom] at hx
      split at hx
      · exact hset.suffix hx
      · exact (hlast.suffix hx).trans (List.suffix_cons '-' more)
    · exact hset.suffix ((rangeFrom_other hdash).symm.trans hx)
  · by_cases hdash : cs.head? = some '-'
    · obtain ⟨more, rfl⟩ := List.head?_eq_some_iff.1 hdash
      by_cases hend : f.peek more = some ']' ∨ f.peek more = some '-'
      · exact (hset.edge ('-' :: more)).congr (if_pos hend) fun w => if_pos ((endsRange_closing f more w).2 hend)
      · exact (hlast.edge more).congr (if_neg hend) fun w => if_neg fun h => hend ((endsRange_closing f more w).1 h)
    · refine (hset.edge cs).congr (rangeFrom_other hdash) fun w => rangeFrom_other ?_
      cases cs with
      | nil => exact fun h => absurd (Option.some.inj h) (by decide)
      | cons c cs => exact hdash

theorem local_openRange (f : Flags) : Local (openRange f) :=
  (local_plainItem f).bind fun first => (local_rangeFrom f first).afterSkip f

/-! ## Sets -/

/-- The name of an ASCII class and what ends it. -/
def namedAscii (negated : Bool) (cs : List Char) : Option (CharSet × Bool × List Char) :=
  match cs.dropWhile (· ≠ ':') with
  | ':' :: ']' :: rest => (CharClass.ascii? (String.ofList (cs.takeWhile (· ≠ ':')))).map fun s => (s, negated, rest)
  | _ => none

/-- A caret, which turns a set around, and what follows. -/
def readCaret (cs : List Char) : Bool × List Char :=
  match cs with
  | '^' :: rest => (true, rest)
  | rest => (false, rest)

theorem readCaret_other (h : cs.head? ≠ some '^') : readCaret cs = (false, cs) := by
  rw [readCaret]
  rintro rest rfl
  exact h rfl

theorem local_caret : Local fun cs => some (readCaret cs) :=
  (local_give true).choose '^' (by decide) (local_give false) (fun _ => rfl) fun _ hne => by rw [readCaret_other hne]

theorem readCaret_closing (cs w : List Char) :
    readCaret (cs ++ ')' :: w) = ((readCaret cs).1, (readCaret cs).2 ++ ')' :: w) := by
  rcases cs with _ | ⟨c, cs⟩
  · rfl
  · by_cases hc : c = '^'
    · rw [hc]
      rfl
    · have hne : ∀ rest, (c :: rest).head? ≠ some '^' := fun rest h => hc (Option.some.inj h)
      rw [readCaret_other (hne cs), List.cons_append, readCaret_other (hne (cs ++ ')' :: w))]

/-- No name of an ASCII class holds a parenthesis. -/
theorem ascii?_of_closing_mem (h : ')' ∈ cs) : CharClass.ascii? (String.ofList cs) = none := by
  have hnot : ∀ name : String, String.ofList cs = name → ')' ∈ name.toList := by
    rintro _ rfl
    rwa [String.toList_ofList]
  unfold CharClass.ascii?
  split
  case h_15 => rfl
  all_goals
    next he => exact absurd (hnot _ he) (by decide)

theorem asciiName?_colon (cs : List Char) :
    asciiName? (':' :: cs) = namedAscii (readCaret cs).1 (readCaret cs).2 := by
  simp only [asciiName?, drop_takeWhile]
  rfl

theorem asciiName?_other (h : cs.head? ≠ some ':') : asciiName? cs = none := by
  rw [asciiName?]
  rintro rest rfl
  exact h rfl

theorem namedAscii_of_closing_mem {negated : Bool} (h : ')' ∈ cs.takeWhile (· ≠ ':')) :
    namedAscii negated cs = none := by
  rw [namedAscii, ascii?_of_closing_mem h]
  split <;> rfl

theorem namedAscii_closing (negated : Bool) (cs w : List Char) :
    namedAscii negated (cs ++ ')' :: w) = (namedAscii negated cs).map fun p => (p.1, p.2.1, p.2.2 ++ ')' :: w) := by
  cases hdrop : cs.dropWhile (· ≠ ':') with
  | nil =>
    have hall : ∀ c ∈ cs, decide (c ≠ ':') = true := List.dropWhile_eq_nil_iff.1 hdrop
    have hmem : ')' ∈ (cs ++ ')' :: w).takeWhile (· ≠ ':') := by
      rw [List.takeWhile_append_of_pos hall, List.takeWhile_cons_of_pos (by decide)]
      exact List.mem_append_right cs List.mem_cons_self
    rw [namedAscii_of_closing_mem hmem, namedAscii, hdrop]
    rfl
  | cons c rest =>
    have hext := dropWhile_append_of_cons hdrop (')' :: w)
    rw [namedAscii, namedAscii, hdrop, hext, takeWhile_append_of_dropWhile hdrop]
    generalize cs.takeWhile (· ≠ ':') = name
    rcases rest with _ | ⟨d, rest⟩
    · split
      case h_1 h => exact absurd (List.cons.inj (List.cons.inj h).2).1 (by decide)
      case h_2 =>
        split
        case h_1 h => cases h
        case h_2 => rfl
    · split
      case h_1 h =>
        obtain ⟨rfl, rfl, rfl⟩ : c = ':' ∧ d = ']' ∧ rest ++ ')' :: w = _ := by
          simpa only [List.cons_append, List.cons.injEq] using h
        cases CharClass.ascii? (String.ofList name) <;> rfl
      case h_2 hne =>
        split
        case h_1 h =>
          obtain ⟨rfl, rfl, rfl⟩ : c = ':' ∧ d = ']' ∧ rest = _ := by simpa only [List.cons.injEq] using h
          exact (hne _ rfl).elim
        case h_2 => rfl

/-- A parenthesis behind a text makes no name of an ASCII class. -/
theorem asciiName?_closing (cs w : List Char) :
    asciiName? (cs ++ ')' :: w) = (asciiName? cs).map fun p => (p.1, p.2.1, p.2.2 ++ ')' :: w) := by
  by_cases hcolon : cs.head? = some ':'
  · obtain ⟨rest, rfl⟩ := List.head?_eq_some_iff.1 hcolon
    rw [List.cons_append, asciiName?_colon, asciiName?_colon, readCaret_closing, namedAscii_closing]
  · rw [asciiName?_other hcolon, asciiName?_other]
    · rfl
    · cases cs with
      | nil => exact fun h => absurd (Option.some.inj h) (by decide)
      | cons c cs => exact hcolon

theorem asciiName?_suffix {s : CharSet} {negated : Bool} (h : asciiName? cs = some (s, negated, r)) : r <:+ cs := by
  by_cases hcolon : cs.head? = some ':'
  · obtain ⟨rest, rfl⟩ := List.head?_eq_some_iff.1 hcolon
    rw [asciiName?_colon, namedAscii] at h
    have hcaret : (readCaret rest).2 <:+ rest := local_caret.suffix rfl
    split at h
    case h_1 hdrop =>
      obtain ⟨t, -, ht⟩ := Option.map_eq_some_iff.1 h
      obtain ⟨-, -, rfl⟩ := ht
      have hs : r <:+ (readCaret rest).2 :=
        ((List.suffix_cons _ _).trans (List.suffix_cons _ _)).trans (hdrop ▸ List.dropWhile_suffix _)
      exact (hs.trans hcaret).trans (List.suffix_cons _ _)
    case h_2 => cases h
  · exact nomatch (asciiName?_other hcolon).symm.trans h

theorem readDashes_eq (f : Flags) (items : List SetNode) (cs : List Char) :
    some (readDashes f items cs) = pick '-' (fun rest => some (readDashes f (⟨CharSet.singleton '-', 0⟩ :: items) rest))
      (fun cs => some (items, cs)) (f.skip cs) := by
  rw [readDashes]
  split
  case h_1 rest hcs => rw [hcs, pick_self]
  case h_2 hne =>
    cases hcs : f.skip cs with
    | nil => rfl
    | cons c rest => rw [pick_of_ne fun h => hne rest (by rw [hcs, h])]

theorem local_dashes (f : Flags) (items : List SetNode) : Local fun cs => some (readDashes f items cs) := by
  refine local_loop f (fun items cs => some (readDashes f items cs)) _
    ⟨readDashes_eq f, fun items => ?_, fun items c => ?_⟩ items
  · exact Or.inl (stops_within rfl (fun _ => rfl) (List.suffix_refl _))
  · by_cases hc : c = '-'
    · exact Or.inl ⟨⟨CharSet.singleton '-', 0⟩ :: items, fun rest => if_pos hc⟩
    · exact Or.inr fun rest => stops_within (if_neg hc) (fun _ => if_neg hc) (List.suffix_refl _)

/-- A bracket that stands first in a set. -/
def readFirst (items : List SetNode) (cs : List Char) : List SetNode × List Char :=
  match items, cs with
  | [], ']' :: rest => ([SetNode.mk (CharSet.singleton ']') 0], rest)
  | items, rest => (items, rest)

theorem local_first (items : List SetNode) : Local fun cs => some (readFirst items cs) := by
  cases items with
  | nil =>
    refine (local_give _).choose ']' (by decide) (local_give []) (fun _ => rfl) fun cs hne => ?_
    rw [readFirst]
    rintro rest - rfl
    exact hne rfl
  | cons n items => exact local_give _

theorem readFirst_other {items : List SetNode} (h : ∀ rest, items = [] → cs = ']' :: rest → False) :
    readFirst items cs = (items, cs) := by
  rw [readFirst]
  exact h

theorem readStart_eq (f : Flags) (cs : List Char) :
    readStart f cs = ((readCaret (f.skip cs)).1,
      readFirst (readDashes f [] (readCaret (f.skip cs)).2).1 (readDashes f [] (readCaret (f.skip cs)).2).2) := by
  rw [readStart]
  split
  rename_i negated s hs
  have hcaret : readCaret (f.skip cs) = (negated, s) := hs
  rw [hcaret]
  split
  case h_1 rest h =>
    rw [h]
    rfl
  case h_2 items rest hne h => rw [h, readFirst_other hne]

theorem local_start (f : Flags) : Local fun cs => some (paired (readStart f cs)) := by
  have hfirst : ∀ negated : Bool, Local fun cs =>
      some ((negated, (readFirst (readDashes f [] cs).1 (readDashes f [] cs).2).1),
        (readFirst (readDashes f [] cs).1 (readDashes f [] cs).2).2) := by
    intro negated
    exact (((local_dashes f []).bind local_first).map fun items => (negated, items)).congr fun _ => rfl
  exact ((local_caret.bind hfirst).afterSkip f).congr fun cs => by rw [readStart_eq]; rfl

/-! ### Items one behind the other -/

/-- What reads the items of a set, behind an operation and other items. -/
abbrev ItemReader := Option (SetOp × SetNode) → List SetNode → List Char → Option (SetNode × List Char)

section Items

variable (f : Flags) (again : ItemReader) (before : Option (SetOp × SetNode)) (items : List SetNode)

/-- A range, and the items behind it. -/
def nextRange (p : CharSet × List Char) : Option (SetNode × List Char) := again before (⟨p.1, 0⟩ :: items) p.2

/-- An operation, which is a character twice, or a range that begins with this character. -/
def operation (c : Char) (op : SetOp) : List Char → Option (SetNode × List Char) :=
  pick c (again (some (op, SetNode.finish f before (SetNode.union items))) [])
    fun cs => (rangeFrom (readPlainItem f) f (.literal c false) (f.skip cs)).bind (nextRange again before items)

/-- Brackets within brackets: an ASCII class or another set. -/
def innerSet (cs : List Char) : Option (SetNode × List Char) :=
  match asciiName? cs with
  | some (s, negated, rest) => (close? f negated ⟨s, 0⟩).bind fun s => again before (⟨s, 0⟩ :: items) rest
  | none =>
    let start := readStart f cs
    (again none start.2.1 start.2.2).bind fun p =>
      (close? f start.1 p.1).bind fun s => again before (⟨s, p.1.depth + 1⟩ :: items) p.2

/-- The items of a set, where the first character means something. -/
def itemsFrom : List Char → Option (SetNode × List Char) :=
  pick ']' (fun cs => some (SetNode.finish f before (SetNode.union items), cs)) <|
    pick '&' (operation f again before items '&' .inter) <| pick '-' (operation f again before items '-' .diff) <|
    pick '~' (operation f again before items '~' .symmDiff) <| pick '[' (innerSet f again before items)
    fun cs => (openRange f cs).bind (nextRange again before items)

end Items

theorem readItems_nil (f : Flags) (n : Nat) (before : Option (SetOp × SetNode)) (items : List SetNode) :
    readItems f n before items [] = none := by
  cases n with
  | zero => rfl
  | succ n => simp only [readItems, skip_nil]

theorem openRange_char {c : Char} (hc : c ≠ '\\') (f : Flags) (cs : List Char) :
    openRange f (c :: cs) = rangeFrom (readPlainItem f) f (.literal c false) (f.skip cs) := by
  rw [openRange, readPlainItem, pick_of_ne hc]
  rfl

/-- A character of operations that stands only once begins a range. -/
theorem operation_once {c : Char} {again : ItemReader} (hc : c ≠ '\\') (h : ∀ rest, c :: cs = c :: c :: rest → False)
    (f : Flags) (before : Option (SetOp × SetNode)) (items : List SetNode) (op : SetOp) :
    operation f again before items c op cs = (openRange f (c :: cs)).bind (nextRange again before items) := by
  rw [openRange_char hc, operation]
  rcases cs with _ | ⟨d, cs⟩
  · rfl
  · rw [pick_of_ne]
    rintro rfl
    exact h cs rfl

theorem readItems_succ (f : Flags) (n : Nat) (before : Option (SetOp × SetNode)) (items : List SetNode)
    (cs : List Char) :
    readItems f (n + 1) before items cs = itemsFrom f (readItems f n) before items (f.skip cs) := by
  have hopen : ∀ s, ((readRange f s).bind fun p => readItems f n before (⟨p.1, 0⟩ :: items) p.2) =
      (openRange f s).bind (nextRange (readItems f n) before items) :=
    fun s => readRange_bind (fun s => readItems_nil f n before _) f s
  rw [readItems]
  generalize f.skip cs = s
  split
  case h_1 => rfl
  case h_2 => rfl
  case h_3 | h_4 | h_5 => rfl
  case h_6 rest =>
    rw [itemsFrom, pick_of_ne (by decide), pick_of_ne (by decide), pick_of_ne (by decide), pick_of_ne (by decide),
      pick_self, innerSet]
    cases asciiName? rest with
    | none => rfl
    | some p => rfl
  case h_7 hnil hclose hand hdash htilde hopening =>
    refine (hopen s).trans ?_
    rcases s with _ | ⟨c, s⟩
    · rfl
    · rw [itemsFrom, pick_of_ne fun h => hclose s (by rw [h])]
      by_cases h1 : c = '&'
      · subst h1
        rw [pick_self, operation_once (by decide) hand]
      · rw [pick_of_ne h1]
        by_cases h2 : c = '-'
        · subst h2
          rw [pick_self, operation_once (by decide) hdash]
        · rw [pick_of_ne h2]
          by_cases h3 : c = '~'
          · subst h3
            rw [pick_self, operation_once (by decide) htilde]
          · rw [pick_of_ne h3, pick_of_ne fun h => hopening s (by rw [h])]

theorem local_innerSet {again : ItemReader} (h : ∀ before items, Local (again before items)) (f : Flags)
    (before : Option (SetOp × SetNode)) (items : List SetNode) : Local (innerSet f again before items) := by
  have hclose : ∀ negated n depth, Local fun cs =>
      (close? f negated n).bind fun s => again before (⟨s, depth⟩ :: items) cs := by
    intro negated n depth
    cases close? f negated n with
    | none => exact local_fail
    | some s => exact h _ _
  have hset := (local_start f).bind fun p =>
    (h none p.2).bind fun inner => hclose p.1 inner (inner.depth + 1)
  refine ⟨fun {cs x r} hx => ?_, fun cs => ?_⟩
  · rw [innerSet] at hx
    split at hx
    case h_1 hname => exact ((hclose _ _ 0).suffix hx).trans (asciiName?_suffix hname)
    case h_2 => exact hset.suffix hx
  · have hext := asciiName?_closing cs
    cases hname : asciiName? cs with
    | none =>
      simp only [hname] at hext
      exact (hset.edge cs).congr (by rw [innerSet, hname]; rfl) fun w => by rw [innerSet, hext]; rfl
    | some p =>
      simp only [hname] at hext
      obtain ⟨s, negated, rest⟩ := p
      exact ((hclose negated ⟨s, 0⟩ 0).edge rest).congr (by rw [innerSet, hname]) fun w => by rw [innerSet, hext]; rfl

theorem local_itemsFrom {again : ItemReader} (h : ∀ before items, Local (again before items)) (f : Flags)
    (before : Option (SetOp × SetNode)) (items : List SetNode) : Local (itemsFrom f again before items) := by
  have hnext : ∀ s, Local fun cs => nextRange again before items (s, cs) := fun s => h before (⟨s, 0⟩ :: items)
  have hoperation : ∀ c op, c ≠ ')' → Local (operation f again before items c op) := fun c op hc =>
    (h _ _).pick c hc (((local_rangeFrom f (.literal c false)).afterSkip f).bind hnext)
  exact (local_give _).pick ']' (by decide) <| (hoperation '&' .inter (by decide)).pick '&' (by decide) <|
    (hoperation '-' .diff (by decide)).pick '-' (by decide) <|
    (hoperation '~' .symmDiff (by decide)).pick '~' (by decide) <|
    (local_innerSet h f before items).pick '[' (by decide) ((local_openRange f).bind hnext)

theorem local_items (f : Flags) (n : Nat) (before : Option (SetOp × SetNode)) (items : List SetNode) :
    Local (readItems f n before items) := by
  induction n generalizing before items with
  | zero => exact local_fail
  | succ n ih => exact ((local_itemsFrom ih f before items).afterSkip f).congr (readItems_succ f n before items)

/-! ### How much is read -/

theorem openRange_suffix {c : Char} {s : CharSet} (h : openRange f (c :: cs) = some (s, r)) : r <:+ cs := by
  by_cases hc : c = '\\'
  · subst hc
    exact ((local_plainEscape f).bind fun first => (local_rangeFrom f first).afterSkip f).suffix h
  · exact ((local_rangeFrom f _).afterSkip f).suffix ((openRange_char hc f cs).symm.trans h)

/-- Readers of items agree on texts of fewer than `k` characters. -/
def AgreeBelow (k : Nat) (again again' : ItemReader) : Prop :=
  ∀ rest, rest.length < k → ∀ before items, again before items rest = again' before items rest

section Agreeing

variable {again again' : ItemReader} {k : Nat}

theorem AgreeBelow.nextRange (h : AgreeBelow k again again') {o : Option (CharSet × List Char)}
    (hlen : rest.length < k) (ho : ∀ s r, o = some (s, r) → r <:+ rest) (before : Option (SetOp × SetNode))
    (items : List SetNode) : o.bind (nextRange again before items) = o.bind (nextRange again' before items) := by
  cases o with
  | none => rfl
  | some p => exact h p.2 (Nat.lt_of_le_of_lt (ho p.1 p.2 rfl).length_le hlen) _ _

theorem AgreeBelow.operation (h : AgreeBelow k again again') (hlen : rest.length < k)
    (before : Option (SetOp × SetNode)) (items : List SetNode) (c : Char) (op : SetOp) :
    operation f again before items c op rest = operation f again' before items c op rest := by
  have hrange := h.nextRange (o := rangeFrom (readPlainItem f) f (.literal c false) (f.skip rest)) hlen
    (fun s r hr => ((local_rangeFrom f _).afterSkip f).suffix hr) before items
  rw [Pattern.operation, Pattern.operation]
  cases rest with
  | nil => exact hrange
  | cons d more =>
    by_cases hd : d = c
    · rw [hd, pick_self, pick_self]
      exact h more (Nat.lt_of_succ_lt hlen) _ _
    · rw [pick_of_ne hd, pick_of_ne hd]
      exact hrange

theorem AgreeBelow.innerSet (h : AgreeBelow k again again') (hl : ∀ before items, Local (again before items))
    (hlen : rest.length < k) (before : Option (SetOp × SetNode)) (items : List SetNode) :
    innerSet f again before items rest = innerSet f again' before items rest := by
  rw [Pattern.innerSet, Pattern.innerSet]
  split
  case h_1 hname =>
    refine congrArg _ (funext fun s => ?_)
    exact h _ (Nat.lt_of_le_of_lt (asciiName?_suffix hname).length_le hlen) _ _
  case h_2 =>
    have hstart : (readStart f rest).2.2.length < k :=
      Nat.lt_of_le_of_lt ((local_start f).suffix rfl).length_le hlen
    dsimp only
    rw [← h _ hstart]
    cases hset : again none (readStart f rest).2.1 (readStart f rest).2.2 with
    | none => rfl
    | some p =>
      rw [Option.bind_some, Option.bind_some]
      refine congrArg _ (funext fun s => ?_)
      exact h _ (Nat.lt_of_le_of_lt ((hl _ _).suffix hset).length_le hstart) _ _

/-- The first item takes at least one character, and so leaves a shorter text to be read. -/
theorem AgreeBelow.itemsFrom (h : AgreeBelow cs.length again again') (hl : ∀ before items, Local (again before items))
    (before : Option (SetOp × SetNode)) (items : List SetNode) :
    itemsFrom f again before items cs = itemsFrom f again' before items cs := by
  cases cs with
  | nil => rfl
  | cons c rest =>
    have hlen : rest.length < (c :: rest).length := Nat.lt_succ_self _
    have hopen := h.nextRange (o := openRange f (c :: rest)) hlen (fun s r hr => openRange_suffix hr) before items
    simp only [Pattern.itemsFrom, pick, h.innerSet hl hlen, h.operation hlen, hopen]

end Agreeing

/-- More steps than a text has characters are never needed. -/
theorem readItems_enough (f : Flags) {m n : Nat} (hm : cs.length < m) (hn : cs.length < n)
    (before : Option (SetOp × SetNode)) (items : List SetNode) :
    readItems f m before items cs = readItems f n before items cs := by
  induction m generalizing n before items cs with
  | zero => omega
  | succ m ih =>
    cases n with
    | zero => omega
    | succ n =>
      have hskip := (skip_suffix f cs).length_le
      rw [readItems_succ, readItems_succ]
      exact AgreeBelow.itemsFrom (fun rest hrest => ih (by omega) (by omega)) (local_items f m) _ _

theorem readBrackets_eq {n : Nat} (hn : cs.length < n) :
    readBrackets f cs = (some (paired (readStart f cs))).bind fun p => (readItems f n none p.1.2 p.2).bind fun q =>
      (close? f p.1.1 q.1).bind fun s => some (SetNode.mk s (q.1.depth + 1), q.2) := by
  have hstart : (readStart f cs).2.2.length ≤ cs.length := ((local_start f).suffix rfl).length_le
  rw [Option.bind_some, paired, readItems_enough f (Nat.lt_of_le_of_lt hstart hn)
    (Nat.lt_of_le_of_lt hstart (Nat.lt_succ_self _))]
  rfl

theorem local_brackets (f : Flags) : Local (readBrackets f) := by
  have hread : ∀ n, Local fun cs => (some (paired (readStart f cs))).bind fun p =>
      (readItems f n none p.1.2 p.2).bind fun q =>
        (close? f p.1.1 q.1).bind fun s => some (SetNode.mk s (q.1.depth + 1), q.2) := fun n =>
    (local_start f).bind fun p => (local_items f n none p.2).bind fun q =>
      local_option (close? f p.1 q) fun s => SetNode.mk s (q.depth + 1)
  exact local_of_enough hread fun hn => readBrackets_eq hn

end PubSub.Pattern
