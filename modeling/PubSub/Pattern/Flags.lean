import PubSub.Text.Blank

/-!
# Flags

The flags of a pattern change how its text is read from where they stand to the end of the group around them.

* `Flags.read`: the flags behind the question mark of a group.
* `Flags.skip`: what is left of a text behind white space and comments, where these mean nothing.
* `Flags.peek`: the character that a look ahead finds behind white space.
-/

namespace PubSub.Pattern

/-- How the text of a pattern is read. -/
structure Flags where
  /-- `i`: letters stand for both cases. -/
  ignoreCase : Bool := false
  /-- `m`: `^` and `$` hold at lines. -/
  multiLine : Bool := false
  /-- `s`: the dot stands for line ends too. -/
  dotAll : Bool := false
  /-- `u`: the pattern speaks of characters beyond ASCII. -/
  unicode : Bool := true
  /-- `R`: a carriage return ends lines too. -/
  returns : Bool := false
  /-- `x`: white space and comments mean nothing. -/
  ignoreSpace : Bool := false
  deriving DecidableEq

namespace Flags

/-- The flags with one of them switched; none for a letter that is no flag. -/
def switch (f : Flags) (letter : Char) (on : Bool) : Option Flags :=
  match letter with
  | 'i' => some { f with ignoreCase := on }
  | 'm' => some { f with multiLine := on }
  | 's' => some { f with dotAll := on }
  | 'u' => some { f with unicode := on }
  | 'R' => some { f with returns := on }
  | 'x' => some { f with ignoreSpace := on }
  | 'U' => some f
  | _ => none

/-- What the reading of flags gives. -/
structure Change where
  /-- The flags afterwards. -/
  flags : Flags
  /-- Whether there were any. -/
  isEmpty : Bool
  /-- The character that ended them, a colon or a closing parenthesis. -/
  stop : Char
  /-- What follows. -/
  rest : List Char

/-- Reads flags. `seen` holds the letters read, `on` whether the next ones are switched on; a minus sign, which may
stand once and not at the end, switches the ones behind it off. -/
def read (f : Flags) (seen : List Char) (on : Bool) : List Char → Option Change
  | [] => none
  | c :: cs =>
    if c = ':' ∨ c = ')' then
      if seen.head? = some '-' then none else some ⟨f, seen.isEmpty, c, cs⟩
    else if seen.contains c then none
    else if c = '-' then read f (c :: seen) false cs
    else match f.switch c on with
      | none => none
      | some f => read f (c :: seen) on cs

/-- Passes over white space, and over comments from a number sign to the end of the line. -/
def skipBlanks : Bool → List Char → List Char
  | _, [] => []
  | true, c :: cs => skipBlanks (c ≠ '\n') cs
  | false, c :: cs =>
    if Text.isBlank c then skipBlanks false cs
    else if c = '#' then skipBlanks true cs
    else c :: cs

/-- What is left behind white space and comments, if they mean nothing. -/
def skip (f : Flags) (cs : List Char) : List Char :=
  if f.ignoreSpace then skipBlanks false cs else cs

/-- The character that a look ahead finds behind white space, if that means nothing. A comment is not passed over as a
whole: the look ahead stops at the first of its characters that is no white space. -/
def peek (f : Flags) (cs : List Char) : Option Char :=
  if f.ignoreSpace then
    let rest := cs.dropWhile Text.isBlank
    if rest.head? = some '#' then (rest.tail.dropWhile Text.isBlank).head? else rest.head?
  else cs.head?

theorem length_skipBlanks_le (inComment : Bool) (cs : List Char) :
    (skipBlanks inComment cs).length ≤ cs.length := by
  induction cs generalizing inComment with
  | nil => cases inComment <;> exact Nat.le_refl _
  | cons c cs ih =>
    cases inComment with
    | true => exact Nat.le_succ_of_le (ih _)
    | false =>
      unfold skipBlanks
      split
      · exact Nat.le_succ_of_le (ih _)
      · split
        · exact Nat.le_succ_of_le (ih _)
        · exact Nat.le_refl _

theorem length_skip_le (f : Flags) (cs : List Char) : (f.skip cs).length ≤ cs.length := by
  unfold skip
  split
  · exact length_skipBlanks_le _ _
  · exact Nat.le_refl _

end Flags
end PubSub.Pattern
