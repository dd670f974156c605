import PubSub.Pattern.Expr

/-!
# Searching

Whether an expression occurs in a text is found by following all stretches at once: from a set of positions where
stretches may start one gets the set of positions where they may end. The work is bounded by the size of the
expression and the length of the text.

* `Expr.ends`: the ends of the stretches that start in a set of positions.
* `Expr.occurs`: whether an expression occurs in a text.
-/

namespace PubSub.Pattern.Expr

/-! ## Sets of positions, as increasing lists -/

/-- The positions in either list. -/
def merge : List Nat → List Nat → List Nat
  | [], bs => bs
  | a :: as, [] => a :: as
  | a :: as, b :: bs =>
    if a < b then a :: merge as (b :: bs)
    else if b < a then b :: merge (a :: as) bs
    else a :: merge as bs

/-- The positions in the first list but not in the second. -/
def without : List Nat → List Nat → List Nat
  | [], _ => []
  | a :: as, [] => a :: as
  | a :: as, b :: bs =>
    if a < b then a :: without as (b :: bs)
    else if b < a then without (a :: as) bs
    else without as bs

/-- Applies `f` as many times as `n` says. -/
def times (f : List Nat → List Nat) : Nat → List Nat → List Nat
  | 0, s => s
  | _ + 1, [] => []
  | n + 1, a :: s => times f n (f (a :: s))

/-- Adds to `seen` what up to `n` applications of `f` reach from `new`, which is part of it. -/
def reach (f : List Nat → List Nat) : Nat → List Nat → List Nat → List Nat
  | 0, seen, _ => seen
  | n + 1, seen, new =>
    match without (f new) seen with
    | [] => seen
    | a :: as => reach f n (merge seen (a :: as)) (a :: as)

/-! ## Following an expression -/

/-- The ends of the stretches of `e` that start at a position of the list. Each round of an unbounded repetition
that goes on adds a position, so there are at most as many as the text has. -/
def ends (text : Array Char) : Expr → List Nat → List Nat
  | .empty, s => s
  | .set cs, s => (s.filter fun i => text[i]?.any cs.contains).map (· + 1)
  | .look l, s => s.filter fun i => l.holds text i
  | .cat a b, s => ends text b (ends text a s)
  | .alt a b, s => merge (ends text a s) (ends text b s)
  | .rep e least most, s =>
    let start := times (ends text e) least s
    let rounds := match most with
      | none => text.size + 1
      | some m => m - least
    reach (ends text e) rounds start start

/-- Whether the expression occurs in a text. -/
def occurs (e : Expr) (text : Array Char) : Bool :=
  !(ends text e (List.range (text.size + 1))).isEmpty

end PubSub.Pattern.Expr
