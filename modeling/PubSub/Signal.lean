/-!
# Signals

A signal tells those who watch several sources at once that one of them has something to give. It keeps a mark for its
owner and the posts that a watcher sees; the posts are made and taken away only when the mark changes.

* `Signal.raise`, `Signal.lower`: change the mark.
* `Signal.readable`: what a watcher sees.
* `Signal.Consistent`: the mark and the posts agree.
-/

namespace PubSub

/-- A mark and its posts (`Readiness`). -/
structure Signal where
  /-- The mark. -/
  raised : Bool := false
  /-- How many posts a watcher finds. -/
  posts : Nat := 0
  deriving DecidableEq, Inhabited

namespace Signal

/-- Sets the mark (`Readiness.raise`). -/
def raise (s : Signal) : Signal :=
  if s.raised then s else { raised := true, posts := s.posts + 1 }

/-- Takes the mark away (`Readiness.lower`). -/
def lower (s : Signal) : Signal :=
  if s.raised then { raised := false, posts := 0 } else s

/-- Sets the mark or takes it away. -/
def set (s : Signal) (up : Bool) : Signal := if up then s.raise else s.lower

/-- Whether a watcher finds something. -/
def readable (s : Signal) : Bool := 0 < s.posts

/-- The watcher sees what the mark says. -/
def Consistent (s : Signal) : Prop := s.readable = s.raised

theorem consistent_new : Consistent {} := rfl

theorem consistent_raise {s : Signal} (h : s.Consistent) : s.raise.Consistent := by
  unfold raise
  split
  · exact h
  · simp [Consistent, readable]

theorem consistent_lower {s : Signal} (h : s.Consistent) : s.lower.Consistent := by
  unfold lower
  split
  · simp [Consistent, readable]
  · exact h

theorem consistent_set {s : Signal} (h : s.Consistent) (up : Bool) : (s.set up).Consistent := by
  unfold set
  split
  · exact consistent_raise h
  · exact consistent_lower h

@[simp] theorem raised_raise (s : Signal) : s.raise.raised = true := by
  unfold raise
  split <;> simp_all

@[simp] theorem raised_lower (s : Signal) : s.lower.raised = false := by
  unfold lower
  split <;> simp_all

@[simp] theorem raised_set (s : Signal) (up : Bool) : (s.set up).raised = up := by
  cases up <;> simp [set]

end Signal
end PubSub
