import PubSub.Pattern.Basic

/-!
# Interest

The patterns of all who want messages now. A transport keeps only messages that somebody wants.

* `Interest.insert`, `Interest.remove`: patterns come and go under the numbers of their subscriptions.
* `Interest.wants`: whether a channel is wanted.
-/

namespace PubSub

/-- What is wanted (`ChannelFilter`). -/
structure Interest where
  /-- Whether every channel is. -/
  all : Bool := false
  /-- The patterns, oldest first, each with its number. -/
  patterns : List (Nat × Pattern) := []

namespace Interest

/-- Nothing is wanted. -/
def nothing : Interest := {}

/-- Every channel is wanted (`ChannelFilter.accept_all`). -/
def everything : Interest := { all := true }

/-- Adds a pattern (`ChannelFilter.insert`). -/
def insert (i : Interest) (id : Nat) (p : Pattern) : Interest :=
  { i with patterns := i.patterns ++ [(id, p)] }

/-- Takes away the patterns with a number (`ChannelFilter.remove`). -/
def remove (i : Interest) (id : Nat) : Interest :=
  { i with patterns := i.patterns.filter fun r => r.1 != id }

/-- Whether a channel is wanted (`ChannelFilter.wants`). -/
def wants (i : Interest) (channel : String) : Bool :=
  i.all || i.patterns.any fun r => r.2.accepts channel

end Interest
end PubSub
