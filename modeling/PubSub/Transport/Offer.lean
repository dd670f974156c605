import PubSub.Message

/-!
# What a transport has to give

The answer of a transport that is asked for a message without waiting.
-/

namespace PubSub

/-- The answer of a transport. -/
inductive Offer
  | message (m : Message)
  /-- There is no message, and the transport does not want to be waited for. -/
  | nothing
  /-- There is no message yet; the one that is due comes at the given time, or nobody knows when one comes. -/
  | later (due : Option Nat)

end PubSub
