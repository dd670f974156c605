/-!
# Messages

What travels: a payload tagged with a channel name and the time of its receipt.
-/

namespace PubSub

/-- Microseconds since the start of 1970 (UTC). -/
abbrev Timestamp := Int64

/-- A message. The payload means nothing to the library. -/
structure Message where
  /-- The channel it was published on. -/
  channel : String
  /-- The bytes published. -/
  payload : ByteArray
  /-- When it was received; for a replayed message, the recorded time. -/
  timestamp : Timestamp
  deriving Inhabited

end PubSub
