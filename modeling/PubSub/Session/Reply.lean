import PubSub.Hub.Broker

/-!
# Replies of a session

What a session answers to its steps.
-/

namespace PubSub.Session

/-- One call of a handler. -/
structure Delivery (ρ : Type) where
  /-- The name of the subscription. -/
  name : String
  message : Message
  /-- Whether the message bears the true time, which no two sessions share. -/
  trueTime : Bool
  /-- The replies to the steps that the handler took. -/
  replies : List ρ

/-- The answer to one step. -/
inductive Reply
  | ok
  | failed (cause : Error)
  /-- There is nothing of that name. -/
  | unknown
  /-- The step was not taken, as it would never come to an end. -/
  | endless
  /-- A handler died. -/
  | died
  /-- An opened journal, with the path as it is seen from the session's directory. -/
  | journal (j : Journal) (size : Nat) (path : ByteArray)
  | number (n : Int64)
  | record (r : Option Journal.Record)
  /-- The records that were read, and the error that ended the reading. -/
  | records (rs : List Journal.Record) (cause : Option Error)
  /-- The length of a journal and the number of its next record. -/
  | extent (size : Nat) (next : Int64)
  | content (bytes : ByteArray)
  | removed (found : Bool)
  | attached (n : Nat)
  | size (n : Nat)
  /-- An opened transport. With `telling` it says what it is. -/
  | transport (address : Address) (telling : Bool)
  | message (m : Option Message)
  /-- The state of a signal that is asked for. -/
  | ready (signal : Signal)
  | broker
  | count (n : Nat)
  | info (closed : Bool) (subscriptions : Nat)
  | registered (id : Nat) (pattern : String)
  | subscription (s : Subscription)
  | calls (cs : List Script.Call)
  /-- The replies to the steps taken meanwhile, and what the dispatch came to. -/
  | blocked (meanwhile : List Reply) (result : Reply)
  /-- A reply with the place in a journal afterwards. -/
  | withTell (reply : Reply) (tell : Nat)
  /-- A reply with the state of a signal afterwards. -/
  | withSignal (reply : Reply) (signal : Signal)
  /-- A reply with what handlers were called with meanwhile. -/
  | withDeliveries (reply : Reply) (deliveries : List (Delivery Reply))

instance : Inhabited Reply := ⟨.ok⟩

/-- The reply to a dispatch that has come to an end. -/
def Reply.ofDispatched : Dispatched → Reply
  | .done => .ok
  | .count n => .count n
  | .waiting => .endless

/-- A subscription as it is shown to people. -/
def describe (s : Subscription) : String :=
  String.join ["Subscription \x7b id: ", toString s.id, ", pattern: ", Text.quoted s.pattern.text, ", active: ",
    toString s.active, " \x7d"]

end PubSub.Session
