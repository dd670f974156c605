import PubSub.Error
import PubSub.Transport.Offer

/-!
# Scripted transports

A transport whose answers are laid down beforehand, for trying out what is done with them. It keeps a record of what
it is asked to do.
-/

namespace PubSub

/-- One answer of a script. -/
inductive Script.Item
  | message (m : Message)
  | nothing
  | error (cause : Error)

/-- Something that a scripted transport was asked to do. -/
inductive Script.Call
  | send (channel : String) (payload : ByteArray)
  | interestChanged
  | close

/-- A scripted transport. -/
structure Script where
  /-- The answers to come. -/
  items : List Script.Item
  /-- The answer to every message sent, if it is refused. -/
  refusal : Option Error := none
  /-- What was asked, the last first. -/
  calls : List Script.Call := []

namespace Script

/-- The next answer. A script that is used up has no message, which a receiver without a deadline is told as the
end of the transport. -/
def take (s : Script) (patient : Bool) : Except Error Offer × Script :=
  match s.items with
  | [] => (if patient then .error .closed else .ok .nothing, s)
  | .message m :: rest => (.ok (.message m), { s with items := rest })
  | .nothing :: rest => (.ok .nothing, { s with items := rest })
  | .error cause :: rest => (.error cause, { s with items := rest })

/-- Keeps a record of a call. -/
def log (s : Script) (call : Call) : Script := { s with calls := call :: s.calls }

/-- Sends a message. -/
def send (s : Script) (channel : String) (payload : ByteArray) : Except Error Unit × Script :=
  match s.refusal with
  | some cause => (.error cause, s)
  | none => (.ok (), s.log (.send channel payload))

end Script
end PubSub
