import PubSub.Clock
import PubSub.Interest
import PubSub.Journal.Basic
import PubSub.Transport.Mailbox
import PubSub.Transport.Replay
import PubSub.Transport.Script

/-!
# The hub

All that is open at one time: files, the interests of receivers, buses, transports, subscriptions and brokers. Each
kind has a table; an entry is known by its place in the table and keeps it for good. What is not the library's, such as
what handlers remember, stands in `Hub.desk`.

* `Hub`: the tables.
* `Act`: something that is done with a hub; it can fail, and a handler that it runs can die.
-/

namespace PubSub

/-- What a transport consists of. -/
inductive Line
  /-- A place on a bus, with the mailbox of the one who listens there. -/
  | bus (bus : Nat) (box : Mailbox)
  /-- A multicast group that is only sent to. -/
  | multicast (settings : MulticastAddress) (sequence : UInt32) (stopped : Bool) (box : Mailbox)
  /-- A journal that messages are written to. -/
  | recorder (journal : Journal) (closed : Bool)
  | replay (replay : Replay)
  | script (script : Script)

/-- The signal of a line. One that never has anything to give has a signal that stays down. -/
def Line.signal : Line → Signal
  | bus _ box => box.signal
  | multicast _ _ _ box => box.signal
  | recorder .. => {}
  | replay r => r.signal
  | script _ => {}

/-- The way of messages in and out. -/
structure Transport where
  line : Line
  /-- Whose interest decides what is let in. -/
  interest : Nat
  /-- The clock that messages are stamped with. -/
  clock : Clock := {}

instance : Inhabited Transport := ⟨{ line := .script { items := [] }, interest := 0 }⟩

/-- Messages that were routed to one handler, and what they have to match (`SubscriptionState`). -/
structure Subscription where
  /-- The number with its broker. -/
  id : Nat
  pattern : Pattern
  /-- The messages that the handler has still to be given. -/
  backlog : Backlog
  active : Bool := true
  /-- Whether its handler has died. -/
  spoiled : Bool := false

instance : Inhabited Subscription := ⟨{ id := 0, pattern := ⟨"", .empty⟩, backlog := .new none }⟩

/-- Subscriptions to one transport (`Broker`). -/
structure Broker where
  transport : Nat
  /-- The patterns of the subscriptions, as the transport sees them. -/
  interest : Nat
  /-- The subscriptions, oldest first. -/
  subscriptions : List Nat := []
  /-- The number of the next subscription. Each subscription takes one, so that 64 bits hold it: as many subscriptions
  as fill them cannot be made, nor kept in any memory. -/
  nextId : Nat := 1
  /-- The bound of new backlogs. -/
  defaultCapacity : Option Nat := none
  /-- Whether a dispatch is in progress. -/
  busy : Bool := false
  closed : Bool := false
  deriving Inhabited

/-- All that is open. -/
structure Hub (η : Type) where
  store : Store
  /-- Microseconds since the start. -/
  now : Nat := 0
  /-- What has been reported. -/
  notices : Array Notice := #[]
  interests : Array Interest := #[]
  /-- For each bus, the transports on it, oldest first. -/
  buses : Array (List Nat) := #[]
  /-- For each exchange, its buses by their keys. -/
  exchanges : Array (List (String × Nat)) := #[]
  transports : Array Transport := #[]
  subscriptions : Array Subscription := #[]
  brokers : Array Broker := #[]
  /-- What belongs to those who use the hub. -/
  desk : η

namespace Hub

variable {η : Type}

/-- The interest of a number. -/
def interest (h : Hub η) (id : Nat) : Interest := h.interests.getD id .nothing

/-- The transports on a bus. -/
def bus (h : Hub η) (id : Nat) : List Nat := h.buses.getD id []

/-- The buses of an exchange. -/
def exchange (h : Hub η) (id : Nat) : List (String × Nat) := h.exchanges.getD id []

/-- The transport of a number. -/
def transport (h : Hub η) (id : Nat) : Transport := h.transports.getD id default

/-- The subscription of a number. -/
def subscription (h : Hub η) (id : Nat) : Subscription := h.subscriptions.getD id default

/-- The broker of a number. -/
def broker (h : Hub η) (id : Nat) : Broker := h.brokers.getD id default

/-- Changes a transport's line. -/
def setLine (h : Hub η) (id : Nat) (line : Line) : Hub η :=
  { h with transports := h.transports.modify id fun t => { t with line } }

/-- Changes a subscription. -/
def modifySubscription (h : Hub η) (id : Nat) (change : Subscription → Subscription) : Hub η :=
  { h with subscriptions := h.subscriptions.modify id change }

/-- Changes the bound of a subscription's backlog (`Subscription.set_capacity`). -/
def setCapacity (h : Hub η) (id : Nat) (capacity : Option Nat) : Hub η :=
  h.modifySubscription id fun s => { s with backlog := s.backlog.setCapacity capacity }

/-- Changes a broker. -/
def modifyBroker (h : Hub η) (id : Nat) (change : Broker → Broker) : Hub η :=
  { h with brokers := h.brokers.modify id change }

/-- Changes an interest. -/
def modifyInterest (h : Hub η) (id : Nat) (change : Interest → Interest) : Hub η :=
  { h with interests := h.interests.modify id change }

/-- Adds to what has been reported. -/
def report (h : Hub η) (notices : List Notice) : Hub η := { h with notices := notices.foldl Array.push h.notices }

/-- Whether a transport wants a channel. -/
def wants (h : Hub η) (id : Nat) : String → Bool := (h.interest (h.transport id).interest).wants

/-- The signal of a transport. -/
def signal (h : Hub η) (id : Nat) : Signal := (h.transport id).line.signal

/-- Adds an interest. -/
def addInterest (h : Hub η) (i : Interest) : Hub η × Nat :=
  ({ h with interests := h.interests.push i }, h.interests.size)

/-- Adds an exchange without buses. -/
def addExchange (h : Hub η) : Hub η × Nat :=
  ({ h with exchanges := h.exchanges.push [] }, h.exchanges.size)

/-- Adds a transport. -/
def addTransport (h : Hub η) (t : Transport) : Hub η × Nat :=
  ({ h with transports := h.transports.push t }, h.transports.size)

/-- Adds a broker. -/
def addBroker (h : Hub η) (b : Broker) : Hub η × Nat :=
  ({ h with brokers := h.brokers.push b }, h.brokers.size)

/-- Adds a subscription. -/
def addSubscription (h : Hub η) (s : Subscription) : Hub η × Nat :=
  ({ h with subscriptions := h.subscriptions.push s }, h.subscriptions.size)

end Hub

/-! ## Actions -/

/-- Why something that is done with a hub comes to no result. -/
inductive Halt
  | failed (cause : Error)
  /-- A handler died. -/
  | died

/-- Something that is done with a hub. What was changed before a halt stays changed. -/
abbrev Act (η α : Type) := ExceptT Halt (StateM (Hub η)) α

namespace Act

variable {η α : Type}

/-- Halts with an error. -/
def fail (cause : Error) : Act η α := throw (.failed cause)

/-- The value, or a halt with the error. -/
def orHalt : Except Error α → Act η α
  | .ok a => pure a
  | .error cause => fail cause

/-- Reports. -/
def report (notices : List Notice) : Act η Unit := modify fun h => h.report notices

/-- Does something with the hub and gives what comes out beside it. -/
def change (f : Hub η → Hub η × α) : Act η α := do
  let (h, a) := f (← get)
  set h
  return a

/-- Does `act`, and afterwards changes the hub by `final` however `act` has ended. -/
def ensuring (act : Act η α) (final : Hub η → Hub η) : Act η α := fun h =>
  let (result, h) := act h
  (result, final h)

end Act
end PubSub
