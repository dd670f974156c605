import PubSub.Hub.Broker

/-!
# Steps of a session

A session works on files, journals, exchanges, interests, transports, brokers and subscriptions that it knows by names.
What it does is a list of steps, and a handler is a list of reactions, each with steps of its own.
-/

namespace PubSub.Session

/-- A name of a session, among the names of its kind. -/
abbrev Label := String

/-- What is done with a whole file. -/
inductive FileStep
  | put (content : ByteArray)
  | append (content : ByteArray)
  | remove
  | dump

/-- What is done with a journal. -/
inductive JournalStep
  | openFile (file : String) (mode : Journal.Mode)
  /-- Writes a record so many times. -/
  | write (time : Timestamp) (channel : String) (payload : ByteArray) (times : Nat)
  | read
  /-- Reads so many records, or all there are. -/
  | readAll (limit : Option Nat)
  | seek (offset : Nat)
  | seekTime (time : Timestamp)
  | flush
  | info
  | close
  | drop

/-- What is done with an exchange. -/
inductive ExchangeStep
  | make
  /-- Gives the same exchange another name. -/
  | share (name : Label)
  | remove (key : String)
  /-- How many transports are on a bus. -/
  | attached (key : String)
  | size

/-- What is done with an interest. -/
inductive InterestStep
  | make (all : Bool)
  | insert (id : Nat) (pattern : String)
  | remove (id : Nat)

/-- What is done with a transport. -/
inductive TransportStep
  /-- Opens the transport of a URL. With `telling` it says what it is. -/
  | openUrl (url : String) (exchange interest : Option Label) (clock : Clock) (telling : Bool)
  | send (channel : String) (payload : ByteArray) (times : Nat)
  /-- Waits so many milliseconds for a message, or for ever. -/
  | receive (milliseconds : Option Nat)
  | interestChanged
  | close
  | ready
  | drop

/-- What a broker is made from. -/
inductive Source
  /-- A URL, or the preferred one, with an exchange and a clock. -/
  | address (url preferred : Option String) (exchange : Option Label) (clock : Clock) (capacity : Option Nat)
  /-- A URL, or the preferred one, and nothing else: messages bear the true time. -/
  | plain (url preferred : Option String)
  | script (script : Script) (capacity : Option Nat)

/-- What is done with a broker. -/
inductive BrokerStep
  | make (source : Source)
  | publish (channel : String) (payload : ByteArray) (times : Nat)
  | unsubscribe (subscription : Label)
  | dispatch (d : Dispatch)
  | ready
  | info
  /-- What a scripted transport was asked since the last time. -/
  | calls
  | close
  | drop

/-- What is done with a subscription. -/
inductive SubscriptionStep
  | setCapacity (capacity : Option Nat)
  | info

/-- One step. -/
inductive Step
  | file (path : String) (step : FileStep)
  | journal (name : Label) (step : JournalStep)
  | exchange (name : Label) (step : ExchangeStep)
  | interest (name : Label) (step : InterestStep)
  | transport (name : Label) (step : TransportStep)
  | broker (name : Label) (step : BrokerStep)
  | subscription (name : Label) (step : SubscriptionStep)
  /-- Makes a subscription. Each reaction has the number of the call of the handler in which its steps are taken, or
  none if they are taken in every call. -/
  | subscribe (broker name : Label) (pattern : String) (reactions : List (Option Nat × List Step))
  /-- Starts a dispatch that has to wait, and takes steps meanwhile. -/
  | blocked (broker : Label) (d : Dispatch) (meanwhile : List Step)
  /-- The handler that takes this step dies of it. -/
  | die

instance : Inhabited Step := ⟨.die⟩

/-- A part of what a handler does. -/
abbrev Reaction := Option Nat × List Step

mutual

/-- How many steps there are in a step, with all that stand inside it. -/
def Step.count : Step → Nat
  | .subscribe _ _ _ reactions => countReactions reactions + 1
  | .blocked _ _ meanwhile => countSteps meanwhile + 1
  | .file .. | .journal .. | .exchange .. | .interest .. | .transport .. | .broker .. | .subscription .. | .die => 1

/-- How many steps there are in steps. -/
def countSteps : List Step → Nat
  | [] => 0
  | s :: rest => s.count + countSteps rest

/-- How many steps there are in reactions. -/
def countReactions : List (Option Nat × List Step) → Nat
  | [] => 0
  | (_, steps) :: rest => countSteps steps + countReactions rest

end

end PubSub.Session
