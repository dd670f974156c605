import PubSub.Session.Reply
import PubSub.Session.Step

/-!
# The desk of a session

What a session knows by names, and what its handlers remember.

* `Table`: values by names, in the order in which the names came up.
* `Desk`: the tables of a session.
-/

namespace PubSub.Session

/-- Values by names. -/
abbrev Table (κ α : Type) := List (κ × α)

namespace Table

variable {κ α : Type} [BEq κ]

/-- The value of a name. -/
def find? (t : Table κ α) (name : κ) : Option α := t.lookup name

/-- Takes a name away. -/
def erase (t : Table κ α) (name : κ) : Table κ α := t.filter fun e => !(e.1 == name)

/-- Gives a name a value. -/
def put (t : Table κ α) (name : κ) (a : α) : Table κ α := t.erase name ++ [(name, a)]

end Table

/-- A transport under a name. -/
structure NamedTransport where
  id : Nat
  /-- Whether the session has closed it. -/
  closed : Bool := false

/-- A broker under a name. -/
structure NamedBroker where
  id : Nat
  /-- Whether its transport answers those who wait without an end by itself. -/
  answers : Bool
  /-- Whether its messages bear the true time. -/
  trueTime : Bool
  scripted : Bool

/-- What is done in answer to messages. -/
structure Handler where
  /-- The name of the subscription. -/
  name : Label
  trueTime : Bool
  reactions : List Reaction
  /-- How often the handler was called. -/
  calls : Nat := 0

instance : Inhabited Handler := ⟨{ name := "", trueTime := false, reactions := [] }⟩

/-- What a session has at hand. -/
structure Desk where
  /-- The path of the directory that the session works in. -/
  home : String
  journals : Table Label Journal := []
  exchanges : Table Label Nat := []
  interests : Table Label Nat := []
  transports : Table Label NamedTransport := []
  brokers : Table Label NamedBroker := []
  subscriptions : Table Label Nat := []
  /-- The handlers by their subscriptions. -/
  handlers : Table Nat Handler := []
  /-- Brokers without a name whose dispatch is still in progress. -/
  orphans : List Nat := []
  /-- The calls of handlers since the last step of the session itself. -/
  deliveries : Array (Delivery Reply) := #[]

/-- What a session does. -/
abbrev Work (α : Type) := Act Desk α

namespace Work

/-- Changes the desk. -/
def atDesk (f : Desk → Desk) : Work Unit := modify fun h => { h with desk := f h.desk }

/-- The desk. -/
def desk : Work Desk := return (← get).desk

/-- Replies by what stands under a name. -/
def named {κ α : Type} [BEq κ] (table : Desk → Table κ α) (name : κ) (act : α → Work Reply) : Work Reply := do
  match (table (← desk)).find? name with
  | none => return .unknown
  | some a => act a

/-- Replies with the error if there is one. -/
def settle (act : Work Reply) : Work Reply := fun h =>
  match act h with
  | (.error (.failed cause), h) => (.ok (.failed cause), h)
  | other => other

/-- Does something so many times, up to the first error. -/
def times (act : Work Unit) : Nat → Work Unit
  | 0 => return
  | n + 1 => do
    act
    times act n

end Work

/-! ## Paths -/

/-- A path as a session tells it, from its directory or from the root. -/
def Desk.path (d : Desk) (file : String) : ByteArray :=
  if Store.isAbsolute file.toUTF8 then file.toUTF8 else (d.home ++ "/" ++ file).toUTF8

/-- Leaves out the empty steps and the ones that lead nowhere at the start of a path. -/
def trimStart : List Char → List Char
  | '/' :: rest => trimStart rest
  | '.' :: '/' :: rest => trimStart rest
  | ['.'] => []
  | path => path

/-- The same at the end of a path that is written backwards. -/
def trimEnd : List Char → List Char
  | '/' :: rest => trimEnd rest
  | '.' :: '/' :: rest => trimEnd rest
  | path => path

/-- A path as it is seen from the session's directory. -/
def Desk.seen (d : Desk) (path : ByteArray) : ByteArray :=
  let home := d.home.toUTF8
  if path.extract 0 home.size == home then
    let rest := (Text.ofByteArrayLossy (path.extract home.size path.size)).toList
    (String.ofList (trimEnd (trimStart rest).reverse).reverse).toUTF8
  else path

end PubSub.Session
