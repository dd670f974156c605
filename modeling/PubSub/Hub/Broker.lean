import PubSub.Hub.Transport

/-!
# Brokers of a hub

A broker sends to one transport and hands what comes from it to its subscriptions. A dispatch takes messages from the
transport, puts each into the backlogs of the subscriptions whose patterns match and then runs their handlers until
these backlogs are empty. Only one dispatch of a broker is in progress at a time.

* `Act.publish`, `Act.subscribe`, `Act.unsubscribe`, `Act.closeBroker`: the calls that hand out nothing.
* `Act.route`, `Act.deliver`: the two halves of a dispatch.
* `Act.dispatch`: a dispatch for one message, or for what there is until a deadline.

What a handler does is a parameter, `Handlers`, of all that runs handlers.
-/

namespace PubSub

/-- How a handler's work ends. -/
inductive Fate
  | returned
  | died
  deriving DecidableEq

/-- What the handler of a subscription does with a message. -/
abbrev Handlers (η : Type) := Nat → Message → Hub η → Fate × Hub η

/-- The two kinds of dispatch. -/
inductive Dispatch
  /-- One message, whenever it comes. -/
  | one
  /-- What there is within some milliseconds. -/
  | within (milliseconds : Int)
  deriving DecidableEq

/-- What a dispatch comes to. -/
inductive Dispatched
  /-- One message was dispatched. -/
  | done
  /-- So many messages were dispatched. -/
  | count (n : Nat)
  /-- It would go on waiting. -/
  | waiting
  deriving DecidableEq

/-- The most messages that one dispatch takes, so that a fast sender cannot keep it from its handlers
(`DISPATCH_BATCH_LIMIT`). -/
def batchLimit : Nat := 1024

namespace Act

variable {η : Type}

/-- The broker of a number, unless it is closed (`Broker.ensure_open`). -/
def openBroker (b : Nat) : Act η Broker := do
  let broker := (← get).broker b
  if broker.closed then fail .closed
  return broker

/-- Sends a message by way of a broker (`Broker.publish`). -/
def publish (b : Nat) (channel : String) (payload : ByteArray) : Act η Unit := do
  let broker ← openBroker b
  if channel.isEmpty then fail (.invalidArgument .noChannel)
  send broker.transport channel payload

/-! ## Subscriptions -/

/-- Adds a subscription to a broker (`Broker.subscribe`). -/
def subscribe (b : Nat) (text : String) : Act η Nat := do
  let broker ← openBroker b
  let pattern ← orHalt (Pattern.ofText text)
  let id := broker.nextId
  let s ← change (·.addSubscription { id, pattern, backlog := .new broker.defaultCapacity })
  modify fun h =>
    (h.modifyBroker b fun br => { br with nextId := id + 1, subscriptions := br.subscriptions ++ [s] }).modifyInterest
      broker.interest (·.insert id pattern)
  interestChanged broker.transport
  report [.debug (s!"broker: subscription {id} on " ++ Text.quoted text)]
  return s

/-- Takes a subscription away from its broker, and what waits for its handler with it (`Broker.unsubscribe`). -/
def unsubscribe (b s : Nat) : Act η Unit := do
  let broker ← openBroker b
  let id := ((← get).subscription s).id
  if !broker.subscriptions.contains s then fail (.invalidArgument (.notRegistered id))
  modify fun h =>
    ((h.modifyBroker b fun br => { br with subscriptions := br.subscriptions.filter (· != s) }).modifySubscription s
      fun u => { u with active := false, backlog := u.backlog.clear }).modifyInterest broker.interest (·.remove id)
  interestChanged broker.transport
  report [.debug s!"broker: removed subscription {id}"]

/-- Closes a broker (`Broker.close`). Its transport is closed and its subscriptions end. -/
def closeBroker (b : Nat) : Act η Unit := do
  let broker := (← get).broker b
  if !broker.closed then
    modify fun h => (h.modifyBroker b fun br => { br with closed := true }).closeTransport broker.transport
    modify fun h =>
      (h.broker b).subscriptions.foldl (fun h s => h.modifySubscription s fun u => { u with active := false })
        (h.modifyBroker b fun br => { br with subscriptions := [] })
    report [.debug "broker: closed"]

/-- Gives up a broker that nobody uses any more (`Broker.drop`). -/
def releaseBroker (b : Nat) : Act η Unit := do
  closeBroker b
  modify fun h => h.releaseTransport (h.broker b).transport

/-! ## Routing and delivery -/

/-- Puts a message into the backlog of a subscription (in `Broker.route`). -/
def enqueue (m : Message) (s : Nat) : Act η Bool := do
  let u := (← get).subscription s
  let (accepted, backlog) := u.backlog.push m
  modify (·.modifySubscription s fun u => { u with backlog })
  if !accepted then
    report [.debug s!"broker: subscription {u.id} queue full, dropping message on {m.channel}"]
  return accepted

/-- Puts a message into the backlogs of subscriptions. Gives those that have taken one so far, in the order in which
they took their first, and whether one has taken this one. -/
def enqueueAll (m : Message) : List Nat → List Nat → Bool → Act η (List Nat × Bool)
  | [], touched, accepted => return (touched, accepted)
  | s :: rest, touched, accepted => do
    if ← enqueue m s then
      enqueueAll m rest (if touched.contains s then touched else touched ++ [s]) true
    else enqueueAll m rest touched accepted

/-- Puts a message into the backlogs of all subscriptions of a broker whose patterns match (`Broker.route`). -/
def route (b : Nat) (m : Message) (touched : List Nat) : Act η (List Nat × Bool) := do
  let h ← get
  match (h.broker b).subscriptions.filter fun s => (h.subscription s).pattern.accepts m.channel with
  | [] =>
    report [.trace s!"broker: no subscribers on {m.channel}, discarding"]
    return (touched, false)
  | matching => enqueueAll m matching touched false

/-- Runs a handler. One that dies spoils its subscription. -/
def invoke (run : Handlers η) (s : Nat) (m : Message) : Act η Unit := fun h =>
  match run s m h with
  | (.returned, h) => (.ok (), h)
  | (.died, h) => (.error .died, h.modifySubscription s fun u => { u with spoiled := true })

/-- Runs the handler of a subscription on what waits for it (in `Broker.deliver`), `n` times at most. -/
def drain (run : Handlers η) (s : Nat) : Nat → Act η Unit
  | 0 => return
  | n + 1 => do
    let u := (← get).subscription s
    if u.active then
      match u.backlog.pop with
      | none => return
      | some (m, backlog) =>
        modify (·.modifySubscription s fun u => { u with backlog })
        if u.spoiled then fail .closed
        invoke run s m
        drain run s n

/-- Runs the handlers of subscriptions, one subscription after another, on all that waits for them
(`Broker.deliver`). -/
def deliver (run : Handlers η) : List Nat → Act η Unit
  | [] => return
  | s :: rest => do
    drain run s ((← get).subscription s).backlog.size
    deliver run rest

/-! ## Dispatch -/

/-- The loop of `Broker.handle`. Waits for a message that the broker's interest wants; none if it would go on waiting.
Receives `n` times at most. -/
def nextWanted (broker : Broker) (still : Bool) : Nat → Act η (Option Message)
  | 0 => return none
  | n + 1 => do
    match ← receive broker.transport none still with
    | .waiting => return none
    | .nothing => nextWanted broker still n
    | .message m =>
      if ((← get).interest broker.interest).wants m.channel then return some m
      report [.trace s!"broker: no subscribers on {m.channel}, discarding"]
      nextWanted broker still n

/-- Dispatches one message (`Broker.handle`). -/
def dispatchOne (run : Handlers η) (b : Nat) (still : Bool) : Act η Dispatched := do
  let broker := (← get).broker b
  match ← nextWanted broker still ((← supply broker.transport) + 1) with
  | none => return .waiting
  | some m =>
    let (touched, _) ← route b m []
    deliver run touched
    return .done

/-- What waiting for the first message of a batch comes to. -/
inductive First
  /-- It was taken by these subscriptions. -/
  | accepted (touched : List Nat)
  | none
  | waiting

/-- The first loop of `Broker.handle_timeout`. Waits until a subscription has taken a message. Messages that nobody
takes are discarded, and when there are too many of them the deadline counts. Receives `n` times at most. -/
def firstAccepted (b t deadline : Nat) (still : Bool) : Nat → (discarded : Nat) → Act η First
  | 0, _ => return .none
  | n + 1, discarded => do
    match ← receive t (some deadline) still with
    | .waiting => return .waiting
    | .nothing => return .none
    | .message m =>
      let (touched, accepted) ← route b m []
      if accepted then return .accepted touched
      if batchLimit ≤ discarded + 1 ∧ deadline ≤ (← get).now then return .none
      firstAccepted b t deadline still n (discarded + 1)

/-- The error, if it is one, is a value. -/
def attempt {α : Type} (act : Act η α) : Act η (Except Error α) := fun h =>
  match act h with
  | (.ok a, h) => (.ok (.ok a), h)
  | (.error (.failed e), h) => (.ok (.error e), h)
  | (.error .died, h) => (.error .died, h)

/-- The rest of a batch. -/
structure Batch where
  /-- The subscriptions that have taken messages. -/
  touched : List Nat
  /-- How many messages were taken. -/
  count : Nat
  /-- The error to be told after the delivery. -/
  deferred : Option Error

/-- The second loop of `Broker.handle_timeout`. Routes what the transport already has, `n` messages at most. -/
def fillBatch (b t : Nat) : Nat → (touched : List Nat) → (count : Nat) → Act η Batch
  | 0, touched, count => return ⟨touched, count, none⟩
  | n + 1, touched, count => do
    match ← attempt (receive t (some (← get).now) false) with
    | .error e =>
      if e.isSticky then
        report [.trace s!"broker: batch ended early: {e.message}"]
        return ⟨touched, count, none⟩
      else
        report [.warn s!"broker: receive failed mid-batch after {count} messages: {e.message}"]
        return ⟨touched, count, some e⟩
    | .ok (.message m) =>
      let (touched, accepted) ← route b m touched
      fillBatch b t n touched (if accepted then count + 1 else count)
    | .ok _ => return ⟨touched, count, none⟩

/-- Dispatches what there is until a deadline (`Broker.handle_timeout`). -/
def dispatchWithin (run : Handlers η) (b deadline : Nat) (still : Bool) : Act η Dispatched := do
  let t := ((← get).broker b).transport
  match ← firstAccepted b t deadline still ((← supply t) + 1) 0 with
  | .waiting => return .waiting
  | .none => return .count 0
  | .accepted touched =>
    let batch ← fillBatch b t (batchLimit - 1) touched 1
    deliver run batch.touched
    match batch.deferred with
    | some e => fail e
    | none => return .count batch.count

/-- Refuses a time to wait that is negative. -/
def checkTime : Dispatch → Act η Unit
  | .one => return
  | .within milliseconds => if milliseconds < 0 then fail (.invalidArgument (.timeout milliseconds)) else return

/-- Takes the right to dispatch (`Broker.acquire`). -/
def acquire (b : Nat) : Act η Unit := do
  let broker ← openBroker b
  if broker.busy then fail .busy
  modify (·.modifyBroker b fun br => { br with busy := true })

/-- Gives the right to dispatch back (`DispatchToken.drop`). -/
def released (b : Nat) (h : Hub η) : Hub η := h.modifyBroker b fun br => { br with busy := false }

/-- Dispatches; the right to do so has been taken. -/
def dispatchHeld (run : Handlers η) (b : Nat) (still : Bool) : Dispatch → Act η Dispatched
  | .one => dispatchOne run b still
  | .within milliseconds => do
    dispatchWithin run b ((← get).now + milliseconds.toNat * 1000) still

/-- Dispatches. The right to do so is given back however the dispatch ends. -/
def dispatch (run : Handlers η) (b : Nat) (d : Dispatch) : Act η Dispatched := do
  checkTime d
  acquire b
  ensuring (dispatchHeld run b false d) (released b)

/-! ## Making brokers -/

/-- A broker for a transport that exists (`Broker.with_provider`). -/
def addBroker (transport interest : Nat) (defaultCapacity : Option Nat) : Act η Nat :=
  change (·.addBroker { transport, interest, defaultCapacity })

/-- Opens a broker on an address (`BrokerBuilder.build`). -/
def openAddress (a : Address) (exchange : Nat) (clock : Clock) (defaultCapacity : Option Nat) : Act η Nat := do
  let interest ← change (·.addInterest .nothing)
  let transport ← openTransport a exchange interest clock
  report [.debug s!"broker: opened {a.scheme} provider"]
  addBroker transport interest defaultCapacity

end Act
end PubSub
