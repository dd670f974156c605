import PubSub.Session.Desk

/-!
# Sessions

A session takes steps one after another and replies to each. A step that a handler takes is no different from one that
the session takes itself.

* `Session.take`: takes one step; the steps inside it are taken by the same rules one level further in.
* `Session.run`: a whole session, with its end.
-/

namespace PubSub.Session

open Act Work

/-! ## Files -/

/-- Takes a step with a file. -/
def fileStep (file : String) (step : FileStep) : Work Reply := do
  let path := (← desk).path file
  let change (f : Store → Except OsError Unit × Store) : Work Reply := do
    withStore fun s =>
      let (result, s) := f s
      (result.mapError .io, s, [])
    return .ok
  match step with
  | .put content => change (·.putFile path content)
  | .append content => change (·.appendFile path content)
  | .remove => change (·.removeFile path)
  | .dump => return .content (← orHalt (((← get).store.readFile path).mapError .io))

/-! ## Journals -/

/-- Keeps a journal under its name. -/
def keepJournal (name : Label) (j : Journal) : Work Unit :=
  atDesk fun d => { d with journals := d.journals.put name j }

/-- Lets go of the journal under a name, if there is one. -/
def dropJournal (name : Label) : Work Unit := do
  match (← desk).journals.find? name with
  | none => return
  | some j =>
    atDesk fun d => { d with journals := d.journals.erase name }
    modify fun h => { h with store := j.release h.store }

/-- Writes a record so many times and gives the number of the last one. -/
def writeRecords (name : Label) (time : Timestamp) (channel : String) (payload : ByteArray) :
    Journal → Nat → Int64 → Work Int64
  | _, 0, last => return last
  | j, n + 1, _ => do
    let (result, j, store) := j.write (← get).store time channel payload
    modify fun h => { h with store }
    keepJournal name j
    let last ← orHalt result
    writeRecords name time channel payload j n last

/-- Reads the next record. -/
def readRecord (name : Label) (j : Journal) : Work (Option Journal.Record × Journal) := do
  let (result, j, notices) := j.next (← get).store
  report notices
  keepJournal name j
  return (← orHalt result, j)

/-- Reads `n` records at most. -/
def readRecords (name : Label) (j : Journal) : Nat → List Journal.Record → Work Reply
  | 0, found => return .records found.reverse none
  | n + 1, found => do
    match ← attempt (readRecord name j) with
    | .error e => return .records found.reverse (some e)
    | .ok (none, _) => return .records found.reverse none
    | .ok (some r, j) => readRecords name j n (r :: found)

/-- Moves a journal's reader. -/
def moveJournal (name : Label) (move : Store → Except Error Unit × Journal × List Notice) : Work Reply := do
  let (result, j, notices) := move (← get).store
  report notices
  keepJournal name j
  orHalt result
  return .ok

/-- Takes a step with an open journal that goes on being open. -/
def openJournalStep (name : Label) (j : Journal) (step : JournalStep) : Work Reply := do
  match step with
  | .write time channel payload n => return .number (← writeRecords name time channel payload j n 0)
  | .read => return .record (← readRecord name j).1
  | .readAll limit => readRecords name j (limit.getD (j.size (← get).store + 1)) []
  | .seek offset => moveJournal name (j.seek · offset)
  | .seekTime time => moveJournal name (j.seekTime · time)
  | .flush =>
    let (result, j, store) := j.flush (← get).store
    modify fun h => { h with store }
    keepJournal name j
    orHalt result
    return .ok
  | _ => return .extent (j.size (← get).store) j.nextNumber

/-- Takes a step with a journal. -/
def journalStep (name : Label) (step : JournalStep) : Work Reply := do
  match step with
  | .openFile file mode =>
    let path := (← desk).path file
    let j ← openJournal path mode
    dropJournal name
    keepJournal name j
    return .journal j (j.size (← get).store) ((← desk).seen path)
  | .close =>
    named Desk.journals name fun j => do
      atDesk fun d => { d with journals := d.journals.erase name }
      withStore j.close
      return .ok
  | .drop =>
    named Desk.journals name fun _ => do
      dropJournal name
      return .ok
  | step =>
    named Desk.journals name fun j => do
      let reply ← settle (openJournalStep name j step)
      return .withTell reply ((((← desk).journals.find? name).getD j).tell)

/-! ## Exchanges and interests -/

/-- Takes a step with an exchange. -/
def exchangeStep (name : Label) (step : ExchangeStep) : Work Reply := do
  match step with
  | .make =>
    let id ← change Hub.addExchange
    atDesk fun d => { d with exchanges := d.exchanges.put name id }
    return .ok
  | .share other =>
    named Desk.exchanges name fun id => do
      atDesk fun d => { d with exchanges := d.exchanges.put other id }
      return .ok
  | .remove key => named Desk.exchanges name fun id => return .removed (← change (·.removeBus id key))
  | .attached key =>
    named Desk.exchanges name fun id => do
      let bus ← change (·.busOf id key)
      return .attached ((← get).bus bus).length
  | .size => named Desk.exchanges name fun id => return .size ((← get).exchange id).length

/-- Takes a step with an interest. -/
def interestStep (name : Label) (step : InterestStep) : Work Reply := do
  match step with
  | .make all =>
    let id ← change (·.addInterest (if all then .everything else .nothing))
    atDesk fun d => { d with interests := d.interests.put name id }
    return .ok
  | .insert n text =>
    named Desk.interests name fun id => do
      let pattern ← orHalt (Pattern.ofText text)
      modify (·.modifyInterest id (·.insert n pattern))
      return .ok
  | .remove n =>
    named Desk.interests name fun id => do
      modify (·.modifyInterest id (·.remove n))
      return .ok

/-! ## Transports -/

/-- The number under a name that may be missing, in which case a new entry is made; nothing for an unknown name. -/
def numberOr (table : Desk → Table Label Nat) (name : Option Label) (make : Hub Desk → Hub Desk × Nat) :
    Work (Option Nat) := do
  match name with
  | none => return some (← change make)
  | some name => return (table (← desk)).find? name

/-- Reads an address and reports what its reader does. -/
def readAddress (result : Except Error Address × List Notice) : Work Address := do
  report result.2
  orHalt result.1

/-- Gives up the transport under a name, if there is one. -/
def dropTransport (name : Label) : Work Unit := do
  match (← desk).transports.find? name with
  | none => return
  | some t =>
    atDesk fun d => { d with transports := d.transports.erase name }
    modify (·.releaseTransport t.id)

/-- Opens the transport of a URL. -/
def openUrl (name : Label) (url : String) (exchange interest : Option Label) (clock : Clock) (telling : Bool) :
    Work Reply := do
  let some exchange ← numberOr Desk.exchanges exchange Hub.addExchange | return .unknown
  let some interest ← numberOr Desk.interests interest (·.addInterest .everything) | return .unknown
  let address ← readAddress (Address.parse none url)
  let id ← openTransport address exchange interest clock
  dropTransport name
  atDesk fun d => { d with transports := d.transports.put name { id } }
  return .withSignal (.transport address telling) ((← get).signal id)

/-- Whether somebody who waits for a transport without a deadline waits until something else happens. -/
def waitsForOthers (h : Hub Desk) (t : NamedTransport) : Bool :=
  match (h.transport t.id).line with
  | .bus .. | .multicast .. => !t.closed && !(h.signal t.id).raised
  | _ => false

/-- Takes a step with an open transport. -/
def openTransportStep (name : Label) (t : NamedTransport) (step : TransportStep) : Work Reply := do
  match step with
  | .send channel payload n =>
    times (send t.id channel payload) n
    return .ok
  | .receive milliseconds =>
    let h ← get
    if milliseconds.isNone && waitsForOthers h t then return .endless
    match ← receive t.id (milliseconds.map fun ms => h.now + ms * 1000) false with
    | .message m => return .message (some m)
    | _ => return .message none
  | .interestChanged =>
    interestChanged t.id
    return .ok
  | .close =>
    modify (·.closeTransport t.id)
    atDesk fun d => { d with transports := d.transports.put name { t with closed := true } }
    return .ok
  | _ => return .ok

/-- Takes a step with a transport. -/
def transportStep (name : Label) (step : TransportStep) : Work Reply := do
  match step with
  | .openUrl url exchange interest clock telling => openUrl name url exchange interest clock telling
  | .drop =>
    named Desk.transports name fun _ => do
      dropTransport name
      return .ok
  | step =>
    named Desk.transports name fun t => do
      let reply ← settle (openTransportStep name t step)
      return .withSignal reply ((← get).signal t.id)

/-! ## Brokers -/

/-- Whether a URL tells a transport that answers by itself. -/
def answersItself (url : Option String) : Bool := (url.getD "").startsWith "file:"

/-- Opens a broker on the address of a URL, or on the preferred one. -/
def openOn (url preferred : Option String) (exchange : Nat) (clock : Clock) (capacity : Option Nat) : Work Nat := do
  let address ← readAddress <|
    match url with
    | some url => Address.parse preferred url
    | none => Address.parseDefault preferred
  openAddress address exchange clock capacity

/-- Makes a broker; nothing if a name is unknown. -/
def makeBroker (source : Source) : Work (Option NamedBroker) := do
  match source with
  | .address url preferred exchange clock capacity =>
    let some exchange ← numberOr Desk.exchanges exchange Hub.addExchange | return none
    let id ← openOn url preferred exchange clock capacity
    return some { id, answers := answersItself url, trueTime := false, scripted := false }
  | .plain url preferred =>
    let exchange ← change Hub.addExchange
    let id ← openOn url preferred exchange {} none
    return some { id, answers := answersItself url, trueTime := true, scripted := false }
  | .script script capacity =>
    let interest ← change (·.addInterest .nothing)
    let transport ← change (·.addTransport { line := .script script, interest })
    let id ← addBroker transport interest capacity
    return some { id, answers := true, trueTime := false, scripted := true }

/-- Gives up the broker under a name, if there is one, once its dispatch has ended. -/
def dropBroker (name : Label) : Work Unit := do
  match (← desk).brokers.find? name with
  | none => return
  | some b =>
    atDesk fun d => { d with brokers := d.brokers.erase name }
    if ((← get).broker b.id).busy then atDesk fun d => { d with orphans := b.id :: d.orphans }
    else releaseBroker b.id

/-- Gives up a broker that lost its name during its dispatch. -/
def settleOrphan (b : Nat) : Work Unit := do
  let h ← get
  if h.desk.orphans.contains b && !(h.broker b).busy then
    atDesk fun d => { d with orphans := d.orphans.filter (· != b) }
    releaseBroker b

/-- The signal of a broker's transport. -/
def brokerSignal (h : Hub Desk) (b : Nat) : Signal := h.signal (h.broker b).transport

/-- Whether a dispatch of one message would go on waiting until something else happens. -/
def dispatchIsEndless (h : Hub Desk) (b : NamedBroker) : Bool :=
  let broker := h.broker b.id
  !b.answers && !broker.busy && !broker.closed && !(brokerSignal h b.id).raised

/-- Dispatches, with the handlers given. -/
def dispatchStep (run : Handlers Desk) (b : NamedBroker) (d : Dispatch) : Work Reply := do
  if d = .one ∧ dispatchIsEndless (← get) b then return .endless
  let result ← settle (.ofDispatched <$> dispatch run b.id d)
  settleOrphan b.id
  return result

/-- Takes a step with a broker. -/
def brokerStep (run : Handlers Desk) (name : Label) (step : BrokerStep) : Work Reply := do
  match step with
  | .make source =>
    let some b ← makeBroker source | return .unknown
    dropBroker name
    atDesk fun d => { d with brokers := d.brokers.put name b }
    return .withSignal .broker (brokerSignal (← get) b.id)
  | step =>
    named Desk.brokers name fun b => do
      match step with
      | .publish channel payload n =>
        times (publish b.id channel payload) n
        return .ok
      | .unsubscribe subscription =>
        named Desk.subscriptions subscription fun s => do
          unsubscribe b.id s
          return .ok
      | .dispatch d => dispatchStep run b d
      | .ready => return .ready (brokerSignal (← get) b.id)
      | .info =>
        let broker := (← get).broker b.id
        return .info broker.closed broker.subscriptions.length
      | .calls =>
        let transport := ((← get).broker b.id).transport
        match ((← get).transport transport).line with
        | .script s =>
          modify (·.setLine transport (.script { s with calls := [] }))
          return .calls s.calls.reverse
        | _ => return .unknown
      | .close =>
        closeBroker b.id
        return .ok
      | .drop =>
        dropBroker name
        return .ok
      | .make _ => return .ok

/-- Makes a subscription. -/
def subscribeStep (broker name : Label) (pattern : String) (reactions : List Reaction) : Work Reply :=
  named Desk.brokers broker fun b => do
    let s := (← get).subscriptions.size
    atDesk fun d => { d with handlers := d.handlers.put s { name, trueTime := b.trueTime, reactions } }
    let s ← subscribe b.id pattern
    atDesk fun d => { d with subscriptions := d.subscriptions.put name s }
    return .registered ((← get).subscription s).id pattern

/-- Takes a step with a subscription. -/
def subscriptionStep (name : Label) (step : SubscriptionStep) : Work Reply :=
  named Desk.subscriptions name fun s => do
    match step with
    | .setCapacity capacity =>
      modify (·.setCapacity s capacity)
      return .ok
    | .info => return .subscription ((← get).subscription s)

/-! ## Handlers -/

/-- The steps that are taken in the call of a number. -/
def stepsOfCall (reactions : List Reaction) (call : Nat) : List Step :=
  reactions.flatMap fun r => if r.1.all (· == call) then r.2 else []

/-- Takes steps and gives the replies. -/
def takeAll (take : Step → Work Reply) : List Step → Work (List Reply)
  | [] => return []
  | step :: rest => do
    let reply ← take step
    return reply :: (← takeAll take rest)

/-- What the handlers of a session do: they note the call and take their steps. -/
def handlers (take : Step → Work Reply) : Handlers Desk := fun s m h =>
  let handler := (h.desk.handlers.find? s).getD default
  let call := handler.calls + 1
  let index := h.desk.deliveries.size
  let noted := { h with desk := { h.desk with
    handlers := h.desk.handlers.put s { handler with calls := call }
    deliveries := h.desk.deliveries.push ⟨handler.name, m, handler.trueTime, []⟩ } }
  match takeAll take (stepsOfCall handler.reactions call) noted with
  | (.ok replies, h) =>
    (.returned, { h with desk := { h.desk with
      deliveries := h.desk.deliveries.modify index fun d => { d with replies } } })
  | (.error _, h) => (.died, h)

/-! ## Dispatches that wait -/

/-- Goes on with a dispatch that waits; nothing if it has to wait on. -/
def resume (run : Handlers Desk) (b : Nat) (d : Dispatch) : Work (Option Reply) := fun h =>
  match settle (.ofDispatched <$> dispatchHeld run b true d) h with
  | (.ok .endless, h) => (.ok none, h)
  | (.ok reply, h) => (.ok (some reply), released b h)
  | (.error _, h) => (.ok (some .died), released b h)

/-- Takes steps while a dispatch waits, and goes on with it after each until it comes to something. -/
def meanwhile (take : Step → Work Reply) (b : Nat) (d : Dispatch) :
    List Step → Option Reply → Work (List Reply × Option Reply)
  | [], result => return ([], result)
  | step :: rest, result => do
    let reply ← take step
    let result ← if result.isSome then pure result else resume (handlers take) b d
    let (replies, result) ← meanwhile take b d rest result
    return (reply :: replies, result)

/-- What a dispatch comes to that nothing has ended. -/
def outOfTime : Dispatch → Reply
  | .one => .endless
  | .within _ => .count 0

/-- Starts a dispatch that has to wait, and takes steps meanwhile. -/
def blockedStep (take : Step → Work Reply) (name : Label) (d : Dispatch) (steps : List Step) : Work Reply :=
  named Desk.brokers name fun b => do
    let start : Work (Option Reply) := do
      match ← attempt (do checkTime d; acquire b.id) with
      | .error e => return some (.failed e)
      | .ok () => resume (handlers take) b.id d
    let (replies, result) ← meanwhile take b.id d steps (← start)
    if result.isNone then modify (released b.id)
    settleOrphan b.id
    return .blocked replies (result.getD (outOfTime d))

/-! ## Steps -/

/-- Takes a step; `inner` takes the steps inside it. -/
def takeWith (inner : Step → Work Reply) : Step → Work Reply
  | .file path step => fileStep path step
  | .journal name step => journalStep name step
  | .exchange name step => exchangeStep name step
  | .interest name step => interestStep name step
  | .transport name step => transportStep name step
  | .broker name step => brokerStep (handlers inner) name step
  | .subscription name step => subscriptionStep name step
  | .subscribe broker name pattern reactions => subscribeStep broker name pattern reactions
  | .blocked broker d steps => blockedStep inner broker d steps
  | .die => throw .died

/-- Takes a step. Steps inside steps are followed `depth` levels far; there are never more levels than steps. -/
def take : (depth : Nat) → Step → Work Reply
  | 0, _ => return .ok
  | depth + 1, step => settle (takeWith (take depth) step)

/-- Takes a step of the session itself: its reply tells which handlers were called. -/
def takeOutermost (depth : Nat) (step : Step) (h : Hub Desk) : Reply × Hub Desk :=
  let (result, h) := take depth step { h with desk := { h.desk with deliveries := #[] } }
  let reply := match result with
    | .ok reply => reply
    | .error _ => .died
  let calls := h.desk.deliveries.toList
  (if calls.isEmpty then reply else .withDeliveries reply calls, h)

/-- Takes the steps of a session. -/
def takeSteps (depth : Nat) : List Step → Hub Desk → List Reply × Hub Desk
  | [], h => ([], h)
  | step :: rest, h =>
    let (reply, h) := takeOutermost depth step h
    let (replies, h) := takeSteps depth rest h
    (reply :: replies, h)

/-- Closes what is still open. -/
def finish (h : Hub Desk) : Hub Desk :=
  let h := h.desk.brokers.foldl (fun h b => (closeBroker b.2.id h).2) h
  h.desk.transports.foldl (fun h t => h.closeTransport t.2.id) h

/-- The directory that sessions work in. -/
def home : String := "/scratch"

/-- The hub at the start of a session. -/
def start : Hub Desk :=
  let name (t : String) : PathName := t.toUTF8.data.toList
  { store := .start [name (String.ofList (home.toList.drop 1))] (name "sub")
    desk := { home } }

/-- The replies of a session, and what was reported from its start to its end. -/
def run (steps : List Step) : List Reply × List Notice :=
  let (replies, h) := takeSteps (countSteps steps + 1) steps start
  (replies, (finish h).notices.toList)

end PubSub.Session
