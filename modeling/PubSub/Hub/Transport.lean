import PubSub.Hub.Basic
import PubSub.Wire.Split

/-!
# Transports of a hub

The operations that all transports share, and what each kind makes of them.

* `Hub.openTransport`: the transport of an address.
* `Act.send`, `Act.poll`, `Act.receive`: messages out and in.
* `Act.interestChanged`: to be called whenever the interest of a transport has changed.
* `Act.closeTransport`, `Hub.releaseTransport`: the end of a transport.
-/

namespace PubSub

/-- What a receiver who may wait comes to. -/
inductive Reception
  | message (m : Message)
  /-- The deadline has passed, or the transport does not want to be waited for. -/
  | nothing
  /-- It would go on waiting. -/
  | waiting

namespace Hub

variable {η : Type}

/-! ## Buses -/

/-- The bus of a key, which is made if there is none (`MemQueueRegistry.bus`). -/
def busOf (h : Hub η) (exchange : Nat) (key : String) : Hub η × Nat :=
  match (h.exchange exchange).lookup key with
  | some bus => (h, bus)
  | none =>
    let bus := h.buses.size
    ({ h with
        buses := h.buses.push []
        exchanges := h.exchanges.modify exchange ((key, bus) :: ·) }.report
      [.debug ("memq: created bus " ++ Text.quoted key)], bus)

/-- Takes a bus out of an exchange; who is on it stays on it (`MemQueueRegistry.remove`). -/
def removeBus (h : Hub η) (exchange : Nat) (key : String) : Hub η × Bool :=
  ({ h with exchanges := h.exchanges.modify exchange fun buses => buses.filter fun b => b.1 != key },
    ((h.exchange exchange).lookup key).isSome)

/-- Puts a message into the mailbox of a transport (`Inbox.push`). -/
def deposit (h : Hub η) (id : Nat) (m : Message) : Hub η :=
  match (h.transport id).line with
  | .bus bus box =>
    let (box, notices) := box.put (h.wants id) m
    (h.setLine id (.bus bus box)).report notices
  | _ => h

/-- Puts a message into every mailbox on a bus (`MemQueue.deliver`). -/
def broadcast (h : Hub η) (bus : Nat) (m : Message) : Hub η :=
  (h.bus bus).foldl (fun h id => h.deposit id m) h

/-- The time by the clock of a transport. -/
def readClock (h : Hub η) (id : Nat) : Hub η × Timestamp :=
  let (time, clock) := (h.transport id).clock.read
  ({ h with transports := h.transports.modify id fun t => { t with clock } }, time)

end Hub

namespace Act

variable {η : Type}

/-! ## Opening -/

/-- Opens a place on the bus of a key (`MemQueueProvider.open`). -/
def openBus (exchange : Nat) (key : String) (interest : Nat) (clock : Clock) : Act η Nat := do
  let bus ← change (·.busOf exchange key)
  let id ← change (·.addTransport { line := .bus bus {}, interest, clock })
  modify fun h => { h with buses := h.buses.modify bus (· ++ [id]) }
  return id

/-- The longest channel name of a multicast message, in bytes. -/
def maxGroupChannel : Nat := Wire.maxChannelLength

/-- Opens a multicast group for sending (`MulticastProvider.open`). -/
def openGroup (s : MulticastAddress) (interest : Nat) (clock : Clock) : Act η Nat := do
  if s.ttl = 0 then report [.debug "udpm: ttl=0, traffic stays on this host"]
  if s.transmitOnly then report [.debug "udpm: transmit-only, receive path disabled"]
  report [.debug s!"udpm: joined {s.group.text}:{s.port} (ttl {s.ttl}, mtu {s.datagramSize})"]
  change (·.addTransport { line := .multicast s 0 false {}, interest, clock })

/-- Does something with a journal and the store, and reports. -/
def withStore {α : Type} (f : Store → Except Error α × Store × List Notice) : Act η α := do
  let result ← change fun h =>
    let (result, store, notices) := f h.store
    ({ h with store }.report notices, result)
  orHalt result

/-- Opens a journal. -/
def openJournal (path : ByteArray) (mode : Journal.Mode) : Act η Journal :=
  withStore fun s =>
    let (j, s, notices) := Journal.openFile s path mode
    (j.mapError .io, s, notices)

/-- What a reader of a file finds there. -/
def readFile (file : Nat) : Act η ByteArray := do
  orHalt (((← get).store.node file).read.mapError .io)

/-- The file of a journal that is open for reading. -/
def journalFile (j : Journal) : Act η ByteArray :=
  match j.use with
  | .reading file _ => readFile file
  | .writing _ => fail .writeOnly

/-- Goes before the first record of a time, if one is given. -/
def startAt (j : Journal) (start : Option Timestamp) : Act η Journal := do
  match start with
  | none => return j
  | some time =>
    report [.debug s!"file: seeking {Journal.pathText j.path} to timestamp {time}"]
    let (result, j, notices) := j.seekTime (← get).store time
    report notices
    orHalt result
    return j

/-- Opens a journal as a transport (`FileProvider.open`). -/
def openFile (s : FileAddress) (interest : Nat) (clock : Clock) : Act η Nat := do
  let journal ← openJournal s.path s.mode
  let opened : Notice := .debug s!"file: opened {Journal.pathText s.path} in {s.mode.name} mode"
  match s.mode with
  | .read =>
    let journal ← startAt journal s.start
    report [opened]
    let wants := ((← get).interest interest).wants
    let (replay, notices) := { journal, speed := s.speed : Replay }.refresh (← journalFile journal) wants
    report notices
    change (·.addTransport { line := .replay replay, interest, clock })
  | _ =>
    report [opened]
    change (·.addTransport { line := .recorder journal false, interest, clock })

/-- Opens the transport of an address (`provider.open`). -/
def openTransport (a : Address) (exchange interest : Nat) (clock : Clock) : Act η Nat :=
  match a with
  | .bus key => openBus exchange key interest clock
  | .multicast s => openGroup s interest clock
  | .file s => openFile s interest clock

/-! ## Sending -/

/-- Cuts a message for a multicast group into datagrams; they go nowhere, as there is no network
(`MulticastProvider.send`). -/
def sendToGroup (id : Nat) (s : MulticastAddress) (sequence : UInt32) (box : Mailbox) (channel : String)
    (payload : ByteArray) : Act η Unit := do
  let length := channel.utf8ByteSize
  if length = 0 ∨ maxGroupChannel < length then
    fail (.invalidArgument (.channelLength length maxGroupChannel))
  match Wire.encodeMessage sequence channel payload s.datagramSize with
  | none => fail (.invalidArgument (.fragmentCount payload.size Wire.maxFragments))
  | some datagrams =>
    if 1 < datagrams.length then
      report [.trace s!"udpm: sending {payload.size} bytes on {channel} in {datagrams.length} fragments"]
    modify (·.setLine id (.multicast s (sequence + 1) false box))

/-- Adds a message to a journal and writes it out (`FileProvider.send`). -/
def sendToJournal (id : Nat) (j : Journal) (channel : String) (payload : ByteArray) : Act η Unit := do
  let time ← change (·.readClock id)
  let result ← change fun h =>
    let (result, j, store) := j.write h.store time channel payload
    match result with
    | .error e => ({ h with store }.setLine id (.recorder j false), .error e)
    | .ok _ =>
      let (result, j, store) := j.flush store
      ({ h with store }.setLine id (.recorder j false), result)
  orHalt result

/-- Sends a message (`Provider.send`). -/
def send (id : Nat) (channel : String) (payload : ByteArray) : Act η Unit := do
  match ((← get).transport id).line with
  | .bus bus box =>
    if box.closed then fail .closed
    let time ← change (·.readClock id)
    modify (·.broadcast bus ⟨channel, payload, time⟩)
  | .multicast s sequence stopped box =>
    if stopped then fail .closed
    sendToGroup id s sequence box channel payload
  | .recorder j closed =>
    if closed then fail .closed
    sendToJournal id j channel payload
  | .replay r => fail (if r.closed then .closed else .readOnly)
  | .script s =>
    let (result, s) := s.send channel payload
    modify (·.setLine id (.script s))
    orHalt result

/-! ## Receiving -/

/-- Asks a transport for a message. `patient` says whether the receiver has all the time in the world. -/
def poll (id : Nat) (patient : Bool) : Act η Offer := do
  let h ← get
  match (h.transport id).line with
  | .bus bus box =>
    let (offer, box, notices) := box.take (h.wants id)
    modify fun h => (h.setLine id (.bus bus box)).report notices
    orHalt offer
  | .multicast s sequence stopped box =>
    let (offer, box, notices) := box.take (h.wants id)
    modify fun h => (h.setLine id (.multicast s sequence stopped box)).report notices
    orHalt offer
  | .recorder .. => fail .writeOnly
  | .replay r =>
    let (offer, r, notices) := r.take (← journalFile r.journal) (h.wants id) h.now
    modify fun h => (h.setLine id (.replay r)).report notices
    orHalt offer
  | .script s =>
    let (offer, s) := s.take patient
    modify (·.setLine id (.script s))
    orHalt offer

/-- Lets time pass up to `time`. -/
def sleepUntil (time : Nat) : Act η Unit := modify fun h => { h with now := max h.now time }

/-- Waits for a message until `deadline`, or for ever where there is none (`Provider.receive`). With `still` no time
passes: what would be waited for is reported as waiting. -/
def receive (id : Nat) (deadline : Option Nat) (still : Bool) : Act η Reception := do
  match ← poll id deadline.isNone with
  | .message m => return .message m
  | .nothing => return .nothing
  | .later due =>
    if still then return .waiting
    match due, deadline with
    | none, none => return .waiting
    | none, some d =>
      sleepUntil d
      return .nothing
    | some t, _ =>
      if deadline.any (· < t) then
        sleepUntil (deadline.getD t)
        return .nothing
      else
        sleepUntil t
        match ← poll id deadline.isNone with
        | .message m => return .message m
        | _ => return .nothing

/-- Never fewer than the messages that a transport can give out one after another. -/
def supply (id : Nat) : Act η Nat := do
  let h ← get
  match (h.transport id).line with
  | .bus _ box => return box.waiting.size
  | .multicast _ _ _ box => return box.waiting.size
  | .recorder .. => return 0
  | .replay r =>
    match r.journal.use with
    | .reading file _ => return (h.store.node file).size + 1
    | .writing _ => return 0
  | .script s => return s.items.length

/-! ## Changes of interest -/

/-- Throws away what is no longer wanted and brings the signal up to date (`Provider.filter_changed`). -/
def interestChanged (id : Nat) : Act η Unit := do
  let h ← get
  match (h.transport id).line with
  | .bus bus box =>
    let (box, notices) := box.retain (h.wants id)
    modify fun h => (h.setLine id (.bus bus box)).report notices
  | .multicast s sequence stopped box =>
    let (box, notices) := box.retain (h.wants id)
    modify fun h => (h.setLine id (.multicast s sequence stopped box)).report notices
  | .recorder .. => return
  | .replay r =>
    let (r, notices) := r.refresh (← journalFile r.journal) (h.wants id)
    modify fun h => (h.setLine id (.replay r)).report notices
  | .script s => modify (·.setLine id (.script (s.log .interestChanged)))

end Act

namespace Hub

variable {η : Type}

/-! ## The end of a transport -/

/-- Closes a transport: those who wait for it wake up, and later calls fail (`Provider.close`). -/
def closeTransport (h : Hub η) (id : Nat) : Hub η :=
  match (h.transport id).line with
  | .bus bus box => h.setLine id (.bus bus box.close)
  | .multicast s sequence stopped box =>
    if stopped then h else h.setLine id (.multicast s sequence true box.close)
  | .recorder j _ =>
    let (result, j, store) := j.flush h.store
    let notices := match result with
      | .ok () => []
      | .error e => [Notice.warn s!"file: flush on close failed: {e.message}"]
    ({ h with store }.setLine id (.recorder j true)).report notices
  | .replay r => h.setLine id (.replay r.close)
  | .script s => h.setLine id (.script (s.log .close))

/-- Gives up a transport that nobody uses any more. -/
def releaseTransport (h : Hub η) (id : Nat) : Hub η :=
  match (h.transport id).line with
  | .bus bus _ => { h with buses := h.buses.modify bus fun members => members.filter (· != id) }
  | .multicast .. => h.closeTransport id
  | .recorder j _ => { h with store := j.release h.store }
  | .replay _ | .script _ => h

end Hub
end PubSub
