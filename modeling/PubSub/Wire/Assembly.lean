import PubSub.Notice
import PubSub.Wire.Datagram

/-!
# Putting fragments together

An assembly holds the messages of which some fragments, but not yet all, have come in, each under its sender and
sequence number. It is bounded by a number of messages and a number of payload bytes; a message that has waited too
long for its next fragment is given up, and when there is no room for a new one a message that has waited longest makes
way. Which one, where several have waited as long, is left open.

* `Assembly.Choice`: a way to find a message that has waited longest.
* `Assembly.insert`: adds one fragment and returns the message that it completes.
* `Assembly.evictStale`: gives up what has waited too long.
* `Assembly.Event`: what happens to messages on the way, with the wording of each.
-/

namespace PubSub.Wire

/-- A sender's socket address, in the text form that is the same for equal addresses. -/
abbrev Sender := String

/-- Milliseconds since some start. -/
abbrev Instant := Nat

/-- A message of which some fragments are missing. -/
structure Partial where
  /-- Who sends it. -/
  sender : Sender
  /-- Its number with the sender. -/
  sequence : UInt32
  /-- Its channel, once a fragment has told it. -/
  channel : Option String
  /-- The payload, with zeros where nothing has come in. -/
  data : ByteArray
  /-- For each fragment, whether it has come in. -/
  received : Array Bool
  /-- How many fragments are missing. -/
  remaining : Nat
  /-- When its first fragment was received. -/
  firstReceived : Timestamp
  /-- When its last fragment came in. -/
  lastTouch : Instant

/-- Whether the message is number `sequence` of `sender`. -/
def Partial.hasKey (p : Partial) (sender : Sender) (sequence : UInt32) : Bool :=
  p.sender == sender && p.sequence == sequence

/-- The payload bytes of messages together. -/
def payloadBytes : List Partial → Nat
  | [] => 0
  | p :: ps => p.data.size + payloadBytes ps

/-- A way to find, among messages, one that was touched no later than the others. -/
structure Assembly.Choice where
  /-- The one that is found. -/
  find : List Partial → Option Partial
  mem {ps : List Partial} {p : Partial} : find ps = some p → p ∈ ps
  least {ps : List Partial} {p : Partial} : find ps = some p → ∀ q ∈ ps, p.lastTouch ≤ q.lastTouch
  /-- Only among no messages none is found. -/
  eq_nil {ps : List Partial} : find ps = none → ps = []

/-- The messages under way, oldest first, and the bounds on them (`Reassembler`). -/
structure Assembly where
  /-- The messages under way, in the order in which they were begun. -/
  pending : List Partial
  /-- The bytes of their payloads together. -/
  pendingBytes : Nat
  /-- The most messages. -/
  maxMessages : Nat
  /-- The most payload bytes. -/
  maxBytes : Nat
  /-- The longest wait between two fragments of a message, in milliseconds. -/
  timeout : Nat
  /-- How the messages that make way are found, one after the other. -/
  choices : Nat → Assembly.Choice

namespace Assembly

/-- What becomes of a message that is not completed. -/
inductive Event
  /-- It is longer than all messages under way may be together. -/
  | tooLong (size : Nat) (sender : Sender)
  /-- A sender used its number again for a message of another shape. -/
  | reshaped (sender : Sender) (sequence : UInt32)
  /-- It waited too long. -/
  | stale (sequence : UInt32) (sender : Sender) (missing : Nat)
  /-- It made way for another. -/
  | crowdedOut (sequence : UInt32) (sender : Sender)

/-- The notice of an event. -/
def Event.notice : Event → Notice
  | .tooLong size sender => .debug s!"udpm: dropping {size} byte message from {sender}: exceeds reassembly limit"
  | .reshaped sender sequence => .debug s!"udpm: {sender} reused sequence {sequence} with a new shape"
  | .stale sequence sender missing =>
    .debug s!"udpm: evicting stale message {sequence} from {sender} ({missing} fragments missing)"
  | .crowdedOut sequence sender =>
    .debug s!"udpm: reassembly table full, evicting message {sequence} from {sender}"

/-- The most messages under way where nothing else is asked for (`MAX_PENDING_MESSAGES`). -/
def defaultMaxMessages : Nat := 1000

/-- The most payload bytes under way where nothing else is asked for (`MAX_PENDING_BYTES`). -/
def defaultMaxBytes : Nat := 16 * 1024 * 1024

/-- Whether a message last touched at `touch` has waited too long at time `now`. -/
def isStale (a : Assembly) (now : Instant) (p : Partial) : Bool :=
  a.timeout < now - p.lastTouch

/-- Gives up the messages that have waited too long (`Reassembler.evict_stale`). -/
def evictStale (a : Assembly) (now : Instant) : Assembly × List Event :=
  let stale := a.pending.filter (a.isStale now)
  ({ a with
      pending := a.pending.filter fun p => !a.isStale now p
      pendingBytes := a.pendingBytes - payloadBytes stale },
    stale.map fun p => .stale p.sequence p.sender p.remaining)

/-- The message touched longest ago, the one begun first where several were. -/
def leastRecent : List Partial → Option Partial
  | [] => none
  | p :: ps =>
    match leastRecent ps with
    | none => some p
    | some q => if q.lastTouch < p.lastTouch then some q else some p

theorem eq_nil_of_leastRecent {ps : List Partial} (h : leastRecent ps = none) : ps = [] := by
  cases ps with
  | nil => rfl
  | cons p ps =>
    rw [leastRecent] at h
    split at h
    · cases h
    · split at h <;> cases h

theorem leastRecent_mem {ps : List Partial} {p : Partial} (h : leastRecent ps = some p) : p ∈ ps := by
  induction ps generalizing p with
  | nil => cases h
  | cons q qs ih =>
    unfold leastRecent at h
    split at h
    · cases h
      exact List.mem_cons_self
    · rename_i r hr
      split at h <;> cases h
      · exact List.mem_cons_of_mem _ (ih hr)
      · exact List.mem_cons_self

theorem lastTouch_leastRecent_le {ps : List Partial} {p : Partial} (h : leastRecent ps = some p) :
    ∀ q ∈ ps, p.lastTouch ≤ q.lastTouch := by
  induction ps generalizing p with
  | nil => cases h
  | cons x ps ih =>
    intro q hq
    unfold leastRecent at h
    split at h
    · rename_i hnone
      cases h
      rw [eq_nil_of_leastRecent hnone, List.mem_singleton] at hq
      exact Nat.le_of_eq (congrArg _ hq.symm)
    · rename_i y hy
      split at h <;> cases h
      · rename_i hlt
        obtain rfl | hq := List.mem_cons.1 hq
        · exact Nat.le_of_lt hlt
        · exact ih hy q hq
      · rename_i hle
        obtain rfl | hq := List.mem_cons.1 hq
        · exact Nat.le_refl _
        · exact Nat.le_trans (Nat.le_of_not_lt hle) (ih hy q hq)

/-- Always the one begun first, of those touched longest ago. -/
def Choice.first : Choice where
  find := leastRecent
  mem := leastRecent_mem
  least := lastTouch_leastRecent_le
  eq_nil := eq_nil_of_leastRecent

/-- An assembly with nothing under way (`Reassembler.with_limits`). -/
def new (timeout : Nat) (maxMessages : Nat := defaultMaxMessages) (maxBytes : Nat := defaultMaxBytes)
    (choices : Nat → Choice := fun _ => .first) : Assembly :=
  { pending := [], pendingBytes := 0, maxMessages, maxBytes, timeout, choices }

/-- Takes the first message with the given key out of a list. -/
def eraseKey (sender : Sender) (sequence : UInt32) (ps : List Partial) : List Partial :=
  ps.eraseP fun p => p.hasKey sender sequence

theorem length_eraseKey_lt {ps : List Partial} {p : Partial} (h : p ∈ ps) :
    (eraseKey p.sender p.sequence ps).length < ps.length := by
  have hk : p.hasKey p.sender p.sequence = true := by simp [Partial.hasKey]
  have hl := List.length_eraseP_of_mem (p := fun q : Partial => q.hasKey p.sender p.sequence) h hk
  have hp := List.length_pos_of_mem h
  unfold eraseKey
  omega

/-- Makes way for a message of `incoming` bytes: messages leave, the one touched longest ago first, until the bounds
leave room or none is left (`Reassembler.make_room`). -/
def makeRoom (a : Assembly) (incoming : Nat) : Assembly × List Event :=
  if a.maxMessages ≤ a.pending.length ∨ a.maxBytes < a.pendingBytes + incoming then
    match _h : (a.choices 0).find a.pending with
    | none => (a, [])
    | some p =>
      let rest := makeRoom
        { a with
          pending := eraseKey p.sender p.sequence a.pending
          pendingBytes := a.pendingBytes - p.data.size
          choices := fun n => a.choices (n + 1) } incoming
      (rest.1, .crowdedOut p.sequence p.sender :: rest.2)
  else (a, [])
termination_by a.pending.length
decreasing_by exact length_eraseKey_lt ((a.choices 0).mem _h)

/-- The message with the given key, if it is under way. -/
def get? (a : Assembly) (sender : Sender) (sequence : UInt32) : Option Partial :=
  a.pending.find? fun p => p.hasKey sender sequence

/-- The table without the message with the given key (`Reassembler.remove`). -/
def remove (a : Assembly) (sender : Sender) (sequence : UInt32) : Assembly :=
  match a.get? sender sequence with
  | none => a
  | some p =>
    { a with
      pending := eraseKey sender sequence a.pending
      pendingBytes := a.pendingBytes - p.data.size }

/-- The table with the message of the same key as `p` replaced by `p`. -/
def replace (a : Assembly) (p : Partial) : Assembly :=
  { a with pending := a.pending.map fun q => if q.hasKey p.sender p.sequence then p else q }

/-- A message as its first fragment finds it: nothing has come in. -/
def blank (sender : Sender) (f : Fragment) (now : Instant) (received : Timestamp) : Partial :=
  { sender
    sequence := f.sequence
    channel := none
    data := Bytes.replicate f.size.toNat 0
    received := Array.replicate f.count.toNat false
    remaining := f.count.toNat
    firstReceived := received
    lastTouch := now }

/-- Begins the message that a fragment belongs to, making room for it (in `Reassembler.insert`). -/
def enter (a : Assembly) (sender : Sender) (f : Fragment) (now : Instant) (received : Timestamp) :
    Assembly × Partial × List Event :=
  let (a, events) := a.makeRoom f.size.toNat
  let p := blank sender f now received
  ({ a with pending := a.pending ++ [p], pendingBytes := a.pendingBytes + f.size.toNat }, p, events)

/-- Whether the fragment belongs to a message of the same payload length and number of fragments. -/
def sameShape (f : Fragment) (p : Partial) : Bool :=
  p.data.size == f.size.toNat && p.received.size == f.count.toNat

/-- Finds the message that a fragment belongs to, or begins it; a message of another shape is given up. -/
def findOrBegin (a : Assembly) (sender : Sender) (f : Fragment) (now : Instant) (received : Timestamp) :
    Assembly × Partial × List Event :=
  match a.get? sender f.sequence with
  | none => a.enter sender f now received
  | some p =>
    if sameShape f p then (a, p, [])
    else
      let (a, p, events) := (a.remove sender f.sequence).enter sender f now received
      (a, p, Event.reshaped sender f.sequence :: events)

/-- The message with one fragment more; none where the fragment has come in before or does not fit (in
`Reassembler.insert`). -/
def place (p : Partial) (f : Fragment) : Option Partial :=
  match p.received[f.index.toNat]? with
  | some false =>
    if p.data.size < f.offset.toNat + f.data.size then none
    else some { p with
      channel := f.channel <|> p.channel
      data := f.data.copySlice 0 p.data f.offset.toNat f.data.size
      received := p.received.setIfInBounds f.index.toNat true
      remaining := p.remaining - 1 }
  | _ => none

/-- Adds one fragment that came in at time `now` with receive time `received` (`Reassembler.insert`). Returns the table,
the message that the fragment completes, if it does and a fragment has told its channel, and the events on the way. -/
def insert (a : Assembly) (sender : Sender) (f : Fragment) (now : Instant) (received : Timestamp) :
    Assembly × Option Message × List Event :=
  let (a, stale) := a.evictStale now
  if a.maxBytes < f.size.toNat then (a, none, stale ++ [Event.tooLong f.size.toNat sender])
  else
    let (a, p, events) := a.findOrBegin sender f now received
    let touched := { p with lastTouch := now }
    match place touched f with
    | none => (a.replace touched, none, stale ++ events)
    | some q =>
      if q.remaining = 0 then
        (a.remove sender f.sequence, q.channel.map fun channel => ⟨channel, q.data, q.firstReceived⟩, stale ++ events)
      else (a.replace q, none, stale ++ events)

/-- How many messages are under way (`Reassembler.len`). -/
def size (a : Assembly) : Nat := a.pending.length

end Assembly
end PubSub.Wire
