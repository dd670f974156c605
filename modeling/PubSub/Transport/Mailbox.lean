import PubSub.Backlog
import PubSub.Error
import PubSub.Notice
import PubSub.Signal
import PubSub.Transport.Offer

/-!
# Mailboxes

A mailbox holds the messages that have come in for a broker until it asks for them. Only wanted messages are let in,
and those that are no longer wanted when their turn comes are thrown away. The signal is up while messages wait.

* `Mailbox.put`, `Mailbox.take`: messages come in and go out.
* `Mailbox.retain`: throws away what is no longer wanted.
* `Mailbox.close`: empties the mailbox for good.
-/

namespace PubSub

/-- Messages that wait for their broker (`Inbox`). -/
structure Mailbox where
  /-- The messages, oldest first. -/
  waiting : Backlog := .new none
  closed : Bool := false
  signal : Signal := {}

namespace Mailbox

/-- Lowers the signal if nothing waits. -/
def settle (box : Mailbox) : Mailbox :=
  if box.waiting.size = 0 then { box with signal := box.signal.lower } else box

/-- Lets a message in (`Inbox.push`). -/
def put (box : Mailbox) (wants : String → Bool) (m : Message) : Mailbox × List Notice :=
  if wants m.channel then
    if box.closed then (box, [])
    else ({ box with waiting := (box.waiting.push m).2, signal := box.signal.raise }, [])
  else (box, [.trace s!"inbox: no subscribers on {m.channel}, dropping"])

/-- The first wanted message; the ones before it are thrown away. -/
def takeWanted (wants : String → Bool) (q : Backlog) : Option Message × Backlog × List Notice :=
  match _ : q.pop with
  | none => (none, q, [])
  | some (m, rest) =>
    if wants m.channel then (some m, rest, [])
    else
      let r := takeWanted wants rest
      (r.1, r.2.1, .trace s!"inbox: {m.channel} no longer subscribed, dropping" :: r.2.2)
termination_by q.size
decreasing_by
  rename_i h _
  have := Backlog.size_of_pop h
  omega

/-- The next message (`Inbox.receive`). -/
def take (box : Mailbox) (wants : String → Bool) : Except Error Offer × Mailbox × List Notice :=
  if box.closed then (.error .closed, box, [])
  else
    let (m, waiting, notices) := takeWanted wants box.waiting
    let offer := match m with
      | some m => .message m
      | none => .later none
    (.ok offer, settle { box with waiting }, notices)

/-- Throws away what is no longer wanted (`Inbox.retain_wanted`). -/
def retain (box : Mailbox) (wants : String → Bool) : Mailbox × List Notice :=
  let waiting := box.waiting.retain fun m => wants m.channel
  let gone := box.waiting.size - waiting.size
  (settle { box with waiting }, if gone = 0 then [] else [.trace s!"inbox: dropped {gone} unsubscribed messages"])

/-- Empties the mailbox for good (`Inbox.close`). -/
def close (box : Mailbox) : Mailbox :=
  { waiting := box.waiting.clear, closed := true, signal := box.signal.lower }

end Mailbox
end PubSub
