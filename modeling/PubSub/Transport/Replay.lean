import PubSub.Journal.Basic
import PubSub.Signal
import PubSub.Transport.Offer

/-!
# Replaying journals

A replay gives out the records of a journal again, those that are wanted, at once or with the pauses that lay between
them. It reads one wanted record ahead, so that its signal is up exactly while one remains.

* `Replay.take`: the next wanted record.
* `Replay.refresh`: brings the signal up to date without giving anything out.
* `Replay.due`: when a record is due.
-/

namespace PubSub

/-- A journal that is being replayed (`ReplayState`). -/
structure Replay where
  /-- The journal, open for reading. -/
  journal : Journal
  /-- How many times faster than recorded; at once for a number that is not positive. -/
  speed : Float
  /-- The record that was read ahead. -/
  pending : Option Journal.Record := none
  /-- When the first record was asked for, in microseconds, and the time recorded with it. -/
  anchor : Option (Nat × Timestamp) := none
  closed : Bool := false
  signal : Signal := {}

namespace Replay

open Journal

/-- What a search for a wanted record goes past. -/
inductive Passed
  | damage (place : Nat) (damage : Damage)
  | unwanted (channel : String)

/-- What is reported of records that nobody wants. -/
def skipNotice (channel : String) : Notice := .trace s!"file: skipping unsubscribed record on {channel}"

/-- What is reported of something gone past. -/
def Passed.notice (path : ByteArray) : Passed → Notice
  | .damage place d => d.notice (pathText path) place
  | .unwanted channel => skipNotice channel

/-- Whether something gone past is a damage. -/
def Passed.isDamage : Passed → Bool
  | .damage .. => true
  | .unwanted _ => false

/-- The first wanted record from `c` on, where the reader then stands and what it went past. -/
def findWanted (f : ByteArray) (wants : String → Bool) (c : Nat) : Option Record × Nat × List Passed :=
  let s := scan f c
  let damages := s.skipped.map fun d => Passed.damage d.1 d.2
  match _ : s.found with
  | none => (none, s.cursor, damages)
  | some (_, r) =>
    if wants r.channel then (some r, s.cursor, damages)
    else
      let rest := findWanted f wants s.cursor
      (rest.1, rest.2.1, damages ++ .unwanted r.channel :: rest.2.2)
termination_by f.size - c
decreasing_by
  rename_i h _
  have := lt_cursor_scan h
  omega

/-- Where the journal's reader stands. -/
def cursor (r : Replay) : Nat := r.journal.tell

/-- Puts the journal's reader elsewhere. -/
def setCursor (r : Replay) (c : Nat) : Replay :=
  match r.journal.use with
  | .reading file _ => { r with journal := { r.journal with use := .reading file c } }
  | .writing _ => r

/-- Reads ahead to the next wanted record. -/
def readAhead (r : Replay) (f : ByteArray) (wants : String → Bool) : Replay × List Notice :=
  let (record, c, passed) := findWanted f wants r.cursor
  ({ r.setCursor c with pending := record }, passed.map (Passed.notice r.journal.path))

/-- Makes the record read ahead a wanted one (`FileProvider.advance`). -/
def advance (r : Replay) (f : ByteArray) (wants : String → Bool) : Replay × List Notice :=
  match r.pending with
  | none => r.readAhead f wants
  | some record =>
    if wants record.channel then (r, [])
    else
      let (r, notices) := r.readAhead f wants
      (r, skipNotice record.channel :: notices)

/-- Brings the signal up to date (`FileProvider.refresh_readiness`). Nothing is given out or gone past for good: what
nobody wants now may be wanted later. -/
def refresh (r : Replay) (f : ByteArray) (wants : String → Bool) : Replay × List Notice :=
  let ahead := match r.pending with
    | some record => wants record.channel
    | none => false
  if ahead then ({ r with signal := r.signal.raise }, [])
  else
    let (record, _, passed) := findWanted f wants r.cursor
    let back := locate f r.cursor
    ({ r.setCursor back.cursor with signal := r.signal.set record.isSome },
      (passed.filter Passed.isDamage).map (Passed.notice r.journal.path) ++
        Journal.notices r.journal.path back.skipped)

/-- The greatest distance of two times that can be told. -/
def maxDistance : Int := Int64.maxValue.toInt

/-- How many microseconds after `start` a record of the time `time` is due. -/
def delay (speed : Float) (start time : Timestamp) : Nat :=
  let distance := min maxDistance (max 0 (time.toInt - start.toInt))
  ((Int64.ofInt distance).toFloat / speed).toUInt64.toNat

/-- When a record is due, and the replay with its anchor laid down; none if there is no waiting
(`FileProvider.due_at`). -/
def due (r : Replay) (now : Nat) (time : Timestamp) : Option Nat × Replay :=
  if 0 < r.speed then
    let anchor := r.anchor.getD (now, time)
    (some (anchor.1 + delay r.speed anchor.2 time), { r with anchor := some anchor })
  else (none, r)

/-- Gives out the record read ahead, and reads on to the next. -/
def giveOut (r : Replay) (f : ByteArray) (wants : String → Bool) (record : Record) :
    Except Error Offer × Replay × List Notice :=
  let (r, notices) := { r with pending := none }.readAhead f wants
  (.ok (.message record.message), { r with signal := r.signal.set r.pending.isSome }, notices)

/-- The next wanted record (`FileProvider.receive`). -/
def take (r : Replay) (f : ByteArray) (wants : String → Bool) (now : Nat) :
    Except Error Offer × Replay × List Notice :=
  if r.closed then (.error .closed, r, [])
  else
    let (r, notices) := r.advance f wants
    match r.pending with
    | none => (.error .endOfLog, { r with signal := r.signal.lower }, notices)
    | some record =>
      let (time, r) := r.due now record.timestamp
      if time.any (now < ·) then (.ok (.later time), r, notices)
      else
        let (offer, r, more) := r.giveOut f wants record
        (offer, r, notices ++ more)

/-- Ends a replay (`FileProvider.close`). -/
def close (r : Replay) : Replay := { r with closed := true, signal := r.signal.lower }

end Replay
end PubSub
