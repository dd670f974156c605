import PubSub.Proofs.Hub.Enlisted
import PubSub.Proofs.Mailbox
import PubSub.Proofs.Replay

/-!
# What transports have to give

Places on buses and replays without pauses are asked for messages in the same way, and answer in the same way: the
messages that are ahead are given out in order, and the signal is up as long as there are any.

* `Hub.ahead`: the messages that a transport has to give.
* `Hub.Live`, `Hub.Ready`: a transport can be asked for messages; its signal tells whether there are any.
* `Hub.Drew`: what a hub becomes when a transport has given something out.

Results:

* `Act.receive_of_cons`, `Act.receive_of_nil`: what a receiver comes to.
* `Act.interestChanged_drew`: after a change of interest the signal is brought up to date.
* `Hub.Ready.deposit`: a message that comes in leaves transports ready.
-/

namespace PubSub

variable {η : Type}

namespace Line

/-- A line by which messages come in: an open place on a bus, or a replay without pauses of a file that can be read. -/
inductive Live (s : Store) : Line → Prop
  | bus {k : Nat} {box : Mailbox} (isOpen : box.closed = false) (unbounded : box.waiting.capacity = none)
    (alert : box.Alert) : Live s (.bus k box)
  | replay {r : Replay} {file : Nat} {f : ByteArray} (runs : r.Runs file) (readable : (s.node file).read = .ok f) :
    Live s (.replay r)

/-- The messages that a line has to give to those who want some channels, oldest first. -/
def ahead (s : Store) (wants : String → Bool) : Line → List Message
  | .bus _ box => box.waiting.toList
  | .replay r =>
    match r.journal.use with
    | .reading file _ =>
      match (s.node file).read with
      | .ok f => (r.ahead f wants).map Journal.Record.message
      | .error _ => []
    | .writing _ => []
  | _ => []

/-- The messages that a replay has not gone past, wanted or not. -/
def rest (s : Store) : Line → List Message
  | .replay r =>
    match r.journal.use with
    | .reading file _ =>
      match (s.node file).read with
      | .ok f => (r.rest f).map Journal.Record.message
      | .error _ => []
    | .writing _ => []
  | _ => []

/-- The file that a replay reads. A line with a file comes to an end, where others would be waited for. -/
def source : Line → Option Nat
  | .replay r =>
    match r.journal.use with
    | .reading file _ => some file
    | .writing _ => none
  | _ => none

/-- What a line has to give is wanted, and its signal tells whether there is something. -/
structure Ready (s : Store) (wants : String → Bool) (line : Line) : Prop where
  live : Live s line
  wanted : ∀ m ∈ line.ahead s wants, wants m.channel = true
  raised : line.signal.raised = true ↔ line.ahead s wants ≠ []
  consistent : line.signal.Consistent

variable {s : Store} {wants : String → Bool} {r : Replay} {file : Nat} {f : ByteArray} {k : Nat} {box : Mailbox}

theorem ahead_replay (runs : r.Runs file) (readable : (s.node file).read = .ok f) :
    (Line.replay r).ahead s wants = (r.ahead f wants).map Journal.Record.message := by
  obtain ⟨c, hc⟩ := runs.reads
  simp only [ahead, hc, readable]

theorem rest_replay (runs : r.Runs file) (readable : (s.node file).read = .ok f) :
    (Line.replay r).rest s = (r.rest f).map Journal.Record.message := by
  obtain ⟨c, hc⟩ := runs.reads
  simp only [rest, hc, readable]

theorem replay_of_source {line : Line} (hline : line.source = some file) : ∃ r, line = .replay r := by
  cases line with
  | replay r => exact ⟨r, rfl⟩
  | bus | multicast | recorder | script => cases hline

theorem source_replay (runs : r.Runs file) : (Line.replay r).source = some file := by
  obtain ⟨c, hc⟩ := runs.reads
  simp only [source, hc]

/-- What a replay has to give is what it has not gone past and is wanted. -/
theorem ahead_of_source {line : Line} (hline : line.source = some file) :
    line.ahead s wants = (line.rest s).filter fun m => wants m.channel := by
  cases line with
  | replay r =>
    simp only [source] at hline
    simp only [ahead, rest]
    split at hline
    · rename_i c hc
      split
      · rename_i f hread
        rw [Replay.ahead, Replay.wanted, List.filter_map]
        rfl
      · rfl
    · cases hline
  | bus | multicast | recorder | script => cases hline

theorem ready_replay (runs : r.Runs file) (readable : (s.node file).read = .ok f)
    (raised : r.signal.raised = true ↔ r.ahead f wants ≠ []) : Ready s wants (.replay r) where
  live := .replay runs readable
  wanted m hm := by
    rw [ahead_replay runs readable] at hm
    obtain ⟨x, hx, rfl⟩ := List.mem_map.1 hm
    exact (List.mem_filter.1 hx).2
  raised := by
    rw [ahead_replay runs readable, ne_eq, List.map_eq_nil_iff]
    exact raised
  consistent := runs.consistent

/-- What a replay has to give depends on no other file. -/
theorem ahead_of_node {s' : Store} {line : Line} (hline : line.source = some file)
    (hnode : s'.node file = s.node file) : line.ahead s' wants = line.ahead s wants := by
  cases line with
  | replay r =>
    simp only [source] at hline
    simp only [ahead]
    split at hline
    · cases hline
      rw [hnode]
    · cases hline
  | bus | multicast | recorder | script => cases hline

theorem Ready.of_node {s' : Store} {line : Line} (hr : Ready s wants line) (hline : line.source = some file)
    (hnode : s'.node file = s.node file) : Ready s' wants line := by
  have hahead : line.ahead s' wants = line.ahead s wants := ahead_of_node hline hnode
  refine ⟨?_, by rw [hahead]; exact hr.wanted, by rw [hahead]; exact hr.raised, hr.consistent⟩
  cases hr.live with
  | bus => cases hline
  | replay runs readable =>
    cases (source_replay runs).symm.trans hline
    exact .replay runs (by rw [hnode]; exact readable)

theorem ready_bus (isOpen : box.closed = false) (unbounded : box.waiting.capacity = none) (alert : box.Alert)
    (wanted : ∀ m ∈ box.waiting.toList, wants m.channel = true) : Ready s wants (.bus k box) where
  live := .bus isOpen unbounded alert
  wanted := wanted
  raised := alert.raised
  consistent := alert.consistent

end Line

namespace Hub

/-- The messages that a transport has to give, oldest first. -/
def ahead (h : Hub η) (t : Nat) : List Message := (h.transport t).line.ahead h.store (h.wants t)

/-- Messages come in by a transport. -/
def Live (h : Hub η) (t : Nat) : Prop := (h.transport t).line.Live h.store

/-- The signal of a transport tells whether it has something to give. -/
def Ready (h : Hub η) (t : Nat) : Prop := (h.transport t).line.Ready h.store (h.wants t)

/-- The messages that a replay by a transport has not gone past. -/
def rest (h : Hub η) (t : Nat) : List Message := (h.transport t).line.rest h.store

/-- The file that a transport replays. -/
def source (h : Hub η) (t : Nat) : Option Nat := (h.transport t).line.source

/-- Whether a transport comes to an end. -/
def ends (h : Hub η) (t : Nat) : Bool := (h.source t).isSome

/-- `g` is what `h` becomes when transport `t` has changed its line and has `ms` to give. -/
structure Drew (t : Nat) (ms : List Message) (h g : Hub η) : Prop where
  roster : g.roster = h.roster
  store : g.store = h.store
  subscription : g.subscription = h.subscription
  broker : g.broker = h.broker
  desk : g.desk = h.desk
  now : h.now ≤ g.now
  others : ∀ u ≠ t, g.transport u = h.transport u
  source : g.source t = h.source t
  ready : g.Ready t
  ahead : g.ahead t = ms

section Frames

variable {h g : Hub η} {t : Nat}

theorem ahead_of_same (ht : (g.transport t).line = (h.transport t).line) (hs : g.store = h.store)
    (hw : g.wants t = h.wants t) : g.ahead t = h.ahead t := by
  rw [ahead, ahead, ht, hs, hw]

theorem Ready.of_same (hr : h.Ready t) (ht : (g.transport t).line = (h.transport t).line) (hs : g.store = h.store)
    (hw : g.wants t = h.wants t) : g.Ready t := by
  rw [Ready, ht, hs, hw]
  exact hr

/-- A change that leaves the lines of transports as they are leaves them ready. -/
theorem ready_of_lines (e : g.roster = h.roster) (ht : ∀ t, (g.transport t).line = (h.transport t).line)
    (hs : g.store = h.store) (t : Nat) (hr : h.Ready t) : g.Ready t :=
  hr.of_same (ht t) hs (wants_of_roster e t)

theorem lt_size_of_live (hl : h.Live t) : t < h.transports.size := by
  by_contra hlt
  rw [Live, transport_of_size_le (by omega)] at hl
  cases hl

theorem Ready.lt_size (hr : h.Ready t) : t < h.transports.size := lt_size_of_live hr.live

theorem line_setLine (ht : t < h.transports.size) (line : Line) : ((h.setLine t line).transport t).line = line := by
  rw [transport_setLine, if_pos ⟨rfl, ht⟩]

theorem rest_setLine (ht : t < h.transports.size) (line : Line) : (h.setLine t line).rest t = line.rest h.store := by
  rw [rest, line_setLine ht]
  rfl

theorem wants_setLine (h : Hub η) (t : Nat) (line : Line) (u : Nat) : (h.setLine t line).wants u = h.wants u :=
  wants_of_roster (roster_setLine h t line) u

theorem drew_setLine (ht : t < h.transports.size) {line : Line} (hready : line.Ready h.store (h.wants t))
    (hsource : line.source = h.source t) (notices : List Notice) :
    Drew t (line.ahead h.store (h.wants t)) h ((h.setLine t line).report notices) where
  roster := roster_setLine h t line
  store := rfl
  subscription := rfl
  broker := rfl
  desk := rfl
  now := Nat.le_refl _
  others u hu := (transport_setLine h t u line).trans (if_neg fun he => hu he.1.symm)
  source := by
    show ((h.setLine t line).transport t).line.source = h.source t
    rw [line_setLine ht]
    exact hsource
  ready := by
    show ((h.setLine t line).transport t).line.Ready h.store ((h.setLine t line).wants t)
    rw [line_setLine ht, wants_setLine]
    exact hready
  ahead := by
    show ((h.setLine t line).transport t).line.ahead h.store ((h.setLine t line).wants t) = _
    rw [line_setLine ht, wants_setLine]

theorem Drew.later {ms : List Message} (hg : Drew t ms h g) {time : Nat} (htime : g.now ≤ time) :
    Drew t ms h { g with now := time } :=
  { hg with now := Nat.le_trans hg.now htime }

theorem Drew.report {ms : List Message} (hg : Drew t ms h g) (notices : List Notice) : Drew t ms h (g.report notices) :=
  ⟨hg.roster, hg.store, hg.subscription, hg.broker, hg.desk, hg.now, hg.others, hg.source, hg.ready, hg.ahead⟩

/-- The other transports are as ready as before. -/
theorem Drew.ready_other {ms : List Message} (hg : Drew t ms h g) {u : Nat} (hu : u ≠ t) (hr : h.Ready u) : g.Ready u :=
  hr.of_same (by rw [hg.others u hu]) hg.store (wants_of_roster hg.roster u)

end Frames

/-- What a receiver comes to if there is nothing ahead: at the end of a replay an error, and otherwise nothing. -/
def drought (h : Hub η) (t : Nat) (deadline : Option Nat) (still : Bool) : Except Halt Reception :=
  if h.ends t then .error (.failed .endOfLog) else .ok (if still || deadline.isNone then .waiting else .nothing)

end Hub

namespace Act

open Hub

variable {h : Hub η} {t : Nat}

/-! ## Receiving -/

/-- The file of a journal is looked at. -/
theorem journalFile_snd (j : Journal) (h : Hub η) : (journalFile j h).2 = h := by
  rw [journalFile]
  cases j.use with
  | reading file c =>
    simp only [readFile, bind_apply, get_apply]
    rw [snd_orHalt]
  | writing w => rfl

/-- What holds, and is kept by what is done with the content of a journal's file, is kept if it cannot be read. -/
theorem journalFile_keeps {α : Type} {P : Hub η → Prop} {j : Journal} {f : ByteArray → Act η α} (hp : P h)
    (hf : ∀ content, P (f content h).2) : P ((journalFile j >>= f) h).2 := by
  have hsame := journalFile_snd j h
  rw [bind_apply]
  generalize journalFile j h = r at hsame
  obtain ⟨e | content, k⟩ := r
  · cases hsame
    exact hp
  · cases hsame
    exact hf content

/-- A replay reads its file. -/
theorem journalFile_of_reads {r : Replay} {file : Nat} {f : ByteArray} (reads : r.Reads file)
    (readable : (h.store.node file).read = .ok f) : journalFile r.journal h = (.ok f, h) := by
  obtain ⟨c, hc⟩ := reads
  simp only [journalFile, hc, readFile, bind_apply, get_apply, readable, Except.mapError, orHalt_ok]

/-- Asking a transport that is ready takes out the first of what is ahead. -/
theorem poll_drew (hr : h.Ready t) (patient : Bool) :
    ∃ g, poll t patient h =
        (match h.ahead t with
          | m :: _ => .ok (.message m)
          | [] => if h.ends t then .error (.failed .endOfLog) else .ok (.later none), g) ∧
      Drew t (h.ahead t).tail h g ∧ g.now = h.now := by
  have ht := hr.lt_size
  have hwanted := hr.wanted
  have hlive := hr.live
  have hsource : h.source t = (h.transport t).line.source := rfl
  simp only [poll, bind_apply, get_apply, Hub.ahead] at hwanted ⊢
  generalize (h.transport t).line = line at hlive hwanted hsource ⊢
  cases hlive with
  | bus isOpen unbounded alert =>
    rename_i k box
    have hall : ∀ m ∈ box.waiting.toList, h.wants t m.channel = true := hwanted
    obtain ⟨hfirst, hrest⟩ := Mailbox.takeWanted_of_wanted hall
    have hready : Line.Ready h.store (h.wants t)
        (.bus k (Mailbox.settle { box with waiting := (Mailbox.takeWanted (h.wants t) box.waiting).2.1 })) := by
      refine Line.ready_bus (by simpa using isOpen) (by simpa using unbounded) (Mailbox.alert_taken alert ?_) ?_
      · intro hne hnil
        rw [hrest, hnil] at hne
        exact hne rfl
      · intro m hm
        rw [Mailbox.waiting_settle, hrest] at hm
        exact hwanted m (List.mem_of_mem_tail hm)
    have hdrew := drew_setLine ht hready hsource.symm (Mailbox.takeWanted (h.wants t) box.waiting).2.2
    simp only [Line.ahead, Mailbox.waiting_settle, hrest] at hdrew
    refine ⟨_, ?_, hdrew, rfl⟩
    simp only [Mailbox.take_of_open isOpen, hfirst, ends, hsource, Line.ahead, Line.source]
    cases box.waiting.toList <;> rfl
  | replay runs readable =>
    rename_i r file f
    have hread := journalFile_of_reads runs.reads readable
    have hfile : h.source t = some file := hsource.trans (Line.source_replay runs)
    simp only [bind_apply, hread, modify_apply, Line.ahead_replay runs readable]
    cases hahead : r.ahead f (h.wants t) with
    | nil =>
      obtain ⟨r', notices, htake, hruns, hnil, hlow⟩ := Replay.take_of_nil runs hahead h.now
      have hready : Line.Ready h.store (h.wants t) (.replay r') :=
        Line.ready_replay hruns readable (iff_of_false (by rw [hlow]; exact Bool.false_ne_true) (by simp [hnil]))
      have hdrew := drew_setLine ht hready ((Line.source_replay hruns).trans hfile.symm) notices
      rw [Line.ahead_replay hruns readable, hnil] at hdrew
      refine ⟨_, ?_, hdrew, rfl⟩
      simp only [htake, orHalt_error, ends, hfile, Option.isSome_some, List.map_nil, if_true]
    | cons x xs =>
      obtain ⟨r', notices, htake, hruns, hrest, hup⟩ := Replay.take_of_cons runs hahead h.now
      have hready : Line.Ready h.store (h.wants t) (.replay r') :=
        Line.ready_replay hruns readable (by rw [hrest]; exact hup)
      have hdrew := drew_setLine ht hready ((Line.source_replay hruns).trans hfile.symm) notices
      rw [Line.ahead_replay hruns readable, hrest] at hdrew
      refine ⟨_, ?_, hdrew, rfl⟩
      simp only [htake, orHalt_ok, List.map_cons]

/-- The first message that is ahead is received. -/
theorem receive_of_cons (hr : h.Ready t) {m : Message} {ms : List Message} (hahead : h.ahead t = m :: ms)
    (deadline : Option Nat) (still : Bool) :
    ∃ g, receive t deadline still h = (.ok (.message m), g) ∧ Drew t ms h g := by
  obtain ⟨g, hpoll, hdrew, -⟩ := poll_drew hr deadline.isNone
  rw [hahead] at hpoll hdrew
  refine ⟨g, ?_, hdrew⟩
  simp only [receive, bind_apply, hpoll, pure_apply]

/-- If nothing is ahead, nothing is received. -/
theorem receive_of_nil (hr : h.Ready t) (hahead : h.ahead t = []) (deadline : Option Nat) (still : Bool) :
    ∃ g, receive t deadline still h = (h.drought t deadline still, g) ∧ Drew t [] h g := by
  obtain ⟨g, hpoll, hdrew, -⟩ := poll_drew hr deadline.isNone
  rw [hahead] at hpoll hdrew
  simp only [receive, bind_apply, hpoll, drought]
  cases h.ends t with
  | true => exact ⟨g, rfl, hdrew⟩
  | false =>
    simp only [Bool.false_eq_true, if_false, ite_apply, pure_apply]
    cases still with
    | true => exact ⟨g, rfl, hdrew⟩
    | false =>
      cases deadline with
      | none => exact ⟨g, rfl, hdrew⟩
      | some d => exact ⟨_, rfl, hdrew.later (Nat.le_max_left ..)⟩

/-! ## Changes of interest -/

/-- After a change of interest a transport has to give what is still wanted, and its signal tells so. -/
theorem interestChanged_drew (hl : h.Live t) :
    ∃ g, interestChanged t h = (.ok (), g) ∧ Drew t ((h.ahead t).filter fun m => h.wants t m.channel) h g ∧
      g.rest t = h.rest t := by
  have ht := lt_size_of_live hl
  have hsource : h.source t = (h.transport t).line.source := rfl
  have hrest : h.rest t = (h.transport t).line.rest h.store := rfl
  simp only [interestChanged, bind_apply, get_apply, Hub.ahead, Hub.Live] at hl ⊢
  generalize (h.transport t).line = line at hl hsource hrest ⊢
  cases hl with
  | bus isOpen unbounded alert =>
    rename_i k box
    have hready : Line.Ready h.store (h.wants t) (.bus k (box.retain (h.wants t)).1) := by
      refine Line.ready_bus (by simpa using isOpen) (by simpa using unbounded) (Mailbox.alert_retain alert) ?_
      intro m hm
      rw [Mailbox.toList_retain] at hm
      exact (List.mem_filter.1 hm).2
    have hdrew := drew_setLine ht hready hsource.symm (box.retain (h.wants t)).2
    simp only [Line.ahead, Mailbox.toList_retain] at hdrew
    exact ⟨_, by simp only [modify_apply], hdrew,
      (rest_setLine ht (.bus k (box.retain (h.wants t)).1)).trans hrest.symm⟩
  | replay runs readable =>
    rename_i r file f
    have hread := journalFile_of_reads runs.reads readable
    obtain ⟨hruns, hsame, hup⟩ := Replay.refresh_rest runs f (h.wants t)
    have hahead := Replay.ahead_refresh runs f (h.wants t)
    have hready : Line.Ready h.store (h.wants t) (.replay (r.refresh f (h.wants t)).1) :=
      Line.ready_replay hruns readable (by rw [hahead]; exact hup)
    have hfile := Line.source_replay runs
    have hdrew := drew_setLine ht hready ((Line.source_replay hruns).trans (hsource.trans hfile).symm)
      (r.refresh f (h.wants t)).2
    have hrefreshed : ((h.setLine t (.replay (r.refresh f (h.wants t)).1)).report (r.refresh f (h.wants t)).2).rest t =
        h.rest t := by
      refine (rest_setLine ht _).trans (Eq.trans ?_ hrest.symm)
      rw [Line.rest_replay hruns readable, Line.rest_replay runs readable, hsame]
    rw [Line.ahead_replay hruns readable, hahead, ← Line.ahead_replay runs readable] at hdrew
    rw [Line.ahead_of_source hfile, List.filter_filter]
    simp only [Bool.and_self]
    rw [← Line.ahead_of_source hfile]
    exact ⟨_, by simp only [bind_apply, hread, modify_apply], hdrew, hrefreshed⟩

end Act

namespace Hub

/-! ## Messages that come in -/

variable {h : Hub η} {t : Nat}

/-- A message that comes in changes one line at most. -/
theorem deposit_eq (h : Hub η) (u : Nat) (m : Message) :
    h.deposit u m = h ∨ ∃ k box, (h.transport u).line = .bus k box ∧
      h.deposit u m = (h.setLine u (.bus k (box.put (h.wants u) m).1)).report (box.put (h.wants u) m).2 := by
  unfold deposit
  cases hline : (h.transport u).line with
  | bus k box => exact Or.inr ⟨k, box, rfl, rfl⟩
  | _ => exact Or.inl rfl

/-- What stays as it is when messages come in. -/
structure Filled (h g : Hub η) : Prop where
  roster : g.roster = h.roster
  store : g.store = h.store
  subscription : g.subscription = h.subscription
  broker : g.broker = h.broker
  desk : g.desk = h.desk
  ready : ∀ t, h.Ready t → g.Ready t

theorem Filled.trans {f g : Hub η} (hf : Filled h f) (hg : Filled f g) : Filled h g where
  roster := hg.roster.trans hf.roster
  store := hg.store.trans hf.store
  subscription := hg.subscription.trans hf.subscription
  broker := hg.broker.trans hf.broker
  desk := hg.desk.trans hf.desk
  ready t hr := hg.ready t (hf.ready t hr)

theorem filled_deposit (h : Hub η) (u : Nat) (m : Message) : Filled h (h.deposit u m) := by
  rcases deposit_eq h u m with he | ⟨k, box, hline, he⟩
  · rw [he]
    exact ⟨rfl, rfl, rfl, rfl, rfl, fun _ hr => hr⟩
  · rw [he]
    refine ⟨(roster_report ..).trans (roster_setLine ..), rfl, rfl, rfl, rfl, fun t hr => ?_⟩
    by_cases htu : t = u
    · subst htu
      have hlive := hr.live
      have hwanted := hr.wanted
      rw [hline] at hlive hwanted
      cases hlive with
      | bus isOpen unbounded alert =>
        refine (drew_setLine hr.lt_size ?_ (by rw [source, hline]; rfl) (box.put (h.wants t) m).2).ready
        refine Line.ready_bus (by simpa using isOpen) (by simpa using unbounded)
          (Mailbox.alert_put alert unbounded m) fun m' hm' => ?_
        rw [Mailbox.toList_put unbounded] at hm'
        rcases List.mem_append.1 hm' with hm' | hm'
        · exact hwanted m' hm'
        · split at hm'
          · rename_i hin
            rw [List.mem_singleton.1 hm']
            exact hin.2
          · cases hm'
    · have hline' : ((h.setLine u (.bus k (box.put (h.wants u) m).1)).transport t) = h.transport t :=
        (transport_setLine h u t _).trans (if_neg fun he => htu he.1.symm)
      exact hr.of_same (congrArg Transport.line hline') rfl (wants_setLine ..)

theorem filled_broadcast (h : Hub η) (k : Nat) (m : Message) : Filled h (h.broadcast k m) := by
  unfold broadcast
  induction h.bus k generalizing h with
  | nil => exact ⟨rfl, rfl, rfl, rfl, rfl, fun _ hr => hr⟩
  | cons u l ih => exact (filled_deposit h u m).trans (ih _)

theorem filled_readClock (h : Hub η) (u : Nat) : Filled h (h.readClock u).1 := by
  have hroster : (h.readClock u).1.roster = h.roster := roster_of_wiring (wiring_readClock h u)
  exact ⟨hroster, rfl, rfl, rfl, rfl, fun t hr => hr.of_same (line_readClock h u t) rfl (wants_of_roster hroster t)⟩

end Hub
end PubSub
