import PubSub.Proofs.Hub.Steering

/-!
# Signals of places on buses

A place on a bus keeps its signal to its mailbox: it is up exactly while a message waits that can be received. That
holds after every call to any transport, and after every change of an interest of which all are told who use it. Until
then messages may wait that nobody wants any more.

* `Mailbox.Telling`: the signal of a mailbox tells whether messages wait.
* `Hub.Tuned`: the mailboxes of a hub are telling, and what waits in them is wanted.

Results:

* `Hub.Tuned.perform`: calls keep a hub tuned; `Hub.Tuned.retune`: so does a change of which all are told.
* `Hub.receive_iff_take`: what is received at a place on a bus.
* `Hub.signals_exact`: what can be said of places on buses after whatever was done.
-/

namespace PubSub

open Carriage

variable {η : Type}

/-! ## Mailboxes -/

namespace Mailbox

/-- The signal of a mailbox tells whether messages wait. As many may wait as come, but none once it is closed. -/
structure Telling (box : Mailbox) : Prop extends Alert box where
  unbounded : box.waiting.capacity = none
  shut : box.closed = true → box.waiting.toList = []

variable {box : Mailbox} {wants : String → Bool}

theorem telling_new : Telling {} := ⟨⟨by simp, Signal.consistent_new⟩, rfl, fun _ => rfl⟩

theorem Telling.put (hb : box.Telling) (wants : String → Bool) (m : Message) : (box.put wants m).1.Telling := by
  refine ⟨alert_put hb.toAlert hb.unbounded m, (capacity_put box m).trans hb.unbounded, fun hc => ?_⟩
  rw [closed_put] at hc
  rw [toList_put hb.unbounded, hb.shut hc, hc]
  simp

theorem mem_put (hb : box.Telling) {m m' : Message} (hm : m' ∈ (box.put wants m).1.waiting.toList) :
    m' ∈ box.waiting.toList ∨ wants m'.channel = true := by
  rw [toList_put hb.unbounded, List.mem_append] at hm
  rcases hm with hm | hm
  · exact Or.inl hm
  · split at hm
    · rename_i hlet
      rw [List.mem_singleton.1 hm]
      exact Or.inr hlet.2
    · cases hm

theorem waiting_take_of_open (hc : box.closed = false) (wants : String → Bool) :
    (box.take wants).2.1.waiting.toList = (skip wants box.waiting.toList).tail := by
  rw [take_of_open hc, waiting_settle, (takeWanted_eq wants box.waiting).2]

theorem mem_take {m : Message} (hm : m ∈ (box.take wants).2.1.waiting.toList) : m ∈ box.waiting.toList := by
  cases hc : box.closed with
  | true =>
    rw [take_of_closed hc] at hm
    exact hm
  | false =>
    rw [waiting_take_of_open hc] at hm
    exact (List.dropWhile_suffix _).subset (List.mem_of_mem_tail hm)

theorem Telling.take (hb : box.Telling) (wants : String → Bool) : (box.take wants).2.1.Telling := by
  cases hc : box.closed with
  | true =>
    rw [take_of_closed hc]
    exact hb
  | false =>
    rw [take_of_open hc]
    refine ⟨alert_taken hb.toAlert fun hne => ?_, ?_, fun hc' => ?_⟩
    · obtain ⟨m, hm⟩ := List.exists_mem_of_ne_nil _ hne
      rw [(takeWanted_eq wants box.waiting).2] at hm
      exact List.ne_nil_of_mem ((List.dropWhile_suffix _).subset (List.mem_of_mem_tail hm))
    · rw [waiting_settle]
      exact (capacity_takeWanted box.waiting).trans hb.unbounded
    · rw [closed_settle] at hc'
      exact Bool.noConfusion (hc.symm.trans hc')

theorem Telling.retain (hb : box.Telling) (wants : String → Bool) : (box.retain wants).1.Telling := by
  refine ⟨alert_retain hb.toAlert, (capacity_retain box).trans hb.unbounded, fun hc => ?_⟩
  rw [closed_retain] at hc
  rw [toList_retain, hb.shut hc]
  rfl

theorem Telling.close (hb : box.Telling) : box.close.Telling :=
  ⟨⟨iff_of_false (by simp [Mailbox.close]) (by simp [Mailbox.close]), Signal.consistent_lower hb.consistent⟩,
    hb.unbounded, fun _ => rfl⟩

/-- If all that waits is wanted, a message can be taken exactly while the signal is up. -/
theorem Telling.raised_iff_take (hb : box.Telling) (hwanted : ∀ m ∈ box.waiting.toList, wants m.channel = true) :
    box.signal.raised = true ↔ ∃ m, (box.take wants).1 = .ok (.message m) := by
  rw [hb.raised]
  cases hc : box.closed with
  | true => exact iff_of_false (fun hne => hne (hb.shut hc)) fun ⟨m, hm⟩ => by rw [take_of_closed hc] at hm; cases hm
  | false =>
    rw [take_of_open hc, (takeWanted_of_wanted hwanted).1]
    cases box.waiting.toList <;> simp

end Mailbox

/-- The mailbox of a line that has its place on a bus; lines of another kind have an empty one. -/
def Line.inbox : Line → Mailbox
  | .bus _ box => box
  | _ => {}

namespace Hub

variable {h g : Hub η} {stale : List Nat} {t u : Nat}

theorem box_eq (h : Hub η) (t : Nat) : h.box t = (h.transport t).line.inbox := rfl

/-- The mailboxes of a hub are telling, and what waits in them is wanted. Those of the transports in `stale` have still
to be told of a change. -/
structure Tuned (stale : List Nat) (h : Hub η) : Prop where
  telling : ∀ t, (h.box t).Telling
  wanted : ∀ t, t ∉ stale → ∀ m ∈ h.waiting t, h.wants t m.channel = true

/-! ## Changes of tables -/

/-- The mailboxes are the same, and nobody wants less. -/
theorem Tuned.of_box (ht : h.Tuned stale) (hbox : ∀ t, g.box t = h.box t)
    (hwants : ∀ t channel, h.wants t channel = true → g.wants t channel = true) : g.Tuned stale where
  telling t := hbox t ▸ ht.telling t
  wanted t hs m hm := by
    rw [waiting, hbox] at hm
    exact hwants t _ (ht.wanted t hs m hm)

/-- Whatever has changed, transports and interests have not. -/
theorem Tuned.of_tables (ht : h.Tuned stale) (htransports : g.transports = h.transports)
    (hinterests : g.interests = h.interests) : g.Tuned stale := by
  have htransport : g.transport = h.transport := by unfold transport; rw [htransports]
  have hinterest : g.interest = h.interest := by unfold interest; rw [hinterests]
  refine ht.of_box (fun t => ?_) fun t channel hw => ?_
  · rw [box_eq, htransport, box_eq]
  · rwa [wants, hinterest, htransport]

theorem Tuned.report (ht : h.Tuned stale) (notices : List Notice) : (h.report notices).Tuned stale :=
  ht.of_tables rfl rfl

/-- A line is changed into one whose mailbox is telling. -/
theorem Tuned.setLine (ht : h.Tuned stale) {line : Line} (telling : line.inbox.Telling)
    (wanted : u ∉ stale → ∀ m ∈ line.inbox.waiting.toList, h.wants u m.channel = true) :
    (h.setLine u line).Tuned stale := by
  have hline : ∀ t, (h.setLine u line).box t = line.inbox ∧ t = u ∨ (h.setLine u line).box t = h.box t := fun t => by
    rw [box_eq, transport_setLine]
    split
    · rename_i hut
      exact Or.inl ⟨rfl, hut.1.symm⟩
    · exact Or.inr rfl
  refine ⟨fun t => ?_, fun t hs m hm => ?_⟩
  · rcases hline t with ⟨hbox, -⟩ | hbox <;> rw [hbox]
    · exact telling
    · exact ht.telling t
  · rw [wants_setLine]
    rcases hline t with ⟨hbox, rfl⟩ | hbox <;> rw [waiting, hbox] at hm
    · exact wanted hs m hm
    · exact ht.wanted t hs m hm

/-- Another mailbox is put in the place of one. -/
theorem Tuned.setBox (ht : h.Tuned stale) (k : Nat) {box : Mailbox} (telling : box.Telling)
    (wanted : u ∉ stale → ∀ m ∈ box.waiting.toList, h.wants u m.channel = true) :
    (h.setLine u (.bus k box)).Tuned stale :=
  ht.setLine telling wanted

/-- A line that has no mailbox on a bus takes the place of another one. -/
theorem Tuned.setLine_new (ht : h.Tuned stale) {line : Line} (hline : line.inbox = {}) :
    (h.setLine u line).Tuned stale :=
  ht.setLine (hline ▸ Mailbox.telling_new) fun _ m hm => by
    rw [hline] at hm
    cases hm

theorem Tuned.readClock (ht : h.Tuned stale) (u : Nat) : (h.readClock u).1.Tuned stale :=
  ht.of_box (fun t => by rw [box_eq, line_readClock, box_eq]) fun t channel hw => by
    rwa [wants_of_roster (roster_of_wiring (wiring_readClock h u))]

/-- A transport is made with nothing in its mailbox. -/
theorem Tuned.addTransport (ht : h.Tuned stale) (tr : Transport) (hline : tr.line.inbox = {}) :
    (h.addTransport tr).1.Tuned stale := by
  have hnew : ∀ t, ((h.addTransport tr).1.box t = h.box t ∧ (h.addTransport tr).1.wants t = h.wants t) ∨
      (h.addTransport tr).1.box t = {} := fun t => by
    rw [box_eq, wants, transport_addTransport]
    split
    · exact Or.inr hline
    · exact Or.inl ⟨rfl, rfl⟩
  refine ⟨fun t => ?_, fun t hs m hm => ?_⟩
  · rcases hnew t with ⟨hbox, -⟩ | hbox <;> rw [hbox]
    · exact ht.telling t
    · exact Mailbox.telling_new
  · rcases hnew t with ⟨hbox, hwants⟩ | hbox <;> rw [waiting, hbox] at hm
    · rw [hwants]
      exact ht.wanted t hs m hm
    · cases hm

/-- An interest is made that no transport has yet. -/
theorem Tuned.addInterest (ht : h.Tuned stale) (i : Interest) : (h.addInterest i).1.Tuned stale := by
  refine ht.of_box (fun _ => rfl) fun t channel hw => ?_
  have hinterest := getD_push h.interests i .nothing (h.transport t).interest
  by_cases hnew : (h.transport t).interest = h.interests.size
  · -- who had no interest wanted nothing
    have hnone : h.interest (h.transport t).interest = .nothing := by
      rw [hnew]
      simp [interest]
    rw [wants, hnone] at hw
    cases hw
  · rw [if_neg hnew] at hinterest
    rw [wants] at hw ⊢
    exact (congrArg (fun i => Interest.wants i channel) hinterest).trans hw

/-! ## Messages that come in -/

theorem Tuned.deposit (ht : h.Tuned stale) (u : Nat) (m : Message) : (h.deposit u m).Tuned stale := by
  rcases deposit_eq h u m with he | ⟨k, box, hline, he⟩ <;> rw [he]
  · exact ht
  · have hbox : h.box u = box := by rw [box_eq, hline]; rfl
    have htelling : box.Telling := hbox ▸ ht.telling u
    refine (ht.setBox k (htelling.put _ m) fun hs m' hm => ?_).report _
    rcases Mailbox.mem_put htelling hm with hm | hw
    · exact ht.wanted u hs m' (by rwa [waiting, hbox])
    · exact hw

theorem Tuned.broadcast (ht : h.Tuned stale) (k : Nat) (m : Message) : (h.broadcast k m).Tuned stale := by
  unfold Hub.broadcast
  induction h.bus k generalizing h with
  | nil => exact ht
  | cons u l ih => exact ih (ht.deposit u m)

/-! ## The end of a transport -/

theorem Tuned.closeTransport (ht : h.Tuned stale) (u : Nat) : (h.closeTransport u).Tuned stale := by
  have htelling := ht.telling u
  rw [box_eq] at htelling
  unfold Hub.closeTransport
  split
  · rename_i k box hline
    rw [hline] at htelling
    exact ht.setBox k htelling.close fun _ _ hm => nomatch hm
  · split
    · exact ht
    · exact ht.setLine_new rfl
  · rename_i j closed hline
    have hstored : Tuned stale { h with store := (j.flush h.store).2.2 } := ht.of_tables rfl rfl
    exact (hstored.setLine_new rfl).report _
  · exact ht.setLine_new rfl
  · exact ht.setLine_new rfl

theorem Tuned.releaseTransport (ht : h.Tuned stale) (u : Nat) : (h.releaseTransport u).Tuned stale := by
  unfold Hub.releaseTransport
  split
  · exact ht.of_tables rfl rfl
  · exact ht.closeTransport u
  · exact ht.of_tables rfl rfl
  · exact ht
  · exact ht

/-! ## Sending and receiving -/

theorem Tuned.send (ht : h.Tuned stale) (u : Nat) (channel : String) (payload : ByteArray) :
    (Act.send u channel payload h).2.Tuned stale := by
  simp only [Act.send, Act.bind_apply, Act.get_apply]
  cases (h.transport u).line with
  | bus k box =>
    simp only [Act.ite_apply]
    split
    · exact ht
    · exact (ht.readClock u).broadcast _ _
  | multicast s sequence stopped box =>
    simp only [Act.ite_apply]
    split
    · exact ht
    · rcases Act.sendToGroup_snd u s sequence box channel payload h with hsend | ⟨notices, hsend⟩ <;> rw [hsend]
      · exact ht
      · exact (ht.report notices).setLine_new rfl
  | recorder j closed =>
    simp only [Act.ite_apply]
    split
    · exact ht
    · obtain ⟨store, j', hsend, -, -⟩ := Act.sendToJournal_snd u j channel payload h
      have hstored : Tuned stale { (h.readClock u).1 with store } := (ht.readClock u).of_tables rfl rfl
      rw [hsend]
      exact hstored.setLine_new rfl
  | replay r => exact ht
  | script s =>
    simp only [Act.bind_apply, Act.modify_apply]
    rw [Act.snd_orHalt]
    exact ht.setLine_new rfl

theorem Tuned.poll (ht : h.Tuned stale) (u : Nat) (patient : Bool) : (Act.poll u patient h).2.Tuned stale := by
  rw [Act.poll, Act.bind_apply, Act.get_apply]
  simp only
  cases hline : (h.transport u).line with
  | bus k box =>
    have hbox : h.box u = box := by rw [box_eq, hline]; rfl
    simp only [Act.bind_apply, Act.modify_apply]
    rw [Act.snd_orHalt]
    refine (ht.setBox k (Mailbox.Telling.take (hbox ▸ ht.telling u) _) fun hs m hm => ?_).report _
    exact ht.wanted u hs m (by rw [waiting, hbox]; exact Mailbox.mem_take hm)
  | multicast s sequence stopped box =>
    simp only [Act.bind_apply, Act.modify_apply]
    rw [Act.snd_orHalt]
    exact (ht.setLine_new rfl).report _
  | recorder j closed => exact ht
  | replay r =>
    refine Act.journalFile_keeps ht fun f => ?_
    simp only [Act.bind_apply, Act.modify_apply]
    rw [Act.snd_orHalt]
    exact (ht.setLine_new rfl).report _
  | script s =>
    simp only [Act.bind_apply, Act.modify_apply]
    rw [Act.snd_orHalt]
    exact ht.setLine_new rfl

theorem Tuned.receive (ht : h.Tuned stale) (u : Nat) (deadline : Option Nat) (still : Bool) :
    (Act.receive u deadline still h).2.Tuned stale :=
  Act.receive_keeps (fun _ patient hg => hg.poll u patient) (fun _ _ hg => hg.of_tables rfl rfl) ht deadline still

/-! ## Changes of interest -/

/-- When a transport is told of a change, nothing remains in its mailbox that is not wanted now. -/
theorem Tuned.interestChanged (ht : h.Tuned (u :: stale)) : (Act.interestChanged u h).2.Tuned stale := by
  -- a transport without a mailbox had nothing that was not wanted
  have hnone : (h.transport u).line.inbox = {} → h.Tuned stale := fun hline => by
    refine ⟨ht.telling, fun t hs m hm => ?_⟩
    by_cases htu : t = u
    · rw [waiting, box_eq, htu, hline] at hm
      cases hm
    · exact ht.wanted t (List.not_mem_cons_of_ne_of_not_mem htu hs) m hm
  rw [Act.interestChanged, Act.bind_apply, Act.get_apply]
  simp only
  cases hline : (h.transport u).line <;> rw [hline] at hnone
  case bus k box =>
    have htelling := ht.telling u
    have hset : (h.setLine u (.bus k (box.retain (h.wants u)).1)).Tuned (u :: stale) := by
      rw [box_eq, hline] at htelling
      exact ht.setBox k (htelling.retain _) fun hs => absurd List.mem_cons_self hs
    refine Tuned.report ⟨hset.telling, fun t hs m hm => ?_⟩ _
    by_cases htu : t = u
    · subst htu
      have hplace : h.place t = some k := by rw [place, hline]
      rw [waiting_setLine _ hplace, if_pos rfl, Mailbox.toList_retain] at hm
      rw [wants_setLine]
      exact (List.mem_filter.1 hm).2
    · exact hset.wanted t (List.not_mem_cons_of_ne_of_not_mem htu hs) m hm
  case multicast s sequence stopped box => exact ((hnone rfl).setLine_new rfl).report _
  case recorder j closed => exact hnone rfl
  case replay r => exact Act.journalFile_keeps (hnone rfl) fun f => ((hnone rfl).setLine_new rfl).report _
  case script s => exact (hnone rfl).setLine_new rfl

/-- When all have been told who had to be, nobody has to be told any more. -/
theorem Tuned.tell {told : List Nat} (ht : h.Tuned told) : (h.tell told).Tuned [] := by
  unfold Hub.tell
  induction told generalizing h with
  | nil => exact ht
  | cons t told ih => exact ih ht.interestChanged

/-- A change of an interest of which all are told who serve it. -/
theorem Tuned.retune (ht : h.Tuned []) {i : Nat} (change : Interest → Interest) {told : List Nat}
    (htold : ∀ t < h.transports.size, (h.transport t).interest = i → t ∈ told) : (h.retune i change told).Tuned [] := by
  have hchanged : (h.modifyInterest i change).Tuned told := by
    refine ⟨ht.telling, fun t hs m hm => ?_⟩
    have hm : m ∈ h.waiting t := hm
    have hmade : t < h.transports.size := by
      by_contra hle
      rw [waiting, box_eq, transport_of_size_le (Nat.le_of_not_lt hle)] at hm
      cases hm
    have hsame : (h.modifyInterest i change).wants t = h.wants t := by
      rw [wants, interest_modifyInterest, if_neg fun he => hs (htold t hmade he.1.symm)]
      rfl
    rw [hsame]
    exact ht.wanted t List.not_mem_nil m hm
  exact hchanged.tell

/-- To tell a transport of a change that there was not makes no difference to what may wait. -/
theorem Tuned.retold (ht : h.Tuned []) (u : Nat) : (Act.interestChanged u h).2.Tuned [] :=
  Tuned.interestChanged ⟨ht.telling, fun t _ => ht.wanted t List.not_mem_nil⟩

/-! ## Opening -/

theorem Tuned.openTransport (ht : h.Tuned stale) (a : Address) (exchange i : Nat) (clock : Clock) :
    (Act.openTransport a exchange i clock h).2.Tuned stale := by
  cases a with
  | bus key =>
    have hbus : (h.busOf exchange key).1.Tuned stale := by
      unfold busOf
      split <;> exact ht.of_tables rfl rfl
    have hadd := hbus.addTransport { line := .bus (h.busOf exchange key).2 {}, interest := i, clock } rfl
    exact hadd.of_tables rfl rfl
  | multicast s =>
    simp only [Act.openTransport, Act.openGroup, Act.bind_apply, Act.ite_apply, Act.report_apply, Act.change_apply]
    have hadd : ∀ k : Hub η, k.transports = h.transports → k.interests = h.interests →
        (k.addTransport { line := .multicast s 0 false {}, interest := i, clock }).1.Tuned stale := fun k hk hi =>
      (ht.of_tables hk hi).addTransport _ rfl
    split <;> split <;> exact hadd _ rfl rfl
  | file a =>
    by_cases hmode : a.mode = .read
    · rcases Act.openFile_reading h hmode i clock with ⟨file, c, f, started, notices, -, -, -, -, -, he⟩ |
        ⟨-, e, notices, he⟩ <;> rw [Act.openTransport, he]
      · exact Tuned.addTransport (h := { h with notices }) (ht.of_tables rfl rfl) _ rfl
      · exact ht.of_tables rfl rfl
    · rw [Act.openTransport, Act.openFile_recorder hmode, Act.bind_apply, Act.openJournal_apply]
      cases (Journal.openFile h.store a.path a.mode).1 with
      | error e => exact ht.of_tables rfl rfl
      | ok j =>
        refine Tuned.addTransport (Tuned.report (h := Hub.report { h with store := _ } _) ?_ _) _ rfl
        exact ht.of_tables rfl rfl

/-! ## Calls -/

/-- A call that changes no interest. -/
theorem Tuned.perform (ht : h.Tuned []) {call : Call} (hcall : call.steers = false) : (call.perform h).2.Tuned [] := by
  cases call with
  | wish all => exact ht.addInterest _
  | insert => cases hcall
  | remove => cases hcall
  | attach a exchange i clock =>
    rw [Call.perform, snd_perform_bind]
    exact ht.openTransport a exchange i clock
  | removeBus exchange key => exact ht.of_tables rfl rfl
  | send u channel payload =>
    rw [Call.perform, snd_perform_bind]
    exact ht.send u channel payload
  | receive u wait still =>
    rw [Call.perform, Act.get_bind_apply, snd_perform_bind]
    exact ht.receive u _ still
  | interestChanged u =>
    rw [Call.perform, snd_perform_bind]
    exact ht.retold u
  | close u => exact ht.closeTransport u
  | release u => exact ht.releaseTransport u

theorem tuned_start (store : Store) (now : Nat) (desk : η) : ({ store, now, desk } : Hub η).Tuned [] := by
  have hno : ∀ t, ({ store, now, desk } : Hub η).box t = {} := fun t => by
    rw [box_eq, transport_of_size_le (Nat.zero_le t)]
    rfl
  exact ⟨fun t => hno t ▸ Mailbox.telling_new, fun t _ m hm => by rw [waiting, hno] at hm; cases hm⟩

theorem Tuned.run (ht : h.Tuned []) {meanwhile : Hub η → Prop}
    (hg : Retuned (fun call => call.steers = false) meanwhile h g) : g.Tuned [] := by
  induction hg with
  | start => exact ht
  | addExchange _ ih => exact ih.of_tables rfl rfl
  | pass _ now ih => exact ih.of_tables rfl rfl
  | call _ call keeps _ ih => exact ih.perform keeps
  | retune _ i change told all _ ih => exact ih.retune change all

/-- From a place on a bus a message is received if its mailbox gives one out. -/
theorem receive_iff_take {box : Mailbox} (hline : (h.transport t).line = .bus k box) (deadline : Option Nat)
    (still : Bool) :
    (∃ m g, Act.receive t deadline still h = (.ok (.message m), g)) ↔
      ∃ m, (box.take (h.wants t)).1 = .ok (.message m) := by
  rw [Act.receive, Act.bind_apply, Act.poll_bus hline]
  cases hc : box.closed with
  | true =>
    rw [Mailbox.take_of_closed hc]
    refine iff_of_false ?_ ?_
    · rintro ⟨m, g, he⟩
      cases he
    · rintro ⟨m, he⟩
      cases he
  | false =>
    rw [Mailbox.take_of_open hc]
    cases (Mailbox.takeWanted (h.wants t) box.waiting).1 with
    | some m => exact iff_of_true ⟨m, _, rfl⟩ ⟨m, rfl⟩
    | none =>
      refine iff_of_false ?_ (by simp)
      rintro ⟨m, g, he⟩
      cases still with
      | true => cases he
      | false => cases deadline <;> cases he

/-- Whatever was done since a hub was made, where all who serve an interest were told of each change of it, the signal
of a place on a bus, and what a watcher sees of it, tells whether there is a message to receive without waiting. All
that waits in the mailbox is wanted. -/
theorem signals_exact (store : Store) (now : Nat) (desk : η)
    (hg : Retuned (fun call => call.steers = false) (fun _ => True) { store, now, desk } g) (hk : g.place t = some k) :
    (g.signal t).readable = (g.signal t).raised ∧
      (∀ still, (g.signal t).raised = true ↔
        ∃ m g', Act.receive t (some g.now) still g = (.ok (.message m), g')) ∧
      ∀ m ∈ g.waiting t, g.wants t m.channel = true := by
  have ht := (tuned_start store now desk).run hg
  have hline := place_eq_some_iff.1 hk
  have hsignal : g.signal t = (g.box t).signal := by rw [signal, hline]; rfl
  have hwanted := ht.wanted t List.not_mem_nil
  refine ⟨hsignal ▸ (ht.telling t).consistent, fun still => ?_, hwanted⟩
  rw [hsignal, receive_iff_take hline]
  exact (ht.telling t).raised_iff_take hwanted

/-- Two places on a bus, both for those who want everything, when a message was sent by the first one. -/
def overheard : Hub Unit :=
  (Carriage.run { store := ⟨#[], [], []⟩, desk := (), exchanges := #[[]] }
    [.wish true, .attach (.bus "") 0 0 {}, .attach (.bus "") 0 0 {}, .send 0 "c" .empty]).2

/-- The message can be received at the second place. When nothing is wanted any more and both are told, it cannot. -/
theorem signals_exact_overheard :
    (∃ m g, Act.receive 1 (some 0) false overheard = (.ok (.message m), g)) ∧
      ¬ ∃ m g, Act.receive 1 (some 0) false (overheard.retune 0 (fun _ => .nothing) [0, 1]) =
        (.ok (.message m), g) := by
  have hmade : Retuned (fun call => call.steers = false) (fun _ => True)
      { store := ⟨#[], [], []⟩, now := 0, desk := () } overheard :=
    Retuned.start.addExchange.calls (by simp [Call.steers]) fun _ => trivial
  have hall : ∀ t < overheard.transports.size, (overheard.transport t).interest = 0 → t ∈ [0, 1] := fun t ht _ => by
    have hsize : overheard.transports.size = 2 := by decide +kernel
    simp only [List.mem_cons, List.not_mem_nil, or_false]
    omega
  have hnow : overheard.now = 0 ∧ (overheard.retune 0 (fun _ => .nothing) [0, 1]).now = 0 := by decide +kernel
  have hup : (overheard.signal 1).raised = true := by decide +kernel
  have hdown : ¬ ((overheard.retune 0 (fun _ => .nothing) [0, 1]).signal 1).raised = true := by decide +kernel
  have hbefore := signals_exact (t := 1) (k := 0) ⟨#[], [], []⟩ 0 () hmade (by decide +kernel)
  have hafter := signals_exact (t := 1) (k := 0) ⟨#[], [], []⟩ 0 ()
    (hmade.retune 0 (fun _ => .nothing) [0, 1] hall trivial) (by decide +kernel)
  rw [hnow.1] at hbefore
  rw [hnow.2] at hafter
  exact ⟨(hbefore.2.1 false).1 hup, fun hgot => hdown ((hafter.2.1 false).2 hgot)⟩

end Hub
end PubSub
