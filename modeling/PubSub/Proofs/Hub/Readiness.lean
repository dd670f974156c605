import PubSub.Proofs.Hub.Moving
import PubSub.Proofs.Hub.Replaying

/-!
# What a raised signal tells

Whatever was done at a hub whose brokers are on buses or replay files without pauses: between the calls, the signal of
an open broker is raised exactly while messages that the broker wants are ahead. A dispatch that does not wait then
hands some of them on, unless no subscription takes any, which needs a subscription without room for a single message.

* `Hub.Reached`: the hubs that calls lead to.
* `Hub.Calm`: what holds of them between calls.

Results:

* `Hub.Reached.calm`: the invariant.
* `Hub.Calm.dispatches_iff`: when a dispatch that does not wait hands on messages.
* `Hub.raised_iff_dispatches`: when the signal tells so.
-/

namespace PubSub.Hub

variable {η : Type} {run : Handlers η} {h : Hub η} {b : Nat}

/-! ## Brokers that are made and closed -/

/-- A hub with one broker more, whose transport is ready, is sound. -/
theorem Sound.enlarged (hs : h.Sound) {line : Line} (hline : line.Ready h.store Interest.nothing.wants) (clock : Clock)
    (capacity : Option Nat) : (h.enlarged line clock capacity).Sound := by
  have hbr := broker_enlarged h line clock capacity
  have hold : ∀ b, h.Attached b → (h.enlarged line clock capacity).broker b = h.broker b := fun b hb => by
    rw [hbr, if_neg (Nat.ne_of_lt hb.made)]
  have hnew := hbr h.brokers.size
  rw [if_pos rfl] at hnew
  refine ⟨hs.enlisted.enlarged line clock capacity, fun b hb => ?_, fun b hb hidle s hm => ?_, hs.retired⟩
  · rcases (attached_enlarged ..).1 hb with rfl | hb
    · rw [lineOf, hnew, Ready, wants, transport_enlarged, if_pos rfl, interest_enlarged, if_pos rfl]
      exact hline
    · have hlt := hs.enlisted.line_lt b hb.made
      have htransport : (h.enlarged line clock capacity).transport (h.lineOf b) = h.transport (h.lineOf b) := by
        rw [transport_enlarged, if_neg (Nat.ne_of_lt hlt)]
      rw [lineOf, hold b hb]
      refine (hs.ready b hb).of_same (by rw [htransport]) rfl ?_
      rw [wants, wants, htransport, hs.enlisted.serves b hb.made, interest_enlarged,
        if_neg (Nat.ne_of_lt (hs.enlisted.interest_lt b hb.made))]
  · rcases (attached_enlarged ..).1 hb with rfl | hb
    · rw [members, hnew] at hm
      cases hm
    · rw [hold b hb] at hidle
      rw [members, hold b hb] at hm
      exact hs.empty b hb hidle s hm

/-- A hub with one broker closed, for whose handlers nothing waits, is sound. -/
theorem Sound.ended (hs : h.Sound) (hb : h.Attached b) (hidle : (h.broker b).busy = false) (line : Line) :
    (h.ended b line).Sound := by
  have hload : ∀ s, (h.ended b line).load s = h.load s := fun s => by
    rw [load, subscription_ended]
    split <;> rfl
  have hold : ∀ c, c ≠ b → (h.ended b line).broker c = h.broker c := fun c hcb => by
    rw [broker_ended hb.made, if_neg hcb]
  refine ⟨hs.enlisted.ended hb.made, fun c hc => ?_, fun c hc hidle s hm => ?_, fun s ha => ?_⟩
  · obtain ⟨hc, hcb⟩ := (attached_ended hb.made c).1 hc
    have hline : h.lineOf c ≠ h.lineOf b := fun he => hcb (hs.enlisted.line_inj c hc.made b hb.made he)
    have htransport : (h.ended b line).transport (h.lineOf c) = h.transport (h.lineOf c) := by
      rw [transport_ended (hs.enlisted.line_lt b hb.made), if_neg hline]
    rw [lineOf, hold c hcb]
    refine (hs.ready c hc).of_same (by rw [htransport]) store_ended ?_
    rw [wants, wants, htransport, interest_ended]
  · obtain ⟨hc, hcb⟩ := (attached_ended hb.made c).1 hc
    rw [hold c hcb] at hidle
    rw [members, hold c hcb] at hm
    rw [hload]
    exact hs.empty c hc hidle s hm
  · rw [hload]
    rw [subscription_ended] at ha
    split at ha
    · rename_i hm
      exact hs.empty b hb hidle s hm.1
    · exact hs.retired s ha

/-! ## Hubs that calls lead to -/

/-- What calls make of a hub: brokers on buses and brokers that replay files without pauses are made and closed, and
between that moves are made. -/
inductive Reached (run : Handlers η) : Hub η → Prop
  | start (store : Store) (now : Nat) (desk : η) : Reached run { store, now, desk }
  | addExchange {h : Hub η} (before : Reached run h) : Reached run h.addExchange.1
  | removeBus {h : Hub η} (before : Reached run h) (exchange : Nat) (key : String) :
    Reached run (h.removeBus exchange key).1
  | openBus {h : Hub η} (before : Reached run h) (key : String) (exchange : Nat) (clock : Clock)
    (capacity : Option Nat) : Reached run (Act.openAddress (.bus key) exchange clock capacity h).2
  | openReplay {h : Hub η} (before : Reached run h) (a : FileAddress) (mode : a.mode = .read) (unpaced : ¬ 0 < a.speed)
    (exchange : Nat) (clock : Clock) (capacity : Option Nat) :
    Reached run (Act.openAddress (.file a) exchange clock capacity h).2
  | move {h g : Hub η} (before : Reached run h) (move : Move run h g) : Reached run g
  | close {h : Hub η} (before : Reached run h) (b : Nat) (made : b < h.brokers.size) :
    Reached run (Act.closeBroker b h).2

/-- A sound hub in which no dispatch is in progress. -/
structure Calm (h : Hub η) : Prop where
  sound : h.Sound
  idle : ∀ b, (h.broker b).busy = false

theorem calm_start (store : Store) (now : Nat) (desk : η) : Calm { store, now, desk : Hub η } := by
  have hno : ∀ b, ¬ b < ({ store, now, desk } : Hub η).brokers.size := Nat.not_lt_zero
  exact ⟨⟨enlisted_start store now desk, fun b hb => absurd hb.made (hno b), fun b hb => absurd hb.made (hno b),
    fun _ _ => rfl⟩, fun _ => rfl⟩

/-- Only the tables of buses, exchanges and notices have changed. -/
theorem Calm.of_tables (hc : h.Calm) (buses : Array (List Nat)) (exchanges : Array (List (String × Nat)))
    (notices : Array Notice) : ({ h with buses, exchanges, notices } : Hub η).Calm :=
  ⟨hc.sound.of_roster rfl (ready_of_lines rfl (fun _ => rfl) rfl)
    (fun b hb _ s hm => hc.sound.empty b hb (hc.idle b) s hm) hc.sound.retired, hc.idle⟩

theorem Calm.enlarged (hc : h.Calm) {line : Line} (hline : line.Ready h.store Interest.nothing.wants) (clock : Clock)
    (capacity : Option Nat) : (h.enlarged line clock capacity).Calm := by
  refine ⟨hc.sound.enlarged hline clock capacity, fun b => ?_⟩
  rw [broker_enlarged]
  split
  · rfl
  · exact hc.idle b

/-- A broker that could not be made leaves an interest behind that nobody has. -/
theorem Calm.addInterest (hc : h.Calm) (i : Interest) : (h.addInterest i).1.Calm := by
  refine ⟨⟨hc.sound.enlisted.addInterest i, fun b hb => ?_, fun b hb => hc.sound.empty b ⟨hb.made, hb.isOpen⟩,
    hc.sound.retired⟩, hc.idle⟩
  have hb : h.Attached b := ⟨hb.made, hb.isOpen⟩
  refine (hc.sound.ready b hb).of_same rfl rfl (congrArg Interest.wants ?_)
  refine (getD_push ..).trans (if_neg (Nat.ne_of_lt ?_))
  rw [show ((h.addInterest i).1.transport (h.lineOf b)).interest = (h.broker b).interest from
    hc.sound.enlisted.serves b hb.made]
  exact hc.sound.enlisted.interest_lt b hb.made

theorem Calm.close (hc : h.Calm) (hb : b < h.brokers.size) : (Act.closeBroker b h).2.Calm := by
  cases ho : (h.broker b).closed with
  | true =>
    rw [Act.closeBroker_closed ho]
    exact hc
  | false =>
    obtain ⟨line, hline⟩ : ∃ line, ∀ g : Hub η, g.transport (h.lineOf b) = h.transport (h.lineOf b) →
        g.closeTransport (h.lineOf b) = g.setLine (h.lineOf b) line := by
      have hlive := (hc.sound.ready b ⟨hb, ho⟩).live
      generalize hl : (h.transport (h.lineOf b)).line = line at hlive
      cases hlive with
      | bus isOpen unbounded alert => exact ⟨_, fun g hg => by rw [closeTransport, hg, hl]⟩
      | replay runs readable => exact ⟨_, fun g hg => by rw [closeTransport, hg, hl]⟩
    have hended : (h.ended b line).Calm := by
      refine ⟨hc.sound.ended ⟨hb, ho⟩ (hc.idle b) line, fun c => ?_⟩
      rw [broker_ended hb]
      split
      · exact hc.idle b
      · exact hc.idle c
    rw [Act.closeBroker_ended hb hline, ho, if_neg Bool.false_ne_true]
    exact hended.of_tables _ _ _

/-- Between calls a hub is calm. -/
theorem Reached.calm (hrun : Orderly run) (hr : Reached run h) : h.Calm := by
  induction hr with
  | start store now desk => exact calm_start store now desk
  | addExchange _ ih => exact ih.of_tables _ _ _
  | removeBus _ exchange key ih => exact ih.of_tables _ _ _
  | @openBus h _ key exchange clock capacity ih =>
    obtain ⟨k, buses, exchanges, notices, he⟩ := Act.openAddress_bus h key exchange clock capacity
    rw [he]
    have hline : Line.Ready h.store Interest.nothing.wants (.bus k {}) :=
      Line.ready_bus rfl rfl ⟨by simp, Signal.consistent_new⟩ fun m hm => nomatch hm
    exact (ih.enlarged hline clock capacity).of_tables _ _ _
  | openReplay _ a mode unpaced exchange clock capacity ih =>
    rcases Act.openAddress_replay _ mode exchange clock capacity with
      ⟨file, c, f, notices, -, readable, -, he⟩ | ⟨-, e, notices, he⟩
    · rw [he]
      exact (ih.enlarged (Line.ready_opened unpaced c readable) clock capacity).of_tables _ _ _
    · rw [he]
      exact (ih.addInterest .nothing).of_tables _ _ _
  | move _ hmove ih =>
    have hkept := hmove.kept hrun ih.sound
    exact ⟨hkept.sound, fun b => (hkept.busy b).trans (ih.idle b)⟩
  | close _ b made ih => exact ih.close made

/-! ## Dispatches that do not wait -/

/-- Between calls, what matters of the bound of a subscription is whether it has room for anything at all. -/
theorem Calm.takes_iff (hc : h.Calm) (hb : h.Attached b) (m : Message) :
    h.Takes b m ↔ ∃ s ∈ h.members b, (h.subscription s).pattern.accepts m.channel = true ∧
      (h.subscription s).backlog.capacity ≠ some 0 := by
  refine exists_congr fun s => and_congr_right fun hs => and_congr_right fun _ => ?_
  have hempty : (h.subscription s).backlog.size = 0 := hc.sound.empty b hb (hc.idle b) s hs
  rw [Backlog.hasRoom, hempty]
  cases (h.subscription s).backlog.capacity with
  | none => simp
  | some c => simp [Nat.pos_iff_ne_zero]

/-- A dispatch that does not wait hands on messages exactly when somebody takes one of those that it can get at before
it gives up. -/
theorem Calm.dispatches_iff (hrun : Orderly run) (hc : h.Calm) (hb : h.Attached b) :
    (∃ n > 0, (Act.dispatch run b (.within 0) h).1 = .ok (.count n)) ↔
      ∃ m ∈ (h.ahead (h.lineOf b)).take batchLimit, h.Takes b m := by
  set k := h.setBusy b true with hk
  have hbusied : k.Sound := hc.sound.busied b
  have hbk : k.Attached b := (attached_of_roster (roster_setBusy h b true) b).2 hb
  have hline : k.lineOf b = h.lineOf b := lineOf_of_roster (roster_setBusy h b true) b
  have hbusy : (k.broker b).busy = true := by rw [hk, broker_setBusy, if_pos ⟨rfl, hb.made⟩]
  have hahead : k.ahead (h.lineOf b) = h.ahead (h.lineOf b) := rfl
  have htakes : ∀ m, k.Takes b m ↔ h.Takes b m := fun m => by
    rw [Takes, Takes, members_of_roster (roster_setBusy h b true)]
    rfl
  rw [Act.dispatch_held rfl hb.isOpen (hc.idle b), Act.dispatchHeld, Act.get_bind_apply]
  obtain ⟨ms, T, f, hf, hout⟩ := Act.dispatchWithin_poured run (hbusied.enlisted.serving hbk) (hbusied.ready b hbk)
    (k.now + (0 : Int).toNat * 1000) false
  have hsplit := hf.ahead
  rw [hline, hahead] at hsplit
  simp only [htakes] at hout
  rcases hout with ⟨init, m, more, count, rfl, -, hm, hlimit, -, -, hpos, -, he⟩ | ⟨-, hall, hend⟩
  · obtain ⟨g, hg, -, -⟩ := (hf.sound hbusied hbk hbusy).deliver hrun T
    have hcount : (Act.dispatchWithin run b (k.now + (0 : Int).toNat * 1000) false k).1 = .ok (.count count) := by
      rw [he, Act.bind_apply, hg]
      rfl
    refine iff_of_true ⟨count, hpos, hcount⟩ ⟨m, ?_, hm⟩
    have hinit := hlimit (Nat.le_refl _)
    have htake : (init ++ [m] ++ (more ++ f.ahead (h.lineOf b))).take batchLimit =
        init ++ [m] ++ (more ++ f.ahead (h.lineOf b)).take (batchLimit - (init.length + 1)) := by
      have hlength : (init ++ [m]).length = init.length + 1 := by rw [List.length_append, List.length_singleton]
      rw [List.take_append, List.take_of_length_le (hlength ▸ hinit), hlength]
    rw [hsplit, show init ++ m :: more ++ f.ahead (h.lineOf b) = init ++ [m] ++ (more ++ f.ahead (h.lineOf b)) by simp,
      htake]
    simp
  · have hnone : ¬ ∃ m ∈ (h.ahead (h.lineOf b)).take batchLimit, h.Takes b m := by
      rintro ⟨m, hm, htaken⟩
      refine hall m ?_ htaken
      rw [hsplit] at hm
      rcases hend with ⟨hfull, -⟩ | ⟨hnil, -⟩
      · rw [List.take_append_of_le_length hfull] at hm
        exact List.mem_of_mem_take hm
      · rw [← hline, hnil, List.append_nil] at hm
        exact List.mem_of_mem_take hm
    refine iff_of_false ?_ hnone
    rintro ⟨n, hpos, hn⟩
    rcases hend with ⟨-, he⟩ | ⟨-, he⟩
    · rw [he] at hn
      cases hn
      exact absurd hpos (Nat.lt_irrefl 0)
    · rw [he] at hn
      cases hends : k.ends (k.lineOf b) with
      | true =>
        rw [hends] at hn
        cases hn
      | false =>
        rw [hends] at hn
        cases hn
        exact absurd hpos (Nat.lt_irrefl 0)

/-- Whatever was done at a hub, between calls the signal of an open broker, and what a watcher sees of it, tells whether
wanted messages are ahead. That is whether a dispatch that does not wait hands on messages, if every subscription of the
broker has room for one; in general it is so exactly when nothing is ahead or somebody takes one of the messages that
the dispatch can get at. -/
theorem raised_iff_dispatches (hrun : Orderly run) (hr : Reached run h) (hb : h.Attached b) :
    (h.signal (h.lineOf b)).readable = (h.signal (h.lineOf b)).raised ∧
      ((h.signal (h.lineOf b)).raised = true ↔ h.ahead (h.lineOf b) ≠ []) ∧
      (((h.signal (h.lineOf b)).raised = true ↔ ∃ n > 0, (Act.dispatch run b (.within 0) h).1 = .ok (.count n)) ↔
        h.ahead (h.lineOf b) = [] ∨ ∃ m ∈ (h.ahead (h.lineOf b)).take batchLimit, ∃ s ∈ h.members b,
          (h.subscription s).pattern.accepts m.channel = true ∧ (h.subscription s).backlog.capacity ≠ some 0) ∧
      ((∀ s ∈ h.members b, (h.subscription s).backlog.capacity ≠ some 0) →
        ((h.signal (h.lineOf b)).raised = true ↔
          ∃ n > 0, (Act.dispatch run b (.within 0) h).1 = .ok (.count n))) := by
  have hc := hr.calm hrun
  have hready := hc.sound.ready b hb
  have hraised : (h.signal (h.lineOf b)).raised = true ↔ h.ahead (h.lineOf b) ≠ [] := hready.raised
  have hexact : ((h.signal (h.lineOf b)).raised = true ↔
      ∃ n > 0, (Act.dispatch run b (.within 0) h).1 = .ok (.count n)) ↔
        h.ahead (h.lineOf b) = [] ∨ ∃ m ∈ (h.ahead (h.lineOf b)).take batchLimit, ∃ s ∈ h.members b,
          (h.subscription s).pattern.accepts m.channel = true ∧ (h.subscription s).backlog.capacity ≠ some 0 := by
    rw [hc.dispatches_iff hrun hb, hraised]
    simp only [hc.takes_iff hb]
    by_cases hnil : h.ahead (h.lineOf b) = []
    · simp [hnil]
    · simp only [hnil, ne_eq, not_false_eq_true, true_iff, false_or]
  refine ⟨hready.consistent, hraised, hexact, fun hroom => hexact.2 ?_⟩
  cases hahead : h.ahead (h.lineOf b) with
  | nil => exact Or.inl rfl
  | cons m ms =>
    -- the first message that is ahead is wanted, so that some subscription accepts it
    have hwanted := hready.wanted m (by rw [← Hub.ahead, hahead]; exact List.mem_cons_self)
    obtain ⟨s, hs, haccepts⟩ := (hc.sound.enlisted.mirrored.wants_iff hb m.channel).1 hwanted
    exact Or.inr ⟨m, List.mem_cons_self, s, hs, haccepts, hroom s hs⟩

/-- Handlers that do nothing. -/
def resting : Handlers Unit := fun _ _ h => (.returned, h)

theorem orderly_resting : Orderly resting := fun _ _ _ => ⟨rfl, .refl⟩

/-- A broker on a bus with one subscription. -/
def awaiting : Hub Unit :=
  (Act.subscribe 0 "c" (Act.openAddress (.bus "") 0 {} none { store := ⟨#[], [], []⟩, desk := () }).2).2

/-- The bound of the subscription is `capacity`, and a message was published for it. -/
def noticed (capacity : Option Nat) : Hub Unit := (Act.publish 0 "c" .empty (awaiting.setCapacity 0 capacity)).2

theorem reached_noticed (capacity : Option Nat) : Reached resting (noticed capacity) := by
  have hopened : Reached resting (Act.openAddress (.bus "") 0 {} none { store := ⟨#[], [], []⟩, desk := () }).2 :=
    .openBus (.start ⟨#[], [], []⟩ 0 ()) "" 0 {} none
  have hawaiting : Reached resting awaiting := hopened.move (.subscribe _ 0 (by decide +kernel) "c")
  have hmade : 0 < awaiting.brokers.size := by decide +kernel
  exact (hawaiting.move (.setCapacity _ 0 capacity)).move
    (.publish (awaiting.setCapacity 0 capacity) 0 hmade "c" .empty)

theorem raised_iff_dispatches_bounded :
    ((noticed (some 1)).signal 0).raised = true ∧
      ∃ n > 0, (Act.dispatch resting 0 (.within 0) (noticed (some 1))).1 = .ok (.count n) := by
  have hraised : ((noticed (some 1)).signal ((noticed (some 1)).lineOf 0)).raised = true := by decide +kernel
  exact ⟨by decide +kernel, ((raised_iff_dispatches orderly_resting (reached_noticed (some 1))
    ⟨by decide +kernel, by decide +kernel⟩).2.2.2 (by decide +kernel)).1 hraised⟩

/-- If no subscription has room for a single message, the signal is raised, and a dispatch hands on nothing. -/
theorem raised_without_dispatch :
    ∃ h : Hub Unit, Reached resting h ∧ h.Attached 0 ∧ (h.signal (h.lineOf 0)).raised = true ∧
      ¬ ∃ n > 0, (Act.dispatch resting 0 (.within 0) h).1 = .ok (.count n) := by
  refine ⟨noticed (some 0), reached_noticed (some 0), ⟨by decide +kernel, by decide +kernel⟩, by decide +kernel, ?_⟩
  have hnothing : (Act.dispatch resting 0 (.within 0) (noticed (some 0))).1.toOption = some (.count 0) := by
    decide +kernel
  rintro ⟨n, hpos, hn⟩
  rw [hn] at hnothing
  cases hnothing
  exact absurd hpos (Nat.lt_irrefl 0)

end PubSub.Hub
