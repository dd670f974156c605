import Mathlib.Data.List.Induction
import PubSub.Proofs.Hub.Delivering
import PubSub.Proofs.Hub.Flow

/-!
# Fan-out

Every subscription is handed each message that is published for it once and in the order of publishing, whatever else
goes on: other subscriptions come and go or are bounded, and handlers publish, subscribe and unsubscribe.

* `Traffic.Settled`: what holds between the rounds of a dispatch.

Results:

* `Traffic.dispatch_flow`: a dispatch keeps the balance of a subscription and leaves nothing routed but not handed on.
* `Traffic.handed_append_waiting`: over a whole run, what a subscription was handed and what still waits for it is what
  it has to get.
-/

namespace PubSub.Traffic

open Hub
open Act (bind_apply pure_apply get_apply)

variable {μ : Type} {b s c : Nat}

/-! ## Rounds of a dispatch -/

/-- Looking into a mailbox without result keeps the balance: what is thrown away the subscription does not accept. -/
theorem Flow.idle {h g : Hub (Diary μ)} (hf : Flow b s h) (hg : Took (h.lineOf c) none h g) : Flow b s g := by
  refine hf.of_wiring hg.wiring (congrFun hg.subscription s) (.of_eq (congrArg Diary.log hg.desk)) fun ht => ?_
  by_cases hl : h.lineOf b = h.lineOf c
  · have hk := hg.keeps (fits h s) fun m hm => hl ▸ hf.wants ht hm
    rw [hl, hk]
    simp
  · rw [hg.others _ hl]

/-- A message that is taken in and routed moves from the mailbox into the backlog of the subscription, if it accepts
it. -/
theorem Flow.round {h f g : Hub (Diary μ)} (hf : Flow b s h) (hc : h.Attached c) {m : Message} {T T' : List Nat}
    (ht : Took (h.lineOf c) (some m) h f) (hr : Routed m (f.matching c m) T T' f g) : Flow b s g := by
  have e : g.wiring = h.wiring := hr.wiring.trans ht.wiring
  have hsub : f.subscription = h.subscription := ht.subscription
  have hmem : s ∈ f.matching c m ↔ s ∈ h.members c ∧ fits h s m = true := by
    rw [matching, List.mem_filter, members_of_wiring ht.wiring, hsub]
    rfl
  have hlog : g.desk.log = h.desk.log := congrArg Diary.log (hr.desk.trans ht.desk)
  by_cases hs : s ∈ f.matching c m
  · obtain ⟨hsc, hfit⟩ := hmem.1 hs
    have hback : (g.subscription s).backlog = ((h.subscription s).backlog.push m).2 := by
      rw [hr.backlog s hs, hsub]
    refine ⟨hf.wired.of_wiring e, ?_, ?_, fun htr hcap => ?_⟩
    · rw [hlog, subscriptions_size_of_wiring e]
      exact hf.unmade
    · rw [hlog, subscriptions_size_of_wiring e]
      exact hf.silent
    · have htr := (tracked_of_wiring e).1 htr
      have hbc := hf.wired.member_inj b htr.attached.made c hc.made s htr.member hsc
      rw [hback, Backlog.capacity_push] at hcap
      have hbal := hf.balance htr hcap
      have hk := ht.keeps (fits h s) fun m hm => hbc ▸ hf.wants htr hm
      rw [← hbc] at hk
      have hm : (some m).toList.filter (fits h s) = [m] := by simp [hfit]
      rw [hk, hm, ← List.append_assoc, List.append_assoc (handedTo s h.desk.log)] at hbal
      rw [hlog, hback, (Backlog.push_of_unbounded hcap m).2, fits_of_wiring e, lineOf_of_wiring e, place_of_wiring e,
        hr.waiting, hbal]
  · have hsame : g.subscription s = h.subscription s := by rw [hr.others s hs, hsub]
    refine hf.of_wiring e hsame (.of_eq hlog) fun htr => ?_
    rw [hr.waiting]
    by_cases hl : h.lineOf b = h.lineOf c
    · have hbc := hf.wired.line_inj b htr.attached.made c hc.made hl
      have hfit : fits h s m = false := by
        by_contra hne
        exact hs (hmem.2 ⟨hbc ▸ htr.member, by simpa using hne⟩)
      have hk := ht.keeps (fits h s) fun m hm => hl ▸ hf.wants htr hm
      rw [hl, hk]
      simp [hfit]
    · rw [ht.others _ hl]

/-- What is between the rounds of a dispatch of broker `c`, when the subscriptions `T` have taken messages. -/
structure Settled (b s c t : Nat) (T : List Nat) (h : Hub (Diary μ)) : Prop where
  flow : Flow b s h
  attached : h.Attached c
  line : h.lineOf c = t
  /-- Of what was routed to the subscription something may be left only if it is among those to be run. -/
  left : s ∈ T ∨ Depth b s 0 h

theorem settled_steady (b s c t : Nat) : Steady c t (Settled (μ := μ) b s c t) where
  wired hi := hi.flow.wired
  attached hi := hi.attached
  line hi := hi.line
  idle := by
    intro T h g hi hg
    have e := hg.wiring
    refine ⟨hi.flow.idle (c := c) (hi.line ▸ hg), (attached_of_wiring e c).2 hi.attached,
      (lineOf_of_wiring e c).trans hi.line, hi.left.imp_right fun hd => ?_⟩
    exact hd.of_wiring e (congrFun hg.subscription s)
  round := by
    intro m T T' h f g hi ht hr
    have e : g.wiring = h.wiring := hr.wiring.trans ht.wiring
    refine ⟨hi.flow.round hi.attached (hi.line ▸ ht) hr, (attached_of_wiring e c).2 hi.attached,
      (lineOf_of_wiring e c).trans hi.line, ?_⟩
    by_cases hT : s ∈ T'
    · exact Or.inl hT
    · -- the subscription has taken nothing, in this round or before
      have hd : Depth b s 0 h := hi.left.resolve_left fun hs => hT ((hr.touched s).2 (Or.inl hs))
      refine Or.inr fun htr => ?_
      have hd := hd ((tracked_of_wiring e).1 htr)
      by_cases hs : s ∈ f.matching c m
      · have hno : ((f.subscription s).backlog.push m).1 ≠ true := fun hp => hT ((hr.touched s).2 (Or.inr ⟨hs, hp⟩))
        rw [hr.backlog s hs, Backlog.size_push_of_rejected hno, ht.subscription]
        exact hd
      · rw [hr.others s hs, ht.subscription]
        exact hd

/-! ## A dispatch -/

theorem supply_apply {η : Type} {h : Hub η} {t k : Nat} (hk : h.place t = some k) :
    Act.supply t h = (.ok (h.box t).waiting.size, h) := by
  simp only [Act.supply, bind_apply, get_apply, place_eq_some_iff.1 hk, pure_apply]

theorem dispatchOne_flow (conduct : Conduct μ) (still : Bool) {h : Hub (Diary μ)}
    (hi : Settled b s c (h.lineOf c) [] h) :
    Flow b s (Act.dispatchOne (handlers conduct) c still h).2 ∧
      Depth b s 0 (Act.dispatchOne (handlers conduct) c still h).2 := by
  have hsteady := settled_steady (μ := μ) b s c (h.lineOf c)
  obtain ⟨k, hk⟩ := hi.flow.wired.placed c hi.attached.made
  have hline : (h.broker c).transport = h.lineOf c := rfl
  obtain ⟨m, f, hnext, ht⟩ := Act.nextWanted_took hi.flow.wired hi.attached hline rfl still
    ((h.box (h.lineOf c)).waiting.size + 1)
  simp only [Act.dispatchOne, bind_apply, get_apply, supply_apply hk, hnext]
  cases m with
  | none =>
    have hi' := hsteady.idle hi ht
    exact ⟨hi'.flow, hi'.left.resolve_left List.not_mem_nil⟩
  | some m =>
    obtain ⟨T, a, f', hroute, hr, _⟩ := hsteady.route hi ht []
    have hi' := hsteady.round hi ht hr
    obtain ⟨g, hg, hgf, hgd⟩ := deliver_flow conduct T f' hi'.flow hi'.left
    simp only [bind_apply, hroute, hg, pure_apply]
    exact ⟨hgf, hgd⟩

theorem dispatchWithin_flow (conduct : Conduct μ) (deadline : Nat) (still : Bool) {h : Hub (Diary μ)}
    (hi : Settled b s c (h.lineOf c) [] h) :
    Flow b s (Act.dispatchWithin (handlers conduct) c deadline still h).2 ∧
      Depth b s 0 (Act.dispatchWithin (handlers conduct) c deadline still h).2 := by
  have hsteady := settled_steady (μ := μ) b s c (h.lineOf c)
  obtain ⟨k, hk⟩ := hi.flow.wired.placed c hi.attached.made
  obtain ⟨r, f, hfirst, hr⟩ := Act.firstAccepted_steady hsteady deadline still
    ((h.box (h.lineOf c)).waiting.size + 1) 0 hi
  simp only [Act.dispatchWithin, bind_apply, get_apply, supply_apply hk, hfirst]
  cases r with
  | none => exact ⟨hr.flow, hr.left.resolve_left List.not_mem_nil⟩
  | waiting => exact ⟨hr.flow, hr.left.resolve_left List.not_mem_nil⟩
  | accepted T =>
    obtain ⟨T', count, f', hfill, hi'⟩ := Act.fillBatch_steady hsteady (batchLimit - 1) T 1 hr
    obtain ⟨g, hg, hgf, hgd⟩ := deliver_flow conduct T' f' hi'.flow hi'.left
    simp only [bind_apply, hfill, hg, pure_apply]
    exact ⟨hgf, hgd⟩

theorem dispatchHeld_flow (conduct : Conduct μ) (d : Dispatch) (still : Bool) {h : Hub (Diary μ)}
    (hi : Settled b s c (h.lineOf c) [] h) :
    Flow b s (Act.dispatchHeld (handlers conduct) c still d h).2 ∧
      Depth b s 0 (Act.dispatchHeld (handlers conduct) c still d h).2 := by
  cases d with
  | one => exact dispatchOne_flow conduct still hi
  | within milliseconds =>
    rw [Act.dispatchHeld, Act.get_bind_apply]
    exact dispatchWithin_flow conduct _ still hi

theorem Flow.setBusy {h : Hub (Diary μ)} (hf : Flow b s h) (hd : Depth b s 0 h) (busy : Bool) :
    Flow b s (h.modifyBroker c fun br => { br with busy }) ∧
      Depth b s 0 (h.modifyBroker c fun br => { br with busy }) :=
  ⟨hf.of_wiring (wiring_setBusy h c busy) rfl (.of_eq rfl) fun _ => rfl, hd.of_wiring (wiring_setBusy h c busy) rfl⟩

/-- A dispatch keeps the balance of every subscription and leaves nothing routed but not handed on. -/
theorem dispatch_flow (conduct : Conduct μ) (d : Dispatch) {h : Hub (Diary μ)} (hc : c < h.brokers.size)
    (hf : Flow b s h) (hd : Depth b s 0 h) :
    Flow b s (Act.dispatch (handlers conduct) c d h).2 ∧ Depth b s 0 (Act.dispatch (handlers conduct) c d h).2 := by
  rcases Act.dispatch_cases (handlers conduct) c d h with ⟨e, hrefused, -⟩ | ⟨-, hopen, -, hheld⟩
  · rw [hrefused]
    exact ⟨hf, hd⟩
  obtain ⟨hf', hd'⟩ := hf.setBusy (c := c) hd true
  have ha := (attached_of_wiring (wiring_setBusy h c true) c).2 ⟨hc, hopen⟩
  have hi : Settled b s c _ [] (h.setBusy c true) := ⟨hf', ha, rfl, Or.inr hd'⟩
  obtain ⟨hgf, hgd⟩ := dispatchHeld_flow conduct d false hi
  rw [hheld]
  exact hgf.setBusy hgd false

/-! ## Whole runs -/

/-- A change of bounds moves no message. -/
theorem Flow.setCapacity {h : Hub (Diary μ)} (hf : Flow b s h) (hd : Depth b s 0 h)
    (hcap : (h.subscription s).backlog.capacity = none) (u : Nat) (capacity : Option Nat) :
    Flow b s (h.setCapacity u capacity) ∧ Depth b s 0 (h.setCapacity u capacity) := by
  have e : (h.setCapacity u capacity).wiring = h.wiring := wiring_setCapacity h u capacity
  have hsub := subscription_modifySubscription h u s fun v => { v with backlog := v.backlog.setCapacity capacity }
  have hback : ((h.setCapacity u capacity).subscription s).backlog.toList = (h.subscription s).backlog.toList ∧
      ((h.setCapacity u capacity).subscription s).backlog.size = (h.subscription s).backlog.size := by
    rw [Hub.setCapacity, hsub]
    split <;> exact ⟨rfl, rfl⟩
  refine ⟨⟨hf.wired.of_wiring e, ?_, ?_, fun ht _ => ?_⟩, fun ht => ?_⟩
  · rw [subscriptions_size_of_wiring e]
    exact hf.unmade
  · rw [subscriptions_size_of_wiring e]
    exact hf.silent
  · rw [hback.1, fits_of_wiring e, lineOf_of_wiring e, place_of_wiring e]
    exact hf.balance ((tracked_of_wiring e).1 ht) hcap
  · rw [hback.2]
    exact hd ((tracked_of_wiring e).1 ht)

theorem Flow.join {h : Hub (Diary μ)} (hf : Flow b s h) (key : String) (clock : Clock) (capacity : Option Nat) :
    Tracked b s (h.joined key clock capacity) → Alike b s h (h.joined key clock capacity) := by
  intro ht
  have hbr := broker_joined h key clock capacity b
  by_cases hb : b = h.brokers.size
  · have hm := ht.member
    rw [members, hbr, if_pos hb] at hm
    cases hm
  · rw [if_neg hb] at hbr
    have ha := ((attached_joined h key clock capacity b).1 ht.attached).resolve_left hb
    obtain ⟨k, hk⟩ := hf.wired.placed b ha.made
    have hlt := lt_size_of_place hk
    refine ⟨⟨ha, ?_⟩, subscription_joined .., ?_, ?_⟩
    · have hm := ht.member
      rwa [members, hbr] at hm
    · rw [lineOf, hbr, place_joined, if_neg (Nat.ne_of_lt hlt)]
    · rw [lineOf, hbr, waiting_joined]

theorem Flow.close {h : Hub (Diary μ)} (hf : Flow b s h) {k : Nat} (hc : c < h.brokers.size)
    (hk : h.place (h.lineOf c) = some k) : Tracked b s (h.shut c k) → Alike b s h (h.shut c k) := by
  intro ht
  obtain ⟨ha, hbc⟩ := (attached_ended hc b).1 ht.attached
  obtain ⟨hm, _⟩ := (mem_members_ended hc).1 ht.member
  have hbr : (h.shut c k).broker b = _ := broker_ended hc b
  rw [if_neg hbc] at hbr
  refine ⟨⟨ha, hm⟩, ?_, ?_, ?_⟩
  · rw [subscription_ended, if_neg fun hs => hbc (hf.wired.member_inj b ha.made c hc s hm hs.1)]
  · rw [lineOf, hbr, place_shut hk]
  · rw [lineOf, hbr, hf.wired.waiting_shut hc hk ha.made hbc]

theorem join_keeps (key : String) (clock : Clock) (capacity : Option Nat) :
    Keeps b s (Act.openAddress (.bus key) 0 clock capacity : Act (Diary μ) Nat) := by
  intro h hf
  obtain ⟨notices, ho⟩ := Act.openAddress_apply h key clock capacity
  have e := wiring_report (h.joined key clock capacity) notices
  have ha : Tracked b s ((h.joined key clock capacity).report notices) →
      Alike b s h ((h.joined key clock capacity).report notices) := fun ht =>
    have ha := hf.join key clock capacity ((tracked_of_wiring e).1 ht)
    ⟨ha.tracked, ha.subscription, ha.place, ha.waiting⟩
  refine ⟨_, _, ho, by simp, hf.alike ((hf.wired.joined key clock capacity).of_wiring e) ?_ (.of_eq ?_) ha,
    fun n hd => hd.alike ha⟩
  · rw [subscriptions_size_of_wiring e, subscriptions_joined]
  · exact congrArg Diary.log (desk_joined h key clock capacity)

theorem close_keeps (c : Nat) : Keeps b s (known c (Act.closeBroker c) : Act (Diary μ) Unit) := by
  refine Keeps.known fun h hc hf => ?_
  obtain ⟨k, hk⟩ := hf.wired.placed c hc
  rw [Act.closeBroker_apply hc hk]
  by_cases hclosed : (h.broker c).closed = true
  · rw [if_pos hclosed]
    exact ⟨_, h, rfl, by simp, hf, fun _ hd => hd⟩
  rw [if_neg hclosed]
  have e := wiring_report (h.shut c k) [.debug "broker: closed"]
  have ha : Tracked b s ((h.shut c k).report [.debug "broker: closed"]) →
      Alike b s h ((h.shut c k).report [.debug "broker: closed"]) := fun ht =>
    have ha := hf.close hc hk ((tracked_of_wiring e).1 ht)
    ⟨ha.tracked, ha.subscription, ha.place, ha.waiting⟩
  refine ⟨_, _, rfl, by simp, hf.alike ((hf.wired.shut hc hk).of_wiring e) ?_ (.of_eq ?_) ha,
    fun n hd => hd.alike ha⟩
  · rw [subscriptions_size_of_wiring e, subscriptions_size_ended]
  · exact congrArg Diary.log desk_ended

/-- Each call keeps the balance of a subscription that is unbounded before the call. -/
theorem call_flow (conduct : Conduct μ) (call : Call) {h : Hub (Diary μ)} (hf : Flow b s h) (hd : Depth b s 0 h)
    (hcap : (h.subscription s).backlog.capacity = none) :
    Flow b s (call.perform conduct h).2 ∧ Depth b s 0 (call.perform conduct h).2 := by
  have hkept : ∀ {α : Type} {act : Act (Diary μ) α}, Keeps b s act → Flow b s (act h).2 ∧ Depth b s 0 (act h).2 := by
    intro α act ha
    obtain ⟨r, g, hg, _, hgf, hgd⟩ := ha h hf
    rw [hg]
    exact ⟨hgf, hgd 0 hd⟩
  cases call with
  | join key clock defaultCapacity =>
    rw [Call.perform, Act.forget_snd]
    exact hkept (join_keeps key clock defaultCapacity)
  | publish c channel payload => exact hkept (publish_keeps c channel payload)
  | subscribe c pattern =>
    rw [Call.perform, Act.forget_snd]
    exact hkept (subscribe_keeps c pattern)
  | unsubscribe c u => exact hkept (unsubscribe_keeps c u)
  | setCapacity u capacity => exact hf.setCapacity hd hcap u capacity
  | dispatch c d =>
    rw [Call.perform, known, Act.get_bind_apply, Act.ite_apply]
    by_cases hc : c < h.brokers.size
    · rw [if_pos hc, Act.forget_snd]
      exact dispatch_flow conduct d hc hf hd
    · rw [if_neg hc]
      exact ⟨hf, hd⟩
  | close c => exact hkept (close_keeps c)

theorem wired_fresh (store : Store) (memory : μ) : (fresh store memory).Wired := by
  have hno : ∀ b, ¬ b < (fresh store memory).brokers.size := Nat.not_lt_zero
  constructor
  case mem_bus =>
    intro k t
    exact ⟨fun ht => absurd ht List.not_mem_nil, fun ht => nomatch ht⟩
  case bus_nodup => exact fun _ => List.nodup_nil
  case bus_lt =>
    intro e entry hentry
    have hnil : (fresh store memory).exchange e = [] := by
      cases e <;> rfl
    rw [hnil] at hentry
    cases hentry
  case unbounded => exact fun _ => rfl
  case whole => exact fun _ => rfl
  case open_box => exact fun b hb => absurd hb.made (hno b)
  case patterns => exact fun b hb => absurd hb.made (hno b)
  all_goals exact fun b hb => absurd hb (hno b)

theorem fresh_flow (store : Store) (memory : μ) (b s : Nat) :
    Flow b s (fresh store memory) ∧ Depth b s 0 (fresh store memory) := by
  have hno : ¬ Tracked b s (fresh store memory) := fun ht => Nat.not_lt_zero b ht.attached.made
  refine ⟨⟨wired_fresh store memory, ⟨fun _ => Nat.zero_le s, fun _ => rfl⟩, fun _ => ⟨rfl, rfl⟩, fun ht => ?_⟩,
    fun ht => ?_⟩
  · exact absurd ht hno
  · exact absurd ht hno

/-- A subscription is without a bound before, between and after the calls of a run. -/
def Unbounded (conduct : Conduct μ) (h : Hub (Diary μ)) (calls : List Call) (s : Nat) : Prop :=
  ∀ n ≤ calls.length, ((run conduct h (calls.take n)).subscription s).backlog.capacity = none

theorem run_flow (conduct : Conduct μ) (store : Store) (memory : μ) (b s : Nat) (calls : List Call)
    (hu : Unbounded conduct (fresh store memory) calls s) :
    Flow b s (run conduct (fresh store memory) calls) ∧ Depth b s 0 (run conduct (fresh store memory) calls) := by
  induction calls using List.reverseRecOn with
  | nil => exact fresh_flow store memory b s
  | append_singleton calls call ih =>
    have hprev : Unbounded conduct (fresh store memory) calls s := fun n hn => by
      have := hu n (by rw [List.length_append]; omega)
      rwa [List.take_append_of_le_length hn] at this
    obtain ⟨hf, hd⟩ := ih hprev
    have hcap := hprev calls.length (Nat.le_refl _)
    rw [List.take_length] at hcap
    rw [run_concat]
    exact call_flow conduct call hf hd hcap

/-- After every call of a run, of the messages published on the bus of an open broker since a subscription of it was
made and on channels that it accepts, those that its handler was handed and those that still wait for it are all there
are, each once and in the order of publishing. Only what waited for it when it was made comes before them. -/
theorem handed_append_waiting (conduct : Conduct μ) (store : Store) (memory : μ) (calls : List Call) {b s : Nat}
    (ht : Tracked b s (run conduct (fresh store memory) calls))
    (hu : Unbounded conduct (fresh store memory) calls s) :
    let h := run conduct (fresh store memory) calls
    handedTo s h.desk.log ++ (h.waiting (h.lineOf b)).filter (fits h s) =
      standing s h.desk.log ++ (publishedOn (h.place (h.lineOf b)) (since s h.desk.log)).filter (fits h s) := by
  intro h
  obtain ⟨hf, hd⟩ := run_flow conduct store memory b s calls hu
  have hcap := hu calls.length (Nat.le_refl _)
  rw [List.take_length] at hcap
  have hempty : (h.subscription s).backlog.toList = [] := by
    have := hd ht
    rw [← Backlog.length_toList] at this
    exact List.eq_nil_of_length_eq_zero (Nat.le_zero.1 this)
  have hbal := hf.balance ht hcap
  rwa [hempty, List.append_nil] at hbal

/-- A handler that answers on the channel of the message and ends the subscription after its own. -/
def answering : Conduct Unit := fun s m =>
  if s = 0 then .publish 0 m.channel m.payload fun _ => .unsubscribe 0 1 fun _ => .finish else .finish

/-- Two brokers on one bus, of which one has two subscriptions, and one of these has no room. -/
def answeredCalls : List Call :=
  [.join "k" { next := 5, course := fun n => Int64.ofNat n } none, .join "k" {} none, .subscribe 0 "ab",
    .subscribe 0 "a", .setCapacity 1 (some 0), .publish 1 "ab" .empty, .publish 0 "a" .empty, .dispatch 0 (.within 0),
    .publish 1 "ab" .empty]

theorem handed_append_waiting_answering :
    let h := run answering (fresh ⟨#[], [], []⟩ ()) answeredCalls
    Tracked 0 0 h ∧ Unbounded answering (fresh ⟨#[], [], []⟩ ()) answeredCalls 0 ∧
      handedTo 0 h.desk.log ++ (h.waiting (h.lineOf 0)).filter (fits h 0) =
        standing 0 h.desk.log ++ (publishedOn (h.place (h.lineOf 0)) (since 0 h.desk.log)).filter (fits h 0) := by
  have ht : Tracked 0 0 (run answering (fresh ⟨#[], [], []⟩ ()) answeredCalls) :=
    ⟨⟨by decide +kernel, by decide +kernel⟩, by decide +kernel⟩
  have hu : Unbounded answering (fresh ⟨#[], [], []⟩ ()) answeredCalls 0 := by
    unfold Unbounded
    decide +kernel
  exact ⟨ht, hu, handed_append_waiting answering ⟨#[], [], []⟩ () answeredCalls ht hu⟩

end PubSub.Traffic
