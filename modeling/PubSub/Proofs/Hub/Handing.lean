import PubSub.Proofs.Hub.Nesting

/-!
# What a dispatch hands on

A dispatch until a deadline, on a transport of any kind, whose handlers may do anything but end subscriptions of their
own broker. It hands to each subscription what its bound allows of what it has taken in, before it comes back.

All that is asked of the hub is that it is regular and its broker idle. Hubs that deeds lead to are regular and all
their brokers are idle (`Chronicle.Reached.regular`); hubs in the middle of a dispatch, where handlers may dispatch
other brokers, are regular too (`Chronicle.Course.regular`).

* `Chronicle.Served`: the course of such a dispatch, from what it takes in to what it leaves.

Results:

* `Chronicle.deliver_clears`, `Chronicle.deliver_hands_on`: what a delivery leaves, and what it hands on of what was
  taken in.
* `Chronicle.dispatch_served`: a dispatch takes such a course, and what waited when it had taken everything in was
  handed on when it comes back.
* `Chronicle.dispatch_hands_out`: what each subscription is handed, what it drops, and what the dispatch comes to.
-/

namespace PubSub.Chronicle

open Hub

variable {μ : Type} {ends : Nat → Prop} {h g k : Hub (Annals μ)} {b deadline n : Nat} {ms : List Message}
  {last : Option Error} {run : Handlers (Annals μ)}

/-- A dispatch of broker `b` until a deadline. It takes in the messages `ms`, of which somebody takes `n`, until its
transport has an error, or no message, or the messages suffice, and then the hub is `k`. What was taken is handed on,
which leaves `g`. -/
inductive Served (run : Handlers (Annals μ)) (b deadline : Nat) (h : Hub (Annals μ)) :
    List Message → Nat → Option Error → Hub (Annals μ) → Hub (Annals μ) → Prop
  | intro {ms : List Message} {n : Nat} {T : List Nat} {f k g : Hub (Annals μ)} {last : Option Error}
    (rounds : Rounds b (h.lineOf b) deadline [] (h.setBusy b true) ms n T f)
    (ending : Ending (h.lineOf b) deadline T (h.Suffices b deadline f.now ms) f last k) (notices : List Notice)
    (delivered : Act.deliver run T (k.report notices) = (.ok (), g)) :
    Served run b deadline h ms n last (k.report notices) (g.setBusy b false)

/-- What was taken in was routed to all subscriptions. -/
theorem Served.subscription (ht : h.Tidy) (hs : Served run b deadline h ms n last k g) {s : Nat}
    (hm : s ∈ h.members b) : k.subscription s = Subscription.fed (h.subscription s) ms := by
  obtain ⟨rounds, ending, notices, -⟩ := hs
  have hfed := rounds.fed (seated_setBusy ht b)
  rw [((ending.undisturbed).report notices).subscription]
  exact hfed.member s ((members_of_roster (roster_setBusy h b true) b).symm ▸ hm)

/-- What a subscription for which nothing waits takes of what it is fed, and what it drops. -/
theorem backlog_fed {s : Nat} (hzero : h.load s = 0) (ms : List Message) :
    (Subscription.fed (h.subscription s) ms).backlog.toList =
        upTo (h.subscription s).backlog.capacity (h.matched s ms) ∧
      (Subscription.fed (h.subscription s) ms).backlog.dropped = (h.subscription s).backlog.dropped +
        ((h.matched s ms).length - (upTo (h.subscription s).backlog.capacity (h.matched s ms)).length) := by
  have hnil : (h.subscription s).backlog.toList = [] :=
    List.eq_nil_of_length_eq_zero ((Backlog.length_toList _).trans hzero)
  rw [Subscription.fed, Backlog.toList_pushAll_upTo, Backlog.dropped_pushAll, Backlog.space_of_empty hzero, hnil,
    List.nil_append]
  exact ⟨rfl, rfl⟩

/-- What a subscription for which nothing waits has taken of it, and what it has dropped. -/
theorem Served.backlog (ht : h.Tidy) (hs : Served run b deadline h ms n last k g) {s : Nat} (hm : s ∈ h.members b)
    (hzero : h.load s = 0) :
    (k.subscription s).backlog.toList = upTo (h.subscription s).backlog.capacity (h.matched s ms) ∧
      (k.subscription s).backlog.dropped = (h.subscription s).backlog.dropped +
        ((h.matched s ms).length - (upTo (h.subscription s).backlog.capacity (h.matched s ms)).length) :=
  hs.subscription ht hm ▸ backlog_fed hzero ms

theorem takenAt_setBusy (h : Hub (Annals μ)) (b : Nat) (busy : Bool) (ms : List Message) (i : Nat) :
    (h.setBusy b busy).takenAt b ms i = h.takenAt b ms i := by
  rw [takenAt, takenAt, members_of_roster (roster_setBusy h b busy)]
  rfl

/-- The delivery of what a broker without waiting messages has taken in comes to its end and leaves nothing that waits,
whatever its handlers do but die. -/
theorem deliver_clears (hr : Regular (· = .returned) h) (hb : h.Attached b) (hi : h.Idle b)
    (hrun : Orderly (· = .returned) run ends) {T : List Nat} (hfed : Fed b ms [] T (h.setBusy b true) k) :
    ∃ g, Act.deliver run T k = (.ok (), g) ∧ Amid (· = .returned) ends h.Idle b k g ∧
      ∀ s ∈ g.members b, (g.subscription s).backlog.toList = [] := by
  have hdied : ¬ (Fate.died = .returned) := fun he => nomatch he
  have htake : Step (· = .returned) ends h.Idle h k := .take hb hi hfed
  have hidle := hfed.idle_taken hb.made
  have hmembers : k.members b = h.members b := by rw [hfed.members, members_of_roster (roster_setBusy h b true)]
  obtain ⟨told, g, hdeliver, hg, hended⟩ := deliver_amid hrun (fun _ hk _ _ hc d => dispatch_passed hrun hk hc d)
    (htake.regular hr) (Nat.lt_succ_self _) hi (fun hc => ((hidle b).1 hc).2 rfl) (fun c hc => ((hidle c).1 hc).1)
    (fun s hs => hfed.mem_of_touched hs)
  obtain ⟨rfl, hempty⟩ := hended hdied
  refine ⟨g, hdeliver, hg, fun s hs => List.eq_nil_of_length_eq_zero ((Backlog.length_toList _).trans ?_)⟩
  exact hempty (fun u hu => hfed.touched_or_empty (hr.empty hdied b hi u (hmembers ▸ hu))) s hs

/-- What waits when a delivery begins is handed to those who still belong to the broker when it ends. -/
theorem Amid.handed_all {free : Nat → Prop} (hg : Amid (· = .returned) ends free b k g)
    (hempty : ∀ s ∈ g.members b, (g.subscription s).backlog.toList = []) {s : Nat} (hs : s ∈ k.members b)
    (hsg : s ∈ g.members b) :
    handedTo s g.desk.entries = handedTo s k.desk.entries ++ (k.subscription s).backlog.toList ∧
      (g.subscription s).backlog.dropped = (k.subscription s).backlog.dropped := by
  obtain ⟨hwaits, hdropped⟩ := hg.handed (fun he => nomatch he) s hs hsg
  rw [hempty s hsg, List.append_nil] at hwaits
  exact ⟨hwaits, hdropped⟩

/-- What a broker without waiting messages has taken in is handed on by a delivery. -/
theorem deliver_hands_on (hr : Regular (· = .returned) h) (hb : h.Attached b) (hi : h.Idle b)
    (hrun : Orderly (· = .returned) run (· ≠ b)) {T : List Nat} (hfed : Fed b ms [] T (h.setBusy b true) k) :
    ∃ g, Act.deliver run T k = (.ok (), g) ∧ ∀ s ∈ h.members b,
      handedTo s g.desk.entries = handedTo s h.desk.entries ++ (k.subscription s).backlog.toList ∧
      (g.subscription s).backlog.dropped = (k.subscription s).backlog.dropped := by
  obtain ⟨g, hdeliver, hg, hempty⟩ := deliver_clears hr hb hi hrun hfed
  refine ⟨g, hdeliver, fun s hs => ?_⟩
  have hsk : s ∈ k.members b := by rwa [hfed.members, members_of_roster (roster_setBusy h b true)]
  have hdesk : k.desk = h.desk := hfed.desk
  exact hdesk ▸ hg.handed_all hempty hsk (Course.mem_members hg.course (fun hne => hne rfl) hsk)

/-- A dispatch until a deadline takes in messages and hands on all that waited when it had done so. Nobody has taken one
of the messages before the last ones, which are no more than a batch. -/
theorem dispatch_served (hr : Regular (· = .returned) h) (hb : h.Attached b) (hi : h.Idle b)
    (hrun : Orderly (· = .returned) run (· ≠ b)) {time : Int} (htime : 0 ≤ time) :
    ∃ ms n last k g, Served run b (h.now + time.toNat * 1000) h ms n last k g ∧
      Act.dispatch run b (.within time) h = ((Act.verdict n last).mapError .failed, g) ∧
      n = (List.range ms.length).countP (h.takenAt b ms) ∧ n ≤ batchLimit ∧
      (∀ i, h.takenAt b ms i = true → ms.length ≤ i + batchLimit) ∧
      (n = 0 → g.desk = h.desk) ∧
      ∀ s ∈ h.members b,
        handedTo s g.desk.entries = handedTo s h.desk.entries ++ (k.subscription s).backlog.toList ∧
        (g.subscription s).backlog.dropped = (k.subscription s).backlog.dropped := by
  have eh := roster_setBusy h b true
  have hseated := seated_setBusy hr.tidy b
  have hzero : ∀ s ∈ (h.setBusy b true).members b, (h.setBusy b true).load s = 0 := fun s hs =>
    hr.empty (fun he => nomatch he) b hi s (members_of_roster eh b ▸ hs)
  -- what is taken in
  obtain ⟨ms, n, T, f, last, k, notices, hrounds, hending, ⟨init, more, k', hms, hinit, hn, hmore⟩, hwithin⟩ :=
    Act.dispatchWithin_rounds run hseated (h.now + time.toNat * 1000)
  rw [show (h.setBusy b true).lineOf b = h.lineOf b from lineOf_of_roster eh b] at hrounds hending hinit
  have htakes : (h.setBusy b true).takenAt b = h.takenAt b := funext fun ms => funext (takenAt_setBusy h b true ms)
  have hsuffices := hending.mono fun he => he.suffices hseated hzero
  rw [Suffices, htakes] at hsuffices
  have hfed : Fed b ms [] T (h.setBusy b true) (k.report notices) := by
    have hfed := (hrounds.fed hseated).trans ((hending.undisturbed.report notices).fed b T)
    rwa [List.append_nil] at hfed
  -- what is handed on
  obtain ⟨g, hdeliver, haccounts⟩ := deliver_hands_on hr hb hi hrun hfed
  have hheld : Act.dispatchHeld run b false (.within time) (h.setBusy b true) =
      ((Act.verdict n last).mapError .failed, g) := by
    rw [Act.dispatchHeld, Act.get_bind_apply]
    exact hwithin.trans ((Act.bind_ok hdeliver).trans (Act.orHalt_apply _ g))
  refine ⟨ms, n, last, _, _, .intro hrounds hsuffices notices hdeliver, ?_, ?_, Nat.le_trans hn hmore,
    fun i htaken => ?_, fun hn => ?_, haccounts⟩
  · rw [Act.dispatch_held (Act.checkTime_within htime h) hb.isOpen hi, hheld]
  · rw [← htakes]
    exact hrounds.count_eq hseated hzero
  · -- nobody has taken one of the first messages
    rw [← htakes, hms] at htaken
    rw [hms, List.length_append]
    exact Nat.add_le_add (hinit.le_of_takenAt hseated hzero htaken) hmore
  · obtain rfl : T = [] := (hrounds.touched_eq_nil_iff hseated).2 ⟨rfl, hn⟩
    cases hdeliver
    exact hfed.desk

/-- Whatever the transport of an open broker is, a dispatch until a deadline hands to each subscription of the broker
the first messages that match it, as many as its bound allows, and counts the others as dropped. If no error has ended
it, it comes to the number of messages that somebody has taken. This is no more than a batch, and so is what it takes in
from the first of these messages on. -/
theorem dispatch_hands_out (hr : Regular (· = .returned) h) (hb : h.Attached b) (hi : h.Idle b)
    (hrun : Orderly (· = .returned) run (· ≠ b)) {time : Int} (htime : 0 ≤ time) :
    ∃ ms n last k g, Served run b (h.now + time.toNat * 1000) h ms n last k g ∧
      (Act.dispatch run b (.within time) h).2 = g ∧
      (∀ s ∈ h.members b,
        handedTo s g.desk.entries =
            handedTo s h.desk.entries ++ upTo (h.subscription s).backlog.capacity (h.matched s ms) ∧
          (g.subscription s).backlog.dropped = (h.subscription s).backlog.dropped +
            ((h.matched s ms).length - (upTo (h.subscription s).backlog.capacity (h.matched s ms)).length)) ∧
      (last = none → (Act.dispatch run b (.within time) h).1 = .ok (.count n)) ∧
      n = (List.range ms.length).countP (h.takenAt b ms) ∧ n ≤ batchLimit ∧
      ∀ i, h.takenAt b ms i = true → ms.length ≤ i + batchLimit := by
  obtain ⟨ms, n, last, k, g, hserved, hdispatch, hcount, hlimit, hlate, -, haccounts⟩ :=
    dispatch_served hr hb hi hrun htime
  refine ⟨ms, n, last, k, g, hserved, congrArg Prod.snd hdispatch, fun s hs => ?_, fun hlast => ?_, hcount, hlimit,
    hlate⟩
  · obtain ⟨hhanded, hdropped⟩ := haccounts s hs
    obtain ⟨htaken, hrest⟩ := hserved.backlog hr.tidy hs (hr.empty (fun he => nomatch he) b hi s hs)
    exact ⟨htaken ▸ hhanded, hdropped.trans hrest⟩
  · rw [hdispatch, hlast, Act.verdict_none]
    rfl

/-! ## A hub -/

/-- Handlers that do nothing but begin. -/
def beginning : Handlers (Annals Unit) := fun s m h => (.returned, note h (.handed s m))

theorem orderly_beginning (ends : Nat → Prop) : Orderly (· = .returned) beginning ends := fun _ _ _ => ⟨rfl, .refl⟩

/-- A broker on a scripted transport, whose subscriptions have a bound. -/
def scripted (items : List Script.Item) (capacity : Option Nat) : Hub (Annals Unit) :=
  (Act.addBroker 0 0 capacity
    { store := ⟨#[], [], []⟩
      interests := #[.nothing]
      transports := #[{ line := .script { items }, interest := 0 }]
      desk := { memory := () } }).2

theorem reached_scripted (items : List Script.Item) (capacity : Option Nat) :
    Reached (· = .returned) (scripted items capacity) :=
  .join (.start rfl rfl rfl) 0 0 capacity

/-- It has got a subscription. -/
def listening (items : List Script.Item) (capacity : Option Nat) : Hub (Annals Unit) :=
  subscribe 0 "c" (scripted items capacity)

theorem reached_listening (items : List Script.Item) (capacity : Option Nat) :
    Reached (· = .returned) (listening items capacity) :=
  .deed (orderly_beginning _) (reached_scripted items capacity)
    (.subscribe (scripted items capacity) 0 Nat.zero_lt_one "c")

/-- Of three messages, one is on another channel, and for one there is no room. -/
def assorted : List Script.Item :=
  [.message ⟨"d", .empty, 1⟩, .message ⟨"c", .empty, 2⟩, .message ⟨"c", .empty, 3⟩]

theorem dispatch_hands_out_assorted :
    ∃ ms n last k g, Served beginning 0 0 (listening assorted (some 1)) ms n last k g ∧
      (Act.dispatch beginning 0 (.within 0) (listening assorted (some 1))).2 = g ∧
      handedTo 0 g.desk.entries = upTo (some 1) ((listening assorted (some 1)).matched 0 ms) ∧
      n = (List.range ms.length).countP ((listening assorted (some 1)).takenAt 0 ms) := by
  have hidle : (listening assorted (some 1)).Idle 0 := by
    rw [Idle]
    decide +kernel
  obtain ⟨ms, n, last, k, g, hserved, hleft, haccounts, -, hcount, -⟩ := dispatch_hands_out
    (reached_listening assorted (some 1)).regular.1 ⟨by decide +kernel, by decide +kernel⟩ hidle (orderly_beginning _)
    (Int.le_refl 0)
  have hmember : 0 ∈ (listening assorted (some 1)).members 0 := by decide +kernel
  have hnothing : handedTo 0 (listening assorted (some 1)).desk.entries = [] := rfl
  have hbound : ((listening assorted (some 1)).subscription 0).backlog.capacity = some 1 := by decide +kernel
  have hhanded := (haccounts 0 hmember).1
  rw [hnothing, hbound, List.nil_append] at hhanded
  exact ⟨ms, n, last, k, g, hserved, hleft, hhanded, hcount⟩

example :
    (Act.dispatch beginning 0 (.within 0) (listening assorted (some 1))).1.toOption = some (.count 1) ∧
      ((Act.dispatch beginning 0 (.within 0) (listening assorted (some 1))).2.subscription 0).backlog.dropped = 1 := by
  decide +kernel

end PubSub.Chronicle
