import Mathlib.Algebra.GroupWithZero.Nat
import PubSub.Proofs.Hub.Replaying
import PubSub.Proofs.Hub.Sparing

/-!
# Playing back what was recorded

A broker that replays a file without pauses hands each of its unbounded subscriptions the messages in the file that it
accepts, in order and once. Dispatches that do not wait take as many messages as a batch may have, until none is left,
and from then on tell that the file has ended.

* `Act.listen`: opens a broker on a file and makes unbounded subscriptions to it.
* `Act.dispatches`: dispatches again and again.
* `Hub.Playing`: what holds between these calls.
* `Traffic.PlaysBack`: what comes of the dispatches.

Results:

* `Act.listen_playing`: nothing is given out until the first dispatch.
* `Traffic.dispatch_playing`: one dispatch; `Traffic.dispatches_playing`: all of them.
* `Traffic.listen_playsBack`: what a file has is handed on.
* `Traffic.record_played_back`: what was published by a broker that records is handed on by one that replays.
-/

namespace PubSub

variable {η : Type}

namespace Act

/-- Makes subscriptions without a bound to a broker. -/
def subscribeAll (b : Nat) : List String → Act η (List Nat)
  | [] => return []
  | text :: texts => do
    let s ← subscribe b text
    modify (·.setCapacity s none)
    return s :: (← subscribeAll b texts)

/-- Opens a broker on a file and makes subscriptions without a bound to it. -/
def listen (a : FileAddress) (exchange : Nat) (clock : Clock) (defaultCapacity : Option Nat) (texts : List String) :
    Act η (Nat × List Nat) := do
  let b ← openAddress (.file a) exchange clock defaultCapacity
  let subscriptions ← subscribeAll b texts
  return (b, subscriptions)

/-- Dispatches a number of times without waiting, and gives what comes of it each time. -/
def dispatches (run : Handlers η) (b : Nat) : Nat → Act η (List (Except Error Dispatched))
  | 0 => return []
  | n + 1 => do
    let result ← attempt (dispatch run b (.within 0))
    return result :: (← dispatches run b n)

end Act

namespace Hub

/-- Broker `b` is open and not busy and replays file `file`, which nobody writes. Its subscriptions have no bounds, and
nothing was routed to them that was not handed on. -/
structure Playing (h : Hub η) (b file : Nat) : Prop where
  enlisted : h.Enlisted
  apart : h.Apart file
  attached : h.Attached b
  idle : (h.broker b).busy = false
  source : h.source (h.lineOf b) = some file
  ready : h.Ready (h.lineOf b)
  unbounded : ∀ s ∈ h.members b, (h.subscription s).backlog.capacity = none
  empty : ∀ s ∈ h.members b, h.load s = 0

/-- The patterns of the subscriptions of a broker. -/
def patterns (h : Hub η) (b : Nat) : List Pattern := (h.members b).map fun s => (h.subscription s).pattern

variable {h f g : Hub η} {b file : Nat}

/-- Whether somebody wants a channel. -/
theorem wants_eq_any (he : h.Enlisted) (hb : h.Attached b) (channel : String) :
    h.wants (h.lineOf b) channel = (h.patterns b).any fun p => p.accepts channel := by
  rw [Bool.eq_iff_iff, he.mirrored.wants_iff hb, patterns, List.any_map, List.any_eq_true]
  rfl

/-! ## Listening -/

/-- A transport that replays is no journal that is being written. -/
theorem Apart.of_others (ha : h.Apart file) {t : Nat} (hothers : ∀ u ≠ t, g.transport u = h.transport u)
    (hs : g.source t = some file) : g.Apart file := fun u j hj => by
  by_cases hu : u = t
  · rw [Hub.source, ← hu, hj] at hs
    cases hs
  · exact ha u j (by rw [← hothers u hu]; exact hj)

/-- A broker that has just been made on a file that it reads has given out nothing. -/
theorem playing_opened (he : h.Enlisted) (ha : h.Apart file) {path f : ByteArray} {speed : Float} (hspeed : ¬ 0 < speed)
    (readable : (h.store.node file).read = .ok f) (cursor : Nat) (clock : Clock) (capacity : Option Nat)
    (notices : Array Notice) {g : Hub η}
    (hg : g = { h.enlarged (.replay (Replay.opened path speed file cursor f)) clock capacity with notices }) :
    g.Playing h.brokers.size file ∧
      g.rest (g.lineOf h.brokers.size) = (Journal.scanAll f cursor).records.map Journal.Record.message ∧
      g.members h.brokers.size = [] := by
  obtain ⟨hruns, hrest, -⟩ := Replay.runs_opened path hspeed file cursor f
  set line := Line.replay (Replay.opened path speed file cursor f)
  have hbroker : g.broker h.brokers.size =
      { transport := h.transports.size, interest := h.interests.size, defaultCapacity := capacity } := by
    rw [hg]
    exact (broker_enlarged h line clock capacity h.brokers.size).trans (if_pos rfl)
  have hlineOf : g.lineOf h.brokers.size = h.transports.size := congrArg Broker.transport hbroker
  have hmembers : g.members h.brokers.size = [] := congrArg Broker.subscriptions hbroker
  have htransport : g.transport h.transports.size = { line, interest := h.interests.size, clock } := by
    rw [hg]
    exact (transport_enlarged h line clock capacity h.transports.size).trans (if_pos rfl)
  have hinterest : g.interest h.interests.size = .nothing := by
    rw [hg]
    exact (interest_enlarged h line clock capacity h.interests.size).trans (if_pos rfl)
  have hattached := (attached_enlarged h line clock capacity h.brokers.size).2 (Or.inl rfl)
  refine ⟨?_, ?_, hmembers⟩
  · constructor
    case enlisted =>
      rw [hg]
      exact (he.enlarged line clock capacity).of_roster rfl
    case apart =>
      intro u j hj
      rw [hg] at hj
      have hu := transport_enlarged h line clock capacity u
      by_cases hlast : u = h.transports.size
      · rw [if_pos hlast] at hu
        cases (congrArg Transport.line hu).symm.trans hj
      · rw [if_neg hlast] at hu
        exact ha u j ((congrArg Transport.line hu).symm.trans hj)
    case attached =>
      rw [hg]
      exact ⟨hattached.made, hattached.isOpen⟩
    case idle => rw [hbroker]
    case source =>
      rw [Hub.source, hlineOf, htransport]
      exact Line.source_replay hruns
    case ready =>
      rw [Ready, wants, hlineOf, htransport, hinterest, hg]
      exact Line.ready_opened hspeed cursor readable
    case unbounded => simp [hmembers]
    case empty => simp [hmembers]
  · rw [Hub.rest, hlineOf, htransport, hg]
    exact (Line.rest_replay hruns readable).trans (by rw [hrest])

/-- The subscriptions after a new one was enrolled and its bound taken away. -/
theorem subscription_unbounded {pattern : Pattern} (hf : f.subscription = (h.enrolled b pattern).subscription)
    (hsize : f.subscriptions.size = (h.enrolled b pattern).subscriptions.size) (s : Nat) :
    (f.setCapacity h.subscriptions.size none).subscription s = if s = h.subscriptions.size then
      { id := (h.broker b).nextId, pattern, backlog := (Backlog.new (h.broker b).defaultCapacity).setCapacity none }
      else h.subscription s := by
  have hs : f.subscription s = _ := (congrFun hf s).trans (subscription_enrolled h b pattern s)
  rw [subscriptions_size_enrolled] at hsize
  rw [setCapacity, subscription_modifySubscription, hs, hsize]
  by_cases hnew : s = h.subscriptions.size
  · rw [if_pos ⟨hnew.symm, by omega⟩, if_pos hnew, if_pos hnew]
  · rw [if_neg fun hc => hnew hc.1.symm, if_neg hnew, if_neg hnew]

/-- A subscription without a bound is made. -/
theorem Playing.subscribed (hp : h.Playing b file) {text : String} {pattern : Pattern}
    (htext : Pattern.ofText text = .ok pattern) :
    ∃ f g, Act.subscribe b text h = (.ok h.subscriptions.size, f) ∧ f.setCapacity h.subscriptions.size none = g ∧
      g.Playing b file ∧ g.desk = h.desk ∧ g.rest (g.lineOf b) = h.rest (h.lineOf b) ∧
      g.members b = h.members b ++ [h.subscriptions.size] ∧ g.patterns b = h.patterns b ++ [pattern] := by
  have hb := hp.attached
  have hlive : (h.enrolled b pattern).Live (h.lineOf b) := hp.ready.live
  obtain ⟨k, hchanged, hk, hrest⟩ := Act.interestChanged_drew hlive
  set f := k.report [.debug (s!"broker: subscription {(h.broker b).nextId} on " ++ Text.quoted text)] with hf
  set g := f.setCapacity h.subscriptions.size none with hg
  have e : g.roster = (h.enrolled b pattern).roster :=
    (roster_of_wiring (wiring_setCapacity f h.subscriptions.size none)).trans hk.roster
  have hbroker : g.broker b = (h.enrolled b pattern).broker b := congrFun hk.broker b
  have hlineOf : g.lineOf b = h.lineOf b := (lineOf_of_roster e b).trans (lineOf_enrolled hb.made pattern b)
  have hmembers : g.members b = h.members b ++ [h.subscriptions.size] :=
    (members_of_roster e b).trans ((members_enrolled hb.made pattern b).trans (if_pos rfl))
  -- only the new subscription is affected by its bound
  have hsub : ∀ s, g.subscription s = _ :=
    subscription_unbounded (f := f) hk.subscription (subscriptions_size_of_roster hk.roster)
  have hold : ∀ s ∈ h.members b, g.subscription s = h.subscription s := fun s hs => by
    rw [hsub, if_neg (Nat.ne_of_lt (hp.enlisted.member_lt b hb.made s hs))]
  have hnew := hsub h.subscriptions.size
  rw [if_pos rfl] at hnew
  refine ⟨f, g, Act.subscribe_enrolled hb.isOpen htext hchanged, rfl, ?_, hk.desk, hlineOf ▸ hrest, hmembers, ?_⟩
  · constructor
    case enlisted => exact (hp.enlisted.enrolled hb pattern).of_roster e
    case apart =>
      have hsource : k.source (h.lineOf b) = some file := hk.source.trans hp.source
      have hapart : k.Apart file := Apart.of_others (h := h.enrolled b pattern) hp.apart hk.others hsource
      exact hapart
    case attached => exact (attached_of_roster e b).2 ((attached_enrolled hb.made pattern b).2 hb)
    case idle =>
      rw [hbroker, broker_enrolled hb.made, if_pos rfl]
      exact hp.idle
    case source =>
      rw [hlineOf]
      exact hk.source.trans hp.source
    case ready =>
      rw [hlineOf]
      exact hk.ready
    case unbounded =>
      intro s hs
      rcases List.mem_append.1 (hmembers ▸ hs) with hs | hs
      · rw [hold s hs]
        exact hp.unbounded s hs
      · rw [List.mem_singleton.1 hs, hnew]
        rfl
    case empty =>
      intro s hs
      rcases List.mem_append.1 (hmembers ▸ hs) with hs | hs
      · rw [load, hold s hs]
        exact hp.empty s hs
      · rw [load, List.mem_singleton.1 hs, hnew]
        rfl
  · rw [patterns, hmembers, List.map_append, List.map_congr_left fun s hs => by rw [hold s hs], List.map_singleton,
      hnew, patterns]

end Hub

namespace Act

open Hub

variable {h : Hub η} {b file : Nat}

/-- Subscriptions are made one after the other. -/
theorem subscribeAll_playing (hp : h.Playing b file) {texts : List String} {patterns : List Pattern}
    (htexts : List.Forall₂ (fun text p => Pattern.ofText text = .ok p) texts patterns) :
    ∃ subscriptions g, subscribeAll b texts h = (.ok subscriptions, g) ∧ g.Playing b file ∧ g.desk = h.desk ∧
      g.rest (g.lineOf b) = h.rest (h.lineOf b) ∧ g.members b = h.members b ++ subscriptions ∧
      g.patterns b = h.patterns b ++ patterns := by
  induction htexts generalizing h with
  | nil => exact ⟨[], h, rfl, hp, rfl, rfl, (List.append_nil _).symm, (List.append_nil _).symm⟩
  | @cons text p texts patterns htext _ ih =>
    obtain ⟨f, k, hsubscribe, hk, hplaying, hdesk, hrest, hmembers, hpatterns⟩ := hp.subscribed htext
    obtain ⟨subscriptions, g, hall, hg, hdesk', hrest', hmembers', hpatterns'⟩ := ih hplaying
    refine ⟨h.subscriptions.size :: subscriptions, g, ?_, hg, hdesk'.trans hdesk, hrest'.trans hrest, ?_, ?_⟩
    · rw [← hk] at hall
      simp only [subscribeAll, bind_apply, hsubscribe, modify_apply, hall, pure_apply]
    · rw [hmembers', hmembers, List.append_assoc, List.singleton_append]
    · rw [hpatterns', hpatterns, List.append_assoc, List.singleton_append]

/-- Nothing is given out until the first dispatch. What the file has from where the replay starts is still to come. -/
theorem listen_playing (he : h.Enlisted) (ha : h.Apart file) {a : FileAddress} {f : ByteArray} (hmode : a.mode = .read)
    (hspeed : ¬ 0 < a.speed) (hopen : h.store.openRead a.path = .ok file) (readable : (h.store.node file).read = .ok f)
    (exchange : Nat) (clock : Clock) (capacity : Option Nat) {texts : List String} {patterns : List Pattern}
    (htexts : List.Forall₂ (fun text p => Pattern.ofText text = .ok p) texts patterns) :
    ∃ subscriptions c g, listen a exchange clock capacity texts h = (.ok (h.brokers.size, subscriptions), g) ∧
      (a.start = none → c = 0) ∧ g.Playing h.brokers.size file ∧ g.desk = h.desk ∧
      g.rest (g.lineOf h.brokers.size) = (Journal.scanAll f c).records.map Journal.Record.message ∧
      g.members h.brokers.size = subscriptions ∧ g.patterns h.brokers.size = patterns := by
  rcases openAddress_replay h hmode exchange clock capacity with
    ⟨file', c, f', notices, hopen', readable', hc, hmade⟩ | ⟨hnever, -⟩
  · cases hopen.symm.trans hopen'
    cases readable.symm.trans readable'
    generalize hk : ({ h.enlarged (.replay (Replay.opened a.path a.speed file c f)) clock capacity with
      notices } : Hub η) = k at hmade
    obtain ⟨hp, hrest, hmembers⟩ := playing_opened he ha hspeed readable c clock capacity notices hk.symm
    obtain ⟨subscriptions, g, hall, hg, hdesk, hrest', hmembers', hpatterns⟩ := subscribeAll_playing hp htexts
    have hdesk₀ : k.desk = h.desk := by rw [← hk]; rfl
    have hpatterns₀ : k.patterns h.brokers.size = [] := by rw [Hub.patterns, hmembers]; rfl
    rw [hpatterns₀] at hpatterns
    rw [hmembers] at hmembers'
    exact ⟨subscriptions, c, g, (bind_ok hmade).trans ((bind_ok hall).trans rfl), hc, hg, hdesk.trans hdesk₀,
      hrest'.trans hrest, hmembers', hpatterns⟩
  · exact absurd readable (hnever file hopen f)

end Act

namespace Traffic

open Hub
open Act (bind_apply bind_ok pure_apply attempt_apply dispatches)

variable {μ : Type} {h f g : Hub (Diary μ)} {b file : Nat} {conduct : Conduct μ}

/-! ## One dispatch -/

/-- What becomes of a broker that replays when it is given `ms` to hand on. -/
structure Handed (b file : Nat) (ms : List Message) (h g : Hub (Diary μ)) : Prop where
  playing : g.Playing b file
  ahead : h.ahead (h.lineOf b) = ms ++ g.ahead (g.lineOf b)
  members : g.members b = h.members b
  pattern : ∀ s ∈ h.members b, (g.subscription s).pattern = (h.subscription s).pattern
  /-- Each subscription was handed what it accepts. -/
  handed : ∀ s ∈ h.members b, handedTo s g.desk.log =
    handedTo s h.desk.log ++ ms.filter fun m => (h.subscription s).pattern.accepts m.channel

theorem toList_of_load {s : Nat} (hs : h.load s = 0) : (h.subscription s).backlog.toList = [] := by
  rw [← List.length_eq_zero_iff, Backlog.length_toList]
  exact hs

/-- What was routed by a broker that replays leaves it replaying. -/
theorem underway_poured (hp : h.Playing b file) {ms : List Message} {T : List Nat}
    (hf : Poured b (h.lineOf b) ms [] T (h.setBusy b true) f) : Underway b file f := by
  have e := hf.roster.trans (roster_setBusy h b true)
  have hsource : f.source (h.lineOf b) = some file := hf.source.trans hp.source
  refine ⟨hp.enlisted.of_roster e, ?_, brokers_size_of_roster e ▸ hp.attached.made, ?_⟩
  · exact Apart.of_others (h := h.setBusy b true) hp.apart hf.others hsource
  · rw [lineOf_of_roster e]
    exact Line.replay_of_source hsource

/-- After messages were routed to a broker that was not busy, and handed on to its handlers. -/
theorem handed_released (hp : h.Playing b file) {ms : List Message} {T : List Nat}
    (hf : Poured b (h.lineOf b) ms [] T (h.setBusy b true) f) (hg : Spared b file f g) (hzero : ∀ s ∈ T, g.load s = 0) :
    Handed b file ms h (g.setBusy b false) := by
  have ef : f.roster = h.roster := hf.roster.trans (roster_setBusy h b true)
  have eg := roster_setBusy g b false
  have hmembers : f.members b = h.members b := members_of_roster ef b
  have hline : f.lineOf b = h.lineOf b := lineOf_of_roster ef b
  have hsize : g.brokers.size = h.brokers.size := hg.remains.size.trans (brokers_size_of_roster ef)
  have hfed : ∀ s ∈ h.members b, f.subscription s = Subscription.fed (h.subscription s) ms := fun s hs =>
    hf.member s (members_of_roster (roster_setBusy h b true) b ▸ hs)
  have hcapacity : ∀ s ∈ h.members b, (g.subscription s).backlog.capacity = none := fun s hs => by
    rw [hg.capacity s (hmembers ▸ hs), hf.capacity]
    exact hp.unbounded s hs
  -- who has taken nothing had nothing waiting before
  have hload : ∀ s ∈ h.members b, g.load s = 0 := fun s hs => by
    by_cases hT : s ∈ T
    · exact hzero s hT
    · have hgrown : ¬ h.load s < f.load s := fun hlt => hT ((hf.touched s).2 (Or.inr hlt))
      have hle := hg.load s (hmembers ▸ hs)
      have hempty := hp.empty s hs
      omega
  obtain ⟨hsource, hahead, hready⟩ := hg.remains.ahead (by rw [hline]; exact hf.source.trans hp.source)
  refine ⟨?_, ?_, ?_, fun s hs => ?_, fun s hs => ?_⟩
  · constructor
    case enlisted => exact hg.remains.enlisted.of_roster eg
    case apart => exact hg.remains.apart
    case attached =>
      refine (attached_of_roster eg b).2 ⟨hsize ▸ hp.attached.made, ?_⟩
      rw [hg.remains.broker, shut_of_roster ef]
      exact hp.attached.isOpen
    case idle => rw [broker_setBusy, if_pos ⟨rfl, hsize ▸ hp.attached.made⟩]
    case source => rw [lineOf_of_roster eg]; exact hsource
    case ready =>
      rw [lineOf_of_roster eg]
      exact ready_of_lines eg (fun _ => rfl) rfl _ (hready (hline ▸ hf.ready))
    case unbounded =>
      intro s hs
      rw [members_of_roster eg, hg.remains.members, hmembers] at hs
      exact hcapacity s hs
    case empty =>
      intro s hs
      rw [members_of_roster eg, hg.remains.members, hmembers] at hs
      exact hload s hs
  · rw [lineOf_of_roster eg, ahead_of_same (g := g.setBusy b false) (h := g) rfl rfl (wants_of_roster eg _), hahead,
      hline]
    exact hf.ahead
  · rw [members_of_roster eg, hg.remains.members, hmembers]
  · exact (hg.pattern s (hmembers ▸ hs)).trans (pattern_of_roster ef s)
  · have hgiven := hg.given s (hmembers ▸ hs)
    rw [given, given, toList_of_load (hload s hs), List.append_nil, hf.desk, hfed s hs] at hgiven
    refine hgiven.trans ?_
    rw [Subscription.fed, Backlog.toList_pushAll (hp.unbounded s hs), toList_of_load (hp.empty s hs), List.nil_append]
    rfl

/-- A dispatch that does not wait hands on as many of the messages ahead as a batch may have. If there are none, the
file has ended. -/
theorem dispatch_playing (hconduct : ∀ s m, (conduct s m).Spares b) (hp : h.Playing b file) :
    ∃ g, Act.dispatch (handlers conduct) b (.within 0) h =
        (if h.ahead (h.lineOf b) = [] then .error (.failed .endOfLog)
          else .ok (.count ((h.ahead (h.lineOf b)).take batchLimit).length), g) ∧
      Handed b file ((h.ahead (h.lineOf b)).take batchLimit) h g := by
  set k := h.setBusy b true with hk
  have e := roster_setBusy h b true
  have hline : k.lineOf b = h.lineOf b := lineOf_of_roster e b
  have hserving : k.Serving b := (hp.enlisted.serving hp.attached).of_roster e
  have hready : k.Ready (k.lineOf b) := hline ▸ ready_of_lines e (fun _ => rfl) rfl _ hp.ready
  -- whatever is ahead is wanted, and there is room for it
  have htakes : ∀ m ∈ h.ahead (h.lineOf b), k.Takes b m := fun m hm => by
    obtain ⟨s, hs, haccepts⟩ := (hserving.wants_iff m.channel).1 (hready.wanted m (hline ▸ hm))
    refine ⟨s, hs, haccepts, ?_⟩
    rw [Backlog.hasRoom, show (k.subscription s).backlog.capacity = none from
      hp.unbounded s (members_of_roster e b ▸ hs)]
  obtain ⟨ms, T, f, hf, hout⟩ :=
    Act.dispatchWithin_poured (handlers conduct) hserving hready (k.now + (0 : Int).toNat * 1000) false
  rw [hline] at hf hout
  have hsplit : h.ahead (h.lineOf b) = ms ++ f.ahead (h.lineOf b) := hf.ahead
  have hmem : ∀ m ∈ ms, k.Takes b m := fun m hm => htakes m (hsplit ▸ List.mem_append_left _ hm)
  have hu := underway_poured hp hf
  rw [Act.dispatch_held rfl hp.attached.isOpen hp.idle, Act.dispatchHeld, Act.get_bind_apply]
  rcases hout with ⟨init, m, more, count, rfl, hinit, -, -, hlength, hfull, -, hcount, he⟩ | ⟨rfl, hall, hend⟩
  · obtain rfl : init = [] :=
      List.eq_nil_iff_forall_not_mem.2 fun x hx => hinit x hx (hmem x (List.mem_append_left _ hx))
    have htake : (h.ahead (h.lineOf b)).take batchLimit = m :: more := by
      rw [hsplit]
      rcases hfull with hfull | hend
      · exact List.take_left' hfull
      · rw [hend, List.append_nil]
        exact List.take_of_length_le hlength
    have hT : ∀ s ∈ T, s ∈ f.members b := fun s hs => by
      rcases (hf.touched s).1 hs with hs | hgrown
      · cases hs
      · by_contra hstranger
        rw [hf.stranger s (members_of_roster hf.roster b ▸ hstranger)] at hgrown
        exact Nat.lt_irrefl _ hgrown
    obtain ⟨g, hdeliver, hg, -, hzero⟩ := Act.deliver_careful (careful_handlers hconduct hu) hT hu.spared
    have hcounted : count = (m :: more).length := hcount fun s hs => hp.unbounded s (members_of_roster e b ▸ hs)
    rw [htake, if_neg (by rw [hsplit]; exact List.cons_ne_nil _ _), he, hcounted, bind_apply, hdeliver]
    exact ⟨_, rfl, handed_released hp hf hg hzero⟩
  · obtain rfl : ms = [] := List.eq_nil_iff_forall_not_mem.2 fun x hx => hall x hx (hmem x hx)
    rcases hend with ⟨hfull, -⟩ | ⟨hend, he⟩
    · exact absurd hfull (by decide)
    · have hahead : h.ahead (h.lineOf b) = [] := by rw [hsplit, hend]; rfl
      have hended : k.ends (h.lineOf b) = true := congrArg Option.isSome hp.source
      rw [hahead, if_pos rfl, he, hended]
      exact ⟨_, rfl, handed_released hp hf hu.spared (by simp)⟩

/-! ## Dispatches -/

/-- At the end of the file nothing is handed on any more. -/
theorem dispatches_ended (hconduct : ∀ s m, (conduct s m).Spares b) (hp : h.Playing b file)
    (hahead : h.ahead (h.lineOf b) = []) (n : Nat) :
    ∃ g, dispatches (handlers conduct) b n h = (.ok (List.replicate n (.error .endOfLog)), g) ∧
      ∀ s ∈ h.members b, handedTo s g.desk.log = handedTo s h.desk.log := by
  induction n generalizing h with
  | zero => exact ⟨h, rfl, fun _ _ => rfl⟩
  | succ n ih =>
    obtain ⟨f, hdispatch, hf⟩ := dispatch_playing hconduct hp
    rw [hahead, List.take_nil] at hf
    rw [if_pos hahead] at hdispatch
    obtain ⟨g, hrest, hg⟩ := ih hf.playing (hf.ahead.symm.trans hahead)
    refine ⟨g, ?_, fun s hs => ?_⟩
    · simp only [dispatches, bind_apply, attempt_apply, hdispatch, hrest, pure_apply]
      rfl
    · rw [hg s (hf.members ▸ hs), hf.handed s hs, List.filter_nil, List.append_nil]

/-- Dispatches that do not wait hand on all messages that are ahead, in batches, and then tell that the file has
ended. -/
theorem dispatches_playing (hconduct : ∀ s m, (conduct s m).Spares b) (hp : h.Playing b file) :
    ∃ counts : List Nat, (∀ c ∈ counts, 1 ≤ c ∧ c ≤ batchLimit) ∧ counts.sum = (h.ahead (h.lineOf b)).length ∧
      ∀ n, ∃ g, dispatches (handlers conduct) b (counts.length + n) h =
          (.ok (counts.map (fun c => .ok (.count c)) ++ List.replicate n (.error .endOfLog)), g) ∧
        ∀ s ∈ h.members b, handedTo s g.desk.log = handedTo s h.desk.log ++
          (h.ahead (h.lineOf b)).filter fun m => (h.subscription s).pattern.accepts m.channel := by
  -- induction on how many messages are ahead
  generalize hlength : (h.ahead (h.lineOf b)).length = length
  induction length using Nat.strongRecOn generalizing h with
  | ind length ih =>
    by_cases hahead : h.ahead (h.lineOf b) = []
    · refine ⟨[], (fun c hc => nomatch hc), by rw [← hlength, hahead]; rfl, fun n => ?_⟩
      obtain ⟨g, hrun, hg⟩ := dispatches_ended hconduct hp hahead n
      refine ⟨g, ?_, fun s hs => ?_⟩
      · rw [List.length_nil, Nat.zero_add, hrun]
        rfl
      · rw [hg s hs, hahead, List.filter_nil, List.append_nil]
    · obtain ⟨f, hdispatch, hf⟩ := dispatch_playing hconduct hp
      rw [if_neg hahead] at hdispatch
      have hsplit := hf.ahead
      have hpos := List.length_pos_of_ne_nil hahead
      set ms := (h.ahead (h.lineOf b)).take batchLimit with hms
      have hbatch : 1 ≤ ms.length ∧ ms.length ≤ batchLimit := by
        rw [hms, List.length_take]
        have : 0 < batchLimit := by decide
        omega
      have hsum : length = ms.length + (f.ahead (f.lineOf b)).length := by
        rw [← hlength, hsplit, List.length_append]
      obtain ⟨counts, hcounts, htotal, hrun⟩ := ih _ (by omega) hf.playing rfl
      refine ⟨ms.length :: counts, ?_, ?_, fun n => ?_⟩
      · intro c hc
        rcases List.mem_cons.1 hc with rfl | hc
        · exact hbatch
        · exact hcounts c hc
      · rw [List.sum_cons, htotal, hsum]
      · obtain ⟨g, hrest, hg⟩ := hrun n
        refine ⟨g, ?_, fun s hs => ?_⟩
        · rw [List.length_cons, Nat.add_right_comm]
          simp only [dispatches, bind_apply, attempt_apply, hdispatch, hrest, pure_apply]
          rfl
        · rw [hg s (hf.members ▸ hs), hf.handed s hs, hf.pattern s hs, hsplit, List.filter_append, List.append_assoc]

/-! ## From the file to the handlers -/

/-- Dispatches by broker `b` that do not wait hand on what its subscriptions, which have the given patterns, accept of
`ms`: in batches, until nothing is left, and then they tell that the file has ended. -/
def PlaysBack (conduct : Conduct μ) (b : Nat) (subscriptions : List Nat) (patterns : List Pattern) (ms : List Message)
    (h : Hub (Diary μ)) : Prop :=
  ∃ counts : List Nat, (∀ c ∈ counts, 1 ≤ c ∧ c ≤ batchLimit) ∧
    counts.sum = (ms.filter fun m => patterns.any fun p => p.accepts m.channel).length ∧
    ∀ n, ∃ g, dispatches (handlers conduct) b (counts.length + n) h =
        (.ok (counts.map (fun c => .ok (.count c)) ++ List.replicate n (.error .endOfLog)), g) ∧
      List.Forall₂ (fun s p => handedTo s g.desk.log = handedTo s h.desk.log ++ ms.filter fun m => p.accepts m.channel)
        subscriptions patterns

/-- What a broker that replays is to hand on is what its file still has and one of its patterns accepts. -/
theorem ahead_playing (hp : h.Playing b file) :
    h.ahead (h.lineOf b) =
      (h.rest (h.lineOf b)).filter fun m => (h.patterns b).any fun p => p.accepts m.channel := by
  have hahead : h.ahead (h.lineOf b) = (h.rest (h.lineOf b)).filter fun m => h.wants (h.lineOf b) m.channel :=
    Line.ahead_of_source hp.source
  simp only [hahead, wants_eq_any hp.enlisted hp.attached]

theorem playsBack_playing (hconduct : ∀ s m, (conduct s m).Spares b) (hp : h.Playing b file) :
    PlaysBack conduct b (h.members b) (h.patterns b) (h.rest (h.lineOf b)) h := by
  obtain ⟨counts, hcounts, hsum, hrun⟩ := dispatches_playing hconduct hp
  rw [ahead_playing hp] at hsum hrun
  refine ⟨counts, hcounts, hsum, fun n => ?_⟩
  obtain ⟨g, hdispatches, hg⟩ := hrun n
  refine ⟨g, hdispatches, ?_⟩
  rw [patterns, List.forall₂_map_right_iff, List.forall₂_same]
  intro s hs
  -- what one of them accepts is wanted
  rw [hg s hs, List.filter_filter]
  congr 1
  refine List.filter_congr fun m _ => ?_
  by_cases haccepts : (h.subscription s).pattern.accepts m.channel = true
  · have hany : (h.patterns b).any (fun p => p.accepts m.channel) = true :=
      List.any_eq_true.2 ⟨_, List.mem_map_of_mem hs, haccepts⟩
    rw [haccepts, hany]
    rfl
  · rw [Bool.eq_false_iff.2 haccepts, Bool.false_and]

/-- A broker that replays a file without pauses hands on what it reads there. -/
theorem listen_playsBack (he : h.Enlisted) (ha : h.Apart file) {a : FileAddress} {content : ByteArray}
    (hmode : a.mode = .read) (hspeed : ¬ 0 < a.speed) (hopen : h.store.openRead a.path = .ok file)
    (readable : (h.store.node file).read = .ok content) (exchange : Nat) (clock : Clock) (capacity : Option Nat)
    {texts : List String} {patterns : List Pattern}
    (htexts : List.Forall₂ (fun text p => Pattern.ofText text = .ok p) texts patterns)
    (hconduct : ∀ s m, (conduct s m).Spares h.brokers.size) :
    ∃ subscriptions c g, Act.listen a exchange clock capacity texts h = (.ok (h.brokers.size, subscriptions), g) ∧
      (a.start = none → c = 0) ∧ subscriptions.Nodup ∧ g.desk = h.desk ∧
      PlaysBack conduct h.brokers.size subscriptions patterns
        ((Journal.scanAll content c).records.map Journal.Record.message) g := by
  obtain ⟨subscriptions, c, g, hlisten, hc, hg, hdesk, hrest, rfl, rfl⟩ :=
    Act.listen_playing he ha hmode hspeed hopen readable exchange clock capacity htexts
  exact ⟨_, c, g, hlisten, hc, hg.enlisted.members_nodup hg.attached.made, hdesk,
    hrest ▸ playsBack_playing hconduct hg⟩

/-- What is published by a broker that writes a file, at whatever times its clock tells, is handed on by each broker
that replays the file without pauses. It is all of it unless the broker was told a time to start from. -/
theorem record_played_back {η : Type} {w : Hub η} {a : FileAddress} (hmode : a.mode = .write)
    (hbegins : Journal.Begins w.store a.path .write) (exchange : Nat) (clock : Clock) (capacity : Option Nat)
    (calls : List Journal.Call) :
    ∃ results v id, Act.record a exchange clock capacity calls w = (.ok results, v) ∧
      List.Forall₂ Journal.Call.Answered calls results ∧ v.store.openRead a.path = .ok id ∧
      ∀ {μ : Type} {h : Hub (Diary μ)} {r : FileAddress} {file : Nat} (conduct : Conduct μ) (exchange : Nat)
        (clock : Clock) (capacity : Option Nat) {texts : List String} {patterns : List Pattern},
        h.Enlisted → h.store.openRead r.path = .ok file → h.store.node file = v.store.node id → h.Apart file →
        r.mode = .read → ¬ 0 < r.speed → List.Forall₂ (fun text p => Pattern.ofText text = .ok p) texts patterns →
        (∀ s m, (conduct s m).Spares h.brokers.size) →
        ∃ subscriptions played g,
          Act.listen r exchange clock capacity texts h = (.ok (h.brokers.size, subscriptions), g) ∧
          (r.start = none → played = Act.published calls results) ∧ subscriptions.Nodup ∧ g.desk = h.desk ∧
          PlaysBack conduct h.brokers.size subscriptions patterns played g := by
  obtain ⟨results, v, id, hrecord, hanswered, hholds⟩ := Act.record_holds hmode hbegins exchange clock capacity calls
  refine ⟨results, v, id, hrecord, hanswered, hholds.openRead, ?_⟩
  intro μ h r file conduct exchange clock capacity texts patterns he hopen hnode ha hread hspeed htexts hconduct
  have readable : (h.store.node file).read = .ok (Journal.row (Journal.Call.records 0 (Journal.Call.accepted calls))) :=
    by rw [hnode, hholds.node]; rfl
  obtain ⟨subscriptions, c, g, hlisten, hc, hnodup, hdesk, hplays⟩ :=
    listen_playsBack he ha hread hspeed hopen readable exchange clock capacity htexts hconduct
  refine ⟨subscriptions, _, g, hlisten, fun hstart => ?_, hnodup, hdesk, hplays⟩
  have hscan := Journal.scanAll_row (Journal.Call.fits_accepted calls 0) (Nat.zero_le _)
  rw [Journal.startOf_zero, List.drop_zero] at hscan
  rw [hc hstart, hscan, Journal.Call.map_message_records, Act.published_of_answered hanswered]

/-- Of three messages one was refused, and one is on a channel that nobody wants. -/
theorem record_played_back_once :
    ∃ (d : Refusal) (v : Hub Unit) (s : Nat) (f g : Hub (Diary Unit)),
      Act.record { path := "a".toUTF8, mode := .write } 0 {} none
          [⟨5, "c", .empty⟩, ⟨6, "", .empty⟩, ⟨7, "d", .empty⟩]
          ({ store := Store.start [[0x68]] [0x64], desk := () } : Hub Unit) =
        (.ok [.ok (), .error (.invalidArgument d), .ok ()], v) ∧
      Act.listen { path := "a".toUTF8 } 0 {} none ["c"]
          ({ store := v.store, desk := { memory := () } } : Hub (Diary Unit)) = (.ok (0, [s]), f) ∧
      dispatches (handlers fun _ _ => .finish) 0 3 f =
        (.ok [.ok (.count 1), .error .endOfLog, .error .endOfLog], g) ∧
      handedTo s g.desk.log = [⟨"c", .empty, 5⟩] := by
  obtain ⟨p, hp, hc, hd⟩ : ∃ p, Pattern.ofText "c" = .ok p ∧ p.accepts "c" = true ∧ p.accepts "d" = false := by
    have hcomputed : (Pattern.ofText "c").toOption.any (fun p => p.accepts "c" && !p.accepts "d") = true := by
      decide +kernel
    cases hp : Pattern.ofText "c" with
    | error e => rw [hp] at hcomputed; cases hcomputed
    | ok p =>
      rw [hp] at hcomputed
      simpa [Except.toOption] using hcomputed
  obtain ⟨results, v, id, hrecord, hanswered, hopen, hplayed⟩ := record_played_back
    (w := ({ store := Store.start [[0x68]] [0x64], desk := () } : Hub Unit))
    (a := { path := "a".toUTF8, mode := .write }) rfl
    (Or.inl ⟨Store.sound_start _ _, Journal.vacant_start, by decide⟩) 0 {} none
    [⟨5, "c", .empty⟩, ⟨6, "", .empty⟩, ⟨7, "d", .empty⟩]
  -- what the calls came to
  rcases hanswered with - | ⟨h₁, - | ⟨h₂, - | ⟨h₃, - | -⟩⟩⟩
  rw [Journal.Call.Answered, if_pos (by decide +kernel)] at h₁ h₃
  rw [Journal.Call.Answered, if_neg (by decide +kernel)] at h₂
  obtain ⟨d, rfl⟩ := h₂
  subst h₁ h₃
  obtain ⟨subscriptions, played, f, hlisten, hplays, -, hdesk, counts, hcounts, hsum, hrun⟩ :=
    hplayed (h := { store := v.store, desk := { memory := () } }) (r := { path := "a".toUTF8 })
      (fun _ _ => .finish) 0 {} none (enlisted_start _ _ _) hopen rfl (apart_start _ _ _ _) rfl (by decide)
      (.cons hp .nil) (fun _ _ => trivial)
  obtain rfl : played = [⟨"c", .empty, 5⟩, ⟨"d", .empty, 7⟩] := hplays rfl
  -- one message is wanted, so that there is one batch
  obtain rfl : counts = [1] := by
    simp only [List.filter, List.any, hc, hd, Bool.or_false, List.length_singleton] at hsum
    rcases counts with - | ⟨c, - | ⟨c', counts⟩⟩
    · cases hsum
    · simpa using hsum
    · have h₁ := (hcounts c (by simp)).1
      have h₂ := (hcounts c' (by simp)).1
      simp only [List.sum_cons] at hsum
      omega
  obtain ⟨g, hdispatches, hhanded⟩ := hrun 2
  rcases hhanded with - | ⟨hs, - | -⟩
  refine ⟨d, v, _, f, g, hrecord, hlisten, hdispatches, hs.trans ?_⟩
  rw [hdesk]
  simp [handedTo, hc, hd]

end Traffic
end PubSub
