import PubSub.Proofs.Hub.Aside
import PubSub.Proofs.Hub.Delivering
import PubSub.Proofs.Hub.Traffic

/-!
# Handlers that spare a broker

The handlers of a broker that replays a file may publish, and subscribe and unsubscribe elsewhere. If they leave the
subscriptions of the broker as they are, a delivery hands on what was routed to these, and nothing else happens to the
broker.

* `Traffic.Work.Spares`: programs that leave the subscriptions of a broker as they are.
* `Traffic.Underway`: a broker replays a file that nobody writes.
* `Traffic.Spared`: what such programs, and handing messages to handlers, leave of the broker.

Results:

* `Traffic.perform_spared`: the programs.
* `Traffic.careful_handlers`: a delivery by such handlers comes to its end.
-/

namespace PubSub.Traffic

open Hub
open Act (Lives bind_apply bind_ok get_apply)

variable {μ : Type}

/-! ## Programs -/

/-- A program makes and takes away no subscriptions of broker `b`. -/
def Work.Spares (b : Nat) : Work μ → Prop
  | .finish => True
  | .remember _ next => next.Spares b
  | .look next => ∀ h, (next h).Spares b
  | .publish _ _ _ next => ∀ r, (next r).Spares b
  | .subscribe c _ next => b ≠ c ∧ ∀ r, (next r).Spares b
  | .unsubscribe c _ next => b ≠ c ∧ ∀ r, (next r).Spares b

/-- The messages that the handler of a subscription was handed, and those that were routed to it. -/
def given (h : Hub (Diary μ)) (s : Nat) : List Message :=
  handedTo s h.desk.log ++ (h.subscription s).backlog.toList

/-- Broker `b` replays file `file`, which nobody writes. -/
structure Underway (b file : Nat) (h : Hub (Diary μ)) : Prop where
  enlisted : h.Enlisted
  apart : h.Apart file
  made : b < h.brokers.size
  replay : ∃ r, (h.transport (h.lineOf b)).line = .replay r

/-- `g` comes after `h`, and since then nothing has happened to broker `b` but that messages were handed to handlers
that had been routed to them. -/
structure Spared (b file : Nat) (h g : Hub (Diary μ)) : Prop where
  remains : Remains b file h g
  pattern : ∀ s ∈ h.members b, (g.subscription s).pattern = (h.subscription s).pattern
  capacity : ∀ s ∈ h.members b, (g.subscription s).backlog.capacity = (h.subscription s).backlog.capacity
  load : ∀ s ∈ h.members b, g.load s ≤ h.load s
  given : ∀ s ∈ h.members b, given g s = given h s

variable {h f g : Hub (Diary μ)} {b c s file : Nat}

theorem Underway.spared (hu : Underway b file h) : Spared b file h h :=
  ⟨.rfl hu.enlisted hu.apart, fun _ _ => rfl, fun _ _ => rfl, fun _ _ => Nat.le_refl _, fun _ _ => rfl⟩

theorem Spared.trans (hf : Spared b file h f) (hg : Spared b file f g) : Spared b file h g where
  remains := hf.remains.trans hg.remains
  pattern s hs := (hg.pattern s (hf.remains.members ▸ hs)).trans (hf.pattern s hs)
  capacity s hs := (hg.capacity s (hf.remains.members ▸ hs)).trans (hf.capacity s hs)
  load s hs := Nat.le_trans (hg.load s (hf.remains.members ▸ hs)) (hf.load s hs)
  given s hs := (hg.given s (hf.remains.members ▸ hs)).trans (hf.given s hs)

theorem Spared.underway (hg : Spared b file h g) (hu : Underway b file h) : Underway b file g where
  enlisted := hg.remains.enlisted
  apart := hg.remains.apart
  made := hg.remains.size ▸ hu.made
  replay := by
    obtain ⟨r, hr⟩ := hu.replay
    exact ⟨r, by rw [hg.remains.lineOf, hg.remains.line, hr]⟩

/-- What was done aside, and written into the diary without being handed to anybody. -/
theorem spared_of_aside (hg : Aside b file h g) (desk : Diary μ)
    (hlog : ∀ s, handedTo s desk.log = handedTo s g.desk.log) : Spared b file h { g with desk } where
  remains := ⟨hg.remains.enlisted.of_roster rfl, hg.remains.apart, hg.remains.size, hg.remains.broker, hg.remains.line,
    hg.remains.wants, hg.remains.node⟩
  pattern s hs := congrArg Subscription.pattern (hg.subscription s hs)
  capacity s hs := congrArg (fun u : Subscription => u.backlog.capacity) (hg.subscription s hs)
  load s hs := Nat.le_of_eq (congrArg (fun u : Subscription => u.backlog.size) (hg.subscription s hs))
  given s hs := by
    show handedTo s desk.log ++ (g.subscription s).backlog.toList = _
    rw [hlog, hg.subscription s hs, hg.desk, given]

/-- A call to a broker that may never have been made. -/
theorem known_spared {α : Type} {act : Act (Diary μ) α} (hu : Underway b file h)
    (hact : c < h.brokers.size → Spared b file h (act h).2) : Spared b file h (known c act h).2 := by
  rw [known, Act.get_bind_apply, Act.ite_apply]
  split
  · rename_i hc
    exact hact hc
  · exact hu.spared

theorem publish_spared (hu : Underway b file h) (c : Nat) (channel : String) (payload : ByteArray) :
    Spared b file h (publish c channel payload h).2 := by
  obtain ⟨r, hr⟩ := hu.replay
  refine known_spared hu fun _ => ?_
  have haside := Act.publish_aside hu.enlisted hu.apart hr c channel payload
  simp only [bind_apply, get_apply]
  generalize Act.publish c channel payload h = told at haside
  obtain ⟨e | _, g⟩ := told
  · exact spared_of_aside haside g.desk fun _ => rfl
  · exact spared_of_aside haside _ fun s => (handedTo_concat ..).trans (List.append_nil _)

theorem subscribe_spared (hu : Underway b file h) (hcb : b ≠ c) (pattern : String) :
    Spared b file h (subscribe c pattern h).2 := by
  refine known_spared hu fun hc => ?_
  have haside := Act.subscribe_aside hu.enlisted hu.apart hu.made hc hcb pattern
  simp only [bind_apply]
  generalize Act.subscribe c pattern h = told at haside
  obtain ⟨e | u, g⟩ := told
  · exact spared_of_aside haside g.desk fun _ => rfl
  · exact spared_of_aside haside _ fun s => (handedTo_concat ..).trans (List.append_nil _)

theorem unsubscribe_spared (hu : Underway b file h) (hcb : b ≠ c) (s : Nat) :
    Spared b file h (unsubscribe c s h).2 := by
  refine known_spared hu fun hc => ?_
  have haside := Act.unsubscribe_aside hu.enlisted hu.apart hu.made hc hcb s
  exact spared_of_aside haside _ fun _ => rfl

theorem lives_known {α : Type} {act : Act (Diary μ) α} (hact : Lives act) (c : Nat) : Lives (known c act) :=
  Act.lives_get.bind fun _ => .ite hact (Act.lives_fail _)

theorem lives_publish (c : Nat) (channel : String) (payload : ByteArray) :
    Lives (publish c channel payload : Act (Diary μ) Unit) :=
  lives_known (Act.lives_get.bind fun _ => (Act.lives_publish c channel payload).bind fun _ => Act.lives_modify _) c

theorem lives_subscribe (c : Nat) (pattern : String) : Lives (subscribe c pattern : Act (Diary μ) Nat) :=
  lives_known ((Act.lives_subscribe c pattern).bind fun _ => (Act.lives_modify _).bind fun _ => Act.lives_pure _) c

/-- An attempt at something that spares a broker, and what is done then. -/
theorem attempt_spared {α : Type} {act : Act (Diary μ) α} {next : Except Error α → Act (Diary μ) Unit}
    (hact : Lives act) (hf : Spared b file h (act h).2)
    (hnext : ∀ r, ∃ g, next r (act h).2 = (.ok (), g) ∧ Spared b file (act h).2 g) :
    ∃ g, (Act.attempt act >>= next) h = (.ok (), g) ∧ Spared b file h g := by
  obtain ⟨r, hr⟩ := hact.attempt h
  obtain ⟨g, hg, hspared⟩ := hnext r
  exact ⟨g, (bind_ok hr).trans hg, hf.trans hspared⟩

/-- A program that leaves the subscriptions of a broker as they are comes to its end and leaves the broker alone. -/
theorem perform_spared {work : Work μ} (hwork : work.Spares b) (hu : Underway b file h) :
    ∃ g, work.perform h = (.ok (), g) ∧ Spared b file h g := by
  induction work generalizing h with
  | finish => exact ⟨h, rfl, hu.spared⟩
  | remember memory next ih =>
    have hf : Spared b file h { h with desk := { h.desk with memory } } :=
      spared_of_aside (.rfl hu.enlisted hu.apart) _ fun _ => rfl
    obtain ⟨g, hg, hspared⟩ := ih hwork (hf.underway hu)
    exact ⟨g, hg, hf.trans hspared⟩
  | look next ih => exact ih h (hwork h) hu
  | publish c channel payload next ih =>
    have hf := publish_spared hu c channel payload
    exact attempt_spared (lives_publish c channel payload) hf fun r => ih r (hwork r) (hf.underway hu)
  | subscribe c pattern next ih =>
    have hf := subscribe_spared hu hwork.1 pattern
    exact attempt_spared (lives_subscribe c pattern) hf fun r => ih r (hwork.2 r) (hf.underway hu)
  | unsubscribe c s next ih =>
    have hf := unsubscribe_spared hu hwork.1 s
    exact attempt_spared (lives_known (Act.lives_unsubscribe c s) c) hf fun r => ih r (hwork.2 r) (hf.underway hu)

/-! ## Handing messages on -/

/-- A message that was routed to a subscription is handed to its handler. -/
theorem Underway.handed (hu : Underway b file h) {m : Message} {rest : Backlog}
    (hp : (h.subscription s).backlog.pop = some (m, rest)) :
    Spared b file h (jot (h.setBacklog s rest) (.handed s m)) := by
  have hload := load_of_pop hp
  have e : (jot (h.setBacklog s rest) (.handed s m)).roster = h.roster := roster_of_wiring (wiring_setBacklog h s rest)
  have hback : ∀ u, (jot (h.setBacklog s rest) (.handed s m)).subscription u =
      if u = s then { h.subscription s with backlog := rest } else h.subscription u :=
    subscription_setBacklog_of_pop hp
  refine ⟨⟨hu.enlisted.of_roster e, hu.apart, brokers_size_of_roster e, rfl, rfl, wants_of_roster e _, rfl⟩,
    fun u _ => pattern_of_roster e u, fun u _ => ?_, fun u _ => ?_, fun u _ => ?_⟩
  · rw [hback]
    split
    · rename_i hus
      rw [hus]
      exact Backlog.capacity_of_pop hp
    · rfl
  · refine Nat.le_trans (Nat.le_of_eq (hload u)) ?_
    split
    · exact Nat.sub_le _ _
    · exact Nat.le_refl _
  · have hsingle : handedTo u [.handed s m] = if s = u then [m] else [] := by simp [handedTo]
    have hlog : handedTo u (jot (h.setBacklog s rest) (.handed s m)).desk.log =
        handedTo u h.desk.log ++ if s = u then [m] else [] := hsingle ▸ handedTo_concat ..
    rw [given, given, hlog, hback]
    by_cases hus : u = s
    · subst hus
      rw [if_pos rfl, if_pos rfl, Backlog.toList_of_pop hp, List.append_assoc]
      rfl
    · rw [if_neg fun hsu => hus hsu.symm, if_neg hus, List.append_nil]

/-- Handlers that leave the subscriptions of a broker as they are hand on what was routed to these. -/
theorem careful_handlers {conduct : Conduct μ} (hconduct : ∀ s m, (conduct s m).Spares b) (hu : Underway b file f) :
    Careful (handlers conduct) (· ∈ f.members b) (Spared b file f) where
  whole hk _ := hk.remains.enlisted.whole _
  idle {k s} hk hs ha := by
    have hmade : b < k.brokers.size := hk.remains.size ▸ hu.made
    rw [hk.remains.enlisted.active b hmade s (hk.remains.members ▸ hs)] at ha
    cases ha
  step {k s m rest} hk hs hp := by
    have huk := hk.underway hu
    have hhanded := huk.handed hp
    obtain ⟨g, hperform, hspared⟩ := perform_spared (hconduct s m) (hhanded.underway huk)
    refine ⟨g, ?_, hk.trans (hhanded.trans hspared), fun u hum => ?_⟩
    · rw [handlers, hperform]
    · have hum : u ∈ k.members b := hk.remains.members ▸ hum
      exact hspared.load u (hhanded.remains.members ▸ hum)

end PubSub.Traffic
