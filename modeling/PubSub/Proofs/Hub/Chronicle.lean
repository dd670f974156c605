import Mathlib.Logic.Relation
import PubSub.Proofs.Hub.Intake

/-!
# Chronicles

Hubs with brokers on transports of any kind, and annals of what happens at them. While handlers run they may publish,
subscribe, unsubscribe, change bounds, close brokers and dispatch, at their own broker and at others, and at last they
may die. No call looks at the annals.

* `Chronicle.Annals`: what has happened, oldest first, and the backlogs at each of these times.
* `Chronicle.Deed`: one thing that is done at a hub; `Chronicle.Orderly`: handlers that do nothing else.
* `Chronicle.Reached`: the hubs that deeds lead to, seen when no call is in progress.
* `Chronicle.handedTo`: the messages that were handed to a handler.

Results:

* `Chronicle.subscribe_enrolled`, `Chronicle.unsubscribe_withdrawn`, `Chronicle.close_ended`: what the calls that are
  recorded make of the tables.
-/

namespace PubSub.Chronicle

/-! ## Annals -/

/-- What is recorded. -/
inductive Event
  /-- A broker has got a subscription. -/
  | made (b s : Nat)
  /-- A handler begins with a message. -/
  | handed (s : Nat) (m : Message)
  /-- A call to take a subscription away has succeeded. -/
  | withdrawn (s : Nat)
  /-- A call to close a broker has come back. -/
  | closed (b : Nat)

/-- One entry of the annals. -/
structure Entry where
  event : Event
  /-- The backlog of each subscription at that time. -/
  backlog : Nat → Backlog

/-- What the handlers remember, and what has happened, oldest first. -/
structure Annals (μ : Type) where
  memory : μ
  entries : List Entry := []

/-- The message of an event, if one is handed to the handler of a subscription. -/
def Event.handedTo? (s : Nat) : Event → Option Message
  | .handed u m => if u = s then some m else none
  | _ => none

/-- The messages that were handed to the handler of a subscription. -/
def handedTo (s : Nat) (entries : List Entry) : List Message := entries.filterMap fun e => e.event.handedTo? s

theorem handedTo_append (s : Nat) (entries more : List Entry) :
    handedTo s (entries ++ more) = handedTo s entries ++ handedTo s more :=
  List.filterMap_append

variable {μ : Type}

/-- The backlogs of a hub. -/
def backlogs {η : Type} (h : Hub η) (s : Nat) : Backlog := (h.subscription s).backlog

/-- Writes into the annals. -/
def note (h : Hub (Annals μ)) (event : Event) : Hub (Annals μ) :=
  { h with desk := { h.desk with entries := h.desk.entries ++ [⟨event, backlogs h⟩] } }

/-! ## Calls that are recorded -/

/-- Subscribes. The subscription is recorded as soon as there is one, even if the call then fails because the transport
could not be told. -/
def subscribe (b : Nat) (text : String) (h : Hub (Annals μ)) : Hub (Annals μ) :=
  let g := (Act.subscribe b text h).2
  if h.subscriptions.size < g.subscriptions.size then note g (.made b h.subscriptions.size) else g

/-- Unsubscribes. It is recorded when the call succeeds. -/
def unsubscribe (b s : Nat) (h : Hub (Annals μ)) : Hub (Annals μ) :=
  match Act.unsubscribe b s h with
  | (.ok _, g) => note g (.withdrawn s)
  | (.error _, g) => g

/-- Closes a broker. It is recorded when the call comes back. -/
def close (b : Nat) (h : Hub (Annals μ)) : Hub (Annals μ) := note (Act.closeBroker b h).2 (.closed b)

/-! ## Deeds -/

/-- One thing that is done at a hub. Subscriptions are ended only at the brokers `ends`. -/
inductive Deed (run : Handlers (Annals μ)) (ends : Nat → Prop) : Hub (Annals μ) → Hub (Annals μ) → Prop
  /-- Something that is no call to a broker: a handler remembers something, time passes, messages come in. -/
  | aside {h g : Hub (Annals μ)} (brokers : g.brokers = h.brokers) (subscriptions : g.subscriptions = h.subscriptions)
    (entries : g.desk.entries = h.desk.entries) : Deed run ends h g
  | publish (h : Hub (Annals μ)) (b : Nat) (channel : String) (payload : ByteArray) :
    Deed run ends h (Act.publish b channel payload h).2
  | subscribe (h : Hub (Annals μ)) (b : Nat) (made : b < h.brokers.size) (text : String) :
    Deed run ends h (subscribe b text h)
  | unsubscribe (h : Hub (Annals μ)) (b : Nat) (made : b < h.brokers.size) (may : ends b) (s : Nat) :
    Deed run ends h (unsubscribe b s h)
  | setCapacity (h : Hub (Annals μ)) (s : Nat) (capacity : Option Nat) : Deed run ends h (h.setCapacity s capacity)
  | close (h : Hub (Annals μ)) (b : Nat) (made : b < h.brokers.size) (may : ends b) : Deed run ends h (close b h)
  | dispatch (h : Hub (Annals μ)) (b : Nat) (made : b < h.brokers.size) (d : Dispatch) :
    Deed run ends h (Act.dispatch run b d h).2

/-- Handlers that do nothing but deeds, in any number, once it is recorded that they begin. They end in these ways. -/
def Orderly (fates : Fate → Prop) (run : Handlers (Annals μ)) (ends : Nat → Prop) : Prop :=
  ∀ s m h, fates (run s m h).1 ∧ Relation.ReflTransGen (Deed run ends) (note h (.handed s m)) (run s m h).2

/-- The hubs that deeds lead to. What the handlers are may change from one deed to the next; while none is in progress,
brokers may be made on transports of any kind. -/
inductive Reached (fates : Fate → Prop) : Hub (Annals μ) → Prop
  | start {h : Hub (Annals μ)} (brokers : h.brokers = #[]) (subscriptions : h.subscriptions = #[])
    (entries : h.desk.entries = []) : Reached fates h
  | join {h : Hub (Annals μ)} (before : Reached fates h) (transport interest : Nat) (capacity : Option Nat) :
    Reached fates (Act.addBroker transport interest capacity h).2
  | deed {run : Handlers (Annals μ)} {h g : Hub (Annals μ)} (orderly : Orderly fates run fun _ => True)
    (before : Reached fates h) (deed : Deed run (fun _ => True) h g) : Reached fates g

/-! ## What calls make of the tables -/

open Hub

variable {h g : Hub (Annals μ)} {b s : Nat}

theorem subscription_note (h : Hub (Annals μ)) (e : Event) (s : Nat) : (note h e).subscription s = h.subscription s :=
  rfl

theorem broker_note (h : Hub (Annals μ)) (e : Event) (b : Nat) : (note h e).broker b = h.broker b := rfl

theorem load_note (h : Hub (Annals μ)) (e : Event) (s : Nat) : (note h e).load s = h.load s := rfl

theorem undisturbed_note (hg : Undisturbed h g) (e : Event) : Undisturbed (note h e) (note g e) where
  brokers := hg.brokers
  subscriptions := hg.subscriptions
  desk := by
    have hbacklogs : backlogs g = backlogs h := funext fun s => by rw [backlogs, hg.subscription, backlogs]
    rw [note, note, hg.desk, hbacklogs]

/-- Subscribing changes nothing, or there is one subscription more. -/
theorem subscribe_enrolled (hb : b < h.brokers.size) (text : String) :
    subscribe b text h = h ∨ h.Attached b ∧ ∃ pattern,
      Undisturbed (note (h.enrolled b pattern) (.made b h.subscriptions.size)) (subscribe b text h) := by
  cases hc : (h.broker b).closed with
  | true => exact Or.inl (by simp only [subscribe, Act.subscribe_closed hc, Nat.lt_irrefl, if_false])
  | false =>
    cases hp : Pattern.ofText text with
    | error e => exact Or.inl (by simp only [subscribe, Act.subscribe_unread hc hp, Nat.lt_irrefl, if_false])
    | ok pattern =>
      refine Or.inr ⟨⟨hb, hc⟩, pattern, ?_⟩
      have htold := Act.interestChanged_undisturbed (h.lineOf b) (h.enrolled b pattern)
      have hgrown : ∀ k, Undisturbed (h.enrolled b pattern) k → h.subscriptions.size < k.subscriptions.size :=
        fun k hk => by
          rw [hk.subscriptions, subscriptions_size_enrolled]
          exact Nat.lt_succ_self _
      generalize hg : Act.interestChanged (h.lineOf b) (h.enrolled b pattern) = told at htold
      obtain ⟨e | _, k⟩ := told
      · simp only [subscribe, Act.subscribe_untold hc hp hg, hgrown k htold, if_true]
        exact undisturbed_note htold _
      · have hreported := htold.report [.debug (s!"broker: subscription {(h.broker b).nextId} on " ++ Text.quoted text)]
        simp only [subscribe, Act.subscribe_enrolled hc hp hg, hgrown _ hreported, if_true]
        exact undisturbed_note hreported _

/-- Unsubscribing changes nothing, or there is one subscription less, and this is recorded if the call succeeds. -/
theorem unsubscribe_withdrawn (hb : b < h.brokers.size) (s : Nat) :
    unsubscribe b s h = h ∨ h.Attached b ∧ s ∈ h.members b ∧
      (Undisturbed (h.withdrawn b s) (unsubscribe b s h) ∨
        Undisturbed (note (h.withdrawn b s) (.withdrawn s)) (unsubscribe b s h)) := by
  cases hc : (h.broker b).closed with
  | true => exact Or.inl (by simp only [unsubscribe, Act.unsubscribe_closed hc])
  | false =>
    by_cases hs : s ∈ h.members b
    · refine Or.inr ⟨⟨hb, hc⟩, hs, ?_⟩
      have htold := Act.interestChanged_undisturbed (h.lineOf b) (h.withdrawn b s)
      generalize hg : Act.interestChanged (h.lineOf b) (h.withdrawn b s) = told at htold
      obtain ⟨e | _, k⟩ := told
      · simp only [unsubscribe, Act.unsubscribe_untold hc hs hg]
        exact Or.inl htold
      · simp only [unsubscribe, Act.unsubscribe_withdrawn hc hs hg]
        exact Or.inr (undisturbed_note (htold.report _) _)
    · exact Or.inl (by simp only [unsubscribe, Act.unsubscribe_stranger hc hs])

/-- Closing a broker ends it, unless it was closed already. -/
theorem close_ended (hb : b < h.brokers.size) :
    (h.broker b).closed = true ∧ close b h = note h (.closed b) ∨
      h.Attached b ∧ ∀ line, Undisturbed (note (h.ended b line) (.closed b)) (close b h) := by
  cases hc : (h.broker b).closed with
  | true => exact Or.inl ⟨rfl, by rw [close, Act.closeBroker_closed hc]⟩
  | false =>
    refine Or.inr ⟨⟨hb, hc⟩, fun line => ?_⟩
    obtain ⟨g, hclose, hg⟩ := Act.closeBroker_undisturbed ⟨hb, hc⟩ line
    rw [close, hclose]
    exact undisturbed_note hg _

end PubSub.Chronicle
