import Mathlib.Logic.Function.Basic
import PubSub.Proofs.Hub.Carriage
import PubSub.Proofs.Mailbox

/-!
# Stations on buses

What the buses of an exchange are to those who use them. A station joins the bus that its key names, or a new one. What
it sends is stamped once and goes to the end of the lists of all stations on its bus, itself included, that are open and
want the channel at that moment. It is given the messages of its own list, oldest first, without those that are not
wanted any more.

* `Relay`: the stations, and what has been sent.
* `Relay.Step`, `Relay.Run`: what calls answer and make of a relay. Only calls that are about buses and do not wait are
  made, and no call to a station that was never there or was given up.
* `Relay.on`: what was sent on a bus.

Results:

* `Relay.Heard.run`: what a station is given, and then what it has still to be given, comes in order from what was sent
  on its bus.
* `Relay.Run.forget`: a key that names its bus no more makes no difference to those who do not use it.
-/

namespace PubSub

open Carriage

/-- One who sends and listens on a bus. -/
structure Station where
  bus : Nat
  /-- Whose interest decides what it hears. -/
  interest : Nat
  /-- The clock that its messages are stamped with. -/
  clock : Clock
  isOpen : Bool := true
  /-- The messages that it has still to be given, oldest first. -/
  waiting : List Message := []

/-- A station after its clock was read. -/
def Station.tick (s : Station) : Station := { s with clock := s.clock.read.2 }

/-- A station after it was closed. -/
def Station.close (s : Station) : Station := { s with isOpen := false, waiting := [] }

/-- The stations on the buses of an exchange. -/
structure Relay where
  /-- How many interests have been made. -/
  interests : Nat := 0
  interest : Nat → Interest := fun _ => .nothing
  /-- How many buses have been made. -/
  buses : Nat := 0
  /-- The bus that a key names. -/
  named : String → Option Nat := fun _ => none
  /-- How many stations have been made. -/
  stations : Nat := 0
  /-- The stations, but for those that were given up. -/
  station : Nat → Option Station := fun _ => none
  /-- All that has been sent, each message with its bus, oldest first. -/
  sent : List (Nat × Message) := []

/-- Whether a call uses a key. -/
def Carriage.Call.uses (key : String) : Call → Bool
  | .attach (.bus k) _ _ _ | .removeBus _ k => k == key
  | _ => false

namespace Relay

/-! ## Operations -/

section Operations

variable (r : Relay)

/-- Whether a station wants a channel now. -/
def wants (s : Station) : String → Bool := (r.interest s.interest).wants

/-- Adds an interest. -/
def addInterest (i : Interest) : Relay :=
  { r with interest := Function.update r.interest r.interests i, interests := r.interests + 1 }

/-- Changes an interest. -/
def modifyInterest (i : Nat) (change : Interest → Interest) : Relay :=
  { r with interest := Function.update r.interest i (change (r.interest i)) }

/-- Adds a bus, and lets a key name it. -/
def addBus (key : String) : Relay :=
  { r with named := Function.update r.named key (some r.buses), buses := r.buses + 1 }

/-- The bus that a key names, or a new one. -/
def busOf (key : String) : Relay × Nat :=
  match r.named key with
  | some k => (r, k)
  | none => (r.addBus key, r.buses)

/-- Lets a key name no bus. -/
def forget (key : String) : Relay := { r with named := Function.update r.named key none }

/-- Puts a station in the place of another one, or gives it up. -/
def put (t : Nat) (s : Option Station) : Relay := { r with station := Function.update r.station t s }

/-- Adds a station. -/
def join (k interest : Nat) (clock : Clock) : Relay :=
  { r.put r.stations (some { bus := k, interest, clock }) with stations := r.stations + 1 }

/-- A station hears a message on a bus if it is on the bus, is open and wants the message. -/
def hear (k : Nat) (m : Message) (s : Station) : Station :=
  { s with
    waiting := if s.bus = k ∧ s.isOpen = true ∧ r.wants s m.channel = true then s.waiting ++ [m] else s.waiting }

/-- Sends a message on a bus. -/
def broadcast (k : Nat) (m : Message) : Relay :=
  { r with station := fun t => (r.station t).map (r.hear k m), sent := r.sent ++ [(k, m)] }

/-- What a station answers that is asked for a message, and what becomes of it. -/
def next (s : Station) : Reception × Station :=
  let ahead := Mailbox.skip (r.wants s) s.waiting
  (ahead.head?.elim .nothing .message, { s with waiting := ahead.tail })

/-- Throws away what a station does not want any more. -/
def retain (s : Station) : Station := { s with waiting := s.waiting.filter fun m => r.wants s m.channel }

end Operations

/-! ## Calls -/

/-- What a call answers and makes of a relay. -/
inductive Step (r : Relay) : Call → Answer → Relay → Prop
  | wish (all : Bool) :
    Step r (.wish all) (.ok (.made r.interests)) (r.addInterest (if all then .everything else .nothing))
  | insert {i : Nat} (made : i < r.interests) (id : Nat) (p : Pattern) :
    Step r (.insert i id p) (.ok .done) (r.modifyInterest i (·.insert id p))
  | remove {i : Nat} (made : i < r.interests) (id : Nat) :
    Step r (.remove i id) (.ok .done) (r.modifyInterest i (·.remove id))
  | attach (key : String) {i : Nat} (made : i < r.interests) (clock : Clock) :
    Step r (.attach (.bus key) 0 i clock) (.ok (.made r.stations)) ((r.busOf key).1.join (r.busOf key).2 i clock)
  | removeBus (key : String) : Step r (.removeBus 0 key) (.ok (.removed (r.named key).isSome)) (r.forget key)
  | send {t : Nat} {s : Station} (there : r.station t = some s) (isOpen : s.isOpen = true) (channel : String)
      (payload : ByteArray) :
    Step r (.send t channel payload) (.ok .done)
      ((r.put t (some s.tick)).broadcast s.bus ⟨channel, payload, s.clock.read.1⟩)
  | sendClosed {t : Nat} {s : Station} (there : r.station t = some s) (closed : s.isOpen = false) (channel : String)
      (payload : ByteArray) :
    Step r (.send t channel payload) (.error (.failed .closed)) r
  | receive {t : Nat} {s : Station} (there : r.station t = some s) (isOpen : s.isOpen = true) :
    Step r (.receive t (some 0) false) (.ok (.received (r.next s).1)) (r.put t (some (r.next s).2))
  | receiveClosed {t : Nat} {s : Station} (there : r.station t = some s) (closed : s.isOpen = false) :
    Step r (.receive t (some 0) false) (.error (.failed .closed)) r
  | interestChanged {t : Nat} {s : Station} (there : r.station t = some s) :
    Step r (.interestChanged t) (.ok .done) (r.put t (some (r.retain s)))
  | close {t : Nat} {s : Station} (there : r.station t = some s) :
    Step r (.close t) (.ok .done) (r.put t (some s.close))
  | release {t : Nat} {s : Station} (there : r.station t = some s) :
    Step r (.release t) (.ok .done) (r.put t none)

/-- What calls answer and make of a relay, one after the other. -/
inductive Run : Relay → List Call → List Answer → Relay → Prop
  | nil (r : Relay) : Run r [] [] r
  | cons {r r₁ r' : Relay} {call : Call} {answer : Answer} {calls : List Call} {answers : List Answer}
    (step : Step r call answer r₁) (run : Run r₁ calls answers r') : Run r (call :: calls) (answer :: answers) r'

variable {r r' : Relay} {t u : Nat} {s : Station} {call : Call} {answer : Answer} {calls : List Call}
  {answers : List Answer}

theorem interest_addInterest (r : Relay) (i : Interest) (j : Nat) :
    (r.addInterest i).interest j = if j = r.interests then i else r.interest j :=
  Function.update_apply ..

theorem interest_modifyInterest (r : Relay) (i : Nat) (change : Interest → Interest) (j : Nat) :
    (r.modifyInterest i change).interest j = if j = i then change (r.interest i) else r.interest j :=
  Function.update_apply ..

theorem named_addBus (r : Relay) (key k : String) :
    (r.addBus key).named k = if k = key then some r.buses else r.named k :=
  Function.update_apply ..

theorem busOf_same (r : Relay) (key : String) :
    (r.busOf key).1.interests = r.interests ∧ (r.busOf key).1.stations = r.stations := by
  unfold busOf
  split <;> exact ⟨rfl, rfl⟩

theorem named_forget (r : Relay) (key k : String) :
    (r.forget key).named k = if k = key then none else r.named k :=
  Function.update_apply ..

theorem station_put (r : Relay) (t : Nat) (s : Option Station) (u : Nat) :
    (r.put t s).station u = if u = t then s else r.station u :=
  Function.update_apply ..

theorem station_join (r : Relay) (k i : Nat) (clock : Clock) (u : Nat) :
    (r.join k i clock).station u = if u = r.stations then some { bus := k, interest := i, clock } else r.station u :=
  station_put ..

/-! ## What stations are given -/

/-- What was sent on a bus, oldest first. -/
def on (r : Relay) (k : Nat) : List Message := (r.sent.filter fun x => x.1 == k).map Prod.snd

theorem on_broadcast (r : Relay) (k : Nat) (m : Message) (j : Nat) :
    (r.broadcast k m).on j = r.on j ++ if k = j then [m] else [] := by
  by_cases hkj : k = j <;> simp [on, broadcast, List.filter_append, hkj]

/-- What station `t` was given, and then what it has still to be given, comes in order from what was sent on its bus. -/
structure Heard (t : Nat) (given : List Message) (r : Relay) : Prop where
  sublist : ∀ s, r.station t = some s → (given ++ s.waiting).Sublist (r.on s.bus)
  unmade : r.stations ≤ t → given = [] ∧ r.station t = none

section Heard

variable {given : List Message}

theorem heard_new (t : Nat) : Heard t [] {} := ⟨fun _ hs => (nomatch hs), fun _ => ⟨rfl, rfl⟩⟩

/-- Messages are taken from the list of a station, and given to it or thrown away. -/
theorem Heard.put (hr : Heard t given r) (hs : r.station u = some s) (s' : Station) (hbus : s'.bus = s.bus)
    (more : List Message) (hmore : (more ++ s'.waiting).Sublist s.waiting) :
    Heard t (given ++ if u = t then more else []) (r.put u (some s')) := by
  by_cases hut : u = t
  · subst hut
    rw [if_pos rfl]
    refine ⟨fun s₁ hs₁ => ?_, fun ht => ?_⟩
    · rw [station_put, if_pos rfl] at hs₁
      cases hs₁
      rw [hbus, List.append_assoc]
      exact ((List.Sublist.refl given).append hmore).trans (hr.sublist s hs)
    · cases hs.symm.trans (hr.unmade ht).2
  · rw [if_neg hut, List.append_nil]
    refine ⟨fun s₁ hs₁ => ?_, fun ht => ?_⟩
    · rw [station_put, if_neg (Ne.symm hut)] at hs₁
      exact hr.sublist s₁ hs₁
    · rw [station_put, if_neg (Ne.symm hut)]
      exact hr.unmade ht

/-- A station whose list loses messages is given none of them. -/
theorem Heard.drop (hr : Heard t given r) (hs : r.station u = some s) (s' : Station) (hbus : s'.bus = s.bus)
    (hwaiting : s'.waiting.Sublist s.waiting) : Heard t given (r.put u (some s')) := by
  have hput := hr.put hs s' hbus [] hwaiting
  rwa [ite_self, List.append_nil] at hput

theorem Heard.broadcast (hr : Heard t given r) (k : Nat) (m : Message) : Heard t given (r.broadcast k m) where
  sublist s' hs' := by
    obtain ⟨s, hs, rfl⟩ := Option.map_eq_some_iff.1 hs'
    have hsublist := hr.sublist s hs
    rw [show (r.hear k m s).bus = s.bus from rfl, on_broadcast]
    simp only [hear]
    by_cases hk : k = s.bus
    · rw [if_pos hk]
      split
      · rw [← List.append_assoc]
        exact hsublist.append (.refl _)
      · exact hsublist.trans (List.sublist_append_left ..)
    · rw [if_neg hk, List.append_nil, if_neg fun hc => hk hc.1.symm]
      exact hsublist
  unmade ht := ⟨(hr.unmade ht).1, Option.map_eq_none_iff.2 (hr.unmade ht).2⟩

theorem Heard.busOf (hr : Heard t given r) (key : String) : Heard t given (r.busOf key).1 := by
  unfold Relay.busOf
  split <;> exact ⟨hr.sublist, hr.unmade⟩

theorem Heard.join (hr : Heard t given r) (k i : Nat) (clock : Clock) : Heard t given (r.join k i clock) where
  sublist s hs := by
    rw [station_join] at hs
    split at hs
    · rename_i ht
      cases hs
      rw [(hr.unmade (Nat.le_of_eq ht.symm)).1]
      exact List.nil_sublist _
    · exact hr.sublist s hs
  unmade ht := by
    have hlt : r.stations < t := ht
    rw [station_join, if_neg (Nat.ne_of_gt hlt)]
    exact hr.unmade (Nat.le_of_lt hlt)

theorem Heard.release (hr : Heard t given r) (u : Nat) : Heard t given (r.put u none) where
  sublist s hs := by
    rw [station_put] at hs
    split at hs
    · cases hs
    · exact hr.sublist s hs
  unmade ht := by
    rw [station_put]
    split
    · exact ⟨(hr.unmade ht).1, rfl⟩
    · exact hr.unmade ht

/-- What a station is given, and then what is left, comes in order from its list. -/
theorem sublist_next (r : Relay) (s : Station) :
    (messagesOf [.ok (.received (r.next s).1)] ++ (r.next s).2.waiting).Sublist s.waiting := by
  have hskip : (Mailbox.skip (r.wants s) s.waiting).Sublist s.waiting := List.dropWhile_sublist _
  simp only [next]
  cases hahead : Mailbox.skip (r.wants s) s.waiting with
  | nil => exact List.nil_sublist _
  | cons m ms =>
    rw [hahead] at hskip
    exact hskip

theorem Heard.step (hr : Heard t given r) (hstep : Step r call answer r') :
    Heard t (given ++ if call.receives t then messagesOf [answer] else []) r' := by
  have hquiet : call.receives t = false → Heard t given r' →
      Heard t (given ++ if call.receives t then messagesOf [answer] else []) r' := fun hcall hr' => by
    rwa [hcall, if_neg Bool.false_ne_true, List.append_nil]
  cases hstep with
  | wish | insert | remove | removeBus => exact hquiet rfl ⟨hr.sublist, hr.unmade⟩
  | attach key made clock => exact hquiet rfl ((hr.busOf key).join _ _ clock)
  | send there isOpen channel payload =>
    have hticked := hr.drop there (Station.tick _) rfl (.refl _)
    exact hquiet rfl (hticked.broadcast _ _)
  | sendClosed => exact hquiet rfl hr
  | receive there isOpen =>
    have hput := hr.put there (r.next _).2 rfl _ (r.sublist_next _)
    simpa only [Call.receives, beq_iff_eq] using hput
  | receiveClosed => rwa [show messagesOf [_] = [] from rfl, ite_self, List.append_nil]
  | interestChanged there => exact hquiet rfl (hr.drop there (r.retain _) rfl List.filter_sublist)
  | close there => exact hquiet rfl (hr.drop there (Station.close _) rfl (List.nil_sublist _))
  | release => exact hquiet rfl (hr.release _)

theorem Heard.run (hr : Heard t given r) (hrun : Run r calls answers r') :
    Heard t (given ++ messagesFrom t calls answers) r' := by
  induction hrun generalizing given with
  | nil => exact (List.append_nil given).symm ▸ hr
  | cons step run ih =>
    rw [messagesFrom, ← List.append_assoc]
    exact ih (hr.step step)

end Heard

/-! ## Keys -/

section Keys

variable {key : String}

theorem busOf_forget {k : String} (hk : k ≠ key) (r : Relay) :
    (r.forget key).busOf k = ((r.busOf k).1.forget key, (r.busOf k).2) := by
  have hnamed : (r.forget key).named k = r.named k := (named_forget r key k).trans (if_neg hk)
  unfold busOf
  rw [hnamed]
  cases r.named k with
  | some b => rfl
  | none => simp only [forget, addBus, Function.update_comm hk]

theorem forget_comm {k : String} (hk : k ≠ key) (r : Relay) : (r.forget k).forget key = (r.forget key).forget k := by
  simp only [forget, Function.update_comm hk]

/-- A call that does not use a key answers the same when the key names no bus. -/
theorem Step.forget (hstep : Step r call answer r') (hcall : call.uses key = false) :
    Step (r.forget key) call answer (r'.forget key) := by
  cases hstep with
  | wish all => exact .wish all
  | insert made id p => exact .insert (r := r.forget key) made id p
  | remove made id => exact .remove (r := r.forget key) made id
  | attach k made clock =>
    have hstep := Step.attach (r := r.forget key) k made clock
    rwa [busOf_forget (beq_eq_false_iff_ne.1 hcall)] at hstep
  | removeBus k =>
    have hk : k ≠ key := beq_eq_false_iff_ne.1 hcall
    have hnamed : (r.forget key).named k = r.named k := (named_forget r key k).trans (if_neg hk)
    rw [← hnamed, forget_comm hk]
    exact .removeBus k
  | send there isOpen channel payload => exact .send (r := r.forget key) there isOpen channel payload
  | sendClosed there closed channel payload => exact .sendClosed (r := r.forget key) there closed channel payload
  | receive there isOpen => exact .receive (r := r.forget key) there isOpen
  | receiveClosed there closed => exact .receiveClosed (r := r.forget key) there closed
  | interestChanged there => exact .interestChanged (r := r.forget key) there
  | close there => exact .close (r := r.forget key) there
  | release there => exact .release (r := r.forget key) there

/-- To those who do not use a key it makes no difference that it names no bus. -/
theorem Run.forget (hrun : Run r calls answers r') (hcalls : ∀ call ∈ calls, call.uses key = false) :
    Run (r.forget key) calls answers (r'.forget key) := by
  induction hrun with
  | nil r => exact .nil _
  | cons step run ih =>
    exact .cons (step.forget (hcalls _ List.mem_cons_self)) (ih fun c hc => hcalls c (List.mem_cons_of_mem _ hc))

end Keys

end Relay
end PubSub
