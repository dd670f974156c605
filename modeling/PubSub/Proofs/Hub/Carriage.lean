import PubSub.Proofs.Hub.Act

/-!
# Carriage

Runs of calls to transports and to what transports share: interests, and the keys of an exchange. Each call has an
answer, so that a run can be compared with what was to be expected of it.

* `Carriage.Call`: the calls; `Carriage.Value`: what they come to.
* `Carriage.run`: what a sequence of them answers and makes of a hub; `Carriage.messagesOf`: the messages among answers;
  `Carriage.messagesFrom`: those that one transport gave.

Results:

* `Carriage.run_append`, `Carriage.run_concat`: a run in parts.
-/

namespace PubSub.Carriage

variable {η : Type}

/-- A call to a transport or to what transports share. -/
inductive Call
  /-- Makes an interest, in every channel or in none. -/
  | wish (all : Bool)
  /-- Adds a pattern to an interest. -/
  | insert (interest id : Nat) (p : Pattern)
  /-- Takes patterns out of an interest. -/
  | remove (interest id : Nat)
  /-- Makes a transport. -/
  | attach (a : Address) (exchange interest : Nat) (clock : Clock)
  /-- Takes a key out of an exchange. -/
  | removeBus (exchange : Nat) (key : String)
  | send (t : Nat) (channel : String) (payload : ByteArray)
  /-- Waits for a message, for some time or for ever; `still` is that of `Act.receive`. -/
  | receive (t : Nat) (wait : Option Nat) (still : Bool)
  /-- Tells a transport that its interest has changed. -/
  | interestChanged (t : Nat)
  | close (t : Nat)
  /-- Gives a transport up. -/
  | release (t : Nat)

/-- What a call comes to. -/
inductive Value
  | done
  /-- The number of what was made. -/
  | made (id : Nat)
  /-- Whether there was something to take away. -/
  | removed (found : Bool)
  | received (r : Reception)

/-- The answer to a call. -/
abbrev Answer := Except Halt Value

/-- Does what a call asks for. -/
def Call.perform : Call → Act η Value
  | .wish all => return .made (← Act.change (·.addInterest (if all then .everything else .nothing)))
  | .insert interest id p => do
    modify (·.modifyInterest interest (·.insert id p))
    return .done
  | .remove interest id => do
    modify (·.modifyInterest interest (·.remove id))
    return .done
  | .attach a exchange interest clock => return .made (← Act.openTransport a exchange interest clock)
  | .removeBus exchange key => return .removed (← Act.change (·.removeBus exchange key))
  | .send t channel payload => do
    Act.send t channel payload
    return .done
  | .receive t wait still => do
    let h ← get
    return .received (← Act.receive t (wait.map (h.now + ·)) still)
  | .interestChanged t => do
    Act.interestChanged t
    return .done
  | .close t => do
    modify (·.closeTransport t)
    return .done
  | .release t => do
    modify (·.releaseTransport t)
    return .done

/-- What some calls answer, one after the other, and what they make of a hub. -/
def run (h : Hub η) : List Call → List Answer × Hub η
  | [] => ([], h)
  | call :: calls =>
    let rest := run (call.perform h).2 calls
    ((call.perform h).1 :: rest.1, rest.2)

/-- The messages that were received. -/
def messagesOf (answers : List Answer) : List Message :=
  answers.filterMap fun
    | .ok (.received (.message m)) => some m
    | _ => none

/-- Whether a call asks transport `t` for a message. -/
def Call.receives (t : Nat) : Call → Bool
  | .receive u _ _ => u == t
  | _ => false

/-- The messages that transport `t` gave, when calls were answered so. -/
def messagesFrom (t : Nat) : List Call → List Answer → List Message
  | call :: calls, answer :: answers =>
    (if call.receives t then messagesOf [answer] else []) ++ messagesFrom t calls answers
  | _, _ => []

theorem messagesOf_append (answers more : List Answer) :
    messagesOf (answers ++ more) = messagesOf answers ++ messagesOf more :=
  List.filterMap_append ..

theorem run_cons (h : Hub η) (call : Call) (calls : List Call) :
    run h (call :: calls) =
      ((call.perform h).1 :: (run (call.perform h).2 calls).1, (run (call.perform h).2 calls).2) := rfl

theorem run_append (h : Hub η) (calls more : List Call) :
    run h (calls ++ more) =
      ((run h calls).1 ++ (run (run h calls).2 more).1, (run (run h calls).2 more).2) := by
  induction calls generalizing h with
  | nil => rfl
  | cons call calls ih => rw [List.cons_append, run_cons, ih, run_cons, List.cons_append]

theorem run_concat (h : Hub η) (calls : List Call) (call : Call) :
    run h (calls ++ [call]) =
      ((run h calls).1 ++ [(call.perform (run h calls).2).1], (call.perform (run h calls).2).2) :=
  run_append h calls [call]

end PubSub.Carriage
