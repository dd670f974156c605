import PubSub.Proofs.Hub.Act
import PubSub.Proofs.Hub.Tables

/-!
# Traffic

Runs of calls to brokers on in-process buses. The handlers are programs of any kind that may publish, subscribe and
unsubscribe. Beside what the handlers remember, a diary keeps what has happened so far; no call looks at it.

* `Traffic.Work`, `Traffic.Conduct`: the programs that handlers run.
* `Traffic.Call`: the calls from outside; `Traffic.run`: what a sequence of them makes of a hub.
* `Traffic.handedTo`, `Traffic.publishedOn`, `Traffic.standing`, `Traffic.since`: readings of the diary.
-/

namespace PubSub.Traffic

/-! ## The diary -/

/-- What the diary tells. -/
inductive Happening
  /-- A message was published on a bus. -/
  | published (bus : Option Nat) (m : Message)
  /-- A subscription was made when these messages that it accepts waited already. -/
  | subscribed (s : Nat) (standing : List Message)
  /-- A message was handed to the handler of a subscription. -/
  | handed (s : Nat) (m : Message)

/-- What the handlers remember, and what has happened, oldest first. -/
structure Diary (μ : Type) where
  memory : μ
  log : List Happening := []

/-- Whether a subscription is made here. -/
def Happening.begins (s : Nat) : Happening → Bool
  | .subscribed u _ => u = s
  | _ => false

/-- The messages handed to the handler of a subscription. -/
def handedTo (s : Nat) (log : List Happening) : List Message :=
  log.flatMap fun
    | .handed u m => if u = s then [m] else []
    | _ => []

/-- The messages published on a bus. -/
def publishedOn (bus : Option Nat) (log : List Happening) : List Message :=
  log.flatMap fun
    | .published k m => if k = bus then [m] else []
    | _ => []

/-- The messages that waited for a subscription when it was made. -/
def standing (s : Nat) (log : List Happening) : List Message :=
  log.flatMap fun
    | .subscribed u l => if u = s then l else []
    | _ => []

/-- What has happened since a subscription was made. -/
def since (s : Nat) (log : List Happening) : List Happening := log.dropWhile fun e => !e.begins s

section Readings

variable (s : Nat) (log : List Happening) (e : Happening)

theorem handedTo_concat : handedTo s (log ++ [e]) = handedTo s log ++ handedTo s [e] :=
  List.flatMap_append

theorem publishedOn_concat (bus : Option Nat) :
    publishedOn bus (log ++ [e]) = publishedOn bus log ++ publishedOn bus [e] :=
  List.flatMap_append

theorem standing_concat : standing s (log ++ [e]) = standing s log ++ standing s [e] :=
  List.flatMap_append

theorem since_concat : since s (log ++ [e]) = if since s log = [] then since s [e] else since s log ++ [e] := by
  unfold since
  rw [List.dropWhile_append]
  simp only [List.isEmpty_iff]

theorem since_single : since s [e] = if e.begins s then [e] else [] := by
  unfold since
  rw [List.dropWhile_cons]
  cases e.begins s <;> rfl

/-- Two diaries tell the same of a subscription. -/
structure Agree (s : Nat) (l l' : List Happening) : Prop where
  handed : handedTo s l' = handedTo s l
  standing : standing s l' = standing s l
  begun : since s l' = [] ↔ since s l = []
  published : ∀ bus, publishedOn bus (since s l') = publishedOn bus (since s l)

variable {s log e}

theorem Agree.of_eq {l l' : List Happening} (h : l' = l) : Agree s l l' := by
  subst h
  exact ⟨rfl, rfl, Iff.rfl, fun _ => rfl⟩

/-- An entry that does not concern a subscription makes no difference to it. -/
theorem Agree.concat (hh : handedTo s [e] = []) (hs : Traffic.standing s [e] = []) (hb : e.begins s = false)
    (hp : ∀ bus, publishedOn bus [e] = []) : Agree s log (log ++ [e]) := by
  have hsince : since s [e] = [] := by
    rw [since_single, hb]
    rfl
  refine ⟨?_, ?_, ?_, fun bus => ?_⟩
  · rw [handedTo_concat, hh, List.append_nil]
  · rw [standing_concat, hs, List.append_nil]
  · rw [since_concat, hsince]
    by_cases hnil : since s log = []
    · simp [hnil]
    · simp [hnil]
  · rw [since_concat, hsince]
    by_cases hnil : since s log = []
    · rw [if_pos hnil, hnil]
    · rw [if_neg hnil, publishedOn_concat, hp, List.append_nil]

theorem Agree.subscribed {u : Nat} (hu : u ≠ s) (l : List Message) : Agree s log (log ++ [.subscribed u l]) :=
  .concat rfl (by simp [Traffic.standing, hu]) (by simp [Happening.begins, hu]) fun _ => rfl

theorem Agree.handedOther {u : Nat} (hu : u ≠ s) (m : Message) : Agree s log (log ++ [.handed u m]) :=
  .concat (by simp [handedTo, hu]) rfl rfl fun _ => rfl

end Readings

/-! ## Calls with a diary -/

variable {μ α : Type}

/-- Writes into the diary. -/
def jot (h : Hub (Diary μ)) (e : Happening) : Hub (Diary μ) :=
  { h with desk := { h.desk with log := h.desk.log ++ [e] } }

/-- Whether a subscription would take a message. -/
def fits {η : Type} (h : Hub η) (s : Nat) (m : Message) : Bool := (h.subscription s).pattern.accepts m.channel

/-- Does something with a broker, if it was ever made. -/
def known {η : Type} (b : Nat) (act : Act η α) : Act η α := do
  if b < (← get).brokers.size then act else Act.fail .closed

/-- Publishes, and notes the message as it was sent. -/
def publish (b : Nat) (channel : String) (payload : ByteArray) : Act (Diary μ) Unit := known b do
  let h ← get
  Act.publish b channel payload
  modify (jot · (.published (h.place (h.broker b).transport)
    ⟨channel, payload, (h.transport (h.broker b).transport).clock.next⟩))

/-- Subscribes, and notes what waits for the new subscription. -/
def subscribe (b : Nat) (pattern : String) : Act (Diary μ) Nat := known b do
  let s ← Act.subscribe b pattern
  modify fun h => jot h (.subscribed s ((h.waiting (h.broker b).transport).filter (fits h s)))
  return s

/-- Unsubscribes. -/
def unsubscribe (b s : Nat) : Act (Diary μ) Unit := known b (Act.unsubscribe b s)

/-! ## Handlers -/

/-- A program for a handler. It may look at everything there is, and its way depends on what its calls come to. -/
inductive Work (μ : Type)
  | finish
  | remember (memory : μ) (next : Work μ)
  | look (next : Hub (Diary μ) → Work μ)
  | publish (b : Nat) (channel : String) (payload : ByteArray) (next : Except Error Unit → Work μ)
  | subscribe (b : Nat) (pattern : String) (next : Except Error Nat → Work μ)
  | unsubscribe (b s : Nat) (next : Except Error Unit → Work μ)

/-- Runs the program of a handler. -/
def Work.perform : Work μ → Act (Diary μ) Unit
  | .finish => return
  | .remember memory next => do
    modify fun h => { h with desk := { h.desk with memory } }
    next.perform
  | .look next => do
    let h ← get
    (next h).perform
  | .publish b channel payload next => do
    let r ← Act.attempt (Traffic.publish b channel payload)
    (next r).perform
  | .subscribe b pattern next => do
    let r ← Act.attempt (Traffic.subscribe b pattern)
    (next r).perform
  | .unsubscribe b s next => do
    let r ← Act.attempt (Traffic.unsubscribe b s)
    (next r).perform

/-- What the handler of each subscription does with each message. -/
abbrev Conduct (μ : Type) := Nat → Message → Work μ

/-- The handlers of a conduct. They note what they are handed. -/
def handlers (conduct : Conduct μ) : Handlers (Diary μ) := fun s m h =>
  match (conduct s m).perform (jot h (.handed s m)) with
  | (.ok (), g) => (.returned, g)
  | (.error _, g) => (.died, g)

/-! ## Runs -/

/-- A call from outside. -/
inductive Call
  /-- Makes a broker on the bus of a key. -/
  | join (key : String) (clock : Clock) (defaultCapacity : Option Nat)
  | publish (b : Nat) (channel : String) (payload : ByteArray)
  | subscribe (b : Nat) (pattern : String)
  | unsubscribe (b s : Nat)
  | setCapacity (s : Nat) (capacity : Option Nat)
  | dispatch (b : Nat) (d : Dispatch)
  | close (b : Nat)

/-- What a call does. -/
def Call.perform (conduct : Conduct μ) : Call → Act (Diary μ) Unit
  | .join key clock defaultCapacity => do
    let _ ← Act.openAddress (.bus key) 0 clock defaultCapacity
  | .publish b channel payload => Traffic.publish b channel payload
  | .subscribe b pattern => do
    let _ ← Traffic.subscribe b pattern
  | .unsubscribe b s => Traffic.unsubscribe b s
  | .setCapacity s capacity => modify (·.setCapacity s capacity)
  | .dispatch b d => known b do
    let _ ← Act.dispatch (handlers conduct) b d
  | .close b => known b (Act.closeBroker b)

/-- A hub with one exchange and nothing else. -/
def fresh (store : Store) (memory : μ) : Hub (Diary μ) :=
  { store, exchanges := #[[]], desk := { memory } }

/-- What a sequence of calls makes of a hub. -/
def run (conduct : Conduct μ) (h : Hub (Diary μ)) (calls : List Call) : Hub (Diary μ) :=
  calls.foldl (fun h call => (call.perform conduct h).2) h

theorem run_concat (conduct : Conduct μ) (h : Hub (Diary μ)) (calls : List Call) (call : Call) :
    run conduct h (calls ++ [call]) = (call.perform conduct (run conduct h calls)).2 := by
  rw [run, List.foldl_append]
  rfl

end PubSub.Traffic
