import PubSub.Proofs.Hub.Handing

/-!
# Transports that fail

A transport may report an error at any time during a dispatch until a deadline. If nobody has taken a message before,
the dispatch fails at once. Otherwise what was taken is handed on first, and then the error is told, or left to the next
dispatch if the transport goes on reporting it.

* `Hub.Rounds.script`, `Hub.Ending.script`: what this says of a transport whose answers are laid down beforehand.

Results:

* `Chronicle.dispatch_keeps_routed`: no message that was taken in is lost by an error.
-/

namespace PubSub

variable {η : Type}

namespace Hub

variable {h g k : Hub η} {b t deadline n : Nat} {ms : List Message} {T T' : List Nat} {last : Option Error} {s : Script}

/-! ## Scripted transports -/

/-- What a receiver with a deadline is told by a script. -/
def scriptedAnswer : List Script.Item → Except Halt Reception
  | .message m :: _ => .ok (.message m)
  | .error e :: _ => .error (.failed e)
  | _ => .ok .nothing

theorem receive_script (hline : (h.transport t).line = .script s) (deadline : Nat) :
    Act.receive t (some deadline) false h =
      (scriptedAnswer s.items, h.setLine t (.script { s with items := s.items.tail })) := by
  obtain ⟨items, refusal, calls⟩ := s
  simp only [Act.receive, Act.poll, Act.bind_apply, Act.get_apply, hline]
  rcases items with - | ⟨m | _ | e, items⟩ <;> rfl

/-- A script goes on with what remains of it. -/
theorem line_script_tail (hline : (h.transport t).line = .script s) :
    ((h.setLine t (.script { s with items := s.items.tail })).transport t).line =
      .script { s with items := s.items.tail } := by
  rw [transport_setLine]
  by_cases ht : t < h.transports.size
  · rw [if_pos ⟨rfl, ht⟩]
  · rw [transport_of_size_le (Nat.not_lt.1 ht)] at hline
    cases hline
    rw [if_neg fun hc => ht hc.2, transport_of_size_le (Nat.not_lt.1 ht)]
    rfl

theorem transport_route {m : Message} {a : Bool} (routed : Act.route b m T h = (.ok (T', a), g)) :
    g.transport = h.transport := by
  obtain ⟨subscriptions, notices, hframe⟩ := Act.route_frame b m T h
  rw [routed] at hframe
  cases hframe
  rfl

/-- Rounds on a scripted transport take messages off its script. -/
theorem Rounds.script (hline : (h.transport t).line = .script s) (hg : Rounds b t deadline T h ms n T' g) :
    ∃ rest, s.items = ms.map .message ++ rest ∧ (g.transport t).line = .script { s with items := rest } := by
  induction hg with
  | start => exact ⟨s.items, rfl, hline⟩
  | @round ms n T' T'' f k g m a _ received routed ih =>
    obtain ⟨rest, hitems, hf⟩ := ih
    rw [receive_script hf] at received
    obtain ⟨hanswer, rfl⟩ := Prod.mk.inj received
    have hk := line_script_tail hf
    rcases rest with - | ⟨m' | _ | e, rest⟩
    · cases hanswer
    · cases hanswer
      refine ⟨rest, ?_, ?_⟩
      · rw [hitems, List.map_append, List.append_assoc]
        rfl
      · rw [transport_route routed]
        exact hk
    · cases hanswer
    · cases hanswer

/-- They end without another answer, with one that there is no message, or with an error of the script. -/
theorem Ending.script {stop : Prop} (hline : (h.transport t).line = .script s)
    (he : Ending t deadline T stop h last g) :
    ∃ closing rest, s.items = closing ++ rest ∧ (g.transport t).line = .script { s with items := rest } ∧
      (closing = last.toList.map .error ∨ last = none ∧ closing = [.nothing]) := by
  cases he with
  | enough => exact ⟨[], s.items, rfl, hline, Or.inl rfl⟩
  | nothing received =>
    rw [receive_script hline] at received
    obtain ⟨hanswer, rfl⟩ := Prod.mk.inj received
    have hg := line_script_tail hline
    obtain ⟨items, refusal, calls⟩ := s
    rcases items with - | ⟨m | _ | e, items⟩
    · exact ⟨[], [], rfl, hg, Or.inl rfl⟩
    · cases hanswer
    · exact ⟨[.nothing], items, rfl, hg, Or.inr ⟨rfl, rfl⟩⟩
    · cases hanswer
  | failure received =>
    rw [receive_script hline] at received
    obtain ⟨hanswer, rfl⟩ := Prod.mk.inj received
    have hg := line_script_tail hline
    obtain ⟨items, refusal, calls⟩ := s
    rcases items with - | ⟨m | _ | e, items⟩
    · cases hanswer
    · cases hanswer
    · cases hanswer
    · cases hanswer
      exact ⟨[.error _], items, rfl, hg, Or.inl rfl⟩

end Hub

namespace Chronicle

open Hub

variable {μ : Type} {h g k : Hub (Annals μ)} {b deadline n : Nat} {ms : List Message} {last : Option Error}
  {run : Handlers (Annals μ)}

/-- What a dispatch takes in from a scripted transport, and how that ends, stands at the beginning of the script. -/
theorem Served.script (hs : Served run b deadline h ms n last k g) {script : Script}
    (hline : (h.transport (h.lineOf b)).line = .script script) :
    ∃ closing rest, script.items = ms.map .message ++ closing ++ rest ∧
      (k.transport (h.lineOf b)).line = .script { script with items := rest } ∧
      (closing = last.toList.map .error ∨ last = none ∧ closing = [.nothing]) := by
  obtain ⟨rounds, ending, notices, -⟩ := hs
  have hbusy : ((h.setBusy b true).transport (h.lineOf b)).line = .script script := hline
  obtain ⟨items, hitems, hf⟩ := rounds.script hbusy
  obtain ⟨closing, rest, hclosing, hk, hlast⟩ := ending.script hf
  refine ⟨closing, rest, ?_, hk, hlast⟩
  rw [hitems, List.append_assoc]
  exact congrArg _ hclosing

/-- Whatever the transport of an open broker answers, a dispatch until a deadline loses none of the messages that it is
given. Each is put into the backlogs of all subscriptions that it matches, or counted there as dropped, and what is in
the backlogs is handed on before the dispatch comes back. An error ends this, and the transport is asked no further. If
nobody has taken a message, the dispatch fails with the error, and no handler begins. Otherwise it fails with it
afterwards, unless the transport goes on reporting it; then it comes to the number of messages that somebody has
taken. -/
theorem dispatch_keeps_routed (hr : Regular (· = .returned) h) (hb : h.Attached b) (hi : h.Idle b)
    (hrun : Orderly (· = .returned) run (· ≠ b)) {time : Int} (htime : 0 ≤ time) :
    ∃ ms n last k g, Served run b (h.now + time.toNat * 1000) h ms n last k g ∧
      (Act.dispatch run b (.within time) h).2 = g ∧
      (∀ s ∈ h.members b,
        (k.subscription s).backlog = (h.subscription s).backlog.pushAll (h.matched s ms) ∧
          handedTo s g.desk.entries = handedTo s h.desk.entries ++ (k.subscription s).backlog.toList ∧
          (g.subscription s).backlog.dropped = (k.subscription s).backlog.dropped) ∧
      (∀ e, last = some e → n = 0 →
        (Act.dispatch run b (.within time) h).1 = .error (.failed e) ∧ g.desk = h.desk) ∧
      (∀ e, last = some e → 0 < n →
        (Act.dispatch run b (.within time) h).1 = if e.isSticky then .ok (.count n) else .error (.failed e)) ∧
      ∀ script : Script, (h.transport (h.lineOf b)).line = .script script →
        ∃ closing rest, script.items = ms.map .message ++ closing ++ rest ∧
          (k.transport (h.lineOf b)).line = .script { script with items := rest } ∧
          (closing = last.toList.map .error ∨ last = none ∧ closing = [.nothing]) := by
  obtain ⟨ms, n, last, k, g, hserved, hdispatch, -, -, -, hquiet, haccounts⟩ := dispatch_served hr hb hi hrun htime
  refine ⟨ms, n, last, k, g, hserved, congrArg Prod.snd hdispatch, fun s hs => ?_, fun e hlast hn => ⟨?_, hquiet hn⟩,
    fun e hlast hn => ?_, fun script hline => hserved.script hline⟩
  · rw [hserved.subscription hr.tidy hs]
    exact ⟨rfl, hserved.subscription hr.tidy hs ▸ haccounts s hs⟩
  · rw [hdispatch, hlast, hn, Act.verdict_zero]
    rfl
  · rw [hdispatch, hlast, Act.verdict_of_pos hn]
    cases e.isSticky <;> rfl

/-- An error between two messages. -/
def interrupted (cause : Error) : List Script.Item :=
  [.message ⟨"c", .empty, 1⟩, .error cause, .message ⟨"c", .empty, 2⟩]

theorem dispatch_keeps_routed_interrupted :
    ∃ ms n last k g, Served beginning 0 0 (listening (interrupted .endOfLog) none) ms n last k g ∧
      handedTo 0 g.desk.entries = (k.subscription 0).backlog.toList ∧
      ∃ closing rest, interrupted .endOfLog = ms.map .message ++ closing ++ rest := by
  have hidle : (listening (interrupted .endOfLog) none).Idle 0 := by
    rw [Idle]
    decide +kernel
  obtain ⟨ms, n, last, k, g, hserved, -, haccounts, -, -, hscript⟩ := dispatch_keeps_routed
    (reached_listening (interrupted .endOfLog) none).regular.1 ⟨by decide +kernel, by decide +kernel⟩ hidle
    (orderly_beginning _) (Int.le_refl 0)
  have hmember : 0 ∈ (listening (interrupted .endOfLog) none).members 0 := by decide +kernel
  have hnothing : handedTo 0 (listening (interrupted .endOfLog) none).desk.entries = [] := rfl
  have hhanded := (haccounts 0 hmember).2.1
  rw [hnothing, List.nil_append] at hhanded
  obtain ⟨closing, rest, hitems, -⟩ := hscript { items := interrupted .endOfLog, calls := [.interestChanged] } rfl
  exact ⟨ms, n, last, k, g, hserved, hhanded, closing, rest, hitems⟩

example :
    (Act.dispatch beginning 0 (.within 0) (listening (interrupted .endOfLog) none)).1.toOption = some (.count 1) ∧
      (Act.dispatch beginning 0 (.within 0) (listening (interrupted .busy) none)).1.toOption = none ∧
      (handedTo 0 (Act.dispatch beginning 0 (.within 0) (listening (interrupted .busy) none)).2.desk.entries).map
        Message.timestamp = [1] := by
  decide +kernel

end Chronicle
end PubSub
