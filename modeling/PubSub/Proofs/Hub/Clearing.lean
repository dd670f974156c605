import PubSub.Proofs.Hub.Handing

/-!
# Nothing waits between dispatches

While no call is in progress nothing waits for any subscription. Whether a transport has messages or errors, and
whatever handlers do but die, a dispatch leaves nothing behind of what it has received. So what a subscription is handed
was received by the same dispatch.

* `Chronicle.Carried`: a dispatch receives messages and hands them on.
* `Chronicle.HandsOwn`: what was handed on are these messages.

Results:

* `Chronicle.dispatch_hands_own`: a dispatch is refused, or hands on what it has received and nothing else.
* `Chronicle.backlogs_cleared`: nothing waits between dispatches, and nothing else that is done hands anything on.
-/

namespace PubSub.Chronicle

open Hub

variable {μ : Type} {ends free : Nat → Prop} {h f g : Hub (Annals μ)} {b : Nat} {d : Dispatch} {ms : List Message}
  {T : List Nat} {run : Handlers (Annals μ)}

/-- A dispatch of broker `b` receives the messages `ms`, which are routed, and what was routed is delivered, which
leaves `g`. -/
inductive Carried (run : Handlers (Annals μ)) (b : Nat) (d : Dispatch) (h : Hub (Annals μ)) :
    List Message → Hub (Annals μ) → Prop
  | intro {ms : List Message} {T : List Nat} {f g : Hub (Annals μ)} (collects : Collects b (h.setBusy b true) d ms T f)
    (delivered : Act.deliver run T f = (.ok (), g)) : Carried run b d h ms (g.setBusy b false)

/-- What has been handed on since `h` are messages out of `ms` to the subscriptions of broker `b`. -/
structure HandsOwn (b : Nat) (ms : List Message) (h g : Hub (Annals μ)) : Prop where
  /-- A subscription that has not ended is handed all for which its bound left room. -/
  whole : ∀ s ∈ h.members b, s ∈ g.members b → handedTo s g.desk.entries =
    handedTo s h.desk.entries ++ upTo (h.subscription s).backlog.capacity (h.matched s ms)
  /-- One that has ended is handed the first of them, and never the others. -/
  part : ∀ s ∈ h.members b, ∃ ns, ns <+: upTo (h.subscription s).backlog.capacity (h.matched s ms) ∧
    handedTo s g.desk.entries = handedTo s h.desk.entries ++ ns
  /-- Nobody else is handed anything, except by another broker that he belongs to. -/
  others : ∀ s, s ∉ h.members b → handedTo s g.desk.entries = handedTo s h.desk.entries ∨
    ∃ c < h.brokers.size, c ≠ b ∧ Belongs h g c s

/-- What is delivered of what a broker has taken in for which nothing waited are the messages that it has received. -/
theorem Amid.hands_own (hg : Amid (· = .returned) ends free b f g) (hr : Regular (· = .returned) h)
    (hb : h.Attached b) (hi : h.Idle b) (hfed : Fed b ms [] T (h.setBusy b true) f)
    (hempty : ∀ s ∈ g.members b, (g.subscription s).backlog.toList = []) : HandsOwn b ms h g := by
  have hdied : ¬ (Fate.died = .returned) := fun he => nomatch he
  have htake : Step (· = .returned) ends h.Idle h f := .take hb hi hfed
  have hroster := roster_setBusy h b true
  have hmembers : f.members b = h.members b := by rw [hfed.members, members_of_roster hroster]
  have hdesk : f.desk = h.desk := hfed.desk
  have htaken : ∀ s ∈ h.members b, (f.subscription s).backlog.toList =
      upTo (h.subscription s).backlog.capacity (h.matched s ms) := fun s hs => by
    have hsubscription := hfed.member s ((members_of_roster hroster b).symm ▸ hs)
    exact hsubscription ▸ (backlog_fed (hr.empty hdied b hi s hs) ms).1
  constructor
  case whole =>
    intro s hs hsg
    rw [(hg.handed_all hempty (hmembers.symm ▸ hs) hsg).1, htaken s hs, hdesk]
  case part =>
    intro s hs
    rw [← htaken s hs, ← hdesk]
    exact hg.begun hdied s (hmembers.symm ▸ hs)
  case others =>
    intro s hs
    rw [← hdesk]
    refine (hg.others s (hmembers.symm ▸ hs)).imp_right fun ⟨c, hc, hcb, hsc⟩ => ⟨c, htake.brokers_size ▸ hc, hcb, ?_⟩
    exact Course.belongs_since (.single htake) hr.tidy hsc (Course.entries_subset hg.course)

/-- A dispatch is refused and changes nothing, or it hands on the messages that it has received, and no others. -/
theorem dispatch_hands_own (hr : Regular (· = .returned) h) (hb : b < h.brokers.size) (hi : h.Idle b)
    (hrun : Orderly (· = .returned) run ends) (d : Dispatch) :
    (∃ e, Act.dispatch run b d h = (.error (.failed e), h) ∧
        ((h.broker b).closed = true ∨ ∃ time < 0, d = .within time)) ∨
      ∃ ms, Carried run b d h ms (Act.dispatch run b d h).2 ∧ HandsOwn b ms h (Act.dispatch run b d h).2 := by
  rcases Act.dispatch_cases run b d h with ⟨e, he, -, hreason⟩ | ⟨-, ho, -, he⟩
  · refine Or.inl ⟨e, he, hreason.imp_right fun hreason => hreason.resolve_left fun hbusy => ?_⟩
    exact Bool.false_ne_true (hi.symm.trans hbusy)
  · have hseated := seated_setBusy hr.tidy b
    obtain ⟨ms, T, f, r, hcollects, hheld⟩ := Act.dispatchHeld_collects run hseated d
    have hfed := hcollects.fed hseated
    obtain ⟨g, hdeliver, hg, hempty⟩ := deliver_clears hr ⟨hb, ho⟩ hi hrun hfed
    have hleft : (Act.dispatch run b d h).2 = g.setBusy b false := by
      rw [he, hheld, Act.bind_ok hdeliver, Act.snd_orHalt]
    obtain ⟨whole, part, others⟩ := hg.hands_own hr ⟨hb, ho⟩ hi hfed hempty
    refine Or.inr ⟨ms, hleft ▸ .intro hcollects hdeliver, hleft ▸ ⟨fun s hs hsg => whole s hs ?_, part, others⟩⟩
    rwa [members_of_roster (roster_setBusy g b false)] at hsg

/-- Wherever deeds lead to, no dispatch is in progress and nothing waits for any subscription. Of all that may be done
next, only dispatches hand messages on. A dispatch of a closed broker, or with a negative time to wait, is refused. Any
other hands to each subscription of its broker the messages that match it out of those that it has received itself, as
many as the bound allows, unless the subscription ends before. -/
theorem backlogs_cleared (hr : Reached (· = .returned) h) :
    (∀ b, h.Idle b ∧ ∀ s ∈ h.members b, (h.subscription s).backlog.toList = []) ∧
      ∀ run, Orderly (· = .returned) run (fun _ => True) →
        (∀ g, Deed run (fun _ => True) h g →
          (∀ s, handedTo s g.desk.entries = handedTo s h.desk.entries) ∨
            ∃ b < h.brokers.size, ∃ d, g = (Act.dispatch run b d h).2) ∧
          ∀ b < h.brokers.size, ∀ d,
            (∃ e, Act.dispatch run b d h = (.error (.failed e), h) ∧
                ((h.broker b).closed = true ∨ ∃ time < 0, d = .within time)) ∨
              ∃ ms, Carried run b d h ms (Act.dispatch run b d h).2 ∧
                HandsOwn b ms h (Act.dispatch run b d h).2 := by
  obtain ⟨hregular, hidle⟩ := hr.regular
  refine ⟨fun b => ⟨hidle b, fun s hs => ?_⟩, fun run hrun =>
    ⟨fun g hdeed => ?_, fun b hb d => dispatch_hands_own hregular hb (hidle b) hrun d⟩⟩
  · have hzero : h.load s = 0 := hregular.empty (fun he => nomatch he) b (hidle b) s hs
    exact List.eq_nil_of_length_eq_zero ((Backlog.length_toList _).trans hzero)
  · -- no broker is free in what is not a dispatch
    have hpassed : Passed (· = .returned) (fun _ => True) (fun _ => False) h g ∨ _ := deed_passed hregular.tidy hdeed
    refine hpassed.imp_left fun hg s => ?_
    exact (Course.handed_cases hg.course hregular.tidy s).resolve_right fun ⟨_, _, hfree, _⟩ => hfree

/-! ## A hub -/

/-- Handlers that subscribe once more at broker 0, if there is one, and leave no room for what comes. -/
def widening : Handlers (Annals Unit) := fun s m h =>
  (.returned, if 0 < h.brokers.size then subscribe 0 "c" ((note h (.handed s m)).setCapacity s (some 0))
    else note h (.handed s m))

theorem orderly_widening : Orderly (· = .returned) widening fun _ => True := by
  refine fun s m h => ⟨rfl, ?_⟩
  rw [widening]
  split
  · rename_i hmade
    have hnoted : 0 < (note h (.handed s m)).brokers.size := hmade
    generalize note h (.handed s m) = k at hnoted ⊢
    have hbound : Deed widening (fun _ => True) k (k.setCapacity s (some 0)) := .setCapacity k s (some 0)
    exact .tail (.single hbound) (.subscribe (k.setCapacity s (some 0)) 0 hnoted "c")
  · exact .refl

/-- After a dispatch that was handed two messages, there are three subscriptions. -/
def widened : Hub (Annals Unit) :=
  (Act.dispatch widening 0 (.within 0) (listening [.message ⟨"c", .empty, 1⟩, .message ⟨"c", .empty, 2⟩] none)).2

/-- Both messages are handed on, and to the first subscription only. -/
theorem backlogs_cleared_widened :
    widened.members 0 = [0, 1, 2] ∧ (∀ s ∈ widened.members 0, (widened.subscription s).backlog.toList = []) ∧
      (handedTo 0 widened.desk.entries).map Message.timestamp = [1, 2] ∧
      ∀ s ≠ 0, handedTo s widened.desk.entries = [] := by
  have hreached := reached_listening [.message ⟨"c", .empty, 1⟩, .message ⟨"c", .empty, 2⟩] none
  have hmade : 0 < (listening [.message ⟨"c", .empty, 1⟩, .message ⟨"c", .empty, 2⟩] none).brokers.size := by
    decide +kernel
  have hmembers : (listening [.message ⟨"c", .empty, 1⟩, .message ⟨"c", .empty, 2⟩] none).members 0 = [0] := by
    decide +kernel
  refine ⟨by decide +kernel, ((backlogs_cleared ?_).1 0).2, by decide +kernel, fun s hs => ?_⟩
  · exact .deed orderly_widening hreached (.dispatch _ 0 hmade (.within 0))
  · rcases ((backlogs_cleared hreached).2 widening orderly_widening).2 0 hmade (.within 0) with
      ⟨e, he, -⟩ | ⟨ms, -, hown⟩
    · -- it was not refused
      have hcount : (Act.dispatch widening 0 (.within 0)
          (listening [.message ⟨"c", .empty, 1⟩, .message ⟨"c", .empty, 2⟩] none)).1.toOption = some (.count 2) := by
        decide +kernel
      rw [he] at hcount
      cases hcount
    · have hother : s ∉ [0] := fun hmem => hs (List.mem_singleton.1 hmem)
      exact (hown.others s (hmembers ▸ hother)).resolve_right fun ⟨_, hc, hne, _⟩ => hne (Nat.lt_one_iff.1 hc)

end PubSub.Chronicle
