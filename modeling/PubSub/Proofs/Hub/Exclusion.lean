import PubSub.Proofs.Hub.Reentry

/-!
# One dispatch at a time

The right to dispatch a broker is taken when a dispatch begins and given back when it ends, however that comes to be.
While it is taken, a handler that asks for it is told that the broker is busy. A transport may answer in the same words:
what a transport reports is passed on as it is.

* `Hub.laidDown`: the answers that a scripted transport has still to give.
* `Hub.Given`, `Hub.Blamed`: some of them have been given, and the last was that the broker is busy.
* `Reentry.scripted`, `Reentry.handling`: a broker on a scripted transport, and what a handler there sees.

Results:

* `Act.meets_receive`: only a scripted transport answers that a broker is busy.
* `Act.busy_of_dispatch`: a dispatch is told so by another one or by its transport.
* `Reentry.dispatch_exclusive`: there is one dispatch of a broker at a time, and no end of it leaves the broker busy.
-/

namespace PubSub

variable {η : Type}

/-! ## Answers of transports -/

/-- The answers that are laid down; none unless the line is a script. -/
def Line.laidDown : Line → List Script.Item
  | .script s => s.items
  | _ => []

namespace Script

/-- A script gives its first item as its answer. -/
theorem take_items (s : Script) (patient : Bool) :
    (s.take patient).2.items <:+ s.items ∧
      ((s.take patient).1 = .error .busy → .error .busy :: (s.take patient).2.items <:+ s.items) := by
  obtain ⟨items, refusal, calls⟩ := s
  rcases items with - | ⟨m | _ | e, items⟩
  · refine ⟨List.suffix_rfl, fun he => ?_⟩
    cases patient <;> cases he
  · exact ⟨List.suffix_cons _ _, fun he => nomatch he⟩
  · exact ⟨List.suffix_cons _ _, fun he => nomatch he⟩
  · refine ⟨List.suffix_cons _ _, fun he => ?_⟩
    cases he
    exact List.suffix_rfl

end Script

/-- A mailbox does not say that a broker is busy. -/
theorem Mailbox.take_ne_busy (box : Mailbox) (wants : String → Bool) : (box.take wants).1 ≠ .error .busy := by
  unfold take
  split <;> exact fun he => nomatch he

/-- Nor does a replay. -/
theorem Replay.take_ne_busy (r : Replay) (f : ByteArray) (wants : String → Bool) (now : Nat) :
    (r.take f wants now).1 ≠ .error .busy := by
  intro he
  unfold take at he
  split at he
  · cases he
  · simp only at he
    split at he
    · cases he
    · split at he <;> cases he

namespace Hub

/-- The answers that are laid down for a transport. -/
def laidDown (h : Hub η) (t : Nat) : List Script.Item := (h.transport t).line.laidDown

theorem laidDown_setLine (h : Hub η) (t : Nat) (line : Line) :
    (h.setLine t line).laidDown t = if t < h.transports.size then line.laidDown else [] := by
  rw [laidDown, transport_setLine]
  by_cases ht : t < h.transports.size
  · rw [if_pos ⟨rfl, ht⟩, if_pos ht]
  · rw [if_neg fun hc => ht hc.2, if_neg ht, transport_of_size_le (Nat.not_lt.1 ht)]
    rfl

/-- Of the answers that are laid down for transport `t`, which were `items`, some have been given. -/
def Given (t : Nat) (items : List Script.Item) (h : Hub η) : Prop := h.laidDown t <:+ items

/-- The last of them was that the broker is busy, if that is the error. -/
def Blamed (t : Nat) (items : List Script.Item) (e : Error) (h : Hub η) : Prop :=
  e = .busy → .error .busy :: h.laidDown t <:+ items

end Hub

namespace Act

open Hub

variable {h : Hub η} {b t : Nat} {items : List Script.Item} {run : Handlers η}

/-! ## Who says that a broker is busy -/

/-- A transport takes an answer from those that are laid down for it, and says that the broker is busy if this does. -/
theorem answer_given {l : Line} {r : Except Error Offer} (hp : Given t items h) (hl : l.laidDown <:+ h.laidDown t)
    (hr : r = .error .busy → .error .busy :: l.laidDown <:+ h.laidDown t) (notices : List Notice) :
    Given t items (orHalt r ((h.setLine t l).report notices)).2 ∧
      ∀ e, (orHalt r ((h.setLine t l).report notices)).1 = .error (.failed e) →
        Blamed t items e (orHalt r ((h.setLine t l).report notices)).2 := by
  have hlaid : ((h.setLine t l).report notices).laidDown t = _ := laidDown_setLine h t l
  rw [snd_orHalt]
  refine ⟨?_, fun e he hbusy => ?_⟩
  · rw [Given, hlaid]
    split
    · exact hl.trans hp
    · exact List.nil_suffix
  · subst hbusy
    have hr : .error .busy :: l.laidDown <:+ h.laidDown t := by
      cases r with
      | error e =>
        cases he
        exact hr rfl
      | ok offer => cases he
    rw [hlaid]
    split
    · exact hr.trans hp
    · rename_i ht
      have hnone : h.laidDown t = [] := congrArg (fun tr => tr.line.laidDown) (transport_of_size_le (Nat.not_lt.1 ht))
      rw [hnone] at hr
      exact absurd (List.suffix_nil.1 hr) (List.cons_ne_nil _ _)

/-- Nor does the file of a journal say so. -/
theorem journalFile_ne_busy (j : Journal) (h : Hub η) : (journalFile j h).1 ≠ .error (.failed .busy) := by
  intro he
  rw [journalFile] at he
  cases hu : j.use with
  | writing w =>
    rw [hu] at he
    cases he
  | reading file c =>
    simp only [hu, readFile, bind_apply, get_apply] at he
    cases hr : (h.store.node file).read with
    | error e =>
      rw [hr] at he
      cases he
    | ok f =>
      rw [hr] at he
      cases he

/-- A transport says that a broker is busy only if that is laid down for it. -/
theorem meets_poll (t : Nat) (items : List Script.Item) (patient : Bool) :
    Meets (Given t items) (Blamed t items) (poll t patient : Act η Offer) := by
  intro h hp
  simp only [poll, bind_apply, get_apply]
  cases hl : (h.transport t).line with
  | bus k box =>
    exact answer_given (l := .bus k _) hp List.nil_suffix (fun he => absurd he (box.take_ne_busy _)) _
  | multicast s sequence stopped box =>
    exact answer_given (l := .multicast s sequence stopped _) hp List.nil_suffix
      (fun he => absurd he (box.take_ne_busy _)) _
  | recorder j closed =>
    refine ⟨hp, fun e he hbusy => ?_⟩
    subst hbusy
    cases he
  | replay r =>
    have hsame := journalFile_snd r.journal h
    have hne := journalFile_ne_busy r.journal h
    simp only [bind_apply]
    generalize journalFile r.journal h = found at hsame hne
    obtain ⟨e | f, k⟩ := found
    · cases hsame
      exact ⟨hp, fun e he hbusy => absurd (by rw [Except.error.inj he, hbusy]) hne⟩
    · cases hsame
      exact answer_given (l := .replay _) hp List.nil_suffix (fun he => absurd he (r.take_ne_busy f _ _)) _
  | script s =>
    have hlaid : h.laidDown t = s.items := congrArg Line.laidDown hl
    exact answer_given (l := .script _) hp (hlaid ▸ (s.take_items patient).1) (hlaid ▸ (s.take_items patient).2) []

theorem routine_given (t : Nat) (items : List Script.Item) : Routine (Given t items : Hub η → Prop) (Blamed t items) :=
  ⟨fun hp _ _ => hp, fun hp _ => hp, fun hp _ => hp⟩

theorem meets_receive (t : Nat) (items : List Script.Item) (deadline : Option Nat) (still : Bool) :
    Meets (Given t items) (Blamed t items) (receive t deadline still : Act η Reception) := by
  have hsleep : ∀ time, Meets (Given t items) (Blamed t items) (sleepUntil time : Act η Unit) := fun time =>
    meets_of_ok fun h hp => ⟨(), _, rfl, hp⟩
  refine (meets_poll t items _).bind fun offer => ?_
  cases offer with
  | message m => exact meets_pure _
  | nothing => exact meets_pure _
  | later due =>
    refine .ite (meets_pure _) ?_
    rcases due with - | time
    · cases deadline with
      | none => exact meets_pure _
      | some d => exact (hsleep d).bind fun _ => meets_pure _
    · refine .ite ((hsleep _).bind fun _ => meets_pure _) ((hsleep _).bind fun _ => ?_)
      refine (meets_poll t items _).bind fun offer => ?_
      cases offer <;> exact meets_pure _

/-- A delivery fails only if it comes to a handler that has died. -/
theorem meets_deliver (run : Handlers η) (T : List Nat) :
    Meets (fun _ => True) (fun e _ => e = .closed) (deliver run T) := by
  have hmodify : ∀ change : Hub η → Hub η, Meets (fun _ => True) (fun e _ => e = .closed) (modify change) :=
    fun change => meets_of_ok fun h _ => ⟨(), _, modify_apply change h, trivial⟩
  have hinvoke : ∀ s m, Meets (fun _ => True) (fun e _ => e = .closed) (invoke run s m) := fun s m h _ => by
    rw [invoke]
    refine ⟨trivial, fun e he => ?_⟩
    split at he <;> cases he
  have hdrain : ∀ s n, Meets (fun _ => True) (fun e _ => e = .closed) (drain run s n) := by
    intro s n
    induction n with
    | zero => exact meets_pure _
    | succ n ih =>
      refine meets_get.bind fun h => .ite ?_ (meets_pure _)
      split
      · exact meets_pure _
      · refine (hmodify _).bind fun _ => .ite ?_ ((hinvoke s _).bind fun _ => ih)
        exact Meets.bind (fun _ _ => ⟨trivial, fun e he => by cases he; rfl⟩) fun _ => (hinvoke s _).bind fun _ => ih
  induction T with
  | nil => exact meets_pure _
  | cons s T ih => exact meets_get.bind fun h => (hdrain s _).bind fun _ => ih

/-- A broker that says it is busy is, or its transport has said so. -/
theorem busy_of_dispatch {d : Dispatch} (he : (dispatch run b d h).1 = .error (.failed .busy)) :
    (h.broker b).busy = true ∨
      .error .busy :: (takeIn b d (h.setBusy b true)).2.laidDown (h.lineOf b) <:+ h.laidDown (h.lineOf b) := by
  rcases dispatch_cases run b d h with ⟨e, hr, hb, -⟩ | ⟨-, -, -, hr⟩
  · rw [hr] at he
    cases he
    exact Or.inl (hb rfl)
  · refine Or.inr ?_
    have hline : (h.setBusy b true).lineOf b = h.lineOf b := lineOf_of_roster (roster_setBusy h b true) b
    obtain ⟨-, herror, hdeferred⟩ := meets_takeIn (routine_given (h.lineOf b) (h.laidDown (h.lineOf b)))
      (h := h.setBusy b true) (fun deadline => by rw [hline]; exact meets_receive _ _ deadline false) d List.suffix_rfl
    rw [hr, dispatchHeld_eq, bind_apply] at he
    generalize takeIn b d (h.setBusy b true) = taken at he herror hdeferred ⊢
    obtain ⟨e | ⟨T, r⟩, k⟩ := taken
    · cases he
      exact herror _ rfl rfl
    · simp only [bind_apply] at he
      have hdelivered := (meets_deliver run T k trivial).2
      generalize deliver run T k = delivered at he hdelivered
      obtain ⟨e | _, g⟩ := delivered
      · cases he
        cases hdelivered _ rfl
      · cases r with
        | error e =>
          cases he
          exact hdeferred T _ rfl rfl
        | ok n => cases he

end Act

namespace Reentry

open Hub

variable {stack : List Nat} {h : Hub η}

/-- At every moment, a broker is busy while a dispatch of it is in progress and at no other time. At most one is. If it
is open then, a handler that asks for another dispatch, with a time to wait that is allowed, is told so, and nothing
changes. A dispatch leaves the same brokers busy, whatever it comes to and whether a handler dies. If none is in
progress, a dispatch is told that the broker is busy only by its transport: that is the last of the answers that it has
taken in, and it was laid down there. -/
theorem dispatch_exclusive (hm : Moment stack h) (run : Handlers η) (b : Nat) :
    stack.Nodup ∧ ((h.broker b).busy = true ↔ b ∈ stack) ∧
    (b ∈ stack → (h.broker b).closed = false → ∀ d, (∀ milliseconds, d = .within milliseconds → 0 ≤ milliseconds) →
      Act.dispatch run b d h = (.error (.failed .busy), h)) ∧
    (∀ d, b < h.brokers.size →
      (∀ T r f, Begun b d h T r f → ∀ s m k, Act.Delivers run T f s m k → Deeds k (run s m k).2) →
      Moment stack (Act.dispatch run b d h).2 ∧ ∀ c, ((Act.dispatch run b d h).2.broker c).busy = (h.broker c).busy) ∧
    (b ∉ stack → ∀ d, (Act.dispatch run b d h).1 = .error (.failed .busy) →
      .error .busy :: (Act.takeIn b d (h.setBusy b true)).2.laidDown (h.lineOf b) <:+ h.laidDown (h.lineOf b)) := by
  have hsound := hm.sound
  refine ⟨hsound.nodup, hsound.busy_iff b, fun hb ho d hd => ?_, fun d made handlers => ?_, fun hb d he => ?_⟩
  · refine Act.dispatch_busy ?_ ho ((hsound.busy_iff b).2 hb)
    cases d with
    | one => rfl
    | within milliseconds => exact Act.checkTime_within (hd milliseconds rfl) h
  · have hdeeds : Deeds h (Act.dispatch run b d h).2 := (Deeds.refl h).dispatch run b made d handlers
    exact ⟨hm.deeds hdeeds, hdeeds.intact.busy⟩
  · exact (Act.busy_of_dispatch he).resolve_left fun hbusy => hb ((hsound.busy_iff b).1 hbusy)

/-! ## Scripts -/

/-- A broker on a transport with answers that are laid down. -/
def scripted (items : List Script.Item) : Hub Unit :=
  Hub.enlarged { store := ⟨#[], [], []⟩, desk := () } (.script { items }) {} none

theorem deeds_scripted (items : List Script.Item) :
    Deeds { store := ⟨#[], [], []⟩, desk := () } (scripted items) :=
  (Deeds.refl _).step (.attach _ (.script { items }) {} none)

/-- Somebody listens there, and a message is coming. -/
def expectant : Hub Unit := (Act.subscribe 0 "c" (scripted [.message ⟨"c", .empty, 1⟩])).2

/-- What its handler sees. -/
def handling : Hub Unit := (Act.takeIn 0 .one (expectant.setBusy 0 true)).2.setBacklog 0 (.new none)

theorem moment_handling : Moment [0] handling := by
  have hexpectant : Moment [] expectant :=
    .deeds (.start rfl) ((deeds_scripted _).step (.subscribe _ 0 (by decide +kernel) "c"))
  have hbegun : Begun 0 .one expectant [0] (.ok .done) (Act.takeIn 0 .one (expectant.setBusy 0 true)).2 :=
    ⟨⟨by decide +kernel, by decide +kernel⟩, by decide +kernel, rfl, Prod.ext (by with_unfolding_all rfl) rfl⟩
  have hone : ((Act.takeIn 0 .one (expectant.setBusy 0 true)).2.subscription 0).backlog.size = 1 := by decide +kernel
  have hdrains : Act.Drains (fun _ _ h => (.returned, h)) 0 1 (Act.takeIn 0 .one (expectant.setBusy 0 true)).2
      ⟨"c", .empty, 1⟩ handling :=
    .now (by decide +kernel) (by with_unfolding_all rfl) (by decide +kernel)
  exact .handed hexpectant hbegun (fun _ _ k _ => .refl k) (.now (hone ▸ hdrains))

theorem dispatch_exclusive_handling :
    Moment [0] handling ∧ Act.dispatch (fun _ _ h => (.returned, h)) 0 (.within 0) handling =
      (.error (.failed .busy), handling) := by
  obtain ⟨-, -, hrefused, -⟩ := dispatch_exclusive moment_handling (fun _ _ h => (.returned, h)) 0
  refine ⟨moment_handling, hrefused (by decide) (by decide +kernel) _ fun milliseconds he => ?_⟩
  cases he
  exact Int.le_refl 0

/-- A transport may say of itself that the broker is busy, which is passed on. -/
theorem dispatch_told_busy :
    Moment [] (scripted [.error .busy]) ∧ (scripted [.error .busy]).Attached 0 ∧
      ((scripted [.error .busy]).broker 0).busy = false ∧
      (Act.dispatch (fun _ _ h => (.returned, h)) 0 (.within 0) (scripted [.error .busy])).1 =
        .error (.failed .busy) :=
  ⟨.deeds (.start rfl) (deeds_scripted _), ⟨by decide +kernel, by decide +kernel⟩, by decide +kernel, rfl⟩

end Reentry
end PubSub
