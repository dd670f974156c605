import PubSub.Proofs.Hub.Handing

/-!
# Silence after the end

Subscriptions may end at any time, also in the middle of the delivery of a dispatch that has routed messages to them, by
their own handlers or by others. From then on their handlers do not begin any more.

* `Chronicle.Told`, `Chronicle.Precedes`: what the annals tell, and in which order.
* `Chronicle.Due`: what has to be so when something is recorded.
* `Chronicle.Truthful`: the annals agree with the tables, and tell nothing of handlers that begin after the end.

Results:

* `Chronicle.Step.writes`: a step adds what is due to the annals, and at most one entry.
* `Chronicle.Step.truthful`, `Chronicle.Reached.truthful`: annals stay truthful.
* `Chronicle.silent_after_end`: what they tell at hubs that deeds lead to.
-/

namespace PubSub.Chronicle

open Hub

variable {μ : Type} {fates : Fate → Prop} {ends free : Nat → Prop} {h g : Hub (Annals μ)} {b s : Nat} {e x : Entry}
  {event : Event}

/-- The annals tell of an event. -/
def Told (h : Hub (Annals μ)) (event : Event) : Prop := ∃ e ∈ h.desk.entries, e.event = event

/-- An entry stands before another one. -/
def Precedes (h : Hub (Annals μ)) (e x : Entry) : Prop := [e, x].Sublist h.desk.entries

/-! ## What is written -/

/-- What has to be so when a step from `h` to `g` is recorded. -/
def Due (h g : Hub (Annals μ)) : Event → Prop
  | .made b s => (h.broker b).closed = false ∧ s ∈ g.members b
  | .handed s _ => ∃ b, s ∈ h.members b
  | .withdrawn s => g.Retired s ∧ g.load s = 0
  | .closed b => (g.broker b).closed = true

/-- A step from `h` to `g` adds to the annals what is due, if anything, and leaves no new subscription out. -/
structure Writes (new : Option Event) (h g : Hub (Annals μ)) : Prop where
  entries : g.desk.entries = h.desk.entries ++ new.toList.map (⟨·, backlogs g⟩)
  due : ∀ event ∈ new, Due h g event
  made : ∀ b, ∀ s ∈ g.members b, s ∈ h.members b ∨ .made b s ∈ new

theorem writes_nothing (hentries : g.desk.entries = h.desk.entries)
    (hmembers : ∀ b, ∀ s ∈ g.members b, s ∈ h.members b) : Writes none h g where
  entries := hentries.trans (List.append_nil _).symm
  due _ he := nomatch he
  made b s hs := Or.inl (hmembers b s hs)

theorem writes_note {k : Hub (Annals μ)} (hdesk : k.desk = h.desk) (hdue : Due h (note k event) event)
    (hmade : ∀ b, ∀ s ∈ k.members b, s ∈ h.members b ∨ .made b s ∈ some event) :
    Writes (some event) h (note k event) where
  entries := by rw [note, hdesk]; rfl
  due _ he := Option.some.inj he ▸ hdue
  made := hmade

theorem Step.writes (hstep : Step fates ends free h g) : ∃ new, Writes new h g := by
  cases hstep with
  | aside brokers subscriptions entries =>
    exact ⟨_, writes_nothing entries fun b s hs => members_of_roll (roll_of_tables brokers subscriptions) b ▸ hs⟩
  | @enrol c attached pattern =>
    have hnew : h.subscriptions.size ∈ (h.enrolled c pattern).members c :=
      (mem_members_enrolled attached.made).2 (Or.inr ⟨rfl, rfl⟩)
    refine ⟨_, writes_note rfl ⟨attached.isOpen, hnew⟩ fun b s hs => ?_⟩
    refine ((mem_members_enrolled attached.made).1 hs).imp_right fun hn => ?_
    rw [hn.1, hn.2]
    rfl
  | withdraw attached member may =>
    exact ⟨_, writes_nothing rfl fun b s hs => ((mem_members_withdrawn attached.made).1 hs).1⟩
  | testify retired empty =>
    exact ⟨_, writes_note rfl ⟨⟨retired.made, retired.inactive⟩, empty⟩ fun b u hu => Or.inl hu⟩
  | setCapacity => exact ⟨_, writes_nothing rfl fun b s hs => hs⟩
  | close attached may line =>
    exact ⟨_, writes_nothing (congrArg Annals.entries desk_ended) fun b s hs =>
      ((mem_members_ended attached.made).1 hs).1⟩
  | attest closed => exact ⟨_, writes_note rfl closed fun b u hu => Or.inl hu⟩
  | @take _ c _ _ attached may fed =>
    refine ⟨_, writes_nothing (congrArg Annals.entries fed.desk) fun b s hs => ?_⟩
    rwa [fed.members, members_of_roster (roster_setBusy h c true)] at hs
  | hand member may popped => exact ⟨_, writes_note rfl ⟨_, member⟩ fun b u hu => Or.inl hu⟩
  | mar died apart active load => exact ⟨_, writes_nothing rfl fun b s hs => hs⟩
  | finish may empty =>
    exact ⟨_, writes_nothing rfl fun b s hs => members_of_roster (roster_setBusy ..) b ▸ hs⟩

section

variable {new : Option Event}

theorem Writes.mem_iff (hw : Writes new h g) (e : Entry) :
    e ∈ g.desk.entries ↔ e ∈ h.desk.entries ∨ ∃ event ∈ new, e = ⟨event, backlogs g⟩ := by
  rw [hw.entries, List.mem_append]
  cases new <;> simp

theorem Writes.told_iff (hw : Writes new h g) (event : Event) : Told g event ↔ Told h event ∨ event ∈ new := by
  simp only [Told, hw.mem_iff, or_and_right, exists_or]
  refine or_congr_right ⟨?_, fun he => ⟨_, ⟨event, he, rfl⟩, rfl⟩⟩
  rintro ⟨-, ⟨event', he, rfl⟩, rfl⟩
  exact he

theorem pair_sublist_concat_iff {α : Type} {l : List α} {a c d : α} :
    [a, c].Sublist (l ++ [d]) ↔ [a, c].Sublist l ∨ a ∈ l ∧ c = d := by
  rw [show [a, c] = [a] ++ [c] from rfl]
  constructor
  · intro hs
    obtain ⟨l₁, l₂, hl, h₁, h₂⟩ := List.sublist_append_iff.1 hs
    rcases List.sublist_singleton.1 h₂ with rfl | rfl
    · rw [List.append_nil] at hl
      exact Or.inl (hl ▸ h₁)
    · obtain ⟨rfl, hcd⟩ := List.append_inj' hl rfl
      exact Or.inr ⟨List.singleton_sublist.1 h₁, List.singleton_inj.1 hcd⟩
  · rintro (hs | ⟨ha, rfl⟩)
    · exact hs.trans (List.sublist_append_left l [d])
    · exact (List.singleton_sublist.2 ha).append (List.Sublist.refl [c])

theorem Writes.precedes_iff (hw : Writes new h g) (e x : Entry) :
    Precedes g e x ↔ Precedes h e x ∨ e ∈ h.desk.entries ∧ ∃ event ∈ new, x = ⟨event, backlogs g⟩ := by
  rw [Precedes, Precedes, hw.entries]
  cases new with
  | none => simp
  | some event =>
    rw [Option.toList_some, List.map_singleton, pair_sublist_concat_iff]
    simp

end

/-- No step makes more messages wait for a subscription that has ended. -/
theorem Step.load_retired (hstep : Step fates ends free h g) (ht : h.Tidy) (hs : h.Retired s) :
    g.load s ≤ h.load s := by
  have hsame : (g.subscription s).backlog = (h.subscription s).backlog → g.load s ≤ h.load s := fun he =>
    Nat.le_of_eq (congrArg Backlog.size he)
  cases hstep with
  | aside brokers subscriptions => exact hsame (by rw [subscription, subscriptions, subscription])
  | enrol attached pattern =>
    refine hsame ?_
    rw [subscription_note, subscription_enrolled, if_neg (Nat.ne_of_lt hs.made)]
  | @withdraw b u attached member may =>
    rw [load, subscription_withdrawn (ht.member_lt b u member)]
    split
    · exact Nat.zero_le _
    · exact Nat.le_refl _
  | testify => exact Nat.le_refl _
  | setCapacity u capacity => exact Nat.le_of_eq (load_setCapacity h u capacity s)
  | close attached may line =>
    refine hsame ?_
    rw [subscription_ended]
    split <;> rfl
  | attest => exact Nat.le_refl _
  | @take _ c _ _ attached may fed =>
    have hstranger : s ∉ (h.setBusy c true).members c := fun hsc =>
      ht.not_retired (members_of_roster (roster_setBusy h c true) c ▸ hsc) hs
    exact hsame (congrArg Subscription.backlog (fed.stranger s hstranger))
  | hand member may popped =>
    rw [load_note, load_of_pop popped]
    split
    · exact Nat.sub_le _ _
    · exact Nat.le_refl _
  | @mar u change died apart active load =>
    rw [Hub.load, subscription_modifySubscription]
    split
    · rename_i hu
      exact hu.1 ▸ load
    · exact Nat.le_refl _
  | finish => exact Nat.le_refl _

/-! ## Truthful annals -/

/-- The annals agree with the tables, and tell nothing of handlers that begin after the end. -/
structure Truthful (h : Hub (Annals μ)) : Prop where
  made : ∀ b, ∀ s ∈ h.members b, Told h (.made b s)
  owner : ∀ b s, Told h (.made b s) → s ∈ h.members b ∨ h.Retired s
  withdrawn : ∀ s, Told h (.withdrawn s) → h.Retired s ∧ h.load s = 0
  closed : ∀ b, Told h (.closed b) → (h.broker b).closed = true
  /-- Nothing waited for a subscription when it had been taken away. -/
  cleared : ∀ e ∈ h.desk.entries, ∀ s, e.event = .withdrawn s → (e.backlog s).size = 0
  after_withdrawn : ∀ e x, Precedes h e x → ∀ s, e.event = .withdrawn s →
    (x.backlog s).size = 0 ∧ ∀ m, x.event ≠ .handed s m
  after_closed : ∀ e x, Precedes h e x → ∀ b s, e.event = .closed b → Told h (.made b s) → ∀ m, x.event ≠ .handed s m
  /-- Whoever is handed a message was made by a broker. -/
  handed : ∀ x ∈ h.desk.entries, ∀ s m, x.event = .handed s m → ∃ b e, Precedes h e x ∧ e.event = .made b s

/-- The subscriptions that a closed broker had made have ended. -/
theorem Truthful.retired_of_closed (hr : Truthful h) (ht : h.Tidy) (hc : Told h (.closed b)) (hm : Told h (.made b s)) :
    h.Retired s := by
  refine (hr.owner b s hm).resolve_left fun hs => ?_
  rw [ht.shut b (hr.closed b hc)] at hs
  cases hs

/-- It makes no others. -/
theorem Truthful.made_before {new : Option Event} (hr : Truthful h) (hw : Writes new h g) (hc : Told h (.closed b))
    (hm : Told g (.made b s)) : Told h (.made b s) := by
  refine ((hw.told_iff _).1 hm).resolve_right fun hnew => ?_
  have hopen := (hw.due _ hnew).1
  rw [hr.closed b hc] at hopen
  cases hopen

/-- Annals stay truthful if what is due is added to them. -/
theorem Truthful.written {new : Option Event} (hr : Truthful h) (ht : h.Tidy) (hw : Writes new h g) (hl : Later h g)
    (hload : ∀ s, h.Retired s → g.load s ≤ h.load s) : Truthful g := by
  -- what was told before
  have hgone : ∀ {s}, Told h (.withdrawn s) → h.Retired s ∧ g.load s = 0 := fun {s} he => by
    obtain ⟨hretired, hzero⟩ := hr.withdrawn s he
    exact ⟨hretired, Nat.eq_zero_of_le_zero (Nat.le_trans (hload s hretired) (Nat.le_of_eq hzero))⟩
  constructor
  case made =>
    intro b s hs
    rw [hw.told_iff]
    exact (hw.made b s hs).imp_left (hr.made b s)
  case owner =>
    intro b s hm
    rcases (hw.told_iff _).1 hm with hm | hnew
    · exact (hr.owner b s hm).elim (hl.member b s) fun hretired => Or.inr (hl.retired s hretired)
    · exact Or.inl (hw.due _ hnew).2
  case withdrawn =>
    intro s hs
    rcases (hw.told_iff _).1 hs with hs | hnew
    · exact ⟨hl.retired s (hgone hs).1, (hgone hs).2⟩
    · exact hw.due _ hnew
  case closed =>
    intro b hb
    rcases (hw.told_iff _).1 hb with hb | hnew
    · exact hl.closed b (hr.closed b hb)
    · exact hw.due _ hnew
  case cleared =>
    intro e he s hs
    rcases (hw.mem_iff e).1 he with he | ⟨event, hnew, rfl⟩
    · exact hr.cleared e he s hs
    · cases hs
      exact (hw.due _ hnew).2
  case after_withdrawn =>
    intro e x hex s hs
    rcases (hw.precedes_iff e x).1 hex with hex | ⟨he, event, hnew, rfl⟩
    · exact hr.after_withdrawn e x hex s hs
    · obtain ⟨hretired, hzero⟩ := hgone ⟨e, he, hs⟩
      refine ⟨hzero, fun m hx => ?_⟩
      cases hx
      obtain ⟨b, hb⟩ := hw.due _ hnew
      exact ht.not_retired hb hretired
  case after_closed =>
    intro e x hex b s hb hm m hx
    have hclosed : e ∈ h.desk.entries → Told h (.closed b) := fun he => ⟨e, he, hb⟩
    rcases (hw.precedes_iff e x).1 hex with hex | ⟨he, event, hnew, rfl⟩
    · have he : e ∈ h.desk.entries := hex.subset List.mem_cons_self
      exact hr.after_closed e x hex b s hb (hr.made_before hw (hclosed he) hm) m hx
    · cases hx
      obtain ⟨c, hc⟩ := hw.due _ hnew
      exact ht.not_retired hc (hr.retired_of_closed ht (hclosed he) (hr.made_before hw (hclosed he) hm))
  case handed =>
    intro x hx s m hm
    rcases (hw.mem_iff x).1 hx with hx | ⟨event, hnew, rfl⟩
    · obtain ⟨b, e, he, hb⟩ := hr.handed x hx s m hm
      exact ⟨b, e, (hw.precedes_iff e x).2 (Or.inl he), hb⟩
    · cases hm
      obtain ⟨b, hb⟩ := hw.due _ hnew
      obtain ⟨e, he, hmade⟩ := hr.made b s hb
      exact ⟨b, e, (hw.precedes_iff e _).2 (Or.inr ⟨he, _, hnew, rfl⟩), hmade⟩

theorem Step.truthful (hstep : Step fates ends free h g) (ht : h.Tidy) (hr : Truthful h) : Truthful g := by
  obtain ⟨new, hw⟩ := hstep.writes
  exact hr.written ht hw (hstep.later ht) fun s hs => hstep.load_retired ht hs

theorem Course.truthful (hc : Course fates ends free h g) (ht : h.Tidy) (hr : Truthful h) : Truthful g := by
  induction hc with
  | refl => exact hr
  | tail hc hstep ih => exact hstep.truthful (Course.tidy hc ht) ih

theorem Reached.truthful (hr : Reached fates h) : Truthful h := by
  induction hr with
  | @start h brokers subscriptions entries =>
    have hmembers : ∀ b, h.members b = [] := fun b => by rw [members, broker, brokers]; rfl
    have hnobody : ∀ {e}, e ∉ h.desk.entries := fun {e} he => by
      rw [entries] at he
      cases he
    have hnothing : ∀ {event}, ¬ Told h event := fun {event} he => he.elim fun e he => hnobody he.1
    have hno : ∀ {e x}, ¬ Precedes h e x := fun {e x} he => hnobody (he.subset List.mem_cons_self)
    constructor
    case made =>
      intro b s hs
      rw [hmembers] at hs
      cases hs
    case owner => exact fun b s hs => absurd hs hnothing
    case withdrawn => exact fun s hs => absurd hs hnothing
    case closed => exact fun b hb => absurd hb hnothing
    case cleared => exact fun e he => absurd he hnobody
    case after_withdrawn => exact fun e x he => absurd he hno
    case after_closed => exact fun e x he => absurd he hno
    case handed => exact fun x hx => absurd hx hnobody
  | @join h before transport interest capacity ih =>
    have e := roll_addBroker h transport interest capacity
    exact ih.written before.regular.1.tidy (writes_nothing rfl fun b s hs => members_of_roll e b ▸ hs)
      (Later.rfl.of_roll e) fun s _ => Nat.le_refl _
  | deed orderly before deed ih =>
    have hregular := before.regular.1
    exact Course.truthful (deeds_passed orderly (.single deed) hregular).course hregular.tidy ih

/-- What the annals of a hub tell, whatever handlers have done at it. When a subscription had been taken away, no
messages waited for it, and none did later; its handler has not begun again. When a broker had been closed, none of the
handlers of its subscriptions has begun again. Every handler that has begun was that of a subscription which a broker
had made. -/
theorem silent_after_end (hr : Reached fates h) {e : Entry} (he : e ∈ h.desk.entries) :
    (∀ s, e.event = .withdrawn s →
      (e.backlog s).toList = [] ∧ (h.subscription s).backlog.toList = [] ∧
        ∀ x, Precedes h e x → (x.backlog s).toList = [] ∧ ∀ m, x.event ≠ .handed s m) ∧
    (∀ b, e.event = .closed b → ∀ s, Told h (.made b s) → ∀ x, Precedes h e x → ∀ m, x.event ≠ .handed s m) ∧
    ∀ s m, e.event = .handed s m → ∃ b x, Precedes h x e ∧ x.event = .made b s := by
  have htruthful := hr.truthful
  have hnil : ∀ {q : Backlog}, q.size = 0 → q.toList = [] := fun {q} hq =>
    List.eq_nil_of_length_eq_zero ((Backlog.length_toList q).trans hq)
  refine ⟨fun s hs => ⟨hnil (htruthful.cleared e he s hs), hnil (htruthful.withdrawn s ⟨e, he, hs⟩).2, fun x hx => ?_⟩,
    fun b hb s hm x hx => htruthful.after_closed e x hx b s hb hm, htruthful.handed e he⟩
  obtain ⟨hzero, hsilent⟩ := htruthful.after_withdrawn e x hx s hs
  exact ⟨hnil hzero, hsilent⟩

/-- Handlers that leave broker 0, if there is one, as soon as they begin. -/
def leaving : Handlers (Annals Unit) := fun s m h =>
  (.returned, if 0 < h.brokers.size then unsubscribe 0 s (note h (.handed s m)) else note h (.handed s m))

theorem orderly_leaving : Orderly (· = .returned) leaving fun _ => True := by
  refine fun s m h => ⟨rfl, ?_⟩
  rw [leaving]
  split
  · rename_i hmade
    exact .single (.unsubscribe (note h (.handed s m)) 0 hmade trivial s)
  · exact .refl

/-- A subscription that is left in the middle of a batch. -/
def left : Hub (Annals Unit) :=
  (Act.dispatch leaving 0 (.within 0) (listening [.message ⟨"c", .empty, 1⟩, .message ⟨"c", .empty, 2⟩] none)).2

theorem reached_left : Reached (· = .returned) left :=
  .deed orderly_leaving (reached_listening _ _) (.dispatch _ 0 (by decide +kernel) (.within 0))

theorem silent_after_end_left :
    ∃ e ∈ left.desk.entries, e.event = .withdrawn 0 ∧ (e.backlog 0).toList = [] ∧
      ∀ x, Precedes left e x → ∀ m, x.event ≠ .handed 0 m := by
  have hsome : left.desk.entries.any (fun e => match e.event with
    | .withdrawn s => s == 0
    | _ => false) = true := by decide +kernel
  obtain ⟨e, he, htest⟩ := List.any_eq_true.1 hsome
  have hs : e.event = .withdrawn 0 := by
    split at htest
    · rename_i heq
      rw [heq, eq_of_beq htest]
    · cases htest
  obtain ⟨hcleared, -, hsilent⟩ := (silent_after_end reached_left he).1 0 hs
  exact ⟨e, he, hs, hcleared, fun x hx => (hsilent x hx).2⟩

end PubSub.Chronicle
