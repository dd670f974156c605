import PubSub.Proofs.Hub.Course
import PubSub.Proofs.Hub.Moving

/-!
# Dispatches within dispatches

The handlers that a dispatch runs may begin dispatches of other brokers, whose handlers may do so again. However deep
this goes, what is done is a course of steps, in which only the brokers take part that were not busy before.

* `Chronicle.Passed`: steps after which the same brokers are busy.

Results:

* `Chronicle.deed_passed`: what is done that is not a dispatch is such steps, and hands nothing on.
* `Chronicle.dispatch_passed`: a dispatch is such steps, by induction on how many brokers are not busy.
* `Chronicle.deeds_passed`, `Chronicle.handed_passed`: so is all that is done, and what a handler does.
* `Chronicle.Reached.regular`: the hubs that deeds lead to are regular.
-/

namespace PubSub

namespace Hub

variable {η : Type} {h f : Hub η} {b s : Nat} {ms : List Message} {T : List Nat}

/-- A broker of which no dispatch is in progress. -/
def Idle (h : Hub η) (b : Nat) : Prop := (h.broker b).busy = false

/-! ## What a dispatch has taken in -/

theorem Fed.busy_taken (hf : Fed b ms [] T (h.setBusy b true) f) (hb : b < h.brokers.size) (c : Nat) :
    (f.broker c).busy = if c = b then true else (h.broker c).busy := by
  rw [hf.broker, broker_setBusy]
  by_cases hcb : b = c
  · rw [if_pos ⟨hcb, hcb ▸ hb⟩, if_pos hcb.symm]
  · rw [if_neg fun hc => hcb hc.1, if_neg fun hc => hcb hc.symm]

theorem Fed.idle_taken (hf : Fed b ms [] T (h.setBusy b true) f) (hb : b < h.brokers.size) (c : Nat) :
    f.Idle c ↔ h.Idle c ∧ c ≠ b := by
  rw [Idle, hf.busy_taken hb, Idle]
  by_cases hcb : c = b <;> simp [hcb]

/-- While a broker is busy, one less is idle. -/
theorem Fed.idlers_taken (hf : Fed b ms [] T (h.setBusy b true) f) (hb : b < h.brokers.size) (hi : h.Idle b) :
    f.idlers < h.idlers := by
  have hsame : f.idlers = (h.setBusy b true).idlers := by simp only [idlers, hf.broker, hf.brokers]
  rw [hsame]
  exact idlers_setBusy hb hi

theorem Fed.mem_of_touched (hf : Fed b ms [] T h f) (hs : s ∈ T) : s ∈ f.members b := by
  by_contra hn
  rw [hf.members] at hn
  have hgrown := ((hf.touched s).1 hs).resolve_left List.not_mem_nil
  rw [load, load, hf.stranger s hn] at hgrown
  exact Nat.lt_irrefl _ hgrown

/-- Who has taken nothing has nothing to do if there was nothing to do before. -/
theorem Fed.touched_or_empty (hf : Fed b ms [] T h f) (hzero : h.load s = 0) : s ∈ T ∨ f.load s = 0 := by
  rw [hf.touched, hzero]
  rcases Nat.eq_zero_or_pos (f.load s) with he | hpos
  · exact Or.inr he
  · exact Or.inl (Or.inr hpos)

theorem seated_setBusy (ht : h.Tidy) (b : Nat) : (h.setBusy b true).Seated b :=
  (ht.of_roll (roll_of_roster (roster_setBusy h b true))).seated b

end Hub

namespace Chronicle

open Hub

variable {μ : Type} {fates : Fate → Prop} {ends free free' : Nat → Prop} {h f g k : Hub (Annals μ)} {b c s n : Nat}
  {m : Message} {rest : Backlog} {run : Handlers (Annals μ)}

/-- Steps after which the same brokers are busy. -/
structure Passed (fates : Fate → Prop) (ends free : Nat → Prop) (h g : Hub (Annals μ)) : Prop where
  course : Course fates ends free h g
  busy : ∀ b, (g.broker b).busy = (h.broker b).busy

theorem Passed.rfl : Passed fates ends free h h := ⟨.refl, fun _ => Eq.refl _⟩

theorem Passed.size (hg : Passed fates ends free h g) : g.brokers.size = h.brokers.size := Course.brokers_size hg.course

theorem Passed.trans (hf : Passed fates ends free h f) (hg : Passed fates ends free f g) :
    Passed fates ends free h g :=
  ⟨Relation.ReflTransGen.trans hf.course hg.course, fun b => (hg.busy b).trans (hf.busy b)⟩

theorem Passed.mono (hfree : ∀ b, free b → free' b) (hg : Passed fates ends free h g) :
    Passed fates ends free' h g :=
  ⟨Course.mono hfree hg.course, hg.busy⟩

theorem Passed.idle (hg : Passed fates ends free h g) : g.Idle = h.Idle := by
  funext b
  rw [Idle, Idle, hg.busy]

theorem Passed.idlers (hg : Passed fates ends free h g) : g.idlers = h.idlers := by
  simp only [Hub.idlers, hg.size, hg.busy]

theorem passed_of_undisturbed (hg : Undisturbed h g) : Passed fates ends free h g where
  course := .single (.aside hg.brokers hg.subscriptions (by rw [hg.desk]))
  busy b := by rw [hg.broker]

/-! ## Calls that hand nothing on -/

theorem subscribe_passed (hb : b < h.brokers.size) (text : String) :
    Passed fates ends free h (subscribe b text h) := by
  rcases subscribe_enrolled hb text with he | ⟨hattached, pattern, hg⟩
  · rw [he]
    exact .rfl
  · exact Passed.trans ⟨.single (.enrol hattached pattern), busy_enrolled hb pattern⟩ (passed_of_undisturbed hg)

theorem unsubscribe_passed (ht : h.Tidy) (hb : b < h.brokers.size) (may : ends b) (s : Nat) :
    Passed fates ends free h (unsubscribe b s h) := by
  rcases unsubscribe_withdrawn hb s with he | ⟨hattached, hs, hg⟩
  · rw [he]
    exact .rfl
  · have hlt := ht.member_lt b s hs
    have hwithdrawn : Passed fates ends free h (h.withdrawn b s) :=
      ⟨.single (.withdraw hattached hs may), busy_withdrawn hb s⟩
    rcases hg with hg | hg
    · exact hwithdrawn.trans (passed_of_undisturbed hg)
    · have hretired : (h.withdrawn b s).Retired s := by
        refine ⟨(subscriptions_size_withdrawn h b s).symm ▸ hlt, ?_⟩
        rw [subscription_withdrawn hlt, if_pos (Eq.refl s)]
      have hempty : (h.withdrawn b s).load s = 0 := by
        rw [load, subscription_withdrawn hlt, if_pos (Eq.refl s)]
        exact Eq.refl 0
      exact hwithdrawn.trans
        (Passed.trans ⟨.single (.testify hretired hempty), fun _ => Eq.refl _⟩ (passed_of_undisturbed hg))

theorem close_passed (hb : b < h.brokers.size) (may : ends b) : Passed fates ends free h (close b h) := by
  rcases close_ended hb with ⟨hclosed, he⟩ | ⟨hattached, hg⟩
  · rw [he]
    exact ⟨.single (.attest hclosed), fun _ => Eq.refl _⟩
  · have line := (h.transport (h.lineOf b)).line
    have hclosed : ((h.ended b line).broker b).closed = true := by rw [broker_ended hb, if_pos (Eq.refl b)]
    have hended : Passed fates ends free h (h.ended b line) :=
      ⟨.single (.close hattached may line), busy_ended hb line⟩
    exact hended.trans (Passed.trans ⟨.single (.attest hclosed), fun _ => Eq.refl _⟩ (passed_of_undisturbed (hg line)))

/-- Whatever is done at a hub is a dispatch, or steps in which no broker hands anything on. -/
theorem deed_passed (ht : h.Tidy) (hdeed : Deed run ends h g) :
    Passed fates ends free h g ∨ ∃ b < h.brokers.size, ∃ d, g = (Act.dispatch run b d h).2 := by
  cases hdeed with
  | aside brokers subscriptions entries =>
    exact Or.inl ⟨.single (.aside brokers subscriptions entries), fun b => by rw [broker, brokers, broker]⟩
  | publish b channel payload => exact Or.inl (passed_of_undisturbed (Act.publish_undisturbed b channel payload h))
  | subscribe b made text => exact Or.inl (subscribe_passed made text)
  | unsubscribe b made may s => exact Or.inl (unsubscribe_passed ht made may s)
  | setCapacity s capacity => exact Or.inl ⟨.single (.setCapacity h s capacity), fun _ => Eq.refl _⟩
  | close b made may => exact Or.inl (close_passed made may)
  | dispatch b made d => exact Or.inr ⟨b, made, d, Eq.refl _⟩

/-! ## Dispatches -/

/-- Deeds are courses of steps, if dispatches are as long as no more brokers are idle. -/
theorem deeds_passed_of
    (hd : ∀ k : Hub (Annals μ), Regular fates k → k.idlers < n → ∀ b < k.brokers.size, ∀ d,
      Passed fates ends k.Idle k (Act.dispatch run b d k).2)
    (hdeeds : Relation.ReflTransGen (Deed run ends) h g) (hr : Regular fates h) (hn : h.idlers < n) :
    Passed fates ends h.Idle h g := by
  induction hdeeds with
  | refl => exact .rfl
  | @tail f g _ hdeed ih =>
    have hf := Course.regular ih.course hr
    refine ih.trans ?_
    rcases deed_passed hf.tidy hdeed with hg | ⟨b, made, d, he⟩
    · exact hg
    · exact he ▸ ih.idle ▸ hd f hf (ih.idlers ▸ hn) b made d

/-- What a handler does is a course of steps, if dispatches are as long as no more brokers are idle. -/
theorem handed_passed_of (hrun : Orderly fates run ends)
    (hd : ∀ k : Hub (Annals μ), Regular fates k → k.idlers < n → ∀ b < k.brokers.size, ∀ d,
      Passed fates ends k.Idle k (Act.dispatch run b d k).2)
    (hr : Regular fates k) (hn : k.idlers < n) (hs : s ∈ k.members b)
    (hp : (k.subscription s).backlog.pop = some (m, rest)) :
    Passed fates ends k.Idle (note (k.setBacklog s rest) (.handed s m)) (run s m (k.setBacklog s rest)).2 := by
  have hhand : Step fates ends (fun _ => True) k (note (k.setBacklog s rest) (.handed s m)) := .hand hs trivial hp
  exact deeds_passed_of hd (hrun s m (k.setBacklog s rest)).2 (hhand.regular hr) hn

/-- Amid the delivery of a dispatch of broker `b` that has taken in its messages when the hub was `f`. -/
structure Amid (fates : Fate → Prop) (ends free : Nat → Prop) (b : Nat) (f k : Hub (Annals μ)) : Prop extends
    Passed fates ends free f k where
  /-- Nothing waits for subscriptions that have been made in the meantime. -/
  fresh : ∀ s ∈ k.members b, s ∈ f.members b ∨ k.load s = 0
  /-- Unless a handler dies, a message waits until it is handed on. -/
  handed : ¬ fates .died → ∀ s ∈ f.members b, s ∈ k.members b →
    handedTo s k.desk.entries ++ (k.subscription s).backlog.toList =
        handedTo s f.desk.entries ++ (f.subscription s).backlog.toList ∧
      (k.subscription s).backlog.dropped = (f.subscription s).backlog.dropped
  /-- Even a subscription that has ended has been handed the first messages that waited for it, and no others. -/
  begun : ¬ fates .died → ∀ s ∈ f.members b, ∃ ns, ns <+: (f.subscription s).backlog.toList ∧
    handedTo s k.desk.entries = handedTo s f.desk.entries ++ ns
  /-- Others have been handed messages only by brokers that they belong to. -/
  others : ∀ s, s ∉ f.members b → handedTo s k.desk.entries = handedTo s f.desk.entries ∨
    ∃ c < f.brokers.size, c ≠ b ∧ Belongs f k c s

theorem Amid.rfl : Amid fates ends free b f f :=
  ⟨Passed.rfl, fun _ hs => Or.inl hs, fun _ _ _ _ => ⟨Eq.refl _, Eq.refl _⟩,
    fun _ _ _ => ⟨[], ⟨_, Eq.refl _⟩, (List.append_nil _).symm⟩, fun _ _ => Or.inl (Eq.refl _)⟩

/-- A handler has died, or what should be handed to it is lost. -/
theorem Amid.marred (hk : Amid fates ends free b f k) (hf : Regular fates f) (hb : free b) (hs : s ∈ f.members b)
    {change : Subscription → Subscription} (died : fates .died ∨ (k.subscription s).spoiled = true)
    (active : (change (k.subscription s)).active = (k.subscription s).active)
    (load : (change (k.subscription s)).backlog.size ≤ k.load s) :
    Amid fates ends free b f (k.modifySubscription s change) := by
  have hkr := Course.regular hk.course hf
  have hapart : ∀ c, ¬ free c → s ∉ k.members c := fun c hc hsc => by
    rcases (Course.later hk.course hf.tidy).member b s hs with hsb | hretired
    · exact hc (hkr.tidy.member_inj b c s hsb hsc ▸ hb)
    · exact hkr.tidy.not_retired hsc hretired
  have hload : ∀ u, (k.modifySubscription s change).load u ≤ k.load u := fun u => by
    rw [Hub.load, subscription_modifySubscription]
    split
    · rename_i hu
      exact hu.1 ▸ load
    · exact Nat.le_refl _
  refine ⟨hk.toPassed.trans ⟨.single (.mar died hapart active load), fun _ => Eq.refl _⟩, fun u hu => ?_,
    fun hd => ?_, hk.begun, hk.others⟩
  · exact (hk.fresh u hu).imp_right fun hzero => Nat.eq_zero_of_le_zero (Nat.le_trans (hload u) (Nat.le_of_eq hzero))
  · have hspoiled := died.resolve_left hd
    rw [hkr.whole hd] at hspoiled
    cases hspoiled

/-- A message is handed on, and the handler does what it does. -/
theorem Amid.after (hk : Amid fates ends free b f k) (hf : Regular fates f) (hb : free b) (hbusy : ¬ f.Idle b)
    (hfree : ∀ c, f.Idle c → free c) (hsf : s ∈ f.members b) (hs : s ∈ k.members b)
    (hp : (k.subscription s).backlog.pop = some (m, rest))
    (hg : Passed fates ends k.Idle (note (k.setBacklog s rest) (.handed s m)) g) : Amid fates ends free b f g := by
  have hkr := Course.regular hk.course hf
  have hidle : k.Idle = f.Idle := hk.toPassed.idle
  have hhand : Step fates ends free k (note (k.setBacklog s rest) (.handed s m)) := .hand hs hb hp
  have ht := hhand.tidy hkr.tidy
  have hlater := (Course.later hk.course hf.tidy).trans (hhand.later hkr.tidy)
  have hspared := fun u hu => Course.spared hg.course ht (s := u) (hidle ▸ hbusy : ¬ k.Idle b) hu
  constructor
  case toPassed =>
    refine hk.toPassed.trans (Passed.trans ⟨.single hhand, fun _ => Eq.refl _⟩ (hg.mono fun c hc => ?_))
    exact hfree c (hidle ▸ hc)
  case fresh =>
    intro u hu
    rcases hspared u hu with ⟨hu, e⟩ | ⟨-, hzero⟩
    · refine (hk.fresh u hu).imp_right fun hzero => ?_
      rw [load_of_account e, load_note, load_of_pop hp, hzero]
      split <;> exact Eq.refl 0
    · exact Or.inr hzero
  case handed =>
    intro hd u huf hu
    rcases hspared u hu with ⟨hu, e⟩ | ⟨hle, -⟩
    · obtain ⟨hwaits, hdropped⟩ := hk.handed hd u huf hu
      simp only [account, Prod.mk.injEq] at e
      rw [e.1, e.2.1, e.2.2, handedTo_hand, subscription_note, subscription_setBacklog_of_pop hp, ← hwaits, ← hdropped]
      by_cases hus : u = s
      · subst hus
        rw [if_pos (Eq.refl u), if_pos (Eq.refl u), Backlog.toList_of_pop hp, List.append_assoc]
        exact ⟨Eq.refl _, Backlog.dropped_of_pop hp⟩
      · rw [if_neg fun hsu => hus hsu.symm, if_neg hus, List.append_nil]
        exact ⟨Eq.refl _, Eq.refl _⟩
    · exact absurd (hf.tidy.member_lt b u huf) (Nat.not_lt.2 (Nat.le_trans hlater.size_le hle))
  case begun =>
    intro hd u huf
    obtain ⟨ns, hns, hbegun⟩ := hk.begun hd u huf
    rw [Course.quiet hg.course ht (hidle ▸ hbusy) (hlater.member b u huf), handedTo_hand, hbegun, List.append_assoc]
    by_cases hus : s = u
    · subst hus
      have hwaits := (hk.handed hd s huf hs).1
      rw [hbegun, Backlog.toList_of_pop hp, List.append_assoc, List.append_cancel_left_eq] at hwaits
      refine ⟨ns ++ [m], ⟨rest.toList, ?_⟩, by rw [if_pos (Eq.refl s)]⟩
      rw [List.append_assoc, List.singleton_append, hwaits]
    · exact ⟨ns, hns, by rw [if_neg hus, List.append_nil]⟩
  case others =>
    intro u huf
    have hcourse := Relation.ReflTransGen.tail hk.course hhand
    have hquiet : handedTo u (note (k.setBacklog s rest) (.handed s m)).desk.entries = handedTo u k.desk.entries := by
      rw [handedTo_hand, if_neg fun hsu : s = u => huf (hsu ▸ hsf), List.append_nil]
    rcases hk.others u huf with he | ⟨c, hc, hcb, hu⟩
    · rcases Course.handed_cases hg.course ht u with he' | ⟨c, hc, hci, hu⟩
      · exact Or.inl (he'.trans (hquiet.trans he))
      · refine Or.inr ⟨c, Course.brokers_size hcourse ▸ hc, fun hcb => hbusy (hidle ▸ hcb ▸ hci), ?_⟩
        exact Course.belongs_since hcourse hf.tidy hu (Course.entries_subset hg.course)
    · refine Or.inr ⟨c, hc, hcb, hu.later ?_⟩
      exact List.Subset.trans (Course.entries_subset (.single hhand)) (Course.entries_subset hg.course)

/-- Amid a delivery, handing one message on is a course of steps. -/
theorem heedful_run (hrun : Orderly fates run ends)
    (hd : ∀ k : Hub (Annals μ), Regular fates k → k.idlers < n → ∀ b < k.brokers.size, ∀ d,
      Passed fates ends k.Idle k (Act.dispatch run b d k).2)
    (hf : Regular fates f) (hn : f.idlers < n) (hb : free b) (hbusy : ¬ f.Idle b) (hfree : ∀ c, f.Idle c → free c) :
    Heedful run (· ∈ f.members b) (Amid fates ends free b f) where
  lost {k s m rest} hk hs _ hp hw := by
    have hsize : rest.size ≤ k.load s := by
      rw [load, Backlog.size_of_pop hp]
      exact Nat.le_succ _
    exact hk.marred hf hb hs (Or.inr hw) (Eq.refl _) hsize
  handed {k s m rest} hk hs ha hp hw := by
    have hkr := Course.regular hk.course hf
    have hlater := Course.later hk.course hf.tidy
    have hmem : s ∈ k.members b := hlater.mem hs ha
    have hhand : Step fates ends free k (note (k.setBacklog s rest) (.handed s m)) := .hand hmem hb hp
    have hpassed := handed_passed_of hrun hd hkr (hk.toPassed.idlers ▸ hn) hmem hp
    have hlast := (hrun s m (k.setBacklog s rest)).1
    rw [Act.invoke]
    generalize run s m (k.setBacklog s rest) = r at hpassed hlast
    obtain ⟨fate, g⟩ := r
    have hg : Amid fates ends free b f g := hk.after hf hb hbusy hfree hs hmem hp hpassed
    have howed : ∀ u ∈ f.members b, g.owed u ≤ (note (k.setBacklog s rest) (.handed s m)).owed u := fun u hu =>
      Course.owed_le hpassed.course (hhand.tidy hkr.tidy) (hk.toPassed.idle ▸ hbusy)
        ((hlater.trans (hhand.later hkr.tidy)).member b u hu)
    cases fate with
    | returned => exact ⟨hg, howed⟩
    | died =>
      refine ⟨hg.marred hf hb hs (Or.inl hlast) (Eq.refl _) (Nat.le_refl _), fun u hu => ?_⟩
      refine Nat.le_trans (Nat.le_of_eq ?_) (howed u hu)
      rw [owed, owed, load, load, subscription_modifySubscription]
      split <;> exact Eq.refl _

/-- Handlers that do not die come to their end. -/
theorem returned_of_fates (hd : ¬ fates .died) {fate : Fate} (hf : fates fate) : fate = .returned := by
  cases fate with
  | returned => rfl
  | died => exact absurd hf hd

/-- A delivery is a course of steps. If handlers do not die it comes to its end, and nothing waits for its broker's
subscriptions any more if nothing had waited but what is delivered. -/
theorem deliver_amid (hrun : Orderly fates run ends)
    (hd : ∀ k : Hub (Annals μ), Regular fates k → k.idlers < n → ∀ b < k.brokers.size, ∀ d,
      Passed fates ends k.Idle k (Act.dispatch run b d k).2)
    (hf : Regular fates f) (hn : f.idlers < n) (hb : free b) (hbusy : ¬ f.Idle b) (hfree : ∀ c, f.Idle c → free c)
    {T : List Nat} (hT : ∀ s ∈ T, s ∈ f.members b) :
    ∃ told g, Act.deliver run T f = (told, g) ∧ Amid fates ends free b f g ∧
      (¬ fates .died → told = .ok () ∧
        ((∀ s ∈ f.members b, s ∈ T ∨ f.load s = 0) → ∀ s ∈ g.members b, g.load s = 0)) := by
  have hheedful := heedful_run hrun hd hf hn hb hbusy hfree
  obtain ⟨hg, howed, hzero⟩ := Act.deliver_heedful hheedful hT .rfl
  refine ⟨_, _, Eq.refl _, hg, fun hdied => ?_⟩
  have hok := Act.deliver_ok hheedful (fun hk _ _ =>
    ⟨(Course.regular hk.course hf).whole hdied _, returned_of_fates hdied (hrun _ _ _).1⟩) hT .rfl
  refine ⟨hok, fun hempty s hs => ?_⟩
  rcases hg.fresh s hs with hsf | hzero'
  · have hload : (Act.deliver run T f).2.load s = (Act.deliver run T f).2.owed s := by
      rw [owed, (Course.tidy hg.course hf.tidy).active b s hs, if_pos (Eq.refl true)]
    rw [hload]
    rcases hempty s hsf with hsT | hzero'
    · exact hzero hok s hsT
    · exact Nat.eq_zero_of_le_zero
        (Nat.le_trans (howed s hsf) (Nat.le_trans (owed_le_load f s) (Nat.le_of_eq hzero')))
  · exact hzero'

/-- A dispatch is a course of steps, in which only brokers take part that were idle. The induction is on how many there
are: a dispatch that a handler makes finds one less. -/
theorem dispatch_passed (hrun : Orderly fates run ends) (hr : Regular fates h) (hb : b < h.brokers.size)
    (d : Dispatch) : Passed fates ends h.Idle h (Act.dispatch run b d h).2 := by
  generalize hn : h.idlers = n
  induction n using Nat.strongRecOn generalizing h b d with
  | ind n ih =>
    rcases Act.dispatch_cases run b d h with ⟨e, he, -⟩ | ⟨-, ho, hi, he⟩
    · rw [he]
      exact .rfl
    have eh := roster_setBusy h b true
    have hseated := seated_setBusy hr.tidy b
    obtain ⟨ms, T, f, r, hcollects, hheld⟩ := Act.dispatchHeld_collects run hseated d
    have hf := hcollects.fed hseated
    have htake : Step fates ends h.Idle h f := .take ⟨hb, ho⟩ hi hf
    have hidle := hf.idle_taken hb
    obtain ⟨told, g, hdeliver, hg, hempty⟩ := deliver_amid hrun
      (fun k hk hlt c hc d => ih k.idlers hlt hk hc d (Eq.refl _)) (htake.regular hr) (hn ▸ hf.idlers_taken hb hi) hi
      (fun hc => ((hidle b).1 hc).2 (Eq.refl b)) (fun c hc => ((hidle c).1 hc).1) fun s hs => hf.mem_of_touched hs
    have hsecond : (Act.dispatchHeld run b false d (h.setBusy b true)).2 = g := by
      rw [hheld, Act.bind_apply, hdeliver]
      cases told with
      | error => rfl
      | ok => exact Act.snd_orHalt r g
    have hfinish : Step fates ends h.Idle g (g.setBusy b false) := by
      refine .finish hi fun hd => (hempty hd).2 fun s hs => hf.touched_or_empty ?_
      rw [hf.members, members_of_roster eh] at hs
      exact hr.empty hd b hi s hs
    have hsize : g.brokers.size = h.brokers.size := by
      rw [hg.size, hf.brokers]
      exact brokers_size_of_roster eh
    rw [he, hsecond]
    refine ⟨.tail (.head htake hg.course) hfinish, fun c => ?_⟩
    rw [broker_setBusy]
    split
    · rename_i hc
      exact hc.1 ▸ hi.symm
    · rename_i hc
      have hcb : c ≠ b := fun hcb => hc ⟨hcb.symm, hcb ▸ hsize ▸ hb⟩
      rw [hg.busy, hf.busy_taken hb, if_neg hcb]

/-! ## All that is done -/

/-- Deeds are courses of steps, in which only brokers take part that were idle. -/
theorem deeds_passed (hrun : Orderly fates run ends) (hdeeds : Relation.ReflTransGen (Deed run ends) h g)
    (hr : Regular fates h) : Passed fates ends h.Idle h g :=
  deeds_passed_of (fun _ hk _ _ hb d => dispatch_passed hrun hk hb d) hdeeds hr (Nat.lt_succ_self _)

/-- A hub that is regular before it gets one more broker is so afterwards. -/
theorem Regular.joined (hr : Regular fates h) (hidle : ∀ b, h.Idle b) (transport interest : Nat)
    (capacity : Option Nat) :
    Regular fates (Act.addBroker transport interest capacity h).2 ∧
      ∀ b, (Act.addBroker transport interest capacity h).2.Idle b := by
  have e := roll_addBroker h transport interest capacity
  refine ⟨⟨hr.tidy.of_roll e, hr.whole, fun hd b _ s hs => ?_⟩, fun b => ?_⟩
  · rw [members_of_roll e] at hs
    exact hr.empty hd b (hidle b) s hs
  · rw [Idle, broker_addBroker]
    split
    · rfl
    · exact hidle b

/-- The hubs that deeds lead to are regular, and no dispatch is in progress there. -/
theorem Reached.regular (hr : Reached fates h) : Regular fates h ∧ ∀ b, h.Idle b := by
  induction hr with
  | @start h brokers subscriptions =>
    have hbroker : ∀ b, h.broker b = default := fun b => by rw [broker, brokers]; rfl
    have hsubscription : ∀ s, h.subscription s = default := fun s => by rw [subscription, subscriptions]; rfl
    have hmembers : ∀ b, h.members b = [] := fun b => by rw [members, hbroker]; rfl
    have hno : ∀ {b s}, s ∉ h.members b := fun {b s} hs => by
      rw [hmembers] at hs
      cases hs
    refine ⟨⟨⟨fun b => hmembers b ▸ List.nodup_nil, fun b s hs => absurd hs hno, fun b c s hs => absurd hs hno,
      fun b s hs => absurd hs hno, fun b _ => hmembers b⟩, fun _ s => ?_, fun _ b _ s hs => absurd hs hno⟩, fun b => ?_⟩
    · rw [hsubscription]
      rfl
    · rw [Idle, hbroker]
      rfl
  | join _ transport interest capacity ih => exact ih.1.joined ih.2 transport interest capacity
  | deed orderly _ deed ih =>
    have hpassed := deeds_passed orderly (.single deed) ih.1
    exact ⟨Course.regular hpassed.course ih.1, fun b => hpassed.idle ▸ ih.2 b⟩

end Chronicle
end PubSub
