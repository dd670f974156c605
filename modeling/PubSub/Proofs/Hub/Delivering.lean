import PubSub.Proofs.Hub.Stock

/-!
# Handing on what was routed

The second half of a dispatch runs handlers. What a handler does is not known here; what all handlers keep is kept by
the delivery, and if none of them makes more messages wait, the delivery hands on all that was routed.

* `Hub.owed`: how many messages a handler will be given.
* `Hub.Heedful`, `Hub.Careful`: handlers that keep something and make no more messages wait.

Results:

* `Act.deliver_heedful`, `Act.deliver_ok`: a delivery leaves nothing behind if it comes to its end, and when it does;
  `Act.deliver_careful`: both.
* `Act.dispatchOne_poured`, `Act.dispatchWithin_poured`: a dispatch routes some of the messages ahead and delivers.
* `Act.dispatch_cases`: it is refused, or the broker is busy with it until it ends.
-/

namespace PubSub

variable {η : Type}

namespace Hub

/-- How many messages the handler of a subscription will be given: none any more if the subscription has ended. -/
def owed (h : Hub η) (s : Nat) : Nat := if (h.subscription s).active then h.load s else 0

/-- Handing one message on to any of the subscriptions `M` keeps `I` and makes no more messages wait for any of them. -/
structure Heedful (run : Handlers η) (M : Nat → Prop) (I : Hub η → Prop) : Prop where
  /-- What was to be handed to a handler that has died is lost. -/
  lost : ∀ {h s m rest}, I h → M s → (h.subscription s).active = true →
    (h.subscription s).backlog.pop = some (m, rest) → (h.subscription s).spoiled = true → I (h.setBacklog s rest)
  handed : ∀ {h s m rest}, I h → M s → (h.subscription s).active = true →
    (h.subscription s).backlog.pop = some (m, rest) → (h.subscription s).spoiled = false →
      I (Act.invoke run s m (h.setBacklog s rest)).2 ∧
        ∀ u, M u → (Act.invoke run s m (h.setBacklog s rest)).2.owed u ≤ (h.setBacklog s rest).owed u

/-- The handlers of the subscriptions `M` come to their end, keep `I`, and make no more messages wait for any of these
subscriptions. -/
structure Careful (run : Handlers η) (M : Nat → Prop) (I : Hub η → Prop) : Prop where
  whole : ∀ {h s}, I h → M s → (h.subscription s).spoiled = false
  /-- Nothing waits for a subscription that has ended. -/
  idle : ∀ {h s}, I h → M s → (h.subscription s).active = false → h.load s = 0
  step : ∀ {h s m rest}, I h → M s → (h.subscription s).backlog.pop = some (m, rest) →
    ∃ g, run s m (h.setBacklog s rest) = (.returned, g) ∧ I g ∧ ∀ u, M u → g.load u ≤ (h.setBacklog s rest).load u

/-- Notes whether a dispatch of a broker is in progress. -/
abbrev setBusy (h : Hub η) (b : Nat) (busy : Bool) : Hub η := h.modifyBroker b fun br => { br with busy }

theorem broker_setBusy (h : Hub η) (b : Nat) (busy : Bool) (c : Nat) :
    (h.setBusy b busy).broker c = if b = c ∧ c < h.brokers.size then { h.broker c with busy } else h.broker c :=
  broker_modifyBroker ..

theorem roster_setBusy (h : Hub η) (b : Nat) (busy : Bool) : (h.setBusy b busy).roster = h.roster :=
  roster_of_wiring (wiring_setBusy h b busy)

theorem load_setCapacity (h : Hub η) (s : Nat) (capacity : Option Nat) (u : Nat) :
    (h.setCapacity s capacity).load u = h.load u := by
  rw [load, setCapacity, subscription_modifySubscription]
  split <;> rfl

/-- Taking a message out of a backlog makes one less wait there. -/
theorem load_of_pop {h : Hub η} {s : Nat} {m : Message} {rest : Backlog}
    (hp : (h.subscription s).backlog.pop = some (m, rest)) (u : Nat) :
    (h.setBacklog s rest).load u = if u = s then h.load u - 1 else h.load u := by
  have hsize := Backlog.size_of_pop hp
  rw [load, subscription_setBacklog_of_pop hp]
  by_cases hus : u = s
  · subst hus
    rw [if_pos rfl, if_pos rfl, load, hsize]
    rfl
  · rw [if_neg hus, if_neg hus]
    rfl

theorem owed_of_pop {h : Hub η} {s : Nat} {m : Message} {rest : Backlog}
    (hp : (h.subscription s).backlog.pop = some (m, rest)) (u : Nat) :
    (h.setBacklog s rest).owed u = if u = s then h.owed u - 1 else h.owed u := by
  rw [owed, owed, active_of_roster (roster_of_wiring (wiring_setBacklog h s rest)), load_of_pop hp]
  split <;> split <;> rfl

theorem owed_le_load (h : Hub η) (s : Nat) : h.owed s ≤ h.load s := by
  rw [owed]
  split
  · exact Nat.le_refl _
  · exact Nat.zero_le _

theorem Careful.load_eq {run : Handlers η} {M : Nat → Prop} {I : Hub η → Prop} (hc : Careful run M I) {h : Hub η}
    {s : Nat} (hi : I h) (hs : M s) : h.load s = h.owed s := by
  rw [owed]
  cases ha : (h.subscription s).active with
  | true => rfl
  | false => exact hc.idle hi hs ha

end Hub

namespace Act

open Hub

variable {h : Hub η} {b s : Nat} {run : Handlers η} {M : Nat → Prop} {I : Hub η → Prop}

/-! ## Delivery -/

/-- Running the handler of a subscription keeps what handing one message on keeps, and if it comes to its end, nothing
more is to be handed to it. -/
theorem drain_heedful (hc : Heedful run M I) (hs : M s) (n : Nat) (hi : I h) :
    I (drain run s n h).2 ∧ (∀ u, M u → (drain run s n h).2.owed u ≤ h.owed u) ∧
      (h.owed s ≤ n → (drain run s n h).1 = .ok () → (drain run s n h).2.owed s = 0) := by
  induction n generalizing h with
  | zero => exact ⟨hi, fun _ _ => Nat.le_refl _, fun hn _ => Nat.le_zero.1 hn⟩
  | succ n ih =>
    simp only [drain, bind_apply, get_apply, ite_apply]
    cases ha : (h.subscription s).active with
    | false =>
      have hzero : h.owed s = 0 := by rw [owed, ha, if_neg Bool.false_ne_true]
      exact ⟨hi, fun _ _ => Nat.le_refl _, fun _ _ => hzero⟩
    | true =>
      rw [if_pos rfl]
      cases hp : (h.subscription s).backlog.pop with
      | none =>
        have hempty : h.load s = 0 := by rw [load, ← Backlog.length_toList, Backlog.pop_eq_none_iff.1 hp]; rfl
        exact ⟨hi, fun _ _ => Nat.le_refl _, fun _ _ => Nat.le_zero.1 (hempty ▸ owed_le_load h s)⟩
      | some r =>
        obtain ⟨m, rest⟩ := r
        have howed := owed_of_pop hp
        have hless : ∀ u, (h.setBacklog s rest).owed u ≤ h.owed u := fun u => by
          rw [howed]
          split
          · exact Nat.sub_le _ _
          · exact Nat.le_refl _
        simp only [modify_apply, bind_apply, ite_apply, fail_apply]
        cases hw : (h.subscription s).spoiled with
        | true =>
          refine ⟨hc.lost hi hs ha hp hw, fun u _ => hless u, fun _ he => ?_⟩
          cases he
        | false =>
          obtain ⟨hif, hle⟩ := hc.handed hi hs ha hp hw
          rw [if_neg Bool.false_ne_true]
          generalize invoke run s m (h.setBacklog s rest) = r at hif hle
          obtain ⟨e | _, f⟩ := r
          · refine ⟨hif, fun u hu => Nat.le_trans (hle u hu) (hless u), fun _ he => ?_⟩
            cases he
          · obtain ⟨hig, hgle, hzero⟩ := ih hif
            refine ⟨hig, fun u hu => Nat.le_trans (hgle u hu) (Nat.le_trans (hle u hu) (hless u)), fun hn => hzero ?_⟩
            have hone := hle s hs
            rw [howed, if_pos rfl] at hone
            exact Nat.le_trans hone (Nat.sub_le_of_le_add hn)

/-- A delivery keeps what handing one message on keeps, and if it comes to its end, nothing is left behind. -/
theorem deliver_heedful (hc : Heedful run M I) {T : List Nat} (hT : ∀ s ∈ T, M s) (hi : I h) :
    I (deliver run T h).2 ∧ (∀ u, M u → (deliver run T h).2.owed u ≤ h.owed u) ∧
      ((deliver run T h).1 = .ok () → ∀ s ∈ T, (deliver run T h).2.owed s = 0) := by
  induction T generalizing h with
  | nil => exact ⟨hi, fun _ _ => Nat.le_refl _, fun _ s hs => nomatch hs⟩
  | cons s T ih =>
    have hs := hT s List.mem_cons_self
    obtain ⟨hif, hfle, hfzero⟩ := drain_heedful hc hs (h.load s) hi
    simp only [deliver, bind_apply, get_apply]
    rw [show (h.subscription s).backlog.size = h.load s from rfl]
    generalize drain run s (h.load s) h = r at hif hfle hfzero
    obtain ⟨e | _, f⟩ := r
    · exact ⟨hif, hfle, fun he => nomatch he⟩
    · obtain ⟨hig, hgle, hgzero⟩ := ih (fun u hu => hT u (List.mem_cons_of_mem _ hu)) hif
      refine ⟨hig, fun u hu => Nat.le_trans (hgle u hu) (hfle u hu), fun hok u hu => ?_⟩
      rcases List.mem_cons.1 hu with rfl | hu
      · exact Nat.le_zero.1 (hfzero (owed_le_load h u) rfl ▸ hgle u hs)
      · exact hgzero hok u hu

/-- A delivery to handlers that come to their end does so too. -/
theorem deliver_ok (hc : Heedful run M I)
    (hrun : ∀ {h s m rest}, I h → M s → (h.subscription s).backlog.pop = some (m, rest) →
      (h.subscription s).spoiled = false ∧ (run s m (h.setBacklog s rest)).1 = .returned)
    {T : List Nat} (hT : ∀ s ∈ T, M s) (hi : I h) : (deliver run T h).1 = .ok () := by
  have hdrain : ∀ {s}, M s → ∀ n h, I h → (drain run s n h).1 = .ok () := by
    intro s hs n
    induction n with
    | zero => exact fun _ _ => rfl
    | succ n ih =>
      intro h hi
      simp only [drain, bind_apply, get_apply, ite_apply]
      cases ha : (h.subscription s).active with
      | false => rfl
      | true =>
        rw [if_pos rfl]
        cases hp : (h.subscription s).backlog.pop with
        | none => rfl
        | some r =>
          obtain ⟨m, rest⟩ := r
          obtain ⟨hw, hreturned⟩ := hrun hi hs hp
          have hif := (hc.handed hi hs ha hp hw).1
          simp only [modify_apply, bind_apply, hw, Bool.false_eq_true, if_false]
          rw [invoke] at hif ⊢
          generalize run s m (h.setBacklog s rest) = r at hif hreturned ⊢
          obtain ⟨fate, f⟩ := r
          cases hreturned
          exact ih f hif
  induction T generalizing h with
  | nil => rfl
  | cons s T ih =>
    have hs := hT s List.mem_cons_self
    have hok := hdrain hs (h.load s) h hi
    have hif := (drain_heedful hc hs (h.load s) hi).1
    simp only [deliver, bind_apply, get_apply]
    rw [show (h.subscription s).backlog.size = h.load s from rfl]
    generalize drain run s (h.load s) h = r at hok hif
    obtain ⟨_, f⟩ := r
    cases hok
    exact ih (fun u hu => hT u (List.mem_cons_of_mem _ hu)) hif

/-- Careful handlers are heedful. -/
theorem heedful_of_careful (hc : Careful run M I) : Heedful run M I where
  lost hi hs _ _ hw := by
    rw [hc.whole hi hs] at hw
    cases hw
  handed {h s m rest} hi hs ha hp _ := by
    obtain ⟨g, hrun, hg, hle⟩ := hc.step hi hs hp
    rw [invoke, hrun]
    refine ⟨hg, fun u hu => Nat.le_trans (owed_le_load g u) (Nat.le_trans (hle u hu) ?_)⟩
    rw [load_of_pop hp, owed_of_pop hp, hc.load_eq hi hu]

/-- A delivery leaves nothing that waits for the subscriptions to which it goes. -/
theorem deliver_careful (hc : Careful run M I) {T : List Nat} (hT : ∀ s ∈ T, M s) (hi : I h) :
    ∃ g, deliver run T h = (.ok (), g) ∧ I g ∧ (∀ u, M u → g.load u ≤ h.load u) ∧ ∀ s ∈ T, g.load s = 0 := by
  have hheedful := heedful_of_careful hc
  have hok : (deliver run T h).1 = .ok () := deliver_ok hheedful (fun hi hs hp => by
    obtain ⟨g, hrun, -⟩ := hc.step hi hs hp
    exact ⟨hc.whole hi hs, congrArg Prod.fst hrun⟩) hT hi
  obtain ⟨hig, hle, hzero⟩ := deliver_heedful hheedful hT hi
  refine ⟨_, Prod.ext hok rfl, hig, fun u hu => ?_, fun s hs => ?_⟩
  · rw [hc.load_eq hig hu, hc.load_eq hi hu]
    exact hle u hu
  · rw [hc.load_eq hig (hT s hs)]
    exact hzero hok s hs

/-! ## A dispatch of one message -/

/-- A transport never gives out more than its supply. -/
theorem supply_ready {t : Nat} (hr : h.Ready t) : ∃ n, supply t h = (.ok n, h) ∧ (h.ahead t).length ≤ n := by
  obtain ⟨n, hsupply, hn⟩ := stock_le_supply t h
  exact ⟨n, hsupply, Nat.le_trans (length_ahead_le_stock hr.live) hn⟩

/-- Waiting for a wanted message takes out the first that is ahead. -/
theorem nextWanted_drew (hs : h.Serving b) (hr : h.Ready (h.lineOf b)) (still : Bool) (n : Nat) :
    ∃ g, nextWanted (h.broker b) still (n + 1) h =
        (match h.ahead (h.lineOf b) with
          | m :: _ => .ok (some m)
          | [] => if h.ends (h.lineOf b) then .error (.failed .endOfLog) else .ok none, g) ∧
      Drew (h.lineOf b) (h.ahead (h.lineOf b)).tail h g := by
  cases hahead : h.ahead (h.lineOf b) with
  | nil =>
    obtain ⟨g, hreceive, hg⟩ := receive_of_nil hr hahead none still
    refine ⟨g, ?_, hg⟩
    simp only [nextWanted, bind_apply, hreceive, drought, Option.isNone_none, Bool.or_true, if_true]
    cases h.ends (h.lineOf b) <;> rfl
  | cons m ms =>
    obtain ⟨g, hreceive, hg⟩ := receive_of_cons hr hahead none still
    have hwanted : (g.interest (h.broker b).interest).wants m.channel = true := by
      rw [interest_of_roster hg.roster, ← hs.serves]
      exact hr.wanted m (by rw [← Hub.ahead, hahead]; exact List.mem_cons_self)
    refine ⟨g, ?_, hg⟩
    simp only [nextWanted, bind_apply, hreceive, get_apply, hwanted, if_true, pure_apply]

/-- A dispatch of one message routes and delivers the first that is ahead, if there is one. -/
theorem dispatchOne_poured (run : Handlers η) (hs : h.Serving b) (hr : h.Ready (h.lineOf b)) (still : Bool) :
    ∃ ms T f, Poured b (h.lineOf b) ms [] T h f ∧
      (dispatchOne run b still h = (deliver run T >>= fun _ => pure .done) f ∨
        T = [] ∧ ∃ r, dispatchOne run b still h = (r, f)) := by
  obtain ⟨n, hsupply, -⟩ := supply_ready hr
  obtain ⟨f, hnext, hf⟩ := nextWanted_drew hs hr still n
  simp only [dispatchOne, bind_apply, get_apply, hsupply, hnext]
  cases hahead : h.ahead (h.lineOf b) with
  | nil =>
    rw [hahead] at hf
    refine ⟨[], [], f, hf.poured hahead, Or.inr ⟨rfl, ?_⟩⟩
    cases h.ends (h.lineOf b) <;> exact ⟨_, rfl⟩
  | cons m ms =>
    rw [hahead] at hf
    obtain ⟨T, a, g, hroute, hg, -⟩ := round_poured hs hahead hf []
    exact ⟨[m], T, g, hg, Or.inl (by simp only [bind_apply, hroute])⟩

/-! ## A dispatch until a deadline -/

/-- A dispatch until a deadline goes past the messages that nobody takes, up to the first that is taken, and routes with
it what the transport has. If none is taken, it ends with nothing: after too many messages that nobody takes, or at the
end of what is ahead. -/
theorem dispatchWithin_poured (run : Handlers η) (hs : h.Serving b) (hr : h.Ready (h.lineOf b)) (deadline : Nat)
    (still : Bool) :
    ∃ ms T f, Poured b (h.lineOf b) ms [] T h f ∧
      ((∃ init m more count, ms = init ++ m :: more ∧ (∀ x ∈ init, ¬ h.Takes b x) ∧ h.Takes b m ∧
          (deadline ≤ h.now → init.length < batchLimit) ∧ more.length < batchLimit ∧
          (more.length + 1 = batchLimit ∨ f.ahead (h.lineOf b) = []) ∧ 0 < count ∧
          ((∀ s ∈ h.members b, (h.subscription s).backlog.capacity = none) → count = more.length + 1) ∧
          dispatchWithin run b deadline still h = (deliver run T >>= fun _ => pure (.count count)) f) ∨
        T = [] ∧ (∀ x ∈ ms, ¬ h.Takes b x) ∧
          (batchLimit ≤ ms.length ∧ dispatchWithin run b deadline still h = (.ok (.count 0), f) ∨
            f.ahead (h.lineOf b) = [] ∧ dispatchWithin run b deadline still h =
              (if h.ends (h.lineOf b) then .error (.failed .endOfLog)
                else .ok (if still then .waiting else .count 0), f))) := by
  obtain ⟨n, hsupply, hn⟩ := supply_ready hr
  obtain ⟨ms, r, T, f, hfirst, hf, hout⟩ := firstAccepted_poured hs hr deadline still (n + 1) 0
    (Nat.lt_succ_of_le hn) (fun _ => Nat.zero_lt_succ _)
  simp only [dispatchWithin, bind_apply, get_apply, hsupply, hfirst]
  rcases hout with ⟨init, m, rfl, hinit, hm, rfl, hlimit⟩ | ⟨hall, rfl, hend⟩
  · have hline : f.lineOf b = h.lineOf b := lineOf_of_roster hf.roster b
    obtain ⟨more, T', count, g, hfill, hg, hlength, hmore, hle, hexact⟩ :=
      fillBatch_poured (hs.of_roster hf.roster) (hline ▸ hf.ready) (batchLimit - 1) T 1
    rw [hline] at hfill hg hmore
    refine ⟨init ++ [m] ++ more, T', g, hf.trans hg,
      Or.inl ⟨init, m, more, count, ?_, hinit, hm, ?_, ?_, ?_, hle, ?_, ?_⟩⟩
    · rw [List.append_assoc, List.singleton_append]
    · rwa [Nat.zero_add] at hlimit
    · exact Nat.lt_of_le_pred (Nat.zero_lt_succ _) hlength
    · exact hmore.imp_left fun he => by rw [he]; rfl
    · intro hfree
      rw [hexact fun s hsb => (hf.capacity s).trans (hfree s (members_of_roster hf.roster b ▸ hsb)), Nat.add_comm]
    · simp only [bind_apply, hfill]
  · refine ⟨ms, [], f, hf, Or.inr ⟨rfl, hall, ?_⟩⟩
    rcases hend with ⟨rfl, hlimit⟩ | ⟨hnil, rfl⟩
    · exact Or.inl ⟨by omega, rfl⟩
    · refine Or.inr ⟨hnil, ?_⟩
      rw [idle]
      cases h.ends (h.lineOf b) with
      | true => rfl
      | false => cases still <;> rfl

/-! ## The right to dispatch -/

/-- Any time to wait is allowed that is not negative. -/
theorem checkTime_within {milliseconds : Int} (hm : 0 ≤ milliseconds) (h : Hub η) :
    checkTime (.within milliseconds) h = (.ok (), h) := by
  rw [checkTime, if_neg (Int.not_lt.2 hm)]
  rfl

/-- An open broker that is not busy is busy while a dispatch with an allowed time to wait is in progress. -/
theorem dispatch_held {d : Dispatch} (ht : checkTime d h = (.ok (), h)) (ho : (h.broker b).closed = false)
    (hi : (h.broker b).busy = false) :
    dispatch run b d h =
      ((dispatchHeld run b false d (h.setBusy b true)).1,
        (dispatchHeld run b false d (h.setBusy b true)).2.setBusy b false) := by
  simp only [dispatch, bind_apply, ht, acquire, openBroker_apply, ho, hi, Bool.false_eq_true, if_false, modify_apply]
  rfl

/-- While a broker is busy it takes no dispatch that may wait. -/
theorem dispatch_busy {d : Dispatch} (ht : checkTime d h = (.ok (), h)) (ho : (h.broker b).closed = false)
    (hi : (h.broker b).busy = true) : dispatch run b d h = (.error (.failed .busy), h) := by
  simp only [dispatch, bind_apply, ht, acquire, openBroker_apply, ho, hi, Bool.false_eq_true, if_false, if_true,
    fail_apply]

/-- A dispatch is refused, and changes nothing, or it may wait and is held by an open broker that is not busy. -/
theorem dispatch_cases (run : Handlers η) (b : Nat) (d : Dispatch) (h : Hub η) :
    (∃ e, dispatch run b d h = (.error (.failed e), h) ∧ (e = .busy → (h.broker b).busy = true) ∧
        ((h.broker b).closed = true ∨ (h.broker b).busy = true ∨ ∃ time < 0, d = .within time)) ∨
      checkTime d h = (.ok (), h) ∧ (h.broker b).closed = false ∧ (h.broker b).busy = false ∧
        dispatch run b d h = ((dispatchHeld run b false d (h.setBusy b true)).1,
          (dispatchHeld run b false d (h.setBusy b true)).2.setBusy b false) := by
  have htime : checkTime d h = (.ok (), h) ∨
      (∃ refusal, checkTime d h = (.error (.failed (.invalidArgument refusal)), h)) ∧
        ∃ time < 0, d = .within time := by
    cases d with
    | one => exact Or.inl rfl
    | within milliseconds =>
      rw [checkTime, ite_apply]
      split
      · rename_i hnegative
        exact Or.inr ⟨⟨_, rfl⟩, milliseconds, hnegative, rfl⟩
      · exact Or.inl rfl
  rcases htime with ht | ⟨⟨refusal, ht⟩, hnegative⟩
  · cases ho : (h.broker b).closed with
    | true =>
      refine Or.inl ⟨.closed, ?_, (fun he => nomatch he), Or.inl rfl⟩
      simp only [dispatch, bind_apply, ht, acquire, openBroker_apply, ho, if_true]
    | false =>
      cases hi : (h.broker b).busy with
      | true => exact Or.inl ⟨.busy, dispatch_busy ht ho hi, fun _ => rfl, Or.inr (Or.inl rfl)⟩
      | false => exact Or.inr ⟨ht, rfl, rfl, dispatch_held ht ho hi⟩
  · refine Or.inl ⟨.invalidArgument refusal, ?_, (fun he => nomatch he), Or.inr (Or.inr hnegative)⟩
    simp only [dispatch, bind_apply, ht]

end Act
end PubSub
