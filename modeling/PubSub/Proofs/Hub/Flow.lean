import PubSub.Proofs.Hub.Dispatching
import PubSub.Proofs.Hub.Opening
import PubSub.Proofs.Hub.Publishing
import PubSub.Proofs.Hub.Registering
import PubSub.Proofs.Hub.Traffic

/-!
# The flow of messages to a subscription

For one subscription of a broker: the messages that its handler was handed, those routed to it and those that still
wait in the mailbox are, in this order, what waited when it was made and what was published since. No call upsets this
balance.

* `Traffic.Tracked`: the subscription is one of the broker's, which is open.
* `Traffic.Flow`: the balance, and what it rests on.
* `Traffic.Depth`: a bound on the messages that were routed but not handed on.
* `Traffic.Keeps`: an action keeps both.

Results:

* `Traffic.publish_keeps`, `Traffic.subscribe_keeps`, `Traffic.unsubscribe_keeps`, `Traffic.perform_keeps`: what
  handlers do keeps both.
* `Traffic.deliver_flow`: a delivery keeps the balance and hands everything on.
-/

namespace PubSub.Traffic

open Hub
open Act (bind_apply pure_apply get_apply modify_apply fail_apply attempt_apply)

variable {μ : Type} {b s : Nat}

/-! ## The invariant -/

/-- A subscription of an open broker. -/
structure Tracked {η : Type} (b s : Nat) (h : Hub η) : Prop where
  attached : h.Attached b
  member : s ∈ h.members b

/-- The balance of a subscription of a broker. -/
structure Flow (b s : Nat) (h : Hub (Diary μ)) : Prop where
  wired : h.Wired
  /-- The diary tells of a subscription from when it is made. -/
  unmade : since s h.desk.log = [] ↔ h.subscriptions.size ≤ s
  silent : h.subscriptions.size ≤ s → handedTo s h.desk.log = [] ∧ standing s h.desk.log = []
  balance : Tracked b s h → (h.subscription s).backlog.capacity = none →
    handedTo s h.desk.log ++ (h.subscription s).backlog.toList ++ (h.waiting (h.lineOf b)).filter (fits h s) =
      standing s h.desk.log ++ (publishedOn (h.place (h.lineOf b)) (since s h.desk.log)).filter (fits h s)

/-- At most `n` messages were routed to the subscription and not handed on. -/
def Depth {η : Type} (b s n : Nat) (h : Hub η) : Prop := Tracked b s h → (h.subscription s).backlog.size ≤ n

/-- Nothing of a tracked subscription differs, of a hub `g` from a hub `h`. -/
structure Alike {η : Type} (b s : Nat) (h g : Hub η) : Prop where
  tracked : Tracked b s h
  subscription : g.subscription s = h.subscription s
  place : g.place (g.lineOf b) = h.place (h.lineOf b)
  waiting : (g.waiting (g.lineOf b)).filter (fits h s) = (h.waiting (h.lineOf b)).filter (fits h s)

theorem Flow.alike {h g : Hub (Diary μ)} (hf : Flow b s h) (hw : g.Wired)
    (hsize : g.subscriptions.size ≤ s ↔ h.subscriptions.size ≤ s) (hlog : Agree s h.desk.log g.desk.log)
    (hg : Tracked b s g → Alike b s h g) : Flow b s g where
  wired := hw
  unmade := by
    rw [hlog.begun, hsize]
    exact hf.unmade
  silent := by
    rw [hlog.handed, hlog.standing, hsize]
    exact hf.silent
  balance ht hc := by
    have ha := hg ht
    have hfit : fits g s = fits h s := by
      funext m
      rw [fits, fits, ha.subscription]
    rw [ha.subscription] at hc
    rw [hlog.handed, hlog.standing, hlog.published, ha.subscription, hfit, ha.place, ha.waiting]
    exact hf.balance ha.tracked hc

theorem Depth.alike {η : Type} {h g : Hub η} {n : Nat} (hd : Depth b s n h) (hg : Tracked b s g → Alike b s h g) :
    Depth b s n g := by
  intro ht
  have ha := hg ht
  rw [ha.subscription]
  exact hd ha.tracked

theorem tracked_of_wiring {η θ : Type} {h : Hub η} {g : Hub θ} (e : g.wiring = h.wiring) :
    Tracked b s g ↔ Tracked b s h :=
  ⟨fun ht => ⟨(attached_of_wiring e b).1 ht.attached, members_of_wiring e b ▸ ht.member⟩,
    fun ht => ⟨(attached_of_wiring e b).2 ht.attached, (members_of_wiring e b).symm ▸ ht.member⟩⟩

theorem fits_of_wiring {η θ : Type} {h : Hub η} {g : Hub θ} (e : g.wiring = h.wiring) (s : Nat) :
    fits g s = fits h s := by
  funext m
  rw [fits, fits, pattern_of_wiring e]

theorem alike_of_wiring {η : Type} {h g : Hub η} (e : g.wiring = h.wiring)
    (hs : g.subscription s = h.subscription s)
    (hw : Tracked b s h →
      (g.waiting (h.lineOf b)).filter (fits h s) = (h.waiting (h.lineOf b)).filter (fits h s)) :
    Tracked b s g → Alike b s h g := by
  intro ht
  have ht := (tracked_of_wiring e).1 ht
  have hl := lineOf_of_wiring e b
  exact ⟨ht, hs, by rw [place_of_wiring e, hl], by rw [hl, hw ht]⟩

theorem wiring_jot (h : Hub (Diary μ)) (e : Happening) : (jot h e).wiring = h.wiring := rfl

theorem Depth.of_wiring {η θ : Type} {h : Hub η} {g : Hub θ} {n : Nat} (hd : Depth b s n h) (e : g.wiring = h.wiring)
    (hs : g.subscription s = h.subscription s) : Depth b s n g := by
  intro ht
  rw [hs]
  exact hd ((tracked_of_wiring e).1 ht)

theorem Flow.of_wiring {h g : Hub (Diary μ)} (hf : Flow b s h) (e : g.wiring = h.wiring)
    (hs : g.subscription s = h.subscription s) (hlog : Agree s h.desk.log g.desk.log)
    (hw : Tracked b s h →
      (g.waiting (h.lineOf b)).filter (fits h s) = (h.waiting (h.lineOf b)).filter (fits h s)) : Flow b s g :=
  hf.alike (hf.wired.of_wiring e) (iff_of_eq (congrArg (· ≤ s) (subscriptions_size_of_wiring e))) hlog
    (alike_of_wiring e hs hw)

theorem Flow.member_lt {h : Hub (Diary μ)} (hf : Flow b s h) (ht : Tracked b s h) : s < h.subscriptions.size :=
  hf.wired.member_lt b ht.attached.made s ht.member

/-- What a tracked subscription accepts its transport wants. -/
theorem Flow.wants {h : Hub (Diary μ)} (hf : Flow b s h) (ht : Tracked b s h) {m : Message} (hm : fits h s m = true) :
    h.wants (h.lineOf b) m.channel = true :=
  hf.wired.wants_of_accepts ht.attached ht.member hm

/-! ## What keeps it -/

/-- The action keeps the balance of a subscription, whatever it comes to, and no handler dies in it. -/
def Keeps {α : Type} (b s : Nat) (act : Act (Diary μ) α) : Prop :=
  ∀ h, Flow b s h → ∃ r g, act h = (r, g) ∧ r ≠ .error .died ∧ Flow b s g ∧ ∀ n, Depth b s n h → Depth b s n g

theorem Keeps.known {α : Type} {c : Nat} {act : Act (Diary μ) α}
    (ha : ∀ h : Hub (Diary μ), c < h.brokers.size → Flow b s h →
      ∃ r g, act h = (r, g) ∧ r ≠ .error .died ∧ Flow b s g ∧ ∀ n, Depth b s n h → Depth b s n g) :
    Keeps b s (known c act) := by
  intro h hf
  simp only [Traffic.known, bind_apply, get_apply, Act.ite_apply, fail_apply]
  split
  · rename_i hc
    exact ha h hc hf
  · exact ⟨_, h, rfl, by simp, hf, fun _ hd => hd⟩

/-! ## Publishing -/

open Classical in
theorem Flow.published {h g : Hub (Diary μ)} (hf : Flow b s h) {k : Nat} {m : Message} (e : g.wiring = h.wiring)
    (hs : g.subscription s = h.subscription s) (hlog : g.desk.log = h.desk.log ++ [.published (some k) m])
    (hw : ∀ u, g.waiting u = h.waiting u ++ if h.place u = some k ∧ h.Admits u m.channel then [m] else []) :
    Flow b s g := by
  have hsize := subscriptions_size_of_wiring e
  have hsince : since s [.published (some k) m] = [] := rfl
  have hgone : since s g.desk.log = [] ↔ since s h.desk.log = [] := by
    rw [hlog, since_concat, hsince]
    split <;> simp_all
  refine ⟨hf.wired.of_wiring e, ?_, fun hle => ?_, fun ht hc => ?_⟩
  · rw [hgone, hsize]
    exact hf.unmade
  · rw [hsize] at hle
    rw [hlog, handedTo_concat, standing_concat, (hf.silent hle).1, (hf.silent hle).2]
    exact ⟨rfl, rfl⟩
  · have ht := (tracked_of_wiring e).1 ht
    have hlt := hf.member_lt ht
    have hmade : since s h.desk.log ≠ [] := fun hnil => by
      have := hf.unmade.1 hnil
      omega
    obtain ⟨j, hj⟩ := hf.wired.placed b ht.attached.made
    -- the mailbox lets the message in if the subscription accepts it
    have hin : ((if h.place (h.lineOf b) = some k ∧ h.Admits (h.lineOf b) m.channel then [m] else []).filter
        (fits h s)) = (publishedOn (h.place (h.lineOf b)) [.published (some k) m]).filter (fits h s) := by
      have hp : publishedOn (h.place (h.lineOf b)) [.published (some k) m] =
          if some k = h.place (h.lineOf b) then [m] else [] := List.append_nil _
      rw [hp]
      by_cases hk : h.place (h.lineOf b) = some k
      · rw [if_pos hk.symm]
        cases hm : fits h s m with
        | true =>
          have ha : h.Admits (h.lineOf b) m.channel := ⟨⟨j, hj⟩, hf.wired.open_box b ht.attached, hf.wants ht hm⟩
          rw [if_pos ⟨hk, ha⟩]
        | false =>
          split <;> simp [hm]
      · rw [if_neg fun hc => hk hc.1, if_neg fun hc => hk hc.symm]
    have hbal := hf.balance ht (hs ▸ hc)
    have hh : handedTo s [.published (some k) m] = [] := rfl
    have hst : standing s [.published (some k) m] = [] := rfl
    rw [hs, fits_of_wiring e, lineOf_of_wiring e, place_of_wiring e, hw, List.filter_append, hin, hlog,
      handedTo_concat, standing_concat, since_concat, if_neg hmade, publishedOn_concat, List.filter_append, hh, hst,
      List.append_nil, List.append_nil, ← List.append_assoc, ← List.append_assoc, ← hbal]

open Classical in
theorem publish_keeps (c : Nat) (channel : String) (payload : ByteArray) :
    Keeps b s (publish c channel payload : Act (Diary μ) Unit) := by
  refine Keeps.known fun h hc hf => ?_
  obtain ⟨k, hk⟩ := hf.wired.placed c hc
  simp only [bind_apply, get_apply, Act.publish_apply hf.wired hc hk, modify_apply]
  by_cases hclosed : (h.broker c).closed = true
  · rw [if_pos hclosed]
    exact ⟨_, h, rfl, by simp, hf, fun _ hd => hd⟩
  rw [if_neg hclosed]
  by_cases hempty : channel.isEmpty = true
  · rw [if_pos hempty]
    exact ⟨_, h, rfl, by simp, hf, fun _ hd => hd⟩
  rw [if_neg hempty]
  have er := wiring_readClock h (h.lineOf c)
  have hwait := waiting_readClock h (h.lineOf c)
  have hsub : (h.readClock (h.lineOf c)).1.subscription = h.subscription := rfl
  have hdesk : (h.readClock (h.lineOf c)).1.desk = h.desk := rfl
  generalize (h.readClock (h.lineOf c)).1 = f at er hwait hsub hdesk ⊢
  have e := (wiring_broadcast f k (Act.stamped h c channel payload)).trans er
  have hs : (f.broadcast k (Act.stamped h c channel payload)).subscription s = h.subscription s := by
    rw [subscription_broadcast, hsub]
  refine ⟨.ok (), _, rfl, by simp, ?_, fun n hd => ?_⟩
  · refine hf.published e hs (k := k) (m := Act.stamped h c channel payload) ?_ fun u => ?_
    · rw [jot, desk_broadcast, hdesk, hk]
      rfl
    · refine ((hf.wired.of_wiring er).waiting_broadcast k u _).trans ?_
      simp only [hwait, place_of_wiring er, admits_of_wiring er]
  · exact hd.of_wiring ((wiring_jot _ _).trans e) hs

/-! ## Subscribing -/

/-- The mailbox of a new subscription's broker keeps what the others accept. -/
theorem Flow.enrolled {h g : Hub (Diary μ)} (hf : Flow b s h) {c : Nat} (hc : h.Attached c) {pattern : Pattern}
    (hg : Refreshed (h.lineOf c) (h.enrolled c pattern) g) (hs : s ≠ h.subscriptions.size) :
    Tracked b s g → Alike b s h g := by
  intro ht
  have ht := (tracked_of_wiring hg.wiring).1 ht
  have ha := (attached_enrolled hc.made pattern b).1 ht.attached
  have hm : s ∈ h.members b := ((mem_members_enrolled hc.made).1 ht.member).resolve_right fun he => hs he.2
  have hsub : (h.enrolled c pattern).subscription s = h.subscription s := by
    rw [subscription_enrolled, if_neg hs]
  have hline : g.lineOf b = h.lineOf b :=
    (lineOf_of_wiring hg.wiring b).trans (lineOf_enrolled hc.made pattern b)
  refine ⟨⟨ha, hm⟩, (congrFun hg.subscription s).trans hsub, ?_, ?_⟩
  · rw [hline]
    exact place_of_wiring hg.wiring _
  · rw [hline, hg.filter_waiting fun hl m hfit => ?_]
    · rfl
    · have hbc := hf.wired.line_inj b ha.made c hc.made hl
      rw [← hl, ← lineOf_enrolled hc.made pattern b]
      refine (hf.wired.enrolled hc pattern).wants_of_accepts ht.attached ht.member ?_
      rw [hsub]
      exact hfit

theorem Flow.subscribed {h g : Hub (Diary μ)} (hf : Flow b s h) {c : Nat} (hc : h.Attached c) {pattern : Pattern}
    (hg : Refreshed (h.lineOf c) (h.enrolled c pattern) g) :
    Flow b s (jot g (.subscribed h.subscriptions.size
      ((g.waiting (g.lineOf c)).filter (fits g h.subscriptions.size)))) := by
  have hw := (hf.wired.enrolled hc pattern).of_wiring hg.wiring
  have hsize := (subscriptions_size_of_wiring hg.wiring).trans (subscriptions_size_enrolled h c pattern)
  have hlog : g.desk.log = h.desk.log := congrArg Diary.log hg.desk
  generalize hl : (g.waiting (g.lineOf c)).filter (fits g h.subscriptions.size) = l
  by_cases hs : s = h.subscriptions.size
  · -- the subscription is the new one
    obtain ⟨hhanded, hstanding⟩ := hf.silent (Nat.le_of_eq hs.symm)
    have hsince := hf.unmade.2 (Nat.le_of_eq hs.symm)
    have hgs : (jot g (.subscribed h.subscriptions.size l)).desk.log = h.desk.log ++ [.subscribed s l] := by
      rw [jot, hlog, hs]
    have hbegun : since s (h.desk.log ++ [.subscribed s l]) = [.subscribed s l] := by
      rw [since_concat, if_pos hsince, since_single]
      simp [Happening.begins]
    have hnew := (congrFun hg.subscription s).trans (subscription_enrolled h c pattern s)
    rw [if_pos hs] at hnew
    refine ⟨hw.of_wiring (wiring_jot _ _), ?_, fun hle => ?_, fun ht hcap => ?_⟩
    · rw [hgs, hbegun]
      show [_] = [] ↔ g.subscriptions.size ≤ s
      simp
      omega
    · have hle : g.subscriptions.size ≤ s := hle
      omega
    · have ht := (tracked_of_wiring ((wiring_jot _ _).trans hg.wiring)).1 ht
      have hbc : b = c := by
        rcases (mem_members_enrolled hc.made).1 ht.member with hm | ⟨hbc, _⟩
        · have ha := (attached_enrolled hc.made pattern b).1 ht.attached
          have := hf.wired.member_lt b ha.made s hm
          omega
        · exact hbc
      have hback : ((jot g (.subscribed h.subscriptions.size l)).subscription s).backlog.toList = [] :=
        congrArg (fun u : Subscription => u.backlog.toList) hnew
      have hst : standing s [.subscribed s l] = l := by simp [standing]
      have hh : handedTo s [.subscribed s l] = [] := rfl
      have hp : publishedOn ((jot g (.subscribed h.subscriptions.size l)).place
          ((jot g (.subscribed h.subscriptions.size l)).lineOf b)) [.subscribed s l] = [] := rfl
      rw [hback, hgs, handedTo_concat, standing_concat, hhanded, hstanding, hbegun, hst, hh, hp, hbc, List.nil_append,
        List.nil_append, List.nil_append, List.filter_nil, List.append_nil, ← hl, hs]
      rfl
  · refine hf.alike (hw.of_wiring (wiring_jot _ _)) ?_ ?_ fun ht => ?_
    · show g.subscriptions.size ≤ s ↔ h.subscriptions.size ≤ s
      omega
    · rw [jot, hlog]
      exact .subscribed (fun he => hs he.symm) l
    · have ha := hf.enrolled hc hg hs ((tracked_of_wiring (wiring_jot _ _)).1 ht)
      exact ⟨ha.tracked, ha.subscription, ha.place, ha.waiting⟩

theorem subscribe_keeps (c : Nat) (pattern : String) :
    Keeps b s (subscribe c pattern : Act (Diary μ) Nat) := by
  refine Keeps.known fun h hc hf => ?_
  obtain ⟨k, hk⟩ := hf.wired.placed c hc
  have hrun := Act.subscribe_apply hk pattern
  simp only [bind_apply, modify_apply, pure_apply]
  by_cases hclosed : (h.broker c).closed = true
  · rw [if_pos hclosed] at hrun
    rw [hrun]
    exact ⟨_, h, rfl, by simp, hf, fun _ hd => hd⟩
  rw [if_neg hclosed] at hrun
  have ha : h.Attached c := ⟨hc, by simpa using hclosed⟩
  cases hp : Pattern.ofText pattern with
  | error e =>
    rw [hp] at hrun
    rw [hrun]
    exact ⟨_, h, rfl, by simp, hf, fun _ hd => hd⟩
  | ok p =>
    rw [hp] at hrun
    obtain ⟨g, hg, hr⟩ := hrun
    rw [hg]
    refine ⟨_, _, rfl, by simp, hf.subscribed ha hr, fun n hd => ?_⟩
    by_cases hs : s = h.subscriptions.size
    · have hnew := (congrFun hr.subscription s).trans (subscription_enrolled h c p s)
      rw [if_pos hs] at hnew
      intro _
      exact Nat.le_trans (Nat.le_of_eq <| congrArg (fun u : Subscription => u.backlog.size) hnew) (Nat.zero_le n)
    · exact (hd.alike (hf.enrolled ha hr hs)).of_wiring (wiring_jot _ _) rfl

/-! ## Unsubscribing -/

/-- The mailbox of a broker that has lost a subscription keeps what the others accept. -/
theorem Flow.withdrawn {h g : Hub (Diary μ)} (hf : Flow b s h) {c u : Nat} (hc : h.Attached c) (hu : u ∈ h.members c)
    (hg : Refreshed (h.lineOf c) (h.withdrawn c u) g) : Tracked b s g → Alike b s h g := by
  intro ht
  have ht := (tracked_of_wiring hg.wiring).1 ht
  have ha := (attached_withdrawn hc.made u b).1 ht.attached
  obtain ⟨hm, hne⟩ := (mem_members_withdrawn hc.made).1 ht.member
  have hsu : s ≠ u := by
    rintro rfl
    exact hne (hf.wired.member_inj b ha.made c hc.made s hm hu) rfl
  have hsub : (h.withdrawn c u).subscription s = h.subscription s := by
    rw [subscription_withdrawn (hf.wired.member_lt c hc.made u hu), if_neg hsu]
  have hline : g.lineOf b = h.lineOf b :=
    (lineOf_of_wiring hg.wiring b).trans (lineOf_withdrawn hc.made u b)
  refine ⟨⟨ha, hm⟩, (congrFun hg.subscription s).trans hsub, ?_, ?_⟩
  · rw [hline]
    exact place_of_wiring hg.wiring _
  · rw [hline, hg.filter_waiting fun hl m hfit => ?_]
    · rfl
    · rw [← hl, ← lineOf_withdrawn hc.made u b]
      refine (hf.wired.withdrawn hc hu).wants_of_accepts ht.attached ht.member ?_
      rw [hsub]
      exact hfit

theorem unsubscribe_keeps (c u : Nat) : Keeps b s (unsubscribe c u : Act (Diary μ) Unit) := by
  refine Keeps.known fun h hc hf => ?_
  obtain ⟨k, hk⟩ := hf.wired.placed c hc
  have hrun := Act.unsubscribe_apply hk u
  by_cases hclosed : (h.broker c).closed = true
  · rw [if_pos hclosed] at hrun
    rw [hrun]
    exact ⟨_, h, rfl, by simp, hf, fun _ hd => hd⟩
  rw [if_neg hclosed] at hrun
  have ha : h.Attached c := ⟨hc, by simpa using hclosed⟩
  by_cases hu : u ∈ h.members c
  · rw [if_pos hu] at hrun
    obtain ⟨g, hg, hr⟩ := hrun
    rw [hg]
    have halike := hf.withdrawn ha hu hr
    refine ⟨_, g, rfl, by simp, hf.alike ((hf.wired.withdrawn ha hu).of_wiring hr.wiring) ?_ ?_ halike,
      fun n hd => hd.alike halike⟩
    · rw [subscriptions_size_of_wiring hr.wiring]
      exact iff_of_eq (congrArg (· ≤ s) Array.size_modify)
    · exact .of_eq (congrArg Diary.log hr.desk)
  · rw [if_neg hu] at hrun
    rw [hrun]
    exact ⟨_, h, rfl, by simp, hf, fun _ hd => hd⟩

/-! ## Handlers -/

/-- An attempt at something that keeps the balance, and what is done then. -/
theorem Keeps.attempt {α : Type} {act : Act (Diary μ) α} {next : Except Error α → Act (Diary μ) Unit}
    (ha : Keeps b s act)
    (hn : ∀ r h, Flow b s h → ∃ g, next r h = (.ok (), g) ∧ Flow b s g ∧ ∀ n, Depth b s n h → Depth b s n g)
    (h : Hub (Diary μ)) (hf : Flow b s h) :
    ∃ g, (Act.attempt act >>= next) h = (.ok (), g) ∧ Flow b s g ∧ ∀ n, Depth b s n h → Depth b s n g := by
  obtain ⟨r, f, hr, hne, hff, hfd⟩ := ha h hf
  rw [bind_apply, attempt_apply, hr]
  have hthen : ∀ r', ∃ g, next r' f = (.ok (), g) ∧ Flow b s g ∧ ∀ n, Depth b s n h → Depth b s n g := fun r' => by
    obtain ⟨g, hg, hgf, hgd⟩ := hn r' f hff
    exact ⟨g, hg, hgf, fun n hd => hgd n (hfd n hd)⟩
  rcases r with (e | _) | a
  · exact hthen (.error e)
  · exact absurd rfl hne
  · exact hthen (.ok a)

/-- Whatever a handler does keeps the balance, and it comes to its end. -/
theorem perform_keeps (work : Work μ) (h : Hub (Diary μ)) (hf : Flow b s h) :
    ∃ g, work.perform h = (.ok (), g) ∧ Flow b s g ∧ ∀ n, Depth b s n h → Depth b s n g := by
  induction work generalizing h with
  | finish => exact ⟨h, rfl, hf, fun _ hd => hd⟩
  | remember memory next ih =>
    have e : Hub.wiring { h with desk := { h.desk with memory } } = h.wiring := rfl
    obtain ⟨g, hg, hgf, hgd⟩ := ih { h with desk := { h.desk with memory } }
      (hf.of_wiring e rfl (.of_eq rfl) fun _ => rfl)
    refine ⟨g, ?_, hgf, fun n hd => hgd n (hd.of_wiring e rfl)⟩
    rw [Work.perform, bind_apply, modify_apply, ← hg]
  | look next ih => exact ih h h hf
  | publish c channel payload next ih => exact (publish_keeps c channel payload).attempt ih h hf
  | subscribe c pattern next ih => exact (subscribe_keeps c pattern).attempt ih h hf
  | unsubscribe c u next ih => exact (unsubscribe_keeps c u).attempt ih h hf

/-! ## Delivery -/

/-- Handing a message that was routed to a handler keeps the balance. -/
theorem Flow.handed {h : Hub (Diary μ)} (hf : Flow b s h) {u : Nat} {m : Message} {rest : Backlog}
    (hp : (h.subscription u).backlog.pop = some (m, rest)) :
    Flow b s (jot (h.setBacklog u rest) (.handed u m)) := by
  have hu := lt_size_of_pop hp
  have e : (jot (h.setBacklog u rest) (.handed u m)).wiring = h.wiring :=
    wiring_setBacklog h u rest
  have hsub : (jot (h.setBacklog u rest) (.handed u m)).subscription s =
      if s = u then { h.subscription u with backlog := rest } else h.subscription s :=
    subscription_setBacklog_of_pop hp s
  by_cases hus : u = s
  · subst hus
    rw [if_pos rfl] at hsub
    have hlog : (jot (h.setBacklog u rest) (.handed u m)).desk.log = h.desk.log ++ [.handed u m] := rfl
    have hsince : since u [.handed u m] = [] := rfl
    have hmade : since u h.desk.log ≠ [] := fun hnil => Nat.lt_irrefl _ (Nat.lt_of_lt_of_le hu (hf.unmade.1 hnil))
    refine ⟨hf.wired.of_wiring e, ?_, fun hle => ?_, fun ht hc => ?_⟩
    · rw [hlog, since_concat, if_neg hmade, subscriptions_size_of_wiring e, ← hf.unmade]
      simp [hmade]
    · rw [subscriptions_size_of_wiring e] at hle
      exact absurd hu (Nat.not_lt_of_le hle)
    · have ht := (tracked_of_wiring e).1 ht
      have hh : handedTo u [.handed u m] = [m] := by simp [handedTo]
      have hst : standing u [.handed u m] = [] := rfl
      have hpub : publishedOn (h.place (h.lineOf b)) [.handed u m] = [] := rfl
      rw [hsub] at hc
      have hbal := hf.balance ht ((Backlog.capacity_of_pop hp).symm.trans hc)
      rw [Backlog.toList_of_pop hp] at hbal
      rw [hlog, hsub, fits_of_wiring e, lineOf_of_wiring e, place_of_wiring e, handedTo_concat, standing_concat,
        since_concat, if_neg hmade, publishedOn_concat, hh, hst, hpub, List.append_nil, List.append_nil, ← hbal,
        List.append_assoc, List.append_assoc, List.append_assoc]
      rfl
  · rw [if_neg fun hsu => hus hsu.symm] at hsub
    exact hf.of_wiring e hsub (.handedOther hus m) fun _ => rfl

theorem Depth.handed {h : Hub (Diary μ)} {n u : Nat} {m : Message} {rest : Backlog} (hd : Depth b s n h)
    (hp : (h.subscription u).backlog.pop = some (m, rest)) :
    Depth b s (if u = s then n - 1 else n) (jot (h.setBacklog u rest) (.handed u m)) := by
  intro ht
  have hsub : (jot (h.setBacklog u rest) (.handed u m)).subscription s =
      if s = u then { h.subscription u with backlog := rest } else h.subscription s :=
    subscription_setBacklog_of_pop hp s
  have hn := hd ((tracked_of_wiring (wiring_setBacklog h u rest)).1
    ((tracked_of_wiring (wiring_jot _ _)).1 ht))
  by_cases hus : u = s
  · subst hus
    have hsize := Backlog.size_of_pop hp
    rw [hsub, if_pos rfl, if_pos rfl]
    show rest.size ≤ n - 1
    omega
  · rw [hsub, if_neg fun hsu => hus hsu.symm, if_neg hus]
    exact hn

/-- Running the handler of a subscription on what was routed to it keeps the balance of every subscription, and hands
all of it on if it was not more than is run. -/
theorem drain_flow (conduct : Conduct μ) (u n : Nat) (h : Hub (Diary μ)) (hf : Flow b s h) :
    ∃ g, Act.drain (handlers conduct) u n h = (.ok (), g) ∧ Flow b s g ∧
      (∀ k, Depth b s k h → Depth b s k g) ∧ (u = s → Depth b s n h → Depth b s 0 g) := by
  induction n generalizing h with
  | zero => exact ⟨h, rfl, hf, fun _ hd => hd, fun _ hd => hd⟩
  | succ n ih =>
    simp only [Act.drain, bind_apply, get_apply, Act.ite_apply]
    by_cases hact : (h.subscription u).active = true
    · rw [if_pos hact]
      cases hp : (h.subscription u).backlog.pop with
      | none =>
        refine ⟨h, rfl, hf, fun _ hd => hd, fun hus _ _ => ?_⟩
        subst hus
        rw [← Backlog.length_toList, Backlog.pop_eq_none_iff.1 hp]
        exact Nat.le_refl 0
      | some r =>
        obtain ⟨m, rest⟩ := r
        obtain ⟨f, hrun, hff, hfd⟩ := perform_keeps (conduct u m) _ (hf.handed hp)
        obtain ⟨g, hg, hgf, hgd, hg0⟩ := ih f hff
        have hinvoke : Act.invoke (handlers conduct) u m (h.setBacklog u rest) = (.ok (), f) := by
          rw [Act.invoke, handlers, hrun]
        refine ⟨g, ?_, hgf, fun k hd => hgd k (hfd k ?_), fun hus hd => hg0 hus (hfd n ?_)⟩
        · simp only [modify_apply, bind_apply, hf.wired.whole u, Bool.false_eq_true, if_false, hinvoke, hg]
        · have := hd.handed hp
          intro ht
          refine Nat.le_trans (this ht) ?_
          split <;> omega
        · have := hd.handed hp
          rwa [if_pos hus] at this
    · rw [if_neg hact]
      refine ⟨h, rfl, hf, fun _ hd => hd, fun hus _ ht => ?_⟩
      exact absurd (hus ▸ hf.wired.active b ht.attached.made s ht.member) hact

/-- A delivery keeps the balance, and hands on all that was routed, if it goes to the subscription or there was
nothing. -/
theorem deliver_flow (conduct : Conduct μ) (l : List Nat) (h : Hub (Diary μ)) (hf : Flow b s h)
    (hl : s ∈ l ∨ Depth b s 0 h) :
    ∃ g, Act.deliver (handlers conduct) l h = (.ok (), g) ∧ Flow b s g ∧ Depth b s 0 g := by
  induction l generalizing h with
  | nil => exact ⟨h, rfl, hf, hl.resolve_left List.not_mem_nil⟩
  | cons u l ih =>
    obtain ⟨f, hdrain, hff, hfd, hf0⟩ := drain_flow (s := s) (b := b) conduct u (h.subscription u).backlog.size h hf
    have hthen : s ∈ l ∨ Depth b s 0 f := by
      rcases hl with hs | hd
      · rcases List.mem_cons.1 hs with rfl | hs
        · exact Or.inr (hf0 rfl fun _ => Nat.le_refl _)
        · exact Or.inl hs
      · exact Or.inr (hfd 0 hd)
    obtain ⟨g, hg, hgf, hgd⟩ := ih f hff hthen
    refine ⟨g, ?_, hgf, hgd⟩
    simp only [Act.deliver, bind_apply, get_apply, hdrain, hg]

end PubSub.Traffic
