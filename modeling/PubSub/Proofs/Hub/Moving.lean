import Mathlib.Data.Finset.Card
import Mathlib.Data.Finset.Range
import Mathlib.Logic.Relation
import PubSub.Proofs.Hub.Delivering
import PubSub.Proofs.Hub.Registering

/-!
# Moves

What can be done at a hub while its brokers stay what they are: publishing, subscriptions that come and go, bounds that
change, and dispatches. The handlers that a dispatch runs may do all of this themselves, as long as they come to an end.

* `Hub.Sound`: the transports of open brokers are ready, and messages wait for handlers only during a dispatch.
* `Hub.Move`: one thing that is done.
* `Hub.Orderly`: handlers that come to their end, and do nothing that is not a move.
* `Hub.Kept`: what a move keeps.

Results:

* `Hub.Filled.kept`, `Hub.Altered.kept`: publishing and changes of interest keep a hub sound.
* `Hub.dispatch_kept`: so does a dispatch, by induction on how many brokers are not busy.
-/

namespace PubSub

variable {η : Type}

namespace Hub

/-- Brokers and their subscriptions are in order, the transports of open brokers are ready, and nothing waits for a
handler unless its broker is busy. -/
structure Sound (h : Hub η) : Prop where
  enlisted : h.Enlisted
  ready : ∀ b, h.Attached b → h.Ready (h.lineOf b)
  empty : ∀ b, h.Attached b → (h.broker b).busy = false → ∀ s ∈ h.members b, h.load s = 0
  retired : ∀ s, (h.subscription s).active = false → h.load s = 0

/-- What remains of a sound hub `h` in a hub `g` that comes after it. -/
structure Kept (h g : Hub η) : Prop where
  sound : g.Sound
  size : g.brokers.size = h.brokers.size
  busy : ∀ b, (g.broker b).busy = (h.broker b).busy
  shut : ∀ b, (g.broker b).closed = (h.broker b).closed
  /-- No handler has more to do than before. -/
  load : ∀ s, g.load s ≤ h.load s
  members : ∀ b, ∀ s ∈ g.members b, s ∈ h.members b ∨ g.load s = 0

variable {h f g : Hub η} {b c s t : Nat}

theorem Sound.kept (hs : h.Sound) : Kept h h :=
  ⟨hs, rfl, fun _ => rfl, fun _ => rfl, fun _ => Nat.le_refl _, fun _ _ hm => Or.inl hm⟩

theorem Kept.trans (hf : Kept h f) (hg : Kept f g) : Kept h g where
  sound := hg.sound
  size := hg.size.trans hf.size
  busy b := (hg.busy b).trans (hf.busy b)
  shut b := (hg.shut b).trans (hf.shut b)
  load s := Nat.le_trans (hg.load s) (hf.load s)
  members b s hs := by
    rcases hg.members b s hs with hm | hzero
    · exact (hf.members b s hm).imp_right fun hzero => Nat.eq_zero_of_le_zero (Nat.le_trans (hg.load s) hzero.le)
    · exact Or.inr hzero

theorem Kept.attached (hg : Kept h g) (b : Nat) : g.Attached b ↔ h.Attached b :=
  ⟨fun ha => ⟨hg.size ▸ ha.made, hg.shut b ▸ ha.isOpen⟩,
    fun ha => ⟨hg.size.symm ▸ ha.made, (hg.shut b).symm ▸ ha.isOpen⟩⟩

/-! ## Changes that leave the roster as it is -/

theorem Sound.of_roster (hs : h.Sound) (e : g.roster = h.roster) (hready : ∀ t, h.Ready t → g.Ready t)
    (hempty : ∀ b, h.Attached b → (g.broker b).busy = false → ∀ s ∈ h.members b, g.load s = 0)
    (hretired : ∀ s, (h.subscription s).active = false → g.load s = 0) : g.Sound where
  enlisted := hs.enlisted.of_roster e
  ready b hb := by
    rw [lineOf_of_roster e]
    exact hready _ (hs.ready b ((attached_of_roster e b).1 hb))
  empty b hb hbusy s hm := by
    rw [members_of_roster e] at hm
    exact hempty b ((attached_of_roster e b).1 hb) hbusy s hm
  retired s ha := by
    rw [active_of_roster e] at ha
    exact hretired s ha

theorem Sound.kept_of_roster (hs : h.Sound) (e : g.roster = h.roster) (hready : ∀ t, h.Ready t → g.Ready t)
    (hbusy : ∀ b, (g.broker b).busy = (h.broker b).busy) (hload : ∀ s, g.load s ≤ h.load s) : Kept h g where
  sound := hs.of_roster e hready
    (fun b hb hb' s hm => Nat.le_zero.1 (hs.empty b hb (hbusy b ▸ hb') s hm ▸ hload s))
    (fun s ha => Nat.le_zero.1 (hs.retired s ha ▸ hload s))
  size := brokers_size_of_roster e
  busy := hbusy
  shut := shut_of_roster e
  load := hload
  members b _ hm := Or.inl (members_of_roster e b ▸ hm)

theorem Sound.setCapacity (hs : h.Sound) (s : Nat) (capacity : Option Nat) : Kept h (h.setCapacity s capacity) :=
  have e := roster_of_wiring (wiring_setCapacity h s capacity)
  hs.kept_of_roster e (ready_of_lines e (fun _ => rfl) rfl) (fun _ => rfl)
    fun u => Nat.le_of_eq (load_setCapacity h s capacity u)

/-- Handing a message to a handler. -/
theorem Sound.popped (hs : h.Sound) {m : Message} {rest : Backlog}
    (hp : (h.subscription s).backlog.pop = some (m, rest)) : Kept h (h.setBacklog s rest) := by
  have e := roster_of_wiring (wiring_setBacklog h s rest)
  refine hs.kept_of_roster e (ready_of_lines e (fun _ => rfl) rfl) (fun _ => rfl) fun u => ?_
  rw [load_of_pop hp]
  split
  · exact Nat.sub_le _ _
  · exact Nat.le_refl _

/-- Messages that come in leave a hub sound. -/
theorem Filled.kept (hg : Filled h g) (hs : h.Sound) : Kept h g :=
  hs.kept_of_roster hg.roster hg.ready (fun b => by rw [hg.broker]) fun s => by rw [load, hg.subscription, load]

end Hub

namespace Act

open Hub

variable {h : Hub η} {b c s : Nat}

/-- Publishing by an open broker lets messages come in, or is refused. -/
theorem publish_filled (ho : (h.broker c).closed = false) (hl : h.Live (h.lineOf c)) (channel : String)
    (payload : ByteArray) : Filled h (publish c channel payload h).2 := by
  have hsame : Filled h h := ⟨rfl, rfl, rfl, rfl, rfl, fun _ hr => hr⟩
  simp only [publish, bind_apply, openBroker_apply, ho, Bool.false_eq_true, if_false, ite_apply, fail_apply]
  by_cases hchannel : channel.isEmpty = true
  · rw [if_pos hchannel]
    exact hsame
  · rw [if_neg hchannel]
    simp only [send, bind_apply, get_apply]
    rw [Live] at hl
    generalize (h.transport (h.broker c).transport).line = line at hl ⊢
    cases hl with
    | bus isOpen unbounded alert =>
      simp only [isOpen, ite_apply, Bool.false_eq_true, if_false]
      exact (filled_readClock h _).trans (filled_broadcast _ _ _)
    | replay runs readable => exact hsame

end Act

namespace Hub

variable {h f g : Hub η} {b c s t : Nat}

/-! ## Changes of interest -/

/-- `f` is what `h` becomes when the subscriptions of broker `c` change, before the transport is told. -/
structure Altered (c : Nat) (h f : Hub η) : Prop where
  enlisted : f.Enlisted
  size : f.brokers.size = h.brokers.size
  broker : ∀ b, f.lineOf b = h.lineOf b ∧ (f.broker b).interest = (h.broker b).interest ∧
    (f.broker b).busy = (h.broker b).busy ∧ (f.broker b).closed = (h.broker b).closed
  transport : f.transport = h.transport
  store : f.store = h.store
  interest : ∀ i ≠ (h.broker c).interest, f.interest i = h.interest i
  load : ∀ s, f.load s ≤ h.load s
  members : ∀ b, ∀ s ∈ f.members b, s ∈ h.members b ∨ f.load s = 0
  retired : ∀ s, (f.subscription s).active = false → (h.subscription s).active = false ∨ f.load s = 0

theorem Altered.live (hf : Altered c h f) (t : Nat) : f.Live t ↔ h.Live t := by
  rw [Live, Live, hf.transport, hf.store]

/-- After a change of interest, of which the transport was told, a hub is sound. -/
theorem Altered.kept (hf : Altered c h f) (hs : h.Sound) (hc : h.Attached c) {ms : List Message}
    (hg : Drew (h.lineOf c) ms f g) : Kept h g := by
  have e := hg.roster
  have hload : ∀ s, g.load s = f.load s := fun s => by rw [Hub.load, hg.subscription, Hub.load]
  have hbusy : ∀ b, (g.broker b).busy = (h.broker b).busy := fun b => by rw [hg.broker, (hf.broker b).2.2.1]
  have hshut : ∀ b, (g.broker b).closed = (h.broker b).closed := fun b => by rw [hg.broker, (hf.broker b).2.2.2]
  have hsize : g.brokers.size = h.brokers.size := (brokers_size_of_roster e).trans hf.size
  have hattached : ∀ b, g.Attached b → h.Attached b := fun b ha => ⟨hsize ▸ ha.made, hshut b ▸ ha.isOpen⟩
  have hmembers : ∀ b, ∀ s ∈ g.members b, s ∈ h.members b ∨ g.load s = 0 := fun b s hm => by
    rw [members_of_roster e] at hm
    rw [hload]
    exact hf.members b s hm
  have hless : ∀ s, g.load s ≤ h.load s := fun s => (hload s).symm ▸ hf.load s
  refine ⟨⟨hf.enlisted.of_roster e, fun b hb => ?_, fun b hb hidle s hm => ?_, fun s ha => ?_⟩, hsize, hbusy, hshut,
    hless, hmembers⟩
  · have hb := hattached b hb
    rw [lineOf_of_roster e, (hf.broker b).1]
    by_cases hbc : b = c
    · rw [hbc]
      exact hg.ready
    · -- the others want what they wanted
      have hline : h.lineOf b ≠ h.lineOf c := fun he => hbc (hs.enlisted.line_inj b hb.made c hc.made he)
      have hwants : f.wants (h.lineOf b) = h.wants (h.lineOf b) := by
        rw [wants, wants, hf.transport, hs.enlisted.serves b hb.made,
          hf.interest _ fun he => hbc (hs.enlisted.interest_inj b hb.made c hc.made he)]
      exact hg.ready_other hline ((hs.ready b hb).of_same (by rw [hf.transport]) hf.store hwants)
  · rcases hmembers b s hm with hm | hzero
    · exact Nat.le_zero.1 (hs.empty b (hattached b hb) (hbusy b ▸ hidle) s hm ▸ hless s)
    · exact hzero
  · rw [active_of_roster e] at ha
    rcases hf.retired s ha with ha | hzero
    · exact Nat.le_zero.1 (hs.retired s ha ▸ hless s)
    · rw [hload, hzero]

theorem Sound.enrolled (hs : h.Sound) (hc : h.Attached c) (pattern : Pattern) : Altered c h (h.enrolled c pattern) := by
  have hsub := subscription_enrolled h c pattern
  have hnew : (h.enrolled c pattern).load h.subscriptions.size = 0 := by
    rw [load, hsub, if_pos rfl]
    rfl
  have hold : ∀ s, s ≠ h.subscriptions.size → (h.enrolled c pattern).load s = h.load s := fun s hne => by
    rw [load, hsub, if_neg hne, load]
  constructor
  case enlisted => exact hs.enlisted.enrolled hc pattern
  case size => exact brokers_size_enrolled h c pattern
  case broker =>
    intro b
    rw [lineOf, broker_enrolled hc.made]
    exact ⟨kept_of_ite Broker.transport b, kept_of_ite Broker.interest b, kept_of_ite Broker.busy b,
      kept_of_ite Broker.closed b⟩
  case transport => rfl
  case store => rfl
  case interest =>
    intro i hi
    rw [interest_enrolled (hs.enlisted.interest_lt c hc.made), if_neg hi]
  case load =>
    intro s
    by_cases hne : s = h.subscriptions.size
    · rw [hne, hnew]
      exact Nat.zero_le _
    · exact Nat.le_of_eq (hold s hne)
  case members =>
    intro b s hm
    rcases (mem_members_enrolled hc.made).1 hm with hm | ⟨-, rfl⟩
    · exact Or.inl hm
    · exact Or.inr hnew
  case retired =>
    intro s ha
    by_cases hne : s = h.subscriptions.size
    · exact Or.inr (hne ▸ hnew)
    · rw [hsub, if_neg hne] at ha
      exact Or.inl ha

theorem Sound.withdrawn (hs : h.Sound) (hc : h.Attached c) (hm : s ∈ h.members c) : Altered c h (h.withdrawn c s) := by
  have hsub := subscription_withdrawn (hs.enlisted.member_lt c hc.made s hm) c
  have hgone : (h.withdrawn c s).load s = 0 := by
    rw [load, hsub, if_pos rfl]
    rfl
  have hold : ∀ u, u ≠ s → (h.withdrawn c s).load u = h.load u := fun u hne => by rw [load, hsub, if_neg hne, load]
  constructor
  case enlisted => exact hs.enlisted.withdrawn hc hm
  case size => exact brokers_size_withdrawn h c s
  case broker =>
    intro b
    rw [lineOf, broker_withdrawn hc.made]
    exact ⟨kept_of_ite Broker.transport b, kept_of_ite Broker.interest b, kept_of_ite Broker.busy b,
      kept_of_ite Broker.closed b⟩
  case transport => rfl
  case store => rfl
  case interest =>
    intro i hi
    rw [interest_withdrawn (hs.enlisted.interest_lt c hc.made), if_neg hi]
  case load =>
    intro u
    by_cases hne : u = s
    · rw [hne, hgone]
      exact Nat.zero_le _
    · exact Nat.le_of_eq (hold u hne)
  case members => exact fun b u hu => Or.inl ((mem_members_withdrawn hc.made).1 hu).1
  case retired =>
    intro u ha
    by_cases hne : u = s
    · exact Or.inr (hne ▸ hgone)
    · rw [hsub, if_neg hne] at ha
      exact Or.inl ha

end Hub

namespace Act

open Hub

variable {h : Hub η} {c s : Nat}

theorem publish_kept (hs : h.Sound) (hc : c < h.brokers.size) (channel : String) (payload : ByteArray) :
    Kept h (publish c channel payload h).2 := by
  cases ho : (h.broker c).closed with
  | true =>
    simp only [publish, bind_apply, openBroker_apply, ho, if_true]
    exact hs.kept
  | false => exact (publish_filled ho (hs.ready c ⟨hc, ho⟩).live channel payload).kept hs

theorem subscribe_kept (hs : h.Sound) (hc : c < h.brokers.size) (text : String) : Kept h (subscribe c text h).2 := by
  cases ho : (h.broker c).closed with
  | true =>
    rw [subscribe_closed ho]
    exact hs.kept
  | false =>
    cases hp : Pattern.ofText text with
    | error e =>
      rw [subscribe_unread ho hp]
      exact hs.kept
    | ok pattern =>
      have hf := hs.enrolled ⟨hc, ho⟩ pattern
      obtain ⟨g, hchanged, hg, -⟩ := interestChanged_drew ((hf.live _).2 (hs.ready c ⟨hc, ho⟩).live)
      rw [subscribe_enrolled ho hp hchanged]
      exact hf.kept hs ⟨hc, ho⟩ (hg.report _)

theorem unsubscribe_kept (hs : h.Sound) (hc : c < h.brokers.size) (s : Nat) : Kept h (unsubscribe c s h).2 := by
  cases ho : (h.broker c).closed with
  | true =>
    rw [unsubscribe_closed ho]
    exact hs.kept
  | false =>
    by_cases hm : s ∈ h.members c
    · have hf := hs.withdrawn ⟨hc, ho⟩ hm
      obtain ⟨g, hchanged, hg, -⟩ := interestChanged_drew ((hf.live _).2 (hs.ready c ⟨hc, ho⟩).live)
      rw [unsubscribe_withdrawn ho hm hchanged]
      exact hf.kept hs ⟨hc, ho⟩ (hg.report _)
    · rw [unsubscribe_stranger ho hm]
      exact hs.kept

end Act

namespace Hub

variable {h f g : Hub η} {b c s t : Nat} {run : Handlers η}

/-! ## Moves -/

/-- What can be done at a hub. -/
inductive Move (run : Handlers η) : Hub η → Hub η → Prop
  | remember (h : Hub η) (desk : η) : Move run h { h with desk }
  /-- Time passes. -/
  | wait (h : Hub η) (now : Nat) (later : h.now ≤ now) : Move run h { h with now }
  | publish (h : Hub η) (b : Nat) (made : b < h.brokers.size) (channel : String) (payload : ByteArray) :
    Move run h (Act.publish b channel payload h).2
  | subscribe (h : Hub η) (b : Nat) (made : b < h.brokers.size) (pattern : String) :
    Move run h (Act.subscribe b pattern h).2
  | unsubscribe (h : Hub η) (b : Nat) (made : b < h.brokers.size) (s : Nat) : Move run h (Act.unsubscribe b s h).2
  | setCapacity (h : Hub η) (s : Nat) (capacity : Option Nat) : Move run h (h.setCapacity s capacity)
  | dispatch (h : Hub η) (b : Nat) (made : b < h.brokers.size) (d : Dispatch) : Move run h (Act.dispatch run b d h).2

/-- Handlers that come to their end and do nothing but moves, in any number. -/
def Orderly (run : Handlers η) : Prop :=
  ∀ s m h, (run s m h).1 = .returned ∧ Relation.ReflTransGen (Move run) h (run s m h).2

/-- How many brokers are not busy. -/
def idlers (h : Hub η) : Nat := {b ∈ Finset.range h.brokers.size | (h.broker b).busy = false}.card

theorem Kept.idlers (hg : Kept h g) : g.idlers = h.idlers := by
  simp only [Hub.idlers, hg.size, hg.busy]

/-- A broker that becomes busy is one less that is not. -/
theorem idlers_setBusy (hb : b < h.brokers.size) (hi : (h.broker b).busy = false) :
    (h.setBusy b true).idlers < h.idlers := by
  have hsize : (h.setBusy b true).brokers.size = h.brokers.size := brokers_size_of_roster (roster_setBusy h b true)
  have hbusy := broker_setBusy h b true
  rw [Hub.idlers, Hub.idlers, hsize]
  refine Finset.card_lt_card ⟨fun c hc => ?_, fun hsub => ?_⟩
  · obtain ⟨hlt, hc⟩ := Finset.mem_filter.1 hc
    rw [hbusy] at hc
    split at hc
    · cases hc
    · exact Finset.mem_filter.2 ⟨hlt, hc⟩
  · have := (Finset.mem_filter.1 (hsub (Finset.mem_filter.2 ⟨Finset.mem_range.2 hb, hi⟩))).2
    rw [hbusy, if_pos ⟨rfl, hb⟩] at this
    cases this

/-! ## Dispatches -/

/-- What was routed by a busy broker leaves a hub sound. -/
theorem Poured.sound {ms : List Message} {T : List Nat} (hg : Poured b (h.lineOf b) ms [] T h g) (hs : h.Sound)
    (hb : h.Attached b) (hbusy : (h.broker b).busy = true) : g.Sound := by
  have hstranger : ∀ s, s ∉ h.members b → g.load s = h.load s := fun s hm => by rw [load, hg.stranger s hm, load]
  refine hs.of_roster hg.roster (fun t hr => ?_) (fun c hc hidle s hm => ?_) fun s ha => ?_
  · by_cases ht : t = h.lineOf b
    · rw [ht]
      exact hg.ready
    · exact hr.of_same (by rw [hg.others t ht]) hg.store (wants_of_roster hg.roster t)
  · rw [hg.broker] at hidle
    rw [hstranger s fun hmb => ?_]
    · exact hs.empty c hc hidle s hm
    · rw [hs.enlisted.member_inj c hc.made b hb.made s hm hmb, hbusy] at hidle
      cases hidle
  · rw [hstranger s fun hm => ?_]
    · exact hs.retired s ha
    · rw [hs.enlisted.active b hb.made s hm] at ha
      cases ha

theorem dispatchHeld_poured (run : Handlers η) (hs : h.Serving b) (hr : h.Ready (h.lineOf b)) (d : Dispatch) :
    ∃ ms T f, Poured b (h.lineOf b) ms [] T h f ∧
      ((∃ r, Act.dispatchHeld run b false d h = (Act.deliver run T >>= fun _ => pure r) f) ∨
        T = [] ∧ ∃ r, Act.dispatchHeld run b false d h = (r, f)) := by
  cases d with
  | one =>
    obtain ⟨ms, T, f, hf, hout⟩ := Act.dispatchOne_poured run hs hr false
    exact ⟨ms, T, f, hf, hout.imp_left fun h => ⟨_, h⟩⟩
  | within milliseconds =>
    obtain ⟨ms, T, f, hf, hout⟩ :=
      Act.dispatchWithin_poured run hs hr (h.now + milliseconds.toNat * 1000) false
    rw [Act.dispatchHeld, Act.get_bind_apply]
    refine ⟨ms, T, f, hf, ?_⟩
    rcases hout with ⟨_, _, _, count, _, _, _, _, _, _, _, _, he⟩ | ⟨hT, -, ⟨-, he⟩ | ⟨-, he⟩⟩
    · exact Or.inl ⟨_, he⟩
    · exact Or.inr ⟨hT, _, he⟩
    · exact Or.inr ⟨hT, _, he⟩

/-- Moves keep a hub sound, if dispatches do as long as no more brokers are idle. -/
theorem moves_kept {n : Nat}
    (hd : ∀ k : Hub η, k.Sound → k.idlers < n → ∀ b < k.brokers.size, ∀ d, Kept k (Act.dispatch run b d k).2)
    (hm : Relation.ReflTransGen (Move run) h g) (hs : h.Sound) (hn : h.idlers < n) : Kept h g := by
  induction hm with
  | refl => exact hs.kept
  | tail _ hmove ih =>
    refine ih.trans ?_
    have hs := ih.sound
    cases hmove with
    | remember desk =>
      exact hs.kept_of_roster rfl (ready_of_lines rfl (fun _ => rfl) rfl) (fun _ => rfl) fun _ => le_rfl
    | wait now => exact hs.kept_of_roster rfl (ready_of_lines rfl (fun _ => rfl) rfl) (fun _ => rfl) fun _ => le_rfl
    | publish b made channel payload => exact Act.publish_kept hs made channel payload
    | subscribe b made pattern => exact Act.subscribe_kept hs made pattern
    | unsubscribe b made s => exact Act.unsubscribe_kept hs made s
    | setCapacity s capacity => exact hs.setCapacity s capacity
    | dispatch b made d => exact hd _ hs (ih.idlers ▸ hn) b made d

/-- A delivery comes to its end and leaves nothing behind, if handlers are orderly and dispatches keep what they have to
as long as no more brokers are idle. -/
theorem deliver_kept (hrun : Orderly run) {n : Nat}
    (hd : ∀ k : Hub η, k.Sound → k.idlers < n → ∀ b < k.brokers.size, ∀ d, Kept k (Act.dispatch run b d k).2)
    (hf : f.Sound) (hn : f.idlers < n) (T : List Nat) :
    ∃ g, Act.deliver run T f = (.ok (), g) ∧ Kept f g ∧ ∀ s ∈ T, g.load s = 0 := by
  have hcareful : Careful run (fun _ => True) (Kept f) := by
    refine ⟨fun hk _ => hk.sound.enlisted.whole _, fun hk _ ha => hk.sound.retired _ ha, fun {k s m rest} hk _ hp => ?_⟩
    have hpopped := hk.trans (hk.sound.popped hp)
    obtain ⟨hreturned, hmoves⟩ := hrun s m (k.setBacklog s rest)
    have hg := moves_kept hd hmoves hpopped.sound (hpopped.idlers ▸ hn)
    exact ⟨_, Prod.ext hreturned rfl, hpopped.trans hg, fun u _ => hg.load u⟩
  obtain ⟨g, hg, hkept, -, hzero⟩ := Act.deliver_careful hcareful (T := T) (fun _ _ => trivial) hf.kept
  exact ⟨g, hg, hkept, hzero⟩

/-- A broker that becomes busy leaves a hub sound. -/
theorem Sound.busied (hs : h.Sound) (b : Nat) : (h.setBusy b true).Sound :=
  have e := roster_setBusy h b true
  hs.of_roster e (ready_of_lines e (fun _ => rfl) rfl)
    (fun c hc hidle s hm => hs.empty c hc (by
      rw [broker_setBusy] at hidle
      split at hidle
      · cases hidle
      · exact hidle) s hm)
    (fun s ha => hs.retired s ha)

/-- A dispatch that has handed on all that it has routed leaves a hub sound. -/
theorem Kept.released (hs : h.Sound) (hi : (h.broker b).busy = false) {t : Nat} {ms : List Message} {T : List Nat}
    (hf : Poured b t ms [] T (h.setBusy b true) f) (hg : Kept f g) (hzero : ∀ s ∈ T, g.load s = 0) :
    Kept h (g.setBusy b false) := by
  have e := roster_setBusy g b false
  have ef : f.roster = h.roster := hf.roster.trans (roster_setBusy h b true)
  have hsize : g.brokers.size = h.brokers.size := hg.size.trans (brokers_size_of_roster ef)
  -- who has taken nothing has no more to do than before, and who has taken something has nothing to do any more
  have hload : ∀ s, g.load s ≤ h.load s := fun s => by
    by_cases hT : s ∈ T
    · rw [hzero s hT]
      exact Nat.zero_le _
    · have hgrown := fun hlt => hT ((hf.touched s).2 (Or.inr hlt))
      exact Nat.le_trans (hg.load s) (Nat.not_lt.1 hgrown)
  have hmembers : ∀ c, ∀ s ∈ g.members c, s ∈ h.members c ∨ g.load s = 0 := fun c s hm => by
    rw [← members_of_roster ef]
    exact hg.members c s hm
  have hbusy : ∀ c, ((g.setBusy b false).broker c).busy = (h.broker c).busy := fun c => by
    rw [broker_setBusy]
    split
    · rename_i hc
      rw [← hc.1, hi]
    · rename_i hc
      rw [hg.busy, hf.broker, broker_setBusy, if_neg fun he => hc ⟨he.1, hsize ▸ he.2⟩]
  refine ⟨hg.sound.of_roster e (ready_of_lines e (fun _ => rfl) rfl) (fun c hc hidle s hm => ?_) hg.sound.retired,
    (brokers_size_of_roster e).trans hsize, hbusy, fun c => ?_, hload, fun c s hm => ?_⟩
  · rw [hbusy] at hidle
    have hc : h.Attached c := (attached_of_roster ef c).1 ((hg.attached c).1 hc)
    rcases hmembers c s hm with hm | hzero
    · exact Nat.eq_zero_of_le_zero (Nat.le_trans (hload s) (hs.empty c hc hidle s hm).le)
    · exact hzero
  · rw [shut_of_roster e, hg.shut, shut_of_roster ef]
  · rw [members_of_roster e] at hm
    exact hmembers c s hm

/-- A dispatch keeps a hub sound, whatever its handlers do, if they are orderly. The induction is on how many brokers
are not busy: a dispatch that a handler makes finds one less. -/
theorem dispatch_kept (hrun : Orderly run) (hs : h.Sound) (hb : b < h.brokers.size) (d : Dispatch) :
    Kept h (Act.dispatch run b d h).2 := by
  generalize hn : h.idlers = n
  induction n using Nat.strongRecOn generalizing h b d with
  | ind n ih =>
    rcases Act.dispatch_cases run b d h with ⟨e, he, -⟩ | ⟨-, ho, hi, he⟩
    · rw [he]
      exact hs.kept
    have hless := idlers_setBusy hb hi
    have hk := hs.busied b
    have hbk := (attached_of_roster (roster_setBusy h b true) b).2 ⟨hb, ho⟩
    have hbusy : ((h.setBusy b true).broker b).busy = true := by rw [broker_setBusy, if_pos ⟨rfl, hb⟩]
    obtain ⟨ms, T, f, hf, hout⟩ := dispatchHeld_poured run (hk.enlisted.serving hbk) (hk.ready b hbk) d
    have hfs := hf.sound hk hbk hbusy
    have hfn : f.idlers < n := by
      have hidlers : f.idlers = (h.setBusy b true).idlers := by
        simp only [Hub.idlers, hf.broker, brokers_size_of_roster hf.roster]
      omega
    rw [he]
    rcases hout with ⟨r, hout⟩ | ⟨rfl, r, hout⟩
    · obtain ⟨g, hdeliver, hg, hzero⟩ :=
        deliver_kept hrun (fun k hk hlt c hc d => ih k.idlers hlt hk hc d rfl) hfs hfn T
      have hend : Act.dispatchHeld run b false d (h.setBusy b true) = (.ok r, g) := by
        rw [hout, Act.bind_apply, hdeliver]
        rfl
      rw [hend]
      exact .released hs hi hf hg hzero
    · rw [hout]
      exact .released hs hi hf hfs.kept fun s hs => nomatch hs

/-- A delivery leaves a hub sound and nothing behind. -/
theorem Sound.deliver (hrun : Orderly run) (hf : f.Sound) (T : List Nat) :
    ∃ g, Act.deliver run T f = (.ok (), g) ∧ Kept f g ∧ ∀ s ∈ T, g.load s = 0 :=
  deliver_kept hrun (fun _ hk _ _ hc d => dispatch_kept hrun hk hc d) hf (Nat.lt_succ_self _) T

/-- A move keeps a hub sound. -/
theorem Move.kept (hrun : Orderly run) (hm : Move run h g) (hs : h.Sound) : Kept h g :=
  moves_kept (fun _ hk _ _ hc d => dispatch_kept hrun hk hc d) (.single hm) hs (Nat.lt_succ_self _)

end Hub
end PubSub
