import PubSub.Proofs.Hub.Recording
import PubSub.Proofs.Hub.Registering

/-!
# What goes on aside from a replay

While a broker replays a file, other things may go on at its hub: messages are published, also by this broker, and
others subscribe and unsubscribe. As long as nobody writes the file, the broker, its subscriptions and what its
transport has to give stay as they are.

* `Hub.Apart`: nobody writes a file.
* `Hub.Remains`, `Hub.Aside`: what stays of a broker when something is done aside from it.
* `Hub.Sent`: what stays when something is sent.

Results:

* `Act.publish_aside`, `Act.subscribe_aside`, `Act.unsubscribe_aside`: the calls.
* `Act.lives_publish`, `Act.lives_subscribe`, `Act.lives_unsubscribe`: no handler dies in them.
-/

namespace PubSub

variable {η : Type}

namespace Hub

/-- No journal that is being written is in file `file`. -/
def Apart (h : Hub η) (file : Nat) : Prop :=
  ∀ t j, (h.transport t).line = .recorder j false → j.Spares file

theorem apart_start (store : Store) (now : Nat) (desk : η) (file : Nat) : Apart { store, now, desk : Hub η } file :=
  fun _ _ hj => nomatch hj

/-- `g` comes after `h`. Broker `b` and its transport, which replays file `file`, are what they were. -/
structure Remains (b file : Nat) (h g : Hub η) : Prop where
  enlisted : g.Enlisted
  apart : g.Apart file
  size : g.brokers.size = h.brokers.size
  broker : g.broker b = h.broker b
  line : (g.transport (h.lineOf b)).line = (h.transport (h.lineOf b)).line
  wants : g.wants (h.lineOf b) = h.wants (h.lineOf b)
  node : g.store.node file = h.store.node file

/-- So are the subscriptions of the broker. -/
structure Aside (b file : Nat) (h g : Hub η) : Prop where
  remains : Remains b file h g
  subscription : ∀ s ∈ h.members b, g.subscription s = h.subscription s
  desk : g.desk = h.desk

variable {h f g : Hub η} {b c s file : Nat}

theorem Remains.rfl (he : h.Enlisted) (ha : h.Apart file) : Remains b file h h :=
  ⟨he, ha, Eq.refl _, Eq.refl _, Eq.refl _, Eq.refl _, Eq.refl _⟩

theorem Remains.lineOf (hg : Remains b file h g) : g.lineOf b = h.lineOf b := congrArg Broker.transport hg.broker

theorem Remains.members (hg : Remains b file h g) : g.members b = h.members b :=
  congrArg Broker.subscriptions hg.broker

theorem Remains.trans (hf : Remains b file h f) (hg : Remains b file f g) : Remains b file h g where
  enlisted := hg.enlisted
  apart := hg.apart
  size := hg.size.trans hf.size
  broker := hg.broker.trans hf.broker
  line := (hf.lineOf ▸ hg.line).trans hf.line
  wants := (hf.lineOf ▸ hg.wants).trans hf.wants
  node := hg.node.trans hf.node

/-- The transport of the broker has the same to give as before. -/
theorem Remains.ahead (hg : Remains b file h g) (hs : h.source (h.lineOf b) = some file) :
    g.source (g.lineOf b) = some file ∧ g.ahead (g.lineOf b) = h.ahead (h.lineOf b) ∧
      (h.Ready (h.lineOf b) → g.Ready (g.lineOf b)) := by
  refine ⟨?_, ?_, fun hr => ?_⟩
  · rw [source, hg.lineOf, hg.line]
    exact hs
  · rw [Hub.ahead, hg.lineOf, hg.line, hg.wants]
    exact Line.ahead_of_node hs hg.node
  · rw [Ready, hg.lineOf, hg.line, hg.wants]
    exact hr.of_node hs hg.node

theorem Aside.rfl (he : h.Enlisted) (ha : h.Apart file) : Aside b file h h :=
  ⟨.rfl he ha, fun _ _ => Eq.refl _, Eq.refl _⟩

/-! ## Sending -/

/-- What stays as it is when something is sent: replays, and the file that nobody writes. -/
structure Sent (file : Nat) (h g : Hub η) : Prop where
  roster : g.roster = h.roster
  broker : g.broker = h.broker
  subscription : g.subscription = h.subscription
  desk : g.desk = h.desk
  node : g.store.node file = h.store.node file
  replay : ∀ t r, (h.transport t).line = .replay r → (g.transport t).line = .replay r
  apart : g.Apart file

theorem Sent.rfl (ha : h.Apart file) : Sent file h h :=
  ⟨Eq.refl _, Eq.refl _, Eq.refl _, Eq.refl _, Eq.refl _, fun _ _ hl => hl, ha⟩

theorem Sent.trans (hf : Sent file h f) (hg : Sent file f g) : Sent file h g where
  roster := hg.roster.trans hf.roster
  broker := hg.broker.trans hf.broker
  subscription := hg.subscription.trans hf.subscription
  desk := hg.desk.trans hf.desk
  node := hg.node.trans hf.node
  replay t r hl := hg.replay t r (hf.replay t r hl)
  apart := hg.apart

theorem Sent.aside (hg : Sent file h g) (he : h.Enlisted) {r : Replay}
    (hl : (h.transport (h.lineOf b)).line = .replay r) : Aside b file h g where
  remains :=
    { enlisted := he.of_roster hg.roster
      apart := hg.apart
      size := brokers_size_of_roster hg.roster
      broker := congrFun hg.broker b
      line := (hg.replay _ r hl).trans hl.symm
      wants := wants_of_roster hg.roster _
      node := hg.node }
  subscription s _ := congrFun hg.subscription s
  desk := hg.desk

theorem apart_setLine (ha : h.Apart file) (t : Nat) {line : Line}
    (hnew : ∀ j, line = .recorder j false → j.Spares file) : (h.setLine t line).Apart file := fun u j hj => by
  rw [transport_setLine] at hj
  split at hj
  · exact hnew j hj
  · exact ha u j hj

theorem sent_setLine (ha : h.Apart file) {t : Nat} {line : Line} (hold : ∀ r, (h.transport t).line ≠ .replay r)
    (hnew : ∀ j, line = .recorder j false → j.Spares file) : Sent file h (h.setLine t line) where
  roster := roster_setLine ..
  broker := Eq.refl _
  subscription := Eq.refl _
  desk := Eq.refl _
  node := Eq.refl _
  replay u r hl := by
    rw [transport_setLine]
    split
    · rename_i ht
      exact absurd (ht.1 ▸ hl) (hold r)
    · exact hl
  apart := apart_setLine ha t hnew

theorem Sent.report (hg : Sent file h g) (notices : List Notice) : Sent file h (g.report notices) :=
  ⟨hg.roster, hg.broker, hg.subscription, hg.desk, hg.node, hg.replay, hg.apart⟩

theorem sent_readClock (ha : h.Apart file) (t : Nat) : Sent file h (h.readClock t).1 where
  roster := roster_of_wiring (wiring_readClock h t)
  broker := Eq.refl _
  subscription := Eq.refl _
  desk := Eq.refl _
  node := Eq.refl _
  replay u _ hl := (line_readClock h t u).trans hl
  apart u j hj := ha u j ((line_readClock h t u).symm.trans hj)

theorem sent_deposit (ha : h.Apart file) (t : Nat) (m : Message) : Sent file h (h.deposit t m) := by
  rcases deposit_eq h t m with he | ⟨k, box, hline, he⟩
  · rw [he]
    exact .rfl ha
  · rw [he]
    have hset : Sent file h (h.setLine t (.bus k (box.put (h.wants t) m).1)) :=
      sent_setLine ha (fun r hr => nomatch hline.symm.trans hr) (fun j hj => nomatch hj)
    exact hset.report _

theorem sent_broadcast (ha : h.Apart file) (k : Nat) (m : Message) : Sent file h (h.broadcast k m) := by
  unfold broadcast
  induction h.bus k generalizing h with
  | nil => exact .rfl ha
  | cons t l ih => exact (sent_deposit ha t m).trans (ih (sent_deposit ha t m).apart)

end Hub

namespace Act

open Hub

variable {h : Hub η} {b c s file : Nat}

theorem sendToGroup_sent (ha : h.Apart file) {t : Nat} {settings : MulticastAddress} {sequence : UInt32}
    {stopped : Bool} {box : Mailbox} (hline : (h.transport t).line = .multicast settings sequence stopped box)
    (channel : String) (payload : ByteArray) :
    Sent file h (sendToGroup t settings sequence box channel payload h).2 := by
  rcases sendToGroup_snd t settings sequence box channel payload h with hsend | ⟨notices, hsend⟩
  · rw [hsend]
    exact .rfl ha
  · rw [hsend]
    exact ((Sent.rfl ha).report notices).trans (sent_setLine (h := h.report notices) ha
      (fun r hr => nomatch hline.symm.trans hr) fun j hj => nomatch hj)

theorem sendToJournal_sent (ha : h.Apart file) {t : Nat} {j : Journal}
    (hline : (h.transport t).line = .recorder j false) (channel : String) (payload : ByteArray) :
    Sent file h (sendToJournal t j channel payload h).2 := by
  have hj := ha t j hline
  obtain ⟨hcall, hnode⟩ := hj.call h.store ⟨(h.transport t).clock.next, channel, payload⟩
  have hclock := sent_readClock ha t
  have hset : ∀ (store : Store) (j' : Journal), store.node file = h.store.node file → j'.Spares file →
      Sent file h ({ (h.readClock t).1 with store }.setLine t (.recorder j' false)) := fun store j' hstore hj' => by
    have hstored : Sent file h { (h.readClock t).1 with store } :=
      ⟨hclock.roster, hclock.broker, hclock.subscription, hclock.desk, hstore, hclock.replay, hclock.apart⟩
    refine hstored.trans (sent_setLine hstored.apart (fun r hr => ?_) fun j hj => ?_)
    · exact nomatch hline.symm.trans ((line_readClock h t t).symm.trans hr)
    · cases hj
      exact hj'
  rw [sendToJournal_apply]
  split
  · rename_i hr
    rw [hr] at hcall hnode
    exact hset _ _ hnode hcall
  · rename_i hr
    rw [hr] at hcall hnode
    obtain ⟨hflush, hflushed⟩ := hcall.flush _
    have hsent := hset _ _ (hflushed.trans hnode) hflush
    rw [snd_orHalt]
    exact hsent

theorem send_sent (ha : h.Apart file) (t : Nat) (channel : String) (payload : ByteArray) :
    Sent file h (send t channel payload h).2 := by
  simp only [send, bind_apply, get_apply]
  cases hline : (h.transport t).line with
  | bus k box =>
    simp only [ite_apply]
    cases box.closed with
    | true => exact .rfl ha
    | false =>
      have hclock := sent_readClock ha t
      exact hclock.trans (sent_broadcast hclock.apart _ _)
  | multicast settings sequence stopped box =>
    simp only [ite_apply]
    cases stopped with
    | true => exact .rfl ha
    | false => exact sendToGroup_sent ha hline channel payload
  | recorder j closed =>
    simp only [ite_apply]
    cases closed with
    | true => exact .rfl ha
    | false => exact sendToJournal_sent ha hline channel payload
  | replay r => exact .rfl ha
  | script s =>
    have hset : Sent file h (h.setLine t (.script (s.send channel payload).2)) :=
      sent_setLine ha (by simp [hline]) (by simp)
    simp only [bind_apply, modify_apply]
    rw [snd_orHalt]
    exact hset

theorem publish_sent (ha : h.Apart file) (c : Nat) (channel : String) (payload : ByteArray) :
    Sent file h (publish c channel payload h).2 := by
  simp only [publish, bind_apply, openBroker_apply]
  cases (h.broker c).closed with
  | true => exact .rfl ha
  | false =>
    simp only [Bool.false_eq_true, if_false, ite_apply]
    split
    · exact .rfl ha
    · exact send_sent ha _ channel payload

end Act

/-! ## Subscriptions of others -/

namespace Hub

variable {h f g : Hub η} {b c s file : Nat}

/-- Another transport changes its line. -/
theorem Aside.setLine (hg : Aside b file h g) {t : Nat} (ht : t ≠ h.lineOf b) {line : Line}
    (hline : ∀ j, line ≠ .recorder j false) (notices : List Notice) :
    Aside b file h ((g.setLine t line).report notices) where
  remains :=
    { enlisted := hg.remains.enlisted.of_roster (roster_setLine g t line)
      apart := apart_setLine hg.remains.apart t fun j hj => absurd hj (hline j)
      size := hg.remains.size
      broker := hg.remains.broker
      line := by
        show ((g.setLine t line).transport (h.lineOf b)).line = _
        rw [transport_setLine, if_neg fun he => ht he.1, hg.remains.line]
      wants := (wants_setLine g t line _).trans hg.remains.wants
      node := hg.remains.node }
  subscription := hg.subscription
  desk := hg.desk

theorem Aside.report (hg : Aside b file h g) (notices : List Notice) : Aside b file h (g.report notices) :=
  ⟨⟨hg.remains.enlisted.of_roster (roster_report g notices), hg.remains.apart, hg.remains.size, hg.remains.broker,
    hg.remains.line, hg.remains.wants, hg.remains.node⟩, hg.subscription, hg.desk⟩

/-- Another broker has one subscription more. -/
theorem aside_enrolled (he : h.Enlisted) (ha : h.Apart file) (hb : b < h.brokers.size) (hc : h.Attached c)
    (hcb : b ≠ c) (pattern : Pattern) : Aside b file h (h.enrolled c pattern) where
  remains :=
    { enlisted := he.enrolled hc pattern
      apart := ha
      size := brokers_size_enrolled h c pattern
      broker := by rw [broker_enrolled hc.made, if_neg hcb]
      line := rfl
      wants := by
        show ((h.enrolled c pattern).interest (h.transport (h.lineOf b)).interest).wants = _
        rw [interest_enrolled (he.interest_lt c hc.made), if_neg]
        · rfl
        · rw [he.serves b hb]
          exact fun hi => hcb (he.interest_inj b hb c hc.made hi)
      node := rfl }
  subscription s hs := by
    rw [subscription_enrolled, if_neg (Nat.ne_of_lt (he.member_lt b hb s hs))]
  desk := rfl

/-- Another broker has one subscription less. -/
theorem aside_withdrawn (he : h.Enlisted) (ha : h.Apart file) (hb : b < h.brokers.size) (hc : h.Attached c)
    (hcb : b ≠ c) (hs : s ∈ h.members c) : Aside b file h (h.withdrawn c s) where
  remains :=
    { enlisted := he.withdrawn hc hs
      apart := ha
      size := brokers_size_withdrawn h c s
      broker := by rw [broker_withdrawn hc.made, if_neg hcb]
      line := rfl
      wants := by
        show ((h.withdrawn c s).interest (h.transport (h.lineOf b)).interest).wants = _
        rw [interest_withdrawn (he.interest_lt c hc.made), if_neg]
        · rfl
        · rw [he.serves b hb]
          exact fun hi => hcb (he.interest_inj b hb c hc.made hi)
      node := rfl }
  subscription u hu := by
    rw [subscription_withdrawn (he.member_lt c hc.made s hs), if_neg]
    exact fun hus => hcb (he.member_inj b hb c hc.made u hu (hus ▸ hs))
  desk := rfl

end Hub

namespace Act

open Hub

variable {h f : Hub η} {b file : Nat}

/-- A change of interest changes one line at most. -/
theorem interestChanged_frame (t : Nat) (h : Hub η) :
    (interestChanged t h).2 = h ∨ ∃ line notices, (∀ j, line ≠ .recorder j false) ∧
      (interestChanged t h).2 = (h.setLine t line).report notices := by
  simp only [interestChanged, bind_apply, get_apply]
  cases (h.transport t).line with
  | bus k box => exact Or.inr ⟨.bus k _, _, by simp, rfl⟩
  | multicast settings sequence stopped box =>
    exact Or.inr ⟨.multicast settings sequence stopped _, _, by simp, rfl⟩
  | recorder j closed => exact Or.inl rfl
  | replay r =>
    have hread := journalFile_snd r.journal h
    generalize hfile : journalFile r.journal h = found at hread
    obtain ⟨_ | f, k⟩ := found
    · exact Or.inl ((congrArg Prod.snd (bind_error hfile)).trans hread)
    · obtain rfl : k = h := hread
      exact Or.inr ⟨.replay (r.refresh f (k.wants t)).1, (r.refresh f (k.wants t)).2, by simp,
        congrArg Prod.snd (bind_ok hfile)⟩
  | script s => exact Or.inr ⟨.script _, [], by simp, rfl⟩

theorem interestChanged_aside (hf : Aside b file h f) {t : Nat} (ht : t ≠ h.lineOf b) :
    Aside b file h (interestChanged t f).2 := by
  rcases interestChanged_frame t f with he | ⟨line, notices, hline, he⟩
  · rw [he]
    exact hf
  · rw [he]
    exact hf.setLine ht hline notices

theorem publish_aside (he : h.Enlisted) (ha : h.Apart file) {r : Replay}
    (hl : (h.transport (h.lineOf b)).line = .replay r) (c : Nat) (channel : String) (payload : ByteArray) :
    Aside b file h (publish c channel payload h).2 :=
  (publish_sent ha c channel payload).aside he hl

theorem subscribe_aside (he : h.Enlisted) (ha : h.Apart file) (hb : b < h.brokers.size) (hc : c < h.brokers.size)
    (hcb : b ≠ c) (text : String) : Aside b file h (subscribe c text h).2 := by
  cases ho : (h.broker c).closed with
  | true =>
    rw [subscribe_closed ho]
    exact .rfl he ha
  | false =>
    cases hp : Pattern.ofText text with
    | error e =>
      rw [subscribe_unread ho hp]
      exact .rfl he ha
    | ok pattern =>
      have hline : h.lineOf c ≠ h.lineOf b := fun hl => hcb (he.line_inj b hb c hc hl.symm)
      have hf := interestChanged_aside (aside_enrolled he ha hb ⟨hc, ho⟩ hcb pattern) hline
      generalize hg : interestChanged (h.lineOf c) (h.enrolled c pattern) = told at hf
      obtain ⟨e | _, g⟩ := told
      · rw [subscribe_untold ho hp hg]
        exact hf
      · rw [subscribe_enrolled ho hp hg]
        exact hf.report _

theorem unsubscribe_aside (he : h.Enlisted) (ha : h.Apart file) (hb : b < h.brokers.size) (hc : c < h.brokers.size)
    (hcb : b ≠ c) (s : Nat) : Aside b file h (unsubscribe c s h).2 := by
  cases ho : (h.broker c).closed with
  | true =>
    rw [unsubscribe_closed ho]
    exact .rfl he ha
  | false =>
    by_cases hm : s ∈ h.members c
    · have hline : h.lineOf c ≠ h.lineOf b := fun hl => hcb (he.line_inj b hb c hc hl.symm)
      have hf := interestChanged_aside (aside_withdrawn he ha hb ⟨hc, ho⟩ hcb hm) hline
      generalize hg : interestChanged (h.lineOf c) (h.withdrawn c s) = told at hf
      obtain ⟨e | _, g⟩ := told
      · rw [unsubscribe_untold ho hm hg]
        exact hf
      · rw [unsubscribe_withdrawn ho hm hg]
        exact hf.report _
    · rw [unsubscribe_stranger ho hm]
      exact .rfl he ha

/-! ## Calls that run no handlers -/

theorem lives_sendToGroup (t : Nat) (settings : MulticastAddress) (sequence : UInt32) (box : Mailbox) (channel : String)
    (payload : ByteArray) : Lives (sendToGroup t settings sequence box channel payload : Act η Unit) := by
  refine Lives.guard ?_ _ _
  cases Wire.encodeMessage sequence channel payload settings.datagramSize with
  | none => exact lives_fail _
  | some datagrams => exact .ite ((lives_report _).bind fun _ => lives_modify _) (lives_modify _)

theorem lives_send (t : Nat) (channel : String) (payload : ByteArray) : Lives (send t channel payload : Act η Unit) :=
  lives_get.bind fun h => by
    cases (h.transport t).line with
    | bus k box => exact ((lives_change _).bind fun _ => lives_modify _).guard _ _
    | multicast settings sequence stopped box =>
      exact (lives_sendToGroup t settings sequence box channel payload).guard _ _
    | recorder j closed =>
      exact ((lives_change _).bind fun _ => (lives_change _).bind fun _ => lives_orHalt _).guard _ _
    | replay r => exact lives_fail _
    | script s => exact (lives_modify _).bind fun _ => lives_orHalt _

theorem lives_publish (b : Nat) (channel : String) (payload : ByteArray) :
    Lives (publish b channel payload : Act η Unit) :=
  (lives_openBroker b).bind fun broker => (lives_send broker.transport channel payload).guard _ _

theorem lives_journalFile (j : Journal) : Lives (journalFile j : Act η ByteArray) := by
  unfold journalFile
  cases j.use with
  | reading file c => exact lives_get.bind fun _ => lives_orHalt _
  | writing w => exact lives_fail _

theorem lives_interestChanged (t : Nat) : Lives (interestChanged t : Act η Unit) :=
  lives_get.bind fun h => by
    cases (h.transport t).line with
    | bus k box => exact lives_modify _
    | multicast settings sequence stopped box => exact lives_modify _
    | recorder j closed => exact lives_pure _
    | replay r => exact (lives_journalFile _).bind fun f => lives_modify _
    | script s => exact lives_modify _

theorem lives_subscribe (b : Nat) (text : String) : Lives (subscribe b text : Act η Nat) :=
  (lives_openBroker b).bind fun _ => (lives_orHalt _).bind fun _ => (lives_change _).bind fun _ =>
    (lives_modify _).bind fun _ => (lives_interestChanged _).bind fun _ => (lives_report _).bind fun _ => lives_pure _

theorem lives_unsubscribe (b s : Nat) : Lives (unsubscribe b s : Act η Unit) :=
  (lives_openBroker b).bind fun _ => lives_get.bind fun _ =>
    ((lives_modify _).bind fun _ => (lives_interestChanged _).bind fun _ => lives_report _).guard _ _

end Act

end PubSub
