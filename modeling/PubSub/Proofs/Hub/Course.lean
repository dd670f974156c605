import PubSub.Proofs.Hub.Belonging
import PubSub.Proofs.Hub.Chronicle

/-!
# The course of events

Handlers may do anything while they run, and dispatches may be nested in any way. All that comes of it happens in small
steps one after another: the tables change, a message is handed on, a dispatch begins or ends.

* `Chronicle.Step`, `Chronicle.Course`: a step, and any number of steps.
* `Chronicle.Regular`: a tidy hub where, if handlers do not die, nothing waits for them unless their broker is busy.
* `Chronicle.account`: what a subscription was handed, what waits for it, and how much it has dropped.
* `Chronicle.Belongs`: a subscription was a broker's, or has been made for it.

Results:

* `Chronicle.Course.regular`, `Chronicle.Course.later`: what lasts.
* `Chronicle.Course.spared`: the accounts of a broker that has no part in it stay as they are.
* `Chronicle.Course.handed_cases`: who is handed something belongs to a broker that is free.
-/

namespace PubSub.Chronicle

open Hub

variable {μ : Type}

/-! ## Steps -/

/-- One step. Handlers end in the ways `fates`, subscriptions are ended at the brokers `ends` only, and dispatches are
begun, carried on and ended by the brokers `free` only. -/
inductive Step (fates : Fate → Prop) (ends free : Nat → Prop) : Hub (Annals μ) → Hub (Annals μ) → Prop
  | aside {h g : Hub (Annals μ)} (brokers : g.brokers = h.brokers) (subscriptions : g.subscriptions = h.subscriptions)
    (entries : g.desk.entries = h.desk.entries) : Step fates ends free h g
  | enrol {h : Hub (Annals μ)} {b : Nat} (attached : h.Attached b) (pattern : Pattern) :
    Step fates ends free h (note (h.enrolled b pattern) (.made b h.subscriptions.size))
  | withdraw {h : Hub (Annals μ)} {b s : Nat} (attached : h.Attached b) (member : s ∈ h.members b) (may : ends b) :
    Step fates ends free h (h.withdrawn b s)
  /-- It is recorded that a subscription was taken away. -/
  | testify {h : Hub (Annals μ)} {s : Nat} (retired : h.Retired s) (empty : h.load s = 0) :
    Step fates ends free h (note h (.withdrawn s))
  | setCapacity (h : Hub (Annals μ)) (s : Nat) (capacity : Option Nat) :
    Step fates ends free h (h.setCapacity s capacity)
  | close {h : Hub (Annals μ)} {b : Nat} (attached : h.Attached b) (may : ends b) (line : Line) :
    Step fates ends free h (h.ended b line)
  /-- It is recorded that a broker was closed. -/
  | attest {h : Hub (Annals μ)} {b : Nat} (closed : (h.broker b).closed = true) :
    Step fates ends free h (note h (.closed b))
  /-- A dispatch takes messages in. -/
  | take {h g : Hub (Annals μ)} {b : Nat} {ms : List Message} {T : List Nat} (attached : h.Attached b) (may : free b)
    (fed : Fed b ms [] T (h.setBusy b true) g) : Step fates ends free h g
  /-- It hands one of them on. -/
  | hand {h : Hub (Annals μ)} {b s : Nat} {m : Message} {rest : Backlog} (member : s ∈ h.members b) (may : free b)
    (popped : (h.subscription s).backlog.pop = some (m, rest)) :
    Step fates ends free h (note (h.setBacklog s rest) (.handed s m))
  /-- A handler has died, or what should be handed to it is lost. -/
  | mar {h : Hub (Annals μ)} {s : Nat} {change : Subscription → Subscription}
    (died : fates .died ∨ (h.subscription s).spoiled = true) (apart : ∀ b, ¬ free b → s ∉ h.members b)
    (active : (change (h.subscription s)).active = (h.subscription s).active)
    (load : (change (h.subscription s)).backlog.size ≤ h.load s) :
    Step fates ends free h (h.modifySubscription s change)
  | finish {h : Hub (Annals μ)} {b : Nat} (may : free b)
    (empty : ¬ fates .died → ∀ s ∈ h.members b, h.load s = 0) : Step fates ends free h (h.setBusy b false)

/-- Any number of steps. -/
abbrev Course (fates : Fate → Prop) (ends free : Nat → Prop) : Hub (Annals μ) → Hub (Annals μ) → Prop :=
  Relation.ReflTransGen (Step fates ends free)

variable {fates : Fate → Prop} {ends free free' : Nat → Prop} {h f g k : Hub (Annals μ)} {b c s n : Nat}
  {run : Handlers (Annals μ)}

/-- Most steps leave the roll as it is. The others make a subscription, which is recorded, take one away or close a
broker. -/
theorem Step.roll_cases (hstep : Step fates ends free h g) :
    g.roll = h.roll ∨ (∃ b pattern, h.Attached b ∧ (∃ e ∈ g.desk.entries, e.event = .made b h.subscriptions.size) ∧
        g.roll = (h.enrolled b pattern).roll) ∨
      (∃ b s, h.Attached b ∧ s ∈ h.members b ∧ ends b ∧ g.roll = (h.withdrawn b s).roll) ∨
        ∃ b line, h.Attached b ∧ ends b ∧ g.roll = (h.ended b line).roll := by
  cases hstep with
  | aside brokers subscriptions => exact Or.inl (roll_of_tables brokers subscriptions)
  | enrol attached pattern =>
    exact Or.inr (Or.inl ⟨_, pattern, attached, ⟨_, List.mem_append_right _ List.mem_cons_self, rfl⟩, rfl⟩)
  | withdraw attached member may => exact Or.inr (Or.inr (Or.inl ⟨_, _, attached, member, may, rfl⟩))
  | testify => exact Or.inl rfl
  | setCapacity s capacity => exact Or.inl (roll_modifySubscription rfl)
  | close attached may line => exact Or.inr (Or.inr (Or.inr ⟨_, line, attached, may, rfl⟩))
  | attest => exact Or.inl rfl
  | take attached may fed => exact Or.inl (fed.roll.trans (roll_of_roster (roster_setBusy _ _ _)))
  | hand member may popped => exact Or.inl (roll_modifySubscription rfl)
  | mar died apart active load => exact Or.inl (roll_modifySubscription active)
  | finish may empty => exact Or.inl (roll_of_roster (roster_setBusy _ _ _))

theorem Step.tidy (hstep : Step fates ends free h g) (ht : h.Tidy) : g.Tidy := by
  rcases hstep.roll_cases with e | ⟨b, pattern, hb, -, e⟩ | ⟨b, s, hb, hs, -, e⟩ | ⟨b, line, hb, -, e⟩
  · exact ht.of_roll e
  · exact (ht.enrolled hb pattern).of_roll e
  · exact (ht.withdrawn hb hs).of_roll e
  · exact (ht.ended hb line).of_roll e

theorem Step.later (hstep : Step fates ends free h g) (ht : h.Tidy) : Later h g := by
  rcases hstep.roll_cases with e | ⟨b, pattern, hb, -, e⟩ | ⟨b, s, hb, hs, -, e⟩ | ⟨b, line, hb, -, e⟩
  · exact Later.rfl.of_roll e
  · exact (later_enrolled hb pattern).of_roll e
  · exact (later_withdrawn ht hb hs).of_roll e
  · exact (later_ended ht hb line).of_roll e

/-- Where no subscriptions are ended, who belongs to a broker goes on belonging to it. -/
theorem Step.mem_members (hstep : Step fates ends free h g) (hb : ¬ ends b) (hs : s ∈ h.members b) :
    s ∈ g.members b := by
  rcases hstep.roll_cases with e | ⟨c, pattern, hc, -, e⟩ | ⟨c, u, hc, hu, hends, e⟩ | ⟨c, line, hc, hends, e⟩ <;>
    rw [members_of_roll e]
  · exact hs
  · exact (mem_members_enrolled hc.made).2 (Or.inl hs)
  · exact (mem_members_withdrawn hc.made).2 ⟨hs, fun hbc => absurd (hbc ▸ hends) hb⟩
  · exact (mem_members_ended hc.made).2 ⟨hs, fun hbc => hb (hbc ▸ hends)⟩

/-- Who belongs to a broker has belonged to it before, or has just been made for it. -/
theorem Step.mem_before (hstep : Step fates ends free h g) (hs : s ∈ g.members b) :
    s ∈ h.members b ∨ s = h.subscriptions.size ∧ ∃ e ∈ g.desk.entries, e.event = .made b s := by
  rcases hstep.roll_cases with e | ⟨c, pattern, hc, hmade, e⟩ | ⟨c, u, hc, -, -, e⟩ | ⟨c, line, hc, -, e⟩ <;>
    rw [members_of_roll e] at hs
  · exact Or.inl hs
  · refine ((mem_members_enrolled hc.made).1 hs).imp_right fun hnew => ?_
    obtain ⟨rfl, rfl⟩ := hnew
    exact ⟨rfl, hmade⟩
  · exact Or.inl ((mem_members_withdrawn hc.made).1 hs).1
  · exact Or.inl ((mem_members_ended hc.made).1 hs).1

/-- No step makes a broker. -/
theorem Step.brokers_size (hstep : Step fates ends free h g) : g.brokers.size = h.brokers.size := by
  cases hstep with
  | aside brokers => rw [brokers]
  | enrol attached pattern => exact brokers_size_enrolled ..
  | withdraw => exact brokers_size_withdrawn ..
  | testify => rfl
  | setCapacity => rfl
  | close => exact brokers_size_ended
  | attest => rfl
  | take attached may fed => rw [fed.brokers, brokers_size_of_roster (roster_setBusy ..)]
  | hand => rfl
  | mar => rfl
  | finish => exact brokers_size_of_roster (roster_setBusy ..)

/-- A step adds one entry to the annals at most. Only free brokers hand messages on, and only to subscriptions of
theirs. -/
theorem Step.entries_cases (hstep : Step fates ends free h g) :
    g.desk.entries = h.desk.entries ∨ ∃ e, g.desk.entries = h.desk.entries ++ [e] ∧
      ∀ s, e.event.handedTo? s = none ∨ ∃ b, free b ∧ s ∈ h.members b := by
  cases hstep with
  | aside brokers subscriptions entries => exact Or.inl entries
  | enrol => exact Or.inr ⟨_, rfl, fun _ => Or.inl rfl⟩
  | withdraw => exact Or.inl rfl
  | testify => exact Or.inr ⟨_, rfl, fun _ => Or.inl rfl⟩
  | setCapacity => exact Or.inl rfl
  | close => exact Or.inl (by rw [desk_ended])
  | attest => exact Or.inr ⟨_, rfl, fun _ => Or.inl rfl⟩
  | take attached may fed =>
    have hdesk : g.desk = h.desk := fed.desk
    exact Or.inl (by rw [hdesk])
  | @hand b u m rest member may popped =>
    refine Or.inr ⟨_, rfl, fun s => ?_⟩
    by_cases hus : u = s
    · exact Or.inr ⟨b, may, hus ▸ member⟩
    · exact Or.inl (if_neg hus)
  | mar => exact Or.inl rfl
  | finish => exact Or.inl rfl

/-- What is free may be more. -/
theorem Step.mono (hfree : ∀ b, free b → free' b) (hstep : Step fates ends free h g) : Step fates ends free' h g := by
  cases hstep with
  | aside brokers subscriptions entries => exact .aside brokers subscriptions entries
  | enrol attached pattern => exact .enrol attached pattern
  | withdraw attached member may => exact .withdraw attached member may
  | testify retired empty => exact .testify retired empty
  | setCapacity s capacity => exact .setCapacity _ s capacity
  | close attached may line => exact .close attached may line
  | attest closed => exact .attest closed
  | take attached may fed => exact .take attached (hfree _ may) fed
  | hand member may popped => exact .hand member (hfree _ may) popped
  | mar died apart active load => exact .mar died (fun b hb => apart b fun hf => hb (hfree b hf)) active load
  | finish may empty => exact .finish (hfree _ may) empty

/-! ## Accounts -/

/-- What a subscription was handed, what waits for it, and how much it has dropped. -/
def account (h : Hub (Annals μ)) (s : Nat) : List Message × List Message × Nat :=
  (handedTo s h.desk.entries, (h.subscription s).backlog.toList, (h.subscription s).backlog.dropped)

theorem account_eq (hdesk : handedTo s g.desk.entries = handedTo s h.desk.entries)
    (hbacklog : (g.subscription s).backlog = (h.subscription s).backlog) : account g s = account h s := by
  rw [account, account, hdesk, hbacklog]

theorem load_of_account (e : account g s = account h s) : g.load s = h.load s := by
  rw [load, load, ← Backlog.length_toList, ← Backlog.length_toList]
  exact congrArg (fun a => a.2.1.length) e

theorem handedTo_note (h : Hub (Annals μ)) (e : Event) (s : Nat) :
    handedTo s (note h e).desk.entries = handedTo s h.desk.entries ++ (e.handedTo? s).toList := by
  rw [note, handedTo_append]
  cases he : e.handedTo? s <;> simp [handedTo, he]

theorem handedTo_hand (h : Hub (Annals μ)) (s : Nat) (rest : Backlog) (m : Message) (u : Nat) :
    handedTo u (note (h.setBacklog s rest) (.handed s m)).desk.entries =
      handedTo u h.desk.entries ++ if s = u then [m] else [] := by
  rw [handedTo_note, Event.handedTo?]
  split <;> rfl

/-- A step in which a broker has no part leaves the accounts of its subscriptions as they are, and nothing waits for a
new one. -/
theorem Step.spared (hstep : Step fates ends free h g) (ht : h.Tidy) (hb : ¬ free b) (hs : s ∈ g.members b) :
    s ∈ h.members b ∧ account g s = account h s ∨ s = h.subscriptions.size ∧ g.load s = 0 := by
  have hother : ∀ {c u}, free c → u ∈ h.members c → s ∈ h.members b → s ≠ u := fun {c u} hc hu hs hsu =>
    hb (ht.member_inj b c s hs (hsu ▸ hu) ▸ hc)
  have hquiet : ∀ {k : Hub (Annals μ)} {e : Event}, e.handedTo? s = none →
      handedTo s (note k e).desk.entries = handedTo s k.desk.entries := fun {k e} he => by
    rw [handedTo_note, he, Option.toList_none, List.append_nil]
  cases hstep with
  | aside brokers subscriptions entries =>
    rw [members_of_roll (roll_of_tables brokers subscriptions)] at hs
    exact Or.inl ⟨hs, account_eq (by rw [entries]) (by rw [subscription, subscriptions, subscription])⟩
  | @enrol c attached pattern =>
    rcases (mem_members_enrolled attached.made).1 hs with hs | ⟨-, rfl⟩
    · refine Or.inl ⟨hs, account_eq (hquiet rfl) ?_⟩
      rw [subscription_note, subscription_enrolled, if_neg (Nat.ne_of_lt (ht.member_lt b s hs))]
    · refine Or.inr ⟨rfl, ?_⟩
      rw [load_note, load, subscription_enrolled, if_pos rfl]
      rfl
  | @withdraw c u attached member may =>
    obtain ⟨hs, hne⟩ := (mem_members_withdrawn attached.made).1 hs
    have hsu : s ≠ u := fun hsu => hne (ht.member_inj b c s hs (hsu ▸ member)) hsu
    refine Or.inl ⟨hs, account_eq rfl ?_⟩
    rw [subscription_withdrawn (ht.member_lt c u member), if_neg hsu]
  | testify => exact Or.inl ⟨hs, account_eq (hquiet rfl) rfl⟩
  | setCapacity u capacity =>
    refine Or.inl ⟨hs, ?_⟩
    rw [account, account, Hub.setCapacity, subscription_modifySubscription]
    split <;> rfl
  | @close c attached may line =>
    refine Or.inl ⟨((mem_members_ended attached.made).1 hs).1, account_eq (by rw [desk_ended]) ?_⟩
    rw [subscription_ended]
    split <;> rfl
  | attest => exact Or.inl ⟨hs, account_eq (hquiet rfl) rfl⟩
  | @take _ c ms T attached may fed =>
    have e := roster_setBusy h c true
    have hcb : s ∉ h.members c → s ∉ (h.setBusy c true).members c := fun hn => by rwa [members_of_roster e]
    have hdesk : g.desk = h.desk := fed.desk
    rw [fed.members, members_of_roster e] at hs
    refine Or.inl ⟨hs, account_eq (by rw [hdesk]) ?_⟩
    rw [fed.stranger s (hcb fun hsc => hother may hsc hs rfl)]
    rfl
  | @hand c u m rest member may popped =>
    have hs : s ∈ h.members b := hs
    have hne := hother may member hs
    refine Or.inl ⟨hs, account_eq (hquiet (if_neg hne.symm)) ?_⟩
    rw [subscription_note, subscription_setBacklog_of_pop popped, if_neg hne]
  | @mar u change died apart active load =>
    refine Or.inl ⟨hs, account_eq rfl ?_⟩
    have hus : ¬ (u = s ∧ s < h.subscriptions.size) := fun hus => apart b hb (hus.1 ▸ hs)
    rw [subscription_modifySubscription, if_neg hus]
  | finish may empty =>
    rw [members_of_roster (roster_setBusy ..)] at hs
    exact Or.inl ⟨hs, account_eq rfl rfl⟩

/-! ## Regular hubs -/

/-- Brokers and subscriptions are in order. If handlers do not die, none has died, and nothing waits for a handler
unless its broker is busy. -/
structure Regular {η : Type} (fates : Fate → Prop) (h : Hub η) : Prop where
  tidy : h.Tidy
  whole : ¬ fates .died → ∀ s, (h.subscription s).spoiled = false
  empty : ¬ fates .died → ∀ b, (h.broker b).busy = false → ∀ s ∈ h.members b, h.load s = 0

/-- No step spoils a subscription while handlers do not die. -/
theorem Step.whole (hstep : Step fates ends free h g) (ht : h.Tidy) (hd : ¬ fates .died)
    (hw : ∀ s, (h.subscription s).spoiled = false) (s : Nat) : (g.subscription s).spoiled = false := by
  cases hstep with
  | aside brokers subscriptions => rw [subscription, subscriptions, ← subscription, hw]
  | enrol attached pattern =>
    rw [subscription_note, subscription_enrolled]
    split
    · rfl
    · exact hw s
  | @withdraw c u attached member may =>
    rw [subscription_withdrawn (ht.member_lt c u member)]
    split
    · exact hw u
    · exact hw s
  | testify => exact hw s
  | setCapacity u capacity =>
    rw [Hub.setCapacity, subscription_modifySubscription]
    split <;> exact hw s
  | close attached may line =>
    rw [subscription_ended]
    split <;> exact hw s
  | attest => exact hw s
  | take attached may fed =>
    obtain ⟨backlog, he⟩ := fed.subscription s
    rw [he]
    exact hw s
  | hand member may popped =>
    rw [subscription_note, subscription_setBacklog_of_pop popped]
    split
    · exact hw _
    · exact hw s
  | @mar u _ died => exact absurd ((hw u).symm.trans (died.resolve_left hd)) Bool.false_ne_true
  | finish => exact hw s

/-- No step leaves something behind at a broker that is not busy. -/
theorem Step.empty (hstep : Step fates ends free h g) (ht : h.Tidy) (hd : ¬ fates .died)
    (hw : ∀ s, (h.subscription s).spoiled = false)
    (he : ∀ b, (h.broker b).busy = false → ∀ s ∈ h.members b, h.load s = 0) (hb : (g.broker b).busy = false)
    (hs : s ∈ g.members b) : g.load s = 0 := by
  cases hstep with
  | aside brokers subscriptions =>
    rw [members_of_roll (roll_of_tables brokers subscriptions)] at hs
    rw [broker, brokers] at hb
    rw [load, subscription, subscriptions]
    exact he b hb s hs
  | @enrol c attached pattern =>
    rw [broker_note, busy_enrolled attached.made] at hb
    rw [load_note, load, subscription_enrolled]
    split
    · rfl
    · rename_i hne
      exact he b hb s (((mem_members_enrolled attached.made).1 hs).resolve_right fun hn => hne hn.2)
  | @withdraw c u attached member may =>
    have hs := ((mem_members_withdrawn attached.made).1 hs).1
    rw [busy_withdrawn attached.made] at hb
    rw [load, subscription_withdrawn (ht.member_lt c u member)]
    split
    · rfl
    · exact he b hb s hs
  | testify => exact he b hb s hs
  | setCapacity u capacity =>
    rw [load_setCapacity]
    exact he b hb s hs
  | @close c attached may line =>
    have hs := ((mem_members_ended attached.made).1 hs).1
    rw [busy_ended attached.made] at hb
    have hload : (h.ended c line).load s = h.load s := by
      rw [load, subscription_ended]
      split <;> rfl
    rw [hload]
    exact he b hb s hs
  | attest => exact he b hb s hs
  | @take _ c ms T attached may fed =>
    have e := roster_setBusy h c true
    rw [fed.broker, broker_setBusy] at hb
    rw [fed.members, members_of_roster e] at hs
    split at hb
    · cases hb
    · rename_i hbc
      -- another broker, to which nothing was routed
      have hstranger : s ∉ (h.setBusy c true).members c := fun hsc => by
        rw [members_of_roster e] at hsc
        have hcb := ht.member_inj c b s hsc hs
        exact hbc ⟨hcb, hcb ▸ attached.made⟩
      rw [load, fed.stranger s hstranger]
      exact he b hb s hs
  | hand member may popped =>
    rw [load_note, load_of_pop popped, he b hb s hs]
    split <;> rfl
  | @mar u _ died => exact absurd ((hw u).symm.trans (died.resolve_left hd)) Bool.false_ne_true
  | @finish c may empty =>
    rw [members_of_roster (roster_setBusy ..)] at hs
    rw [broker_setBusy] at hb
    split at hb
    · rename_i hcb
      exact empty hd s (hcb.1 ▸ hs)
    · exact he b hb s hs

theorem Step.regular (hstep : Step fates ends free h g) (hr : Regular fates h) : Regular fates g where
  tidy := hstep.tidy hr.tidy
  whole hd := hstep.whole hr.tidy hd (hr.whole hd)
  empty hd _ hb _ hs := hstep.empty hr.tidy hd (hr.whole hd) (hr.empty hd) hb hs

/-! ## Any number of steps -/

theorem Course.regular (hc : Course fates ends free h g) (hr : Regular fates h) : Regular fates g := by
  induction hc with
  | refl => exact hr
  | tail _ hstep ih => exact hstep.regular ih

theorem Course.tidy (hc : Course fates ends free h g) (ht : h.Tidy) : g.Tidy := by
  induction hc with
  | refl => exact ht
  | tail _ hstep ih => exact hstep.tidy ih

theorem Course.later (hc : Course fates ends free h g) (ht : h.Tidy) : Later h g := by
  induction hc with
  | refl => exact .rfl
  | tail hc hstep ih => exact ih.trans (hstep.later (Course.tidy hc ht))

theorem Course.mono (hfree : ∀ b, free b → free' b) (hc : Course fates ends free h g) : Course fates ends free' h g :=
  Relation.ReflTransGen.mono (fun _ _ => Step.mono hfree) _ _ hc

theorem Course.mem_members (hc : Course fates ends free h g) (hb : ¬ ends b) (hs : s ∈ h.members b) :
    s ∈ g.members b := by
  induction hc with
  | refl => exact hs
  | tail _ hstep ih => exact hstep.mem_members hb ih

theorem Course.brokers_size (hc : Course fates ends free h g) : g.brokers.size = h.brokers.size := by
  induction hc with
  | refl => rfl
  | tail _ hstep ih => exact hstep.brokers_size.trans ih

/-- What is recorded stays recorded. -/
theorem Course.entries_subset (hc : Course fates ends free h g) : h.desk.entries ⊆ g.desk.entries := by
  induction hc with
  | refl => exact List.Subset.refl _
  | tail _ hstep ih =>
    rcases hstep.entries_cases with he | ⟨e, he, -⟩
    · exact he ▸ ih
    · exact he ▸ fun x hx => List.mem_append_left _ (ih hx)

/-- A course in which a broker has no part leaves the accounts of its subscriptions as they are, and nothing waits for
new ones. -/
theorem Course.spared (hc : Course fates ends free h g) (ht : h.Tidy) (hb : ¬ free b) (hs : s ∈ g.members b) :
    s ∈ h.members b ∧ account g s = account h s ∨ h.subscriptions.size ≤ s ∧ g.load s = 0 := by
  induction hc with
  | refl => exact Or.inl ⟨hs, rfl⟩
  | @tail f g hc hstep ih =>
    rcases hstep.spared (Course.tidy hc ht) hb hs with ⟨hs, e⟩ | ⟨rfl, hzero⟩
    · rcases ih hs with ⟨hs, e'⟩ | ⟨hle, hzero⟩
      · exact Or.inl ⟨hs, e.trans e'⟩
      · exact Or.inr ⟨hle, (load_of_account e).trans hzero⟩
    · exact Or.inr ⟨(Course.later hc ht).size_le, hzero⟩

/-- In such a course, none of the subscriptions is to be given more than before. -/
theorem Course.owed_le (hc : Course fates ends free h g) (ht : h.Tidy) (hb : ¬ free b)
    (hs : s ∈ h.members b ∨ h.Retired s) : g.owed s ≤ h.owed s := by
  have hlater := Course.later hc ht
  cases ha : (g.subscription s).active with
  | false =>
    rw [owed, ha, if_neg Bool.false_ne_true]
    exact Nat.zero_le _
  | true =>
    have hs : s ∈ h.members b := hs.resolve_right fun hr =>
      Bool.false_ne_true ((hlater.retired s hr).inactive.symm.trans ha)
    rcases Course.spared hc ht hb (hlater.mem hs ha) with ⟨-, e⟩ | ⟨hle, -⟩
    · rw [owed, owed, ha, ht.active b s hs, load_of_account e]
    · exact absurd (ht.member_lt b s hs) (Nat.not_lt.2 hle)

/-! ## Who is handed a message -/

/-- A subscription belongs to a broker when the hub is `h`, or has been made for it by the time that the hub is `g`. -/
def Belongs (h g : Hub (Annals μ)) (b s : Nat) : Prop :=
  s ∈ h.members b ∨ h.subscriptions.size ≤ s ∧ ∃ e ∈ g.desk.entries, e.event = .made b s

theorem Belongs.later (hs : Belongs h f b s) (hg : f.desk.entries ⊆ g.desk.entries) : Belongs h g b s :=
  hs.imp_right fun ⟨hle, e, he, hmade⟩ => ⟨hle, e, hg he, hmade⟩

theorem Course.belongs (hc : Course fates ends free h g) (ht : h.Tidy) (hs : s ∈ g.members b) : Belongs h g b s := by
  induction hc with
  | refl => exact Or.inl hs
  | tail hc hstep ih =>
    rcases hstep.mem_before hs with hs | ⟨rfl, hmade⟩
    · exact (ih hs).later (Course.entries_subset (.single hstep))
    · exact Or.inr ⟨(Course.later hc ht).size_le, hmade⟩

/-- Who has belonged to a broker since the middle of a course has done so since its beginning, or was made for it. -/
theorem Course.belongs_since (hc : Course fates ends free h f) (ht : h.Tidy) (hs : Belongs f g b s)
    (hg : f.desk.entries ⊆ g.desk.entries) : Belongs h g b s := by
  rcases hs with hs | ⟨hle, hmade⟩
  · exact (Course.belongs hc ht hs).later hg
  · exact Or.inr ⟨Nat.le_trans (Course.later hc ht).size_le hle, hmade⟩

theorem Step.handed_cases (hstep : Step fates ends free h g) (s : Nat) :
    handedTo s g.desk.entries = handedTo s h.desk.entries ∨ ∃ b, free b ∧ s ∈ h.members b := by
  rcases hstep.entries_cases with he | ⟨e, he, hhanded⟩
  · exact Or.inl (by rw [he])
  · refine (hhanded s).imp_left fun hnone => ?_
    have hnothing : handedTo s [e] = [] := List.filterMap_cons_none hnone
    rw [he, handedTo_append, hnothing, List.append_nil]

/-- In a course of steps, a subscription is handed nothing, or a broker that is free does it for one of its own. -/
theorem Course.handed_cases (hc : Course fates ends free h g) (ht : h.Tidy) (s : Nat) :
    handedTo s g.desk.entries = handedTo s h.desk.entries ∨ ∃ b < h.brokers.size, free b ∧ Belongs h g b s := by
  induction hc with
  | refl => exact Or.inl rfl
  | tail hc hstep ih =>
    have hsubset := Course.entries_subset (.single hstep)
    rcases ih with ih | ⟨b, hb, hfree, hs⟩
    · rcases hstep.handed_cases s with he | ⟨b, hfree, hs⟩
      · exact Or.inl (he.trans ih)
      · exact Or.inr ⟨b, Course.brokers_size hc ▸ made_of_member hs, hfree, (Course.belongs hc ht hs).later hsubset⟩
    · exact Or.inr ⟨b, hb, hfree, hs.later hsubset⟩

/-- In a course in which a broker has no part, its subscriptions are handed nothing. -/
theorem Course.quiet (hc : Course fates ends free h g) (ht : h.Tidy) (hb : ¬ free b)
    (hs : s ∈ h.members b ∨ h.Retired s) : handedTo s g.desk.entries = handedTo s h.desk.entries := by
  rcases Course.handed_cases hc ht s with he | ⟨c, -, hfree, hsc | ⟨hle, -⟩⟩
  · exact he
  · rcases hs with hs | hretired
    · exact absurd hfree (ht.member_inj b c s hs hsc ▸ hb)
    · exact absurd hretired (ht.not_retired hsc)
  · have hlt : s < h.subscriptions.size := hs.elim (ht.member_lt b s) Retired.made
    exact absurd hlt (Nat.not_lt.2 hle)

end PubSub.Chronicle
