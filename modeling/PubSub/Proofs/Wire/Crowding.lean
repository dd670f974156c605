import PubSub.Proofs.Wire.Provenance

/-!
# Who makes way

A fragment that comes in may cost other messages their place in the table. First those are given up that have waited too
long. If the fragment begins a message, others make way for it, the one touched longest ago first, and no more of them
than it takes to make room.

* `Assembly.others`: the messages under way with other keys than that of a fragment.
* `Roomy`: there is room for one more message.
* `MakesWay`: which messages leave for a new one, and which stay.
* `Assembly.Clears`: what becomes of the other messages when a fragment comes in.

Results:

* `Assembly.Sound.makesWay`: what making room comes to.
* `Assembly.others_insert`: after room was made, a fragment leaves the other messages as they are.
* `Assembly.arrival_clears`: what any fragment does to the other messages, whatever has come in before.
-/

namespace PubSub.Wire

variable {s : Sender} {q : UInt32} {p x : Partial} {ps rs : List Partial} {messages bytes size : Nat}

/-! ## Room for one more -/

/-- Beside the messages `ps` there is room for one more, of `size` bytes. -/
def Roomy (messages bytes size : Nat) (ps : List Partial) : Prop :=
  ps.length < messages ∧ payloadBytes ps + size ≤ bytes

theorem payloadBytes_of_perm (h : ps.Perm rs) : payloadBytes ps = payloadBytes rs := by
  induction h with
  | nil => rfl
  | cons p _ ih => rw [payloadBytes, payloadBytes, ih]
  | swap p r ps =>
    simp only [payloadBytes]
    omega
  | trans _ _ ih ih' => exact ih.trans ih'

/-- Whether there is room does not depend on the order of the messages. -/
theorem roomy_of_perm (h : ps.Perm rs) : Roomy messages bytes size ps ↔ Roomy messages bytes size rs := by
  rw [Roomy, Roomy, h.length_eq, payloadBytes_of_perm h]

/-- Of the messages `ps` those in `gone` leave, in this order, for a new one of `size` bytes, and those in `kept` stay
as they are. -/
structure MakesWay (messages bytes size : Nat) (ps gone kept : List Partial) : Prop where
  parted : (gone ++ kept).Perm ps
  order : kept.Sublist ps
  /-- Who leaves was last touched no later than who stays. -/
  oldest : ∀ p ∈ gone, ∀ r ∈ kept, p.lastTouch ≤ r.lastTouch
  sorted : gone.Pairwise fun p r => p.lastTouch ≤ r.lastTouch
  /-- Nobody leaves if there is room. -/
  spared : Roomy messages bytes size ps → gone = []
  /-- When enough have left, there is room, or nobody is left. -/
  enough : kept = [] ∨ Roomy messages bytes size kept
  /-- Each one that leaves has to: with it, and those that leave after it, there was no room. -/
  needed : ∀ before p after, gone = before ++ p :: after → ¬ Roomy messages bytes size (p :: after ++ kept)

namespace MakesWay

/-- There is room, or nobody to leave. -/
theorem none (h : ps = [] ∨ Roomy messages bytes size ps) : MakesWay messages bytes size ps [] ps where
  parted := .refl _
  order := .refl _
  oldest _ hp := absurd hp List.not_mem_nil
  sorted := .nil
  spared _ := rfl
  enough := h
  needed _ _ _ heq := absurd heq.symm (List.append_ne_nil_of_right_ne_nil _ (List.cons_ne_nil _ _))

/-- One that was touched longest ago leaves for want of room, and then others leave. -/
theorem cons {gone kept : List Partial} (hparted : (p :: rs).Perm ps) (horder : rs.Sublist ps)
    (holdest : ∀ r ∈ ps, p.lastTouch ≤ r.lastTouch) (hfull : ¬ Roomy messages bytes size ps)
    (h : MakesWay messages bytes size rs gone kept) : MakesWay messages bytes size ps (p :: gone) kept where
  parted := (h.parted.cons p).trans hparted
  order := h.order.trans horder
  oldest r hr k hk := by
    obtain rfl | hr := List.mem_cons.1 hr
    · exact holdest k ((h.order.trans horder).subset hk)
    · exact h.oldest r hr k hk
  sorted := by
    refine List.pairwise_cons.2 ⟨fun r hr => holdest r ?_, h.sorted⟩
    exact horder.subset (h.parted.subset (List.mem_append_left _ hr))
  spared hroom := absurd hroom hfull
  enough := h.enough
  needed before r after heq := by
    cases before with
    | nil =>
      rw [List.nil_append, List.cons.injEq] at heq
      obtain ⟨rfl, rfl⟩ := heq
      rwa [List.cons_append, roomy_of_perm ((h.parted.cons p).trans hparted)]
    | cons b before =>
      rw [List.cons_append, List.cons.injEq] at heq
      exact h.needed before r after heq.2

end MakesWay

namespace Assembly

/-! ## Making room -/

/-- The message that is found under a key, and the table without it. -/
theorem perm_eraseKey (h : ps.find? (fun p => p.hasKey s q) = some x) : (x :: eraseKey s q ps).Perm ps := by
  unfold eraseKey
  induction ps with
  | nil => cases h
  | cons p ps ih =>
    cases hk : p.hasKey s q with
    | true =>
      rw [List.find?_cons_of_pos (p := fun p : Partial => p.hasKey s q) hk] at h
      cases h
      rw [List.eraseP_cons_of_pos (p := fun p : Partial => p.hasKey s q) hk]
    | false =>
      have hk' : ¬ p.hasKey s q = true := Bool.eq_false_iff.1 hk
      rw [List.find?_cons_of_neg (p := fun p : Partial => p.hasKey s q) hk'] at h
      rw [List.eraseP_cons_of_neg (p := fun p : Partial => p.hasKey s q) hk']
      exact (List.Perm.swap ..).trans ((ih h).cons p)

variable {a : Assembly} {f : Fragment} {now : Instant} {received : Timestamp}

/-- The bounds of an assembly leave no room exactly where a message has to make way. -/
theorem Sound.roomy_iff (h : a.Sound messages bytes) :
    Roomy messages bytes size a.pending ↔
      ¬ (a.maxMessages ≤ a.pending.length ∨ a.maxBytes < a.pendingBytes + size) := by
  rw [Roomy, not_or, Nat.not_le, Nat.not_lt, h.maxMessages_eq, h.maxBytes_eq, h.pendingBytes_eq]

/-- Making room lets go of messages in the order in which they were last touched, until there is room. -/
theorem Sound.makesWay (h : a.Sound messages bytes) (size : Nat) :
    ∃ gone, MakesWay messages bytes size a.pending gone (a.makeRoom size).1.pending := by
  fun_induction Assembly.makeRoom a size with
  | case1 a _ hnone => exact ⟨[], .none (Or.inl ((a.choices 0).eq_nil hnone))⟩
  | case2 a hfull p hp _ ih =>
    have hfound := h.get?_eq ((a.choices 0).mem hp) (Partial.hasKey_iff.2 ⟨rfl, rfl⟩)
    obtain ⟨hsound, -⟩ := h.remove p.sender p.sequence
    simp only [Assembly.remove, hfound] at hsound
    obtain ⟨gone, hgone⟩ := ih (hsound.choices _)
    exact ⟨p :: gone, hgone.cons (perm_eraseKey hfound) List.eraseP_sublist ((a.choices 0).least hp)
      fun hroom => h.roomy_iff.1 hroom hfull⟩
  | case3 a hroom => exact ⟨[], .none (Or.inr (h.roomy_iff.2 hroom))⟩

/-! ## The other messages -/

/-- The messages under way with other keys than number `q` of `s`. -/
def others (a : Assembly) (s : Sender) (q : UInt32) : List Partial := a.pending.filter fun p => !p.hasKey s q

theorem filter_eraseKey_others (ps : List Partial) :
    (eraseKey s q ps).filter (fun p => !p.hasKey s q) = ps.filter fun p => !p.hasKey s q := by
  unfold eraseKey
  induction ps with
  | nil => rfl
  | cons p ps ih =>
    cases hk : p.hasKey s q with
    | true =>
      rw [List.eraseP_cons_of_pos (p := fun p : Partial => p.hasKey s q) hk, List.filter_cons_of_neg (by simp [hk])]
    | false =>
      rw [List.eraseP_cons_of_neg (p := fun p : Partial => p.hasKey s q) (by simp [hk]), List.filter_cons,
        List.filter_cons, ih]

theorem others_remove (a : Assembly) (s : Sender) (q : UInt32) : (a.remove s q).others s q = a.others s q := by
  unfold remove
  split
  · rfl
  · exact filter_eraseKey_others a.pending

theorem others_replace (a : Assembly) (hp : p.hasKey s q = true) : (a.replace p).others s q = a.others s q := by
  obtain ⟨hs, hq⟩ := Partial.hasKey_iff.1 hp
  show (a.pending.map fun x => if x.hasKey p.sender p.sequence then p else x).filter (fun x => !x.hasKey s q) =
    a.pending.filter fun x => !x.hasKey s q
  rw [hs, hq]
  induction a.pending with
  | nil => rfl
  | cons x xs ih =>
    cases hx : x.hasKey s q with
    | true =>
      simp only [List.map_cons, List.filter_cons, hx, hp, if_true, Bool.not_true, Bool.false_eq_true, if_false, ih]
    | false =>
      simp only [List.map_cons, List.filter_cons, hx, Bool.false_eq_true, if_false, Bool.not_false, if_true, ih]

/-- Where nothing is under way with the key, all messages are others. -/
theorem others_of_none (h : a.get? s q = none) : a.others s q = a.pending := by
  refine List.filter_eq_self.2 fun p hp => ?_
  rw [Bool.eq_false_iff.2 (List.find?_eq_none.1 h p hp)]
  rfl

/-- A message that is begun is no other to its own fragments. -/
theorem others_enter (a : Assembly) (s : Sender) (f : Fragment) (now : Instant) (received : Timestamp) :
    (a.enter s f now received).1.others s f.sequence = (a.makeRoom f.size.toNat).1.others s f.sequence := by
  have hk : (blank s f now received).hasKey s f.sequence = true := Partial.hasKey_iff.2 ⟨rfl, rfl⟩
  rw [enter_eq, others, others, List.filter_append, List.filter_cons_of_neg (by simp [hk]), List.filter_nil,
    List.append_nil]

/-- Once its message is found or begun, a fragment leaves the other messages as they are. -/
theorem others_insert (hsmall : ¬ a.maxBytes < f.size.toNat) :
    (a.insert s f now received).1.others s f.sequence =
      ((a.evictStale now).1.findOrBegin s f now received).1.others s f.sequence := by
  have hsmall : ¬ (a.evictStale now).1.maxBytes < f.size.toNat := hsmall
  obtain ⟨hsender, hseq⟩ := key_findOrBegin (a.evictStale now).1 s f now received
  simp only [insert, if_neg hsmall]
  generalize (a.evictStale now).1.findOrBegin s f now received = found at hsender hseq ⊢
  obtain ⟨b, p, events⟩ := found
  simp only at hsender hseq ⊢
  cases hp : place { p with lastTouch := now } f with
  | none => exact others_replace b (Partial.hasKey_iff.2 ⟨hsender, hseq⟩)
  | some x =>
    obtain ⟨hxs, hxq⟩ := key_of_place hp
    simp only
    split
    · exact others_remove b s f.sequence
    · exact others_replace b (Partial.hasKey_iff.2 ⟨hxs.trans hsender, hxq.trans hseq⟩)

/-- A message is begun once one of its key and another shape was removed. -/
theorem findOrBegin_of_begins {x : Arrival} (h : a.begins x = true) :
    ((a.evictStale x.now).1.findOrBegin x.sender x.fragment x.now x.received).1 =
      (((a.evictStale x.now).1.remove x.sender x.fragment.sequence).enter x.sender x.fragment x.now x.received).1 := by
  unfold begins at h
  cases hfound : (a.evictStale x.now).1.get? x.sender x.fragment.sequence with
  | none => simp only [findOrBegin, remove, hfound]
  | some p =>
    rw [hfound, Option.all_some, Bool.not_eq_true'] at h
    simp only [findOrBegin, hfound, h, Bool.false_eq_true, if_false]

/-- A fragment of a message that is under way takes nobody's place. -/
theorem findOrBegin_of_not_begins {x : Arrival} (h : a.begins x = false) :
    ((a.evictStale x.now).1.findOrBegin x.sender x.fragment x.now x.received).1 = (a.evictStale x.now).1 := by
  unfold begins at h
  cases hfound : (a.evictStale x.now).1.get? x.sender x.fragment.sequence with
  | none =>
    rw [hfound] at h
    cases h
  | some p =>
    rw [hfound, Option.all_some, Bool.not_eq_false'] at h
    simp only [findOrBegin, hfound, h, if_true]

/-! ## What a fragment does to the other messages -/

/-- The message does not wait too long. -/
theorem isStale_eq_false_iff : a.isStale now p = false ↔ now - p.lastTouch ≤ a.timeout := by
  rw [isStale, decide_eq_false_iff_not, Nat.not_lt]

/-- Giving up what has waited too long leaves nothing that has. -/
theorem evictStale_evictStale (a : Assembly) (now : Instant) :
    ((a.evictStale now).1.evictStale now).1 = (a.evictStale now).1 := by
  have hnone : (a.evictStale now).1.pending.filter ((a.evictStale now).1.isStale now) = [] := by
    refine List.filter_eq_nil_iff.2 fun p hp => ?_
    have hfresh := (List.mem_filter.1 hp).2
    rw [Bool.not_eq_true'] at hfresh
    exact Bool.eq_false_iff.1 hfresh
  have hall : ((a.evictStale now).1.pending.filter fun p => !(a.evictStale now).1.isStale now p) =
      (a.evictStale now).1.pending := by
    refine List.filter_eq_self.2 fun p hp => ?_
    exact (List.mem_filter.1 hp).2
  rw [evictStale, hnone, hall]
  rfl

/-- A fragment does to the table what it does once those are gone that have waited too long. -/
theorem insert_evictStale (a : Assembly) (s : Sender) (f : Fragment) (now : Instant) (received : Timestamp) :
    ((a.evictStale now).1.insert s f now received).1 = (a.insert s f now received).1 := by
  simp only [insert, evictStale_evictStale]
  split
  · rfl
  · split
    · rfl
    · split <;> rfl

/-- What becomes of the messages in a table `a` with the given bounds when the fragment of `x` comes in. The table
afterwards is `g`. -/
structure Clears (timeout messages bytes : Nat) (x : Arrival) (a g : Assembly) : Prop where
  /-- Those that have waited too long are given up, and no others. -/
  fresh : ∀ p, p ∈ (a.evictStale x.now).1.pending ↔ p ∈ a.pending ∧ x.now - p.lastTouch ≤ timeout
  /-- This comes first. -/
  first : g = ((a.evictStale x.now).1.feed x).1
  /-- Nobody else leaves for a message that is too long. -/
  long : bytes < x.fragment.size.toNat → g = (a.evictStale x.now).1
  /-- Nobody else leaves for a fragment of a message that is under way. -/
  known : a.begins x = false →
    g.others x.sender x.fragment.sequence = (a.evictStale x.now).1.others x.sender x.fragment.sequence
  /-- If the fragment begins a message, others make way for it. -/
  new : x.fragment.size.toNat ≤ bytes → a.begins x = true → ∃ gone,
    MakesWay messages bytes x.fragment.size.toNat
      ((a.evictStale x.now).1.others x.sender x.fragment.sequence) gone (g.others x.sender x.fragment.sequence)
  /-- The message of the fragment, if it is then under way, was last touched when the fragment came in. -/
  touched : x.fragment.size.toNat ≤ bytes → ∀ p, g.get? x.sender x.fragment.sequence = some p → p.lastTouch = x.now

theorem Sound.clears {timeout : Nat} (h : a.Sound messages bytes) (htimeout : a.timeout = timeout) (x : Arrival) :
    a.Clears timeout messages bytes x (a.feed x).1 := by
  obtain ⟨hfresh, -⟩ := h.evictStale x.now
  have hlong : bytes < x.fragment.size.toNat → (a.feed x).1 = (a.evictStale x.now).1 := fun hlong =>
    (feed_of_long (by rwa [h.maxBytes_eq])).1
  constructor
  case fresh =>
    intro p
    show p ∈ a.pending.filter (fun p => !a.isStale x.now p) ↔ _
    rw [List.mem_filter, Bool.not_eq_true', isStale_eq_false_iff, htimeout]
  case first => exact (insert_evictStale a x.sender x.fragment x.now x.received).symm
  case long => exact hlong
  case known =>
    intro hknown
    by_cases hsmall : bytes < x.fragment.size.toNat
    · rw [hlong hsmall]
    · rw [feed, others_insert (by rwa [h.maxBytes_eq]), findOrBegin_of_not_begins hknown]
  case new =>
    intro hsize hbegins
    -- without a message of the same key the table holds the others, and they make way
    obtain ⟨hremoved, -, hnone⟩ := hfresh.remove x.sender x.fragment.sequence
    obtain ⟨gone, hgone⟩ := hremoved.makesWay x.fragment.size.toNat
    have hkept : (((a.evictStale x.now).1.remove x.sender x.fragment.sequence).makeRoom
        x.fragment.size.toNat).1.get? x.sender x.fragment.sequence = none :=
      List.find?_eq_none.2 fun p hp => List.find?_eq_none.1 hnone p (hgone.order.subset hp)
    refine ⟨gone, ?_⟩
    rw [feed, others_insert (by rw [h.maxBytes_eq]; exact Nat.not_lt.2 hsize), findOrBegin_of_begins hbegins,
      others_enter, others_of_none hkept, ← others_remove, others_of_none hnone]
    exact hgone
  case touched =>
    intro hsize p hp
    obtain ⟨-, hunder⟩ := h.feed_own hsize rfl
    rw [← hunder p hp]
    exact lastTouch_joined _ x

theorem timeout_performAll (timeout messages bytes : Nat) (choices : Nat → Choice) (calls : List Call) :
    ((new timeout messages bytes choices).performAll calls).timeout = timeout := by
  induction calls using List.reverseRecOn with
  | nil => rfl
  | append_singleton calls call ih =>
    rw [performAll_concat]
    cases call with
    | insert x => exact (limits_insert ..).2.trans ih
    | evict now => exact ih

/-- Whatever has come in before, a fragment costs other messages their place as follows and not otherwise. Those that
have waited too long are given up first. Nobody leaves for a message that is too long, or for one that is under way. For
a message that is begun others leave, none of them touched later than any that stays, and only as long as there is no
room. All that stay are what they were. The message of the fragment itself was then touched last when the fragment came
in. -/
theorem arrival_clears (timeout messages bytes : Nat) (choices : Nat → Choice) (calls : List Call) (x : Arrival) :
    ((new timeout messages bytes choices).performAll calls).Clears timeout messages bytes x
      (((new timeout messages bytes choices).performAll calls).perform (.insert x)).1 :=
  (sound_performAll timeout messages bytes choices calls).clears
    (timeout_performAll timeout messages bytes choices calls) x

end Assembly
end PubSub.Wire
