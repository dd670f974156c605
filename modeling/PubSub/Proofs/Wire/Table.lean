import Mathlib.Data.List.Nodup
import PubSub.Proofs.Wire.Reassembly
import PubSub.Wire.Guarded

/-!
# The table of messages under way

Whatever fragments come in, well made or not, and whenever messages are given up, the table of an assembly stays within
its bounds and its counters stay in step with it.

* `Assembly.Call`, `Assembly.perform`: what is asked of an assembly, and what comes of it.
* `Assembly.perform?`: the same with every access checked.
* `Partial.Counted`: the counter of a message under way.
* `Assembly.Sound`: the table, its bounds and its counters.

Results:

* `Assembly.Sound.makeRoom`, `Assembly.Sound.findOrBegin`, `Assembly.Sound.insert`: what each step keeps, and that it
  stays within bounds.
* `Assembly.calls_keep_table`: what any number of calls keep.
-/

namespace PubSub.Wire

variable {s : Sender} {q : UInt32} {p x : Partial} {ps : List Partial} {f : Fragment} {now : Instant}
  {received : Timestamp} {messages bytes : Nat}

/-! ## Payload bytes -/

theorem payloadBytes_append (ps rs : List Partial) : payloadBytes (ps ++ rs) = payloadBytes ps + payloadBytes rs := by
  induction ps with
  | nil => exact (Nat.zero_add _).symm
  | cons p ps ih => rw [List.cons_append, payloadBytes, payloadBytes, ih, Nat.add_assoc]

theorem payloadBytes_filter (ps : List Partial) (keep : Partial → Bool) :
    payloadBytes (ps.filter fun p => !keep p) + payloadBytes (ps.filter keep) = payloadBytes ps := by
  induction ps with
  | nil => rfl
  | cons p ps ih =>
    cases hk : keep p with
    | true =>
      simp only [List.filter_cons, hk, Bool.not_true, Bool.false_eq_true, if_false, if_true, payloadBytes]
      omega
    | false =>
      simp only [List.filter_cons, hk, Bool.not_false, Bool.false_eq_true, if_false, if_true, payloadBytes]
      omega

/-- The bytes of the message that is taken out are those that the rest has less. -/
theorem payloadBytes_eraseKey (h : ps.find? (fun p => p.hasKey s q) = some x) :
    payloadBytes (Assembly.eraseKey s q ps) + x.data.size = payloadBytes ps := by
  unfold Assembly.eraseKey
  induction ps with
  | nil => cases h
  | cons p ps ih =>
    cases hk : p.hasKey s q with
    | true =>
      rw [List.find?_cons_of_pos (p := fun p : Partial => p.hasKey s q) hk] at h
      cases h
      rw [List.eraseP_cons_of_pos (p := fun p : Partial => p.hasKey s q) hk, payloadBytes, Nat.add_comm]
    | false =>
      have hk' : ¬ p.hasKey s q = true := Bool.eq_false_iff.1 hk
      rw [List.find?_cons_of_neg (p := fun p : Partial => p.hasKey s q) hk'] at h
      rw [List.eraseP_cons_of_neg (p := fun p : Partial => p.hasKey s q) hk', payloadBytes, payloadBytes, Nat.add_assoc,
        ih h]

theorem payloadBytes_map {change : Partial → Partial} (h : ∀ p ∈ ps, (change p).data.size = p.data.size) :
    payloadBytes (ps.map change) = payloadBytes ps := by
  induction ps with
  | nil => rfl
  | cons p ps ih =>
    rw [List.map_cons, payloadBytes, payloadBytes, h p List.mem_cons_self]
    rw [ih fun r hr => h r (List.mem_cons_of_mem _ hr)]

/-! ## Counters -/

/-- The sender and the sequence number of a message. -/
def Partial.key (p : Partial) : Sender × UInt32 := (p.sender, p.sequence)

theorem Partial.hasKey_iff_key : p.hasKey s q = true ↔ p.key = (s, q) := by
  rw [Partial.hasKey_iff, Partial.key, Prod.mk.injEq]

/-- The counter of a message under way tells how many of its fragments are missing, and one is missing if it has any. -/
structure Partial.Counted (p : Partial) : Prop where
  remaining_eq : p.remaining = p.received.count false
  missing : p.received.size ≠ 0 → false ∈ p.received

namespace Assembly

theorem counted_blank (s : Sender) (f : Fragment) (now : Instant) (received : Timestamp) :
    (blank s f now received).Counted := by
  refine ⟨?_, fun h => ?_⟩
  · show f.count.toNat = (Array.replicate f.count.toNat false).count false
    rw [Array.count_replicate_self]
  · show false ∈ Array.replicate f.count.toNat false
    rw [blank, Array.size_replicate] at h
    exact Array.mem_replicate.2 ⟨h, rfl⟩

/-- Placing a fragment takes place within the payload and the flags. -/
theorem place?_eq (hp : p.remaining = p.received.count false) : place? p f = some (place p f) := by
  unfold place? place
  by_cases hindex : p.received.size ≤ f.index.toNat
  · have hnone : p.received[f.index.toNat]? = none := Array.getElem?_eq_none hindex
    simp only [hindex, true_or, if_true, hnone, pure]
  have hlt : f.index.toNat < p.received.size := Nat.lt_of_not_le hindex
  have hflag : p.received[f.index.toNat]? = some p.received[f.index.toNat] := Array.getElem?_eq_getElem hlt
  by_cases hbound : p.data.size < f.offset.toNat + f.data.size
  · simp only [hbound, or_true, if_true, hflag, pure]
    split <;> rfl
  rw [if_neg (not_or.2 ⟨hindex, hbound⟩)]
  cases hcome : p.received[f.index.toNat] with
  | true => simp only [hflag, hcome, bind, Option.bind, if_true, pure]
  | false =>
    have hpos : 1 ≤ p.remaining := by
      rw [hp]
      exact Array.count_pos_iff.2 (hcome ▸ Array.getElem_mem hlt)
    have hover : Bytes.overwrite? p.data f.offset.toNat (f.offset.toNat + f.data.size) f.data =
        some (f.data.copySlice 0 p.data f.offset.toNat f.data.size) :=
      if_pos ⟨Nat.le_add_right .., Nat.le_of_not_lt hbound, (Nat.add_sub_cancel_left ..).symm⟩
    simp only [hflag, hcome, bind, Option.bind, Bool.false_eq_true, if_false, hbound, less?, if_pos hpos, hover, pure]

/-- A fragment is placed if it has not come in before and its data fit. -/
theorem place_eq_some_iff : place p f = some x ↔
    p.received[f.index.toNat]? = some false ∧ f.offset.toNat + f.data.size ≤ p.data.size ∧ x = Cut.placed p f := by
  unfold place
  split
  · rename_i hflag
    split
    · rename_i hbound
      exact iff_of_false (Option.some_ne_none _).symm fun h => absurd h.2.1 (Nat.not_le.2 hbound)
    · rename_i hbound
      rw [Option.some.injEq, eq_comm]
      exact ⟨fun h => ⟨hflag, Nat.le_of_not_lt hbound, h⟩, fun h => h.2.2⟩
  · rename_i hflag
    exact iff_of_false (Option.some_ne_none _).symm fun h => absurd h.1 hflag

/-- Of a message with one fragment more, one fragment less is missing. -/
theorem remaining_placed (hflag : p.received[f.index.toNat]? = some false) (hp : p.remaining = p.received.count false) :
    (Cut.placed p f).remaining = (Cut.placed p f).received.count false := by
  obtain ⟨hlt, hcome⟩ := Array.getElem?_eq_some_iff.1 hflag
  show p.remaining - 1 = (p.received.setIfInBounds f.index.toNat true).count false
  rw [Array.setIfInBounds, dif_pos hlt, Array.count_set hlt, hcome, hp]
  rfl

theorem remove_sublist (a : Assembly) (s : Sender) (q : UInt32) : (a.remove s q).pending.Sublist a.pending := by
  unfold remove
  split
  · exact List.Sublist.refl _
  · exact List.eraseP_sublist

/-! ## The table -/

/-- The table of an assembly with the bounds `messages` and `bytes`. No two messages have the same key, the counter of
each is right, and the messages and their payload bytes stay within the bounds, except for one single message where none
is allowed. -/
structure Sound (messages bytes : Nat) (a : Assembly) : Prop where
  maxMessages_eq : a.maxMessages = messages
  maxBytes_eq : a.maxBytes = bytes
  keys : (a.pending.map Partial.key).Nodup
  counted : ∀ p ∈ a.pending, p.Counted
  pendingBytes_eq : a.pendingBytes = payloadBytes a.pending
  pendingBytes_le : a.pendingBytes ≤ bytes
  length_le : a.pending.length ≤ max 1 messages

theorem sound_new (timeout messages bytes : Nat) (choices : Nat → Choice) :
    (new timeout messages bytes choices).Sound messages bytes where
  maxMessages_eq := rfl
  maxBytes_eq := rfl
  keys := List.nodup_nil
  counted _ hp := absurd hp List.not_mem_nil
  pendingBytes_eq := rfl
  pendingBytes_le := Nat.zero_le _
  length_le := Nat.zero_le _

namespace Sound

variable {a : Assembly}

/-- A message is found under its key. -/
theorem get?_eq (h : a.Sound messages bytes) (hp : p ∈ a.pending) (hk : p.hasKey s q = true) : a.get? s q = some p := by
  cases hfound : a.get? s q with
  | none => exact absurd hk (List.find?_eq_none.1 hfound p hp)
  | some x =>
    have hkey : x.key = p.key :=
      (Partial.hasKey_iff_key.1 (hasKey_of_get? hfound)).trans (Partial.hasKey_iff_key.1 hk).symm
    rw [List.inj_on_of_nodup_map h.keys (List.mem_of_find?_eq_some hfound) hp hkey]

/-- Messages can leave the table, if their bytes are taken off. -/
theorem thin {b : Assembly} (h : a.Sound messages bytes) (hmessages : b.maxMessages = a.maxMessages)
    (hbytes : b.maxBytes = a.maxBytes) (hsub : b.pending.Sublist a.pending)
    (heq : b.pendingBytes = payloadBytes b.pending) (hle : b.pendingBytes ≤ a.pendingBytes) :
    b.Sound messages bytes where
  maxMessages_eq := hmessages.trans h.maxMessages_eq
  maxBytes_eq := hbytes.trans h.maxBytes_eq
  keys := h.keys.sublist (hsub.map _)
  counted p hp := h.counted p (hsub.subset hp)
  pendingBytes_eq := heq
  pendingBytes_le := hle.trans h.pendingBytes_le
  length_le := hsub.length_le.trans h.length_le

/-- How messages that make way are found does not matter to the table. -/
theorem choices (h : a.Sound messages bytes) (choices : Nat → Choice) : Sound messages bytes { a with choices } :=
  { h with }

/-! ### Giving up -/

theorem foldlM_less? {ps : List Partial} {n : Nat} (h : payloadBytes ps ≤ n) :
    ps.foldlM (fun n p => less? n p.data.size) n = some (n - payloadBytes ps) := by
  induction ps generalizing n with
  | nil => rfl
  | cons p ps ih =>
    rw [payloadBytes] at h
    have hp : p.data.size ≤ n := by omega
    have hps : payloadBytes ps ≤ n - p.data.size := by omega
    rw [List.foldlM_cons, less?, if_pos hp, payloadBytes, Nat.sub_add_eq]
    exact ih hps

/-- Giving up what has waited too long keeps the table, and takes off no more bytes than there are. -/
theorem evictStale (h : a.Sound messages bytes) (now : Instant) :
    (a.evictStale now).1.Sound messages bytes ∧ a.evictStale? now = some (a.evictStale now).1 := by
  have hsplit := payloadBytes_filter a.pending (a.isStale now)
  have heq := h.pendingBytes_eq
  refine ⟨h.thin rfl rfl List.filter_sublist ?_ (Nat.sub_le ..), ?_⟩
  · show a.pendingBytes - payloadBytes (a.pending.filter (a.isStale now)) =
      payloadBytes (a.pending.filter fun p => !a.isStale now p)
    omega
  · rw [evictStale?, foldlM_less? (by omega)]
    rfl

/-- There is one message under the key of a message. -/
theorem entries_eq (h : a.Sound messages bytes) (hfound : a.get? s q = some p) : a.entries s q = [p] := by
  rw [get?_eq_head?, List.head?_eq_some_iff] at hfound
  obtain ⟨rest, hentries⟩ := hfound
  cases rest with
  | nil => exact hentries
  | cons y rest =>
    have hy : y ∈ a.entries s q := hentries ▸ List.mem_cons_of_mem _ List.mem_cons_self
    obtain ⟨hmem, hk⟩ := List.mem_filter.1 hy
    have hsame := h.get?_eq hmem hk
    rw [get?_eq_head?, hentries, List.head?_cons, Option.some.injEq] at hsame
    have hnodup : (a.entries s q).Nodup := h.keys.of_map.filter _
    rw [hentries, hsame] at hnodup
    exact absurd List.mem_cons_self (List.nodup_cons.1 hnodup).1

/-- A message under way has no more bytes than all of them together. -/
theorem size_le (h : a.Sound messages bytes) (hfound : a.get? s q = some p) : p.data.size ≤ a.pendingBytes := by
  have hbytes := payloadBytes_eraseKey hfound
  have heq := h.pendingBytes_eq
  omega

/-- Removing a message keeps the table, and no message with its key is left. -/
theorem remove (h : a.Sound messages bytes) (s : Sender) (q : UInt32) :
    (a.remove s q).Sound messages bytes ∧ a.remove? s q = some (a.remove s q) ∧ (a.remove s q).get? s q = none := by
  cases hfound : a.get? s q with
  | none =>
    have heq : a.remove s q = a := by simp only [Assembly.remove, hfound]
    have hchecked : a.remove? s q = some a := by simp only [remove?, hfound]
    rw [heq]
    exact ⟨h, hchecked, hfound⟩
  | some p =>
    have hbytes := payloadBytes_eraseKey hfound
    have heq := h.pendingBytes_eq
    have hsub := a.remove_sublist s q
    have hnone : (a.remove s q).get? s q = none := by
      rw [get?_eq_head?, entries_remove_own, h.entries_eq hfound]
      rfl
    have hremove : a.remove s q =
        { a with pending := eraseKey s q a.pending, pendingBytes := a.pendingBytes - p.data.size } := by
      simp only [Assembly.remove, hfound]
    rw [hremove] at hsub hnone ⊢
    refine ⟨h.thin rfl rfl hsub ?_ (Nat.sub_le ..), ?_, hnone⟩
    · show a.pendingBytes - p.data.size = payloadBytes (eraseKey s q a.pending)
      omega
    · simp only [remove?, hfound, less?, if_pos (h.size_le hfound), bind, Option.bind, pure]

/-- Making way keeps the table, and leaves room or nothing at all. -/
theorem makeRoom (h : a.Sound messages bytes) (n : Nat) :
    (a.makeRoom n).1.Sound messages bytes ∧ a.makeRoom? n = some (a.makeRoom n).1 ∧
      (a.makeRoom n).1.pending.Sublist a.pending ∧
      ((a.makeRoom n).1.pending = [] ∨
        (a.makeRoom n).1.pending.length < messages ∧ (a.makeRoom n).1.pendingBytes + n ≤ bytes) := by
  fun_induction Assembly.makeRoom a n with
  | case1 a hfull hnone =>
    rw [makeRoom?, if_pos hfull]
    refine ⟨h, ?_, List.Sublist.refl _, Or.inl ((a.choices 0).eq_nil hnone)⟩
    split
    · rfl
    · rename_i hsome
      rw [hnone] at hsome
      cases hsome
  | case2 a hfull p hp _ ih =>
    -- the message that makes way is the one under its key, so it is its bytes that are taken off
    have hfound := h.get?_eq ((a.choices 0).mem hp) (Partial.hasKey_iff.2 ⟨rfl, rfl⟩)
    obtain ⟨hsound, -⟩ := h.remove p.sender p.sequence
    have hsub := a.remove_sublist p.sender p.sequence
    simp only [Assembly.remove, hfound] at hsound hsub
    obtain ⟨ihsound, ihchecked, ihsub, ihroom⟩ := ih (hsound.choices _)
    refine ⟨ihsound, ?_, ihsub.trans hsub, ihroom⟩
    rw [makeRoom?, if_pos hfull]
    split
    · rename_i hnone
      rw [hp] at hnone
      cases hnone
    · rename_i x hx
      rw [hp, Option.some.injEq] at hx
      subst hx
      simp only [less?, if_pos (h.size_le hfound), bind, Option.bind]
      exact ihchecked
  | case3 a hroom =>
    rw [makeRoom?, if_neg hroom]
    rw [not_or, Nat.not_le, Nat.not_lt, h.maxMessages_eq, h.maxBytes_eq] at hroom
    exact ⟨h, rfl, List.Sublist.refl _, Or.inr hroom⟩

/-! ### Beginning and changing -/

/-- A message of a new key can be added where there is room for it. -/
theorem add (h : a.Sound messages bytes) (hother : ∀ r ∈ a.pending, r.hasKey p.sender p.sequence ≠ true)
    (hp : p.Counted) (hbytes : a.pendingBytes + p.data.size ≤ bytes) (hlength : a.pending.length + 1 ≤ max 1 messages) :
    Sound messages bytes
      { a with pending := a.pending ++ [p], pendingBytes := a.pendingBytes + p.data.size } where
  maxMessages_eq := h.maxMessages_eq
  maxBytes_eq := h.maxBytes_eq
  keys := by
    rw [List.map_append, List.map_cons, List.map_nil, List.nodup_append]
    refine ⟨h.keys, List.nodup_singleton _, fun key hkey key' hkey' => ?_⟩
    obtain ⟨r, hr, rfl⟩ := List.mem_map.1 hkey
    rw [List.mem_singleton.1 hkey']
    exact fun heq => hother r hr (Partial.hasKey_iff_key.2 heq)
  counted r hr := (List.mem_append.1 hr).elim (h.counted r) fun hr => List.mem_singleton.1 hr ▸ hp
  pendingBytes_eq := by
    show a.pendingBytes + p.data.size = payloadBytes (a.pending ++ [p])
    rw [payloadBytes_append, payloadBytes, payloadBytes, h.pendingBytes_eq, Nat.add_zero]
  pendingBytes_le := hbytes
  length_le := by
    rw [List.length_append, List.length_singleton]
    exact hlength

/-- Where no message has its key, a message of a permitted length is begun. -/
theorem enter (h : a.Sound messages bytes) (hnone : a.get? s f.sequence = none) (hsize : f.size.toNat ≤ bytes)
    (now : Instant) (received : Timestamp) :
    (a.enter s f now received).1.Sound messages bytes ∧
      a.enter? s f now received = some (a.enter s f now received).1 ∧
      (a.enter s f now received).1.get? s f.sequence = some (blank s f now received) := by
  obtain ⟨hsound, hchecked, hsub, hroom⟩ := h.makeRoom f.size.toNat
  rw [enter_eq]
  simp only [enter?, hchecked, bind, Option.bind, pure]
  generalize (a.makeRoom f.size.toNat).1 = b at hsound hsub hroom ⊢
  have hother : ∀ r ∈ b.pending, r.hasKey s f.sequence ≠ true :=
    fun r hr => List.find?_eq_none.1 hnone r (hsub.subset hr)
  have hnew : (blank s f now received).hasKey s f.sequence = true := Partial.hasKey_iff.2 ⟨rfl, rfl⟩
  have hblank : (blank s f now received).data.size = f.size.toNat := Bytes.size_replicate ..
  have hbytes : b.pendingBytes + f.size.toNat ≤ bytes := by
    obtain hnil | ⟨-, hbytes⟩ := hroom
    · rw [hsound.pendingBytes_eq, hnil, payloadBytes, Nat.zero_add]
      exact hsize
    · exact hbytes
  have hlength : b.pending.length + 1 ≤ max 1 messages := by
    obtain hnil | ⟨hlength, -⟩ := hroom
    · rw [hnil, List.length_nil]
      exact Nat.le_max_left ..
    · exact Nat.le_trans hlength (Nat.le_max_right ..)
  have hadded := hsound.add hother (counted_blank s f now received) (hblank.symm ▸ hbytes) hlength
  rw [hblank] at hadded
  refine ⟨hadded, trivial, ?_⟩
  show List.find? _ (b.pending ++ [_]) = _
  rw [List.find?_append, List.find?_eq_none.2 hother, Option.none_or,
    List.find?_cons_of_pos (p := fun p : Partial => p.hasKey s f.sequence) hnew]

/-- After a fragment has found its message, or begun it, the message is under its key. -/
theorem findOrBegin (h : a.Sound messages bytes) (hsize : f.size.toNat ≤ bytes) (s : Sender) (now : Instant)
    (received : Timestamp) :
    (a.findOrBegin s f now received).1.Sound messages bytes ∧
      a.findOrBegin? s f now received = some (a.findOrBegin s f now received).1 ∧
      (a.findOrBegin s f now received).1.get? s f.sequence = some (a.findOrBegin s f now received).2.1 := by
  cases hfound : a.get? s f.sequence with
  | none =>
    simp only [Assembly.findOrBegin, findOrBegin?, hfound]
    exact h.enter hfound hsize now received
  | some p =>
    by_cases hshape : sameShape f p = true
    · simp only [Assembly.findOrBegin, findOrBegin?, hfound, if_pos hshape]
      exact ⟨h, rfl, trivial⟩
    · obtain ⟨hsound, hchecked, hnone⟩ := h.remove s f.sequence
      simp only [Assembly.findOrBegin, findOrBegin?, hfound, if_neg hshape, hchecked, bind, Option.bind]
      exact hsound.enter hnone hsize now received

/-- A message can be replaced by one of the same key and length. -/
theorem replace (h : a.Sound messages bytes) (hfound : a.get? p.sender p.sequence = some x)
    (hsize : p.data.size = x.data.size) (hp : p.Counted) : (a.replace p).Sound messages bytes := by
  have hown : ∀ r ∈ a.pending, r.hasKey p.sender p.sequence = true → r = x := fun r hr hk => by
    have hr' := h.get?_eq hr hk
    rw [hfound, Option.some.injEq] at hr'
    exact hr'.symm
  have hkeys : (a.replace p).pending.map Partial.key = a.pending.map Partial.key := by
    rw [Assembly.replace, List.map_map]
    refine List.map_congr_left fun r _ => ?_
    show (if r.hasKey p.sender p.sequence then p else r).key = r.key
    split
    · rename_i hk
      exact (Partial.hasKey_iff_key.1 hk).symm
    · rfl
  have hbytes : payloadBytes (a.replace p).pending = payloadBytes a.pending := by
    refine payloadBytes_map fun r hr => ?_
    split
    · rename_i hk
      rw [hown r hr hk, hsize]
    · rfl
  refine ⟨h.maxMessages_eq, h.maxBytes_eq, hkeys ▸ h.keys, fun r hr => ?_, hbytes ▸ h.pendingBytes_eq,
    h.pendingBytes_le, ?_⟩
  · obtain ⟨y, hy, rfl⟩ := List.mem_map.1 hr
    split
    · exact hp
    · exact h.counted y hy
  · show (a.pending.map _).length ≤ max 1 messages
    rw [List.length_map]
    exact h.length_le

/-- Adding a fragment keeps the table and stays within bounds, whatever the fragment tells. -/
theorem insert (h : a.Sound messages bytes) (s : Sender) (f : Fragment) (now : Instant) (received : Timestamp) :
    (a.insert s f now received).1.Sound messages bytes ∧
      a.insert? s f now received = some ((a.insert s f now received).1, (a.insert s f now received).2.1) := by
  obtain ⟨hsound, hchecked⟩ := h.evictStale now
  simp only [Assembly.insert, insert?, hchecked, bind, Option.bind]
  by_cases hbig : (a.evictStale now).1.maxBytes < f.size.toNat
  · rw [if_pos hbig, if_pos hbig]
    exact ⟨hsound, rfl⟩
  rw [if_neg hbig, if_neg hbig]
  rw [Nat.not_lt, hsound.maxBytes_eq] at hbig
  obtain ⟨hbsound, hbchecked, hfound⟩ := hsound.findOrBegin hbig s now received
  obtain ⟨hsender, hseq⟩ := key_findOrBegin (a.evictStale now).1 s f now received
  generalize (a.evictStale now).1.findOrBegin s f now received = begun at hbsound hbchecked hfound hsender hseq ⊢
  obtain ⟨b, p, events⟩ := begun
  simp only at hbsound hbchecked hfound hsender hseq ⊢
  have hcounted : p.Counted := hbsound.counted p (List.mem_of_find?_eq_some hfound)
  have hplace : place? { p with lastTouch := now } f = some (place { p with lastTouch := now } f) :=
    place?_eq hcounted.remaining_eq
  subst hsender
  rw [← hseq] at hfound
  have htouched : ({ p with lastTouch := now } : Partial).Counted := ⟨hcounted.remaining_eq, hcounted.missing⟩
  simp only [hbchecked, ← hseq, hfound, hplace]
  cases hq : place { p with lastTouch := now } f with
  | none => exact ⟨hbsound.replace hfound rfl htouched, rfl⟩
  | some q =>
    obtain ⟨hflag, hfit, rfl⟩ := place_eq_some_iff.1 hq
    simp only
    by_cases hdone : (Cut.placed { p with lastTouch := now } f).remaining = 0
    · obtain ⟨hremoved, hrchecked, -⟩ := hbsound.remove p.sender p.sequence
      simp only [if_pos hdone, hrchecked, pure]
      exact ⟨hremoved, trivial⟩
    · -- what is not complete has a fragment missing, so the table may keep it
      rw [if_neg hdone, if_neg hdone]
      have hremaining := remaining_placed hflag htouched.remaining_eq
      refine ⟨hbsound.replace hfound (Bytes.size_copySlice hfit) ⟨hremaining, fun _ => ?_⟩, rfl⟩
      rw [hremaining] at hdone
      exact Array.count_pos_iff.1 (Nat.pos_of_ne_zero hdone)

end Sound

/-! ## Any calls -/

/-- What is asked of an assembly: to add a fragment that comes in, or to give up what has waited too long. -/
inductive Call
  | insert (x : Arrival)
  | evict (now : Instant)

/-- The assembly after a call, and the message that the call completes. -/
def perform (a : Assembly) : Call → Assembly × Option Message
  | .insert x => ((a.feed x).1, (a.feed x).2.1)
  | .evict now => ((a.evictStale now).1, none)

/-- A call with every access checked. -/
def perform? (a : Assembly) : Call → Option (Assembly × Option Message)
  | .insert x => a.insert? x.sender x.fragment x.now x.received
  | .evict now => (a.evictStale? now).map fun b => (b, none)

/-- The assembly after some calls. -/
def performAll (a : Assembly) (calls : List Call) : Assembly := calls.foldl (fun a call => (a.perform call).1) a

theorem performAll_concat (a : Assembly) (calls : List Call) (call : Call) :
    a.performAll (calls ++ [call]) = ((a.performAll calls).perform call).1 := by
  rw [performAll, List.foldl_append]
  rfl

theorem Sound.perform {a : Assembly} (h : a.Sound messages bytes) (call : Call) :
    (a.perform call).1.Sound messages bytes ∧ a.perform? call = some (a.perform call) := by
  cases call with
  | insert x => exact h.insert x.sender x.fragment x.now x.received
  | evict now =>
    obtain ⟨hsound, hchecked⟩ := h.evictStale now
    refine ⟨hsound, ?_⟩
    rw [perform?, hchecked]
    rfl

theorem sound_performAll (timeout messages bytes : Nat) (choices : Nat → Choice) (calls : List Call) :
    ((new timeout messages bytes choices).performAll calls).Sound messages bytes := by
  induction calls using List.reverseRecOn with
  | nil => exact sound_new timeout messages bytes choices
  | append_singleton calls call ih =>
    rw [performAll_concat]
    exact (ih.perform call).1

/-- Whatever is asked of an assembly, its table stays as it should be, and what is asked next stays within bounds: no
byte and no flag is looked up or written that is not there, and no number is taken off a smaller one. Nor does it matter
which message makes way of several touched longest ago. -/
theorem calls_keep_table (timeout messages bytes : Nat) (choices : Nat → Choice) (calls : List Call) :
    ((new timeout messages bytes choices).performAll calls).Sound messages bytes ∧
      ∀ call, ((new timeout messages bytes choices).performAll calls).perform? call =
        some (((new timeout messages bytes choices).performAll calls).perform call) := by
  have h := sound_performAll timeout messages bytes choices calls
  exact ⟨h, fun call => (h.perform call).2⟩

end Assembly
end PubSub.Wire
