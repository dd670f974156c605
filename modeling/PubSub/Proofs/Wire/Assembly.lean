import Mathlib.Tactic.Common
import PubSub.Wire.Assembly

/-!
# What an assembly holds under a key

The entries of one sender and sequence number, and what the operations of an assembly make of them. What is done under
another key leaves them as they are, unless they have waited too long or have to make way.

* `Assembly.entries`: the messages under way that have a key.

Results:

* `Assembly.get?_eq_head?`: the message that is found under a key is the first entry.
* `Assembly.entries_insert_other`: a fragment of another key leaves the entries as they are.
-/

namespace PubSub.Wire

variable {s t : Sender} {q r : UInt32}

theorem Partial.hasKey_iff {p : Partial} : p.hasKey s q = true ↔ p.sender = s ∧ p.sequence = q := by
  simp [Partial.hasKey]

/-- No message has two keys. -/
theorem Partial.not_hasKey {p : Partial} (h : p.hasKey t r = true) (hne : ¬ (t = s ∧ r = q)) :
    p.hasKey s q = false := by
  rw [Bool.eq_false_iff]
  intro hk
  obtain ⟨rfl, rfl⟩ := Partial.hasKey_iff.1 h
  exact hne (Partial.hasKey_iff.1 hk)

namespace Assembly

/-- The messages under way with a key. -/
def entries (a : Assembly) (s : Sender) (q : UInt32) : List Partial := a.pending.filter fun p => p.hasKey s q

theorem get?_eq_head? (a : Assembly) (s : Sender) (q : UInt32) : a.get? s q = (a.entries s q).head? :=
  List.head?_filter.symm

theorem hasKey_of_get? {a : Assembly} {p : Partial} (h : a.get? s q = some p) : p.hasKey s q = true :=
  List.find?_some (p := fun x : Partial => x.hasKey s q) h

/-! ## Giving up -/

theorem entries_evictStale (a : Assembly) (now : Instant) (s : Sender) (q : UInt32) :
    (a.evictStale now).1.entries s q = (a.entries s q).filter fun p => !a.isStale now p := by
  simp only [entries, evictStale, List.filter_filter, Bool.and_comm]

/-- What has not waited too long stays. -/
theorem entries_evictStale_of_fresh {a : Assembly} {now : Instant}
    (h : ∀ p ∈ a.entries s q, a.isStale now p = false) : (a.evictStale now).1.entries s q = a.entries s q := by
  rw [entries_evictStale, List.filter_eq_self]
  intro p hp
  rw [h p hp]
  rfl

theorem filter_eraseKey_other {ps : List Partial} (hne : ¬ (t = s ∧ r = q)) :
    (eraseKey t r ps).filter (fun p => p.hasKey s q) = ps.filter fun p => p.hasKey s q := by
  unfold eraseKey
  induction ps with
  | nil => rfl
  | cons p ps ih =>
    cases hk : p.hasKey t r with
    | true =>
      rw [List.eraseP_cons_of_pos (p := fun x : Partial => x.hasKey t r) hk,
        List.filter_cons_of_neg (by simp [p.not_hasKey hk hne])]
    | false =>
      rw [List.eraseP_cons_of_neg (p := fun x : Partial => x.hasKey t r) (by simp [hk]), List.filter_cons,
        List.filter_cons, ih]

theorem filter_eraseKey_nil {ps : List Partial} (h : ps.filter (fun p => p.hasKey s q) = []) :
    (eraseKey t r ps).filter (fun p => p.hasKey s q) = [] := by
  rw [List.filter_eq_nil_iff] at h ⊢
  intro p hp
  exact h p (List.mem_of_mem_eraseP hp)

/-- Where nothing has a key, making way brings nothing about. -/
theorem entries_makeRoom_nil {a : Assembly} (h : a.entries s q = []) (n : Nat) :
    (a.makeRoom n).1.entries s q = [] := by
  fun_induction makeRoom a n with
  | case1 a _ _ => exact h
  | case2 a _ p _ _ ih => exact ih (filter_eraseKey_nil h)
  | case3 a _ => exact h

/-- Making way leaves a message that is not told to make way. -/
theorem entries_makeRoom {a : Assembly} {n : Nat} (h : Event.crowdedOut q s ∉ (a.makeRoom n).2) :
    (a.makeRoom n).1.entries s q = a.entries s q := by
  fun_induction makeRoom a n with
  | case1 a _ _ => rfl
  | case2 a _ p _ _ ih =>
    rw [List.mem_cons, not_or] at h
    rw [ih h.2]
    refine filter_eraseKey_other fun hk => h.1 ?_
    rw [hk.1, hk.2]
  | case3 a _ => rfl

/-! ## Beginning, replacing and removing -/

theorem entries_remove_other (a : Assembly) (hne : ¬ (t = s ∧ r = q)) : (a.remove t r).entries s q = a.entries s q := by
  unfold remove
  split
  · rfl
  · exact filter_eraseKey_other hne

theorem entries_replace_other (a : Assembly) {p : Partial} (hne : ¬ (p.sender = s ∧ p.sequence = q)) :
    (a.replace p).entries s q = a.entries s q := by
  have hp : p.hasKey s q = false := Bool.eq_false_iff.2 fun hk => hne (Partial.hasKey_iff.1 hk)
  unfold replace entries
  induction a.pending with
  | nil => rfl
  | cons x xs ih =>
    rw [List.map_cons]
    split
    · rename_i hx
      rw [List.filter_cons_of_neg (by simp [hp]), List.filter_cons_of_neg (by simp [x.not_hasKey hx hne]), ih]
    · rw [List.filter_cons, List.filter_cons, ih]

/-- The table after a message was begun. -/
theorem enter_eq (a : Assembly) (t : Sender) (f : Fragment) (now : Instant) (received : Timestamp) :
    a.enter t f now received =
      ({ (a.makeRoom f.size.toNat).1 with
          pending := (a.makeRoom f.size.toNat).1.pending ++ [blank t f now received]
          pendingBytes := (a.makeRoom f.size.toNat).1.pendingBytes + f.size.toNat },
        blank t f now received, (a.makeRoom f.size.toNat).2) := rfl

theorem entries_enter (a : Assembly) (t : Sender) (f : Fragment) (now : Instant) (received : Timestamp) :
    (a.enter t f now received).1.entries s q =
      (a.makeRoom f.size.toNat).1.entries s q ++
        if t = s ∧ f.sequence = q then [blank t f now received] else [] := by
  rw [enter_eq, entries, entries, List.filter_append, List.filter_cons, List.filter_nil]
  congr 1
  have hk : (blank t f now received).hasKey s q = true ↔ t = s ∧ f.sequence = q := Partial.hasKey_iff
  by_cases h : t = s ∧ f.sequence = q
  · rw [if_pos h, hk.2 h]
    rfl
  · rw [if_neg h, Bool.eq_false_iff.2 fun hb => h (hk.1 hb)]
    rfl

/-! ## Limits -/

theorem limits_evictStale (a : Assembly) (now : Instant) :
    (a.evictStale now).1.maxBytes = a.maxBytes ∧ (a.evictStale now).1.timeout = a.timeout := ⟨rfl, rfl⟩

theorem limits_makeRoom (a : Assembly) (n : Nat) :
    (a.makeRoom n).1.maxBytes = a.maxBytes ∧ (a.makeRoom n).1.timeout = a.timeout := by
  fun_induction makeRoom a n with
  | case1 a _ _ => exact ⟨rfl, rfl⟩
  | case2 a _ p _ _ ih => exact ih
  | case3 a _ => exact ⟨rfl, rfl⟩

theorem limits_remove (a : Assembly) (t : Sender) (r : UInt32) :
    (a.remove t r).maxBytes = a.maxBytes ∧ (a.remove t r).timeout = a.timeout := by
  unfold remove
  split <;> exact ⟨rfl, rfl⟩

theorem limits_findOrBegin (a : Assembly) (t : Sender) (f : Fragment) (now : Instant) (received : Timestamp) :
    (a.findOrBegin t f now received).1.maxBytes = a.maxBytes ∧
      (a.findOrBegin t f now received).1.timeout = a.timeout := by
  unfold findOrBegin
  split
  · exact limits_makeRoom a _
  · split
    · exact ⟨rfl, rfl⟩
    · obtain ⟨hb, ht⟩ := limits_makeRoom (a.remove t f.sequence) f.size.toNat
      obtain ⟨hb', ht'⟩ := limits_remove a t f.sequence
      exact ⟨hb.trans hb', ht.trans ht'⟩

theorem limits_insert (a : Assembly) (t : Sender) (f : Fragment) (now : Instant) (received : Timestamp) :
    (a.insert t f now received).1.maxBytes = a.maxBytes ∧ (a.insert t f now received).1.timeout = a.timeout := by
  have hf := limits_findOrBegin (a.evictStale now).1 t f now received
  simp only [insert]
  split
  · exact limits_evictStale a now
  · split
    · exact hf
    · split
      · obtain ⟨hb, ht⟩ := limits_remove ((a.evictStale now).1.findOrBegin t f now received).1 t f.sequence
        exact ⟨hb.trans hf.1, ht.trans hf.2⟩
      · exact hf

/-! ## A fragment of another key -/

/-- What a fragment finds, or begins, has its key. -/
theorem key_findOrBegin (a : Assembly) (t : Sender) (f : Fragment) (now : Instant) (received : Timestamp) :
    (a.findOrBegin t f now received).2.1.sender = t ∧ (a.findOrBegin t f now received).2.1.sequence = f.sequence := by
  unfold findOrBegin
  split
  · exact ⟨rfl, rfl⟩
  · rename_i p hp
    split
    · exact Partial.hasKey_iff.1 (hasKey_of_get? hp)
    · exact ⟨rfl, rfl⟩

theorem key_of_place {p x : Partial} {f : Fragment} (h : place p f = some x) :
    x.sender = p.sender ∧ x.sequence = p.sequence := by
  unfold place at h
  split at h
  · split at h
    · cases h
    · cases h
      exact ⟨rfl, rfl⟩
  · cases h

theorem entries_findOrBegin_other {a : Assembly} {f : Fragment} {now : Instant} {received : Timestamp}
    (hne : ¬ (t = s ∧ f.sequence = q)) (h : Event.crowdedOut q s ∉ (a.findOrBegin t f now received).2.2) :
    (a.findOrBegin t f now received).1.entries s q = a.entries s q := by
  unfold findOrBegin at h ⊢
  split
  · rename_i hg
    simp only [hg, enter_eq] at h
    rw [entries_enter, if_neg hne, List.append_nil, entries_makeRoom h]
  · rename_i p hg
    simp only [hg] at h
    split
    · rfl
    · rename_i hs
      simp only [hs, enter_eq, Bool.false_eq_true, if_false, List.mem_cons, not_or] at h
      show ((a.remove t f.sequence).enter t f now received).1.entries s q = a.entries s q
      rw [entries_enter, if_neg hne, List.append_nil, entries_makeRoom h.2, entries_remove_other a hne]

/-- A fragment of another key leaves the entries as they are, if they have not waited too long and do not have to make
way. -/
theorem entries_insert_other {a : Assembly} {f : Fragment} {now : Instant} {received : Timestamp}
    (hne : ¬ (t = s ∧ f.sequence = q)) (hfresh : ∀ p ∈ a.entries s q, a.isStale now p = false)
    (h : Event.crowdedOut q s ∉ (a.insert t f now received).2.2) :
    (a.insert t f now received).1.entries s q = a.entries s q := by
  rw [← entries_evictStale_of_fresh hfresh]
  simp only [insert] at h ⊢
  by_cases hbig : (a.evictStale now).1.maxBytes < f.size.toNat
  · rw [if_pos hbig]
  rw [if_neg hbig] at h ⊢
  obtain ⟨hsender, hseq⟩ := key_findOrBegin (a.evictStale now).1 t f now received
  have hmid : Event.crowdedOut q s ∉ ((a.evictStale now).1.findOrBegin t f now received).2.2 →
      ((a.evictStale now).1.findOrBegin t f now received).1.entries s q = (a.evictStale now).1.entries s q :=
    entries_findOrBegin_other hne
  generalize (a.evictStale now).1.findOrBegin t f now received = found at h hsender hseq hmid ⊢
  obtain ⟨b, p, events⟩ := found
  simp only at h hsender hseq hmid ⊢
  have hkey : ¬ (p.sender = s ∧ p.sequence = q) := by
    rw [hsender, hseq]
    exact hne
  cases hp : place { p with lastTouch := now } f with
  | none =>
    simp only [hp, List.mem_append, not_or] at h ⊢
    rw [entries_replace_other b (p := { p with lastTouch := now }) hkey, hmid h.2]
  | some x =>
    obtain ⟨hxs, hxq⟩ := key_of_place hp
    simp only [hp] at h ⊢
    split
    · rename_i hr
      simp only [hr, if_true, List.mem_append, not_or] at h
      rw [entries_remove_other b hne, hmid h.2]
    · rename_i hr
      simp only [hr, if_false, List.mem_append, not_or] at h
      rw [entries_replace_other b (by rw [hxs, hxq]; exact hkey), hmid h.2]

/-! ## A fragment of the key -/

theorem entries_replace_own (a : Assembly) {p : Partial} (hp : p.hasKey s q = true) :
    (a.replace p).entries s q = (a.entries s q).map fun _ => p := by
  obtain ⟨hs, hq⟩ := Partial.hasKey_iff.1 hp
  show (a.pending.map fun x => if x.hasKey p.sender p.sequence then p else x).filter (fun x => x.hasKey s q) =
    (a.pending.filter fun x => x.hasKey s q).map fun _ => p
  rw [hs, hq]
  induction a.pending with
  | nil => rfl
  | cons x xs ih =>
    cases hx : x.hasKey s q with
    | true => simp only [List.map_cons, List.filter_cons, hx, hp, if_true, ih]
    | false => simp only [List.map_cons, List.filter_cons, hx, Bool.false_eq_true, if_false, ih]

theorem filter_eraseKey_own (ps : List Partial) :
    (eraseKey s q ps).filter (fun p => p.hasKey s q) = (ps.filter fun p => p.hasKey s q).tail := by
  unfold eraseKey
  induction ps with
  | nil => rfl
  | cons p ps ih =>
    cases hk : p.hasKey s q with
    | true => simp only [List.eraseP_cons, List.filter_cons, hk, cond_true, if_true, List.tail_cons]
    | false => simp only [List.eraseP_cons, List.filter_cons, hk, cond_false, Bool.false_eq_true, if_false, ih]

/-- What is removed is the first entry. -/
theorem entries_remove_own (a : Assembly) : (a.remove s q).entries s q = (a.entries s q).tail := by
  unfold remove
  split
  · rename_i hg
    rw [get?_eq_head?, List.head?_eq_none_iff] at hg
    rw [hg]
    rfl
  · exact filter_eraseKey_own a.pending

/-- Where nothing has the key, a message is begun. -/
theorem findOrBegin_nil {a : Assembly} {f : Fragment} (h : a.entries s f.sequence = []) (now : Instant)
    (received : Timestamp) :
    (a.findOrBegin s f now received).1.entries s f.sequence = [blank s f now received] ∧
      (a.findOrBegin s f now received).2.1 = blank s f now received := by
  have hg : a.get? s f.sequence = none := by rw [get?_eq_head?, h, List.head?_nil]
  simp only [findOrBegin, hg]
  refine ⟨?_, rfl⟩
  rw [entries_enter, entries_makeRoom_nil h, if_pos ⟨rfl, rfl⟩, List.nil_append]

/-- A message of the right shape is found. -/
theorem findOrBegin_cons {a : Assembly} {f : Fragment} {p : Partial} {ps : List Partial}
    (h : a.entries s f.sequence = p :: ps) (hs : sameShape f p = true) (now : Instant) (received : Timestamp) :
    a.findOrBegin s f now received = (a, p, []) := by
  have hg : a.get? s f.sequence = some p := by rw [get?_eq_head?, h, List.head?_cons]
  simp only [findOrBegin, hg, hs, if_true]

end Assembly
end PubSub.Wire
