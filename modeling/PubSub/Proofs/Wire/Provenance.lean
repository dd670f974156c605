import PubSub.Proofs.Wire.Grammar
import PubSub.Proofs.Wire.Table

/-!
# Where a payload comes from

A message is returned as soon as each of its fragment numbers has come in, whatever the fragments hold. Of the fragments
with one number the first one counts. What it holds stands in the payload where the fragment puts it. Where no fragment
that counts puts anything, the payload has zero bytes, which nobody sent.

* `Fragment.Covers`, `Fragment.Gives`: the bytes of a payload that a fragment holds.
* `Fragment.Counts`: the first fragment with a number.
* `MadeOf`: what a message under way is made of.
* `Assembly.begins`, `Assembly.sinceBegun`: the fragments that came in since a message was begun.

Results:

* `MadeOf.concat`: what one fragment adds to a message.
* `Assembly.Sound.feed_own`, `Assembly.Sound.get?_feed_other`: what a fragment does to its message, and to another one.
* `Assembly.madeOf_performAll`: what each message under way is made of after any calls.
* `Assembly.message_made_of`: what a message that is returned is made of.
-/

namespace PubSub.Wire

variable {s : Sender} {q : UInt32} {p : Partial} {f g : Fragment} {fs : List Fragment} {now : Instant}
  {received : Timestamp} {messages bytes : Nat}

/-! ## Fragments that count -/

/-- Position `j` of the payload lies in the data of the fragment. -/
def Fragment.Covers (f : Fragment) (j : Nat) : Prop := f.offset.toNat ≤ j ∧ j < f.offset.toNat + f.data.size

/-- The fragment has the byte `v` for position `j` of the payload. -/
def Fragment.Gives (f : Fragment) (j : Nat) (v : UInt8) : Prop := f.Covers j ∧ f.data[j - f.offset.toNat]? = some v

/-- The fragment is the first one among `fs` that has its number. -/
def Fragment.Counts (f : Fragment) (fs : List Fragment) : Prop := fs.find? (fun g => g.index == f.index) = some f

theorem Fragment.Counts.mem (h : f.Counts fs) : f ∈ fs := List.mem_of_find?_eq_some h

/-- A fragment whose number has come in before does not count, and changes nothing for the others. -/
theorem counts_concat_seen (hseen : ∃ h ∈ fs, h.index = f.index) : g.Counts (fs ++ [f]) ↔ g.Counts fs := by
  rw [Fragment.Counts, Fragment.Counts, List.find?_append]
  cases hfind : fs.find? (fun h => h.index == g.index) with
  | some h => rw [Option.some_or]
  | none =>
    rw [Option.none_or]
    refine iff_of_false (fun hg => ?_) (Option.some_ne_none _).symm
    have hmem := List.mem_of_find?_eq_some hg
    rw [List.mem_singleton] at hmem
    subst hmem
    obtain ⟨h, hh, hindex⟩ := hseen
    exact List.find?_eq_none.1 hfind h hh (beq_iff_eq.2 hindex)

/-- A fragment whose number has not come in before counts, and changes nothing for the others. -/
theorem counts_concat_new (hnew : ∀ h ∈ fs, h.index ≠ f.index) : g.Counts (fs ++ [f]) ↔ g.Counts fs ∨ g = f := by
  rw [Fragment.Counts, Fragment.Counts, List.find?_append]
  cases hfind : fs.find? (fun h => h.index == g.index) with
  | some h =>
    rw [Option.some_or]
    refine ⟨Or.inl, fun hg => hg.resolve_right fun heq => ?_⟩
    subst heq
    have hsame := List.find?_some (p := fun h : Fragment => h.index == g.index) hfind
    exact hnew h (List.mem_of_find?_eq_some hfind) (beq_iff_eq.1 hsame)
  | none =>
    rw [Option.none_or]
    constructor
    · intro hg
      exact Or.inr (List.mem_singleton.1 (List.mem_of_find?_eq_some hg))
    · rintro (hg | rfl)
      · cases hg
      · exact List.find?_cons_of_pos (beq_self_eq_true _)

/-! ## Messages under way -/

/-- A message under way is made of the fragments `fs`, in the order in which they came in. They have its shape and tell
which numbers have come in, and those that count give its bytes and its channel. -/
structure MadeOf (fs : List Fragment) (p : Partial) : Prop where
  shape : ∀ f ∈ fs, Assembly.sameShape f p = true
  received : ∀ i : Nat, p.received[i]? = some true ↔ ∃ f ∈ fs, f.index.toNat = i
  bytes : ∀ (j : Nat) (v : UInt8), p.data[j]? = some v →
    (∃ f : Fragment, f.Counts fs ∧ f.Gives j v) ∨ v = 0 ∧ ∀ f : Fragment, f.Counts fs → ¬ f.Covers j
  channel : ∀ channel, p.channel = some channel → ∃ f : Fragment, f.Counts fs ∧ f.channel = some channel

theorem madeOf_blank (s : Sender) (f : Fragment) (now : Instant) (received : Timestamp) :
    MadeOf [] (Assembly.blank s f now received) where
  shape _ hf := absurd hf List.not_mem_nil
  received i := by
    refine iff_of_false (fun h => ?_) fun ⟨_, hf, _⟩ => List.not_mem_nil hf
    have hfalse := Array.eq_of_mem_replicate (Array.mem_of_getElem? h)
    cases hfalse
  bytes j v h := Or.inr ⟨Bytes.eq_of_getElem?_replicate h, fun _ hf => absurd hf.mem List.not_mem_nil⟩
  channel _ h := by cases h

namespace MadeOf

theorem touch (h : MadeOf fs p) (now : Instant) : MadeOf fs { p with lastTouch := now } := { h with }

/-- A fragment whose number has come in before changes nothing. -/
theorem concat_seen (h : MadeOf fs p) (hs : Assembly.sameShape f p = true) (hseen : ∃ g ∈ fs, g.index = f.index) :
    MadeOf (fs ++ [f]) p where
  shape g hg := (List.mem_append.1 hg).elim (h.shape g) fun hg => List.mem_singleton.1 hg ▸ hs
  received i := by
    rw [h.received i]
    constructor
    · rintro ⟨g, hg, hi⟩
      exact ⟨g, List.mem_append_left _ hg, hi⟩
    · rintro ⟨g, hg, hi⟩
      obtain hg | hg := List.mem_append.1 hg
      · exact ⟨g, hg, hi⟩
      · obtain ⟨k, hk, hindex⟩ := hseen
        exact ⟨k, hk, by rw [hindex, ← List.mem_singleton.1 hg, hi]⟩
  bytes j v hv := by
    simp only [counts_concat_seen hseen]
    exact h.bytes j v hv
  channel c hc := by
    simp only [counts_concat_seen hseen]
    exact h.channel c hc

/-- A fragment whose number is new is written into the payload. -/
theorem concat_new (h : MadeOf fs p) (hs : Assembly.sameShape f p = true) (hnew : ∀ g ∈ fs, g.index ≠ f.index)
    (hindex : f.index.toNat < p.received.size) (hfit : f.offset.toNat + f.data.size ≤ p.data.size) :
    MadeOf (fs ++ [f]) (Cut.placed p f) where
  shape g hg := by
    have hsame : Assembly.sameShape g p = true :=
      (List.mem_append.1 hg).elim (h.shape g) fun hg => List.mem_singleton.1 hg ▸ hs
    have hsize : (Cut.placed p f).data.size = p.data.size := Bytes.size_copySlice hfit
    have hflags : (Cut.placed p f).received.size = p.received.size := Array.size_setIfInBounds
    rw [Assembly.sameShape, hsize, hflags]
    exact hsame
  received i := by
    show (p.received.setIfInBounds f.index.toNat true)[i]? = some true ↔ _
    rw [Array.getElem?_setIfInBounds]
    by_cases hi : f.index.toNat = i
    · rw [if_pos hi, if_pos hindex]
      exact iff_of_true rfl ⟨f, List.mem_append_right _ (List.mem_singleton_self f), hi⟩
    · rw [if_neg hi, h.received i]
      constructor
      · rintro ⟨g, hg, hgi⟩
        exact ⟨g, List.mem_append_left _ hg, hgi⟩
      · rintro ⟨g, hg, hgi⟩
        obtain hg | hg := List.mem_append.1 hg
        · exact ⟨g, hg, hgi⟩
        · exact absurd (List.mem_singleton.1 hg ▸ hgi) hi
  bytes j v hv := by
    simp only [counts_concat_new hnew]
    have hbyte : (f.data.copySlice 0 p.data f.offset.toNat f.data.size)[j]? = some v := hv
    rw [Bytes.getElem?_copySlice hfit] at hbyte
    by_cases hcover : f.offset.toNat ≤ j ∧ j < f.offset.toNat + f.data.size
    · rw [if_pos hcover] at hbyte
      exact Or.inl ⟨f, Or.inr rfl, hcover, hbyte⟩
    · rw [if_neg hcover] at hbyte
      obtain ⟨g, hg, hgives⟩ | ⟨hzero, hnone⟩ := h.bytes j v hbyte
      · exact Or.inl ⟨g, Or.inl hg, hgives⟩
      · refine Or.inr ⟨hzero, fun g hg => ?_⟩
        obtain hg | rfl := hg
        · exact hnone g hg
        · exact hcover
  channel c hc := by
    simp only [counts_concat_new hnew]
    have hchannel : (f.channel <|> p.channel) = some c := hc
    cases hf : f.channel with
    | some own =>
      rw [hf] at hchannel
      exact ⟨f, Or.inr rfl, hf.trans hchannel⟩
    | none =>
      rw [hf] at hchannel
      obtain ⟨g, hg, hgc⟩ := h.channel c hchannel
      exact ⟨g, Or.inl hg, hgc⟩

/-- What a fragment that is well made adds to a message of its shape. -/
theorem concat (h : MadeOf fs p) (hs : Assembly.sameShape f p = true) (hf : f.Sendable) :
    MadeOf (fs ++ [f]) ((Assembly.place p f).getD p) := by
  have hshape := hs
  rw [Assembly.sameShape, Bool.and_eq_true, beq_iff_eq, beq_iff_eq] at hshape
  obtain ⟨hsize, hflags⟩ := hshape
  have hindex : f.index.toNat < p.received.size := hflags.symm ▸ UInt16.lt_iff_toNat_lt.1 hf.index_lt
  have hfit : f.offset.toNat + f.data.size ≤ p.data.size := hsize.symm ▸ hf.bounded
  -- a fragment of the right shape fits, so whether it is placed depends on its number alone
  by_cases hseen : ∃ g ∈ fs, g.index = f.index
  · have hnone : Assembly.place p f = none := by
      obtain ⟨g, hg, hgf⟩ := hseen
      have hflag := (h.received f.index.toNat).2 ⟨g, hg, by rw [hgf]⟩
      cases hplace : Assembly.place p f with
      | none => rfl
      | some x =>
        rw [(Assembly.place_eq_some_iff.1 hplace).1] at hflag
        cases hflag
    rw [hnone]
    exact h.concat_seen hs hseen
  · have hnew : ∀ g ∈ fs, g.index ≠ f.index := fun g hg hgf => hseen ⟨g, hg, hgf⟩
    have hflag : p.received[f.index.toNat]? = some false := by
      rw [Array.getElem?_eq_getElem hindex]
      cases hcome : p.received[f.index.toNat] with
      | false => rfl
      | true =>
        obtain ⟨g, hg, hgi⟩ := (h.received f.index.toNat).1 (by rw [Array.getElem?_eq_getElem hindex, hcome])
        exact absurd (UInt16.toNat_inj.1 hgi) (hnew g hg)
    rw [Assembly.place_eq_some_iff.2 ⟨hflag, hfit, rfl⟩]
    exact h.concat_new hs hnew hindex hfit

end MadeOf

/-! ## One call -/

namespace Assembly

variable {a : Assembly} {x : Arrival}

/-- Whether a fragment that comes in begins a message: none of its key and shape is under way. -/
def begins (a : Assembly) (x : Arrival) : Bool :=
  ((a.evictStale x.now).1.get? x.sender x.fragment.sequence).all fun p => !sameShape x.fragment p

theorem Sound.get?_of_sublist {b : Assembly} (h : a.Sound messages bytes) (hsub : b.pending.Sublist a.pending)
    (hp : b.get? s q = some p) : a.get? s q = some p :=
  h.get?_eq (hsub.subset (List.mem_of_find?_eq_some hp)) (hasKey_of_get? hp)

/-- The message that a fragment belongs to is the one of its key and shape, or a new one. -/
theorem Sound.findOrBegin_cases (h : a.Sound messages bytes) (x : Arrival) :
    (a.begins x = true ∧ ((a.evictStale x.now).1.findOrBegin x.sender x.fragment x.now x.received).2.1 =
      blank x.sender x.fragment x.now x.received) ∨
    ∃ p, a.begins x = false ∧ a.get? x.sender x.fragment.sequence = some p ∧ sameShape x.fragment p = true ∧
      ((a.evictStale x.now).1.findOrBegin x.sender x.fragment x.now x.received).2.1 = p := by
  have hsub : (a.evictStale x.now).1.pending.Sublist a.pending := List.filter_sublist
  cases hfound : (a.evictStale x.now).1.get? x.sender x.fragment.sequence with
  | none =>
    refine Or.inl ⟨?_, ?_⟩
    · rw [begins, hfound]
      rfl
    · simp only [Assembly.findOrBegin, hfound, enter_eq]
  | some p =>
    cases hshape : sameShape x.fragment p with
    | true =>
      refine Or.inr ⟨p, ?_, h.get?_of_sublist hsub hfound, hshape, ?_⟩
      · rw [begins, hfound, Option.all_some, hshape]
        rfl
      · simp only [Assembly.findOrBegin, hfound, if_pos hshape]
    | false =>
      refine Or.inl ⟨?_, ?_⟩
      · rw [begins, hfound, Option.all_some, hshape]
        rfl
      · simp only [Assembly.findOrBegin, hfound, hshape, Bool.false_eq_true, if_false, enter_eq]

/-- A message after a fragment has come in for it. -/
def joined (p : Partial) (x : Arrival) : Partial :=
  (place { p with lastTouch := x.now } x.fragment).getD { p with lastTouch := x.now }

/-- A fragment that comes in for a message touches it, whether or not it adds anything. -/
theorem lastTouch_joined (p : Partial) (x : Arrival) : (joined p x).lastTouch = x.now := by
  rw [joined]
  cases hplace : place { p with lastTouch := x.now } x.fragment with
  | none => rfl
  | some y =>
    obtain ⟨-, -, rfl⟩ := place_eq_some_iff.1 hplace
    rfl

/-- What a fragment does to the message that it belongs to: the message with what the fragment adds is returned, or it
is under way. -/
theorem Sound.feed_own (h : a.Sound messages bytes) (hsize : x.fragment.size.toNat ≤ bytes)
    (hp : ((a.evictStale x.now).1.findOrBegin x.sender x.fragment x.now x.received).2.1 = p) :
    (∀ m, (a.feed x).2.1 = some m → (joined p x).channel = some m.channel ∧ (joined p x).data = m.payload) ∧
      ∀ y, (a.feed x).1.get? x.sender x.fragment.sequence = some y → joined p x = y := by
  obtain ⟨hsound, -⟩ := h.evictStale x.now
  obtain ⟨hbsound, -, hfound⟩ := hsound.findOrBegin hsize x.sender x.now x.received
  obtain ⟨hsender, hseq⟩ := key_findOrBegin (a.evictStale x.now).1 x.sender x.fragment x.now x.received
  have hsmall : ¬ (a.evictStale x.now).1.maxBytes < x.fragment.size.toNat := by
    rw [hsound.maxBytes_eq]
    exact Nat.not_lt.2 hsize
  simp only [feed, Assembly.insert, if_neg hsmall, joined]
  generalize (a.evictStale x.now).1.findOrBegin x.sender x.fragment x.now x.received = begun at *
  obtain ⟨b, r, events⟩ := begun
  subst hp
  simp only at hbsound hfound hsender hseq ⊢
  have hentries := hbsound.entries_eq hfound
  have hreplaced : ∀ r' : Partial, r'.sender = r.sender → r'.sequence = r.sequence → ∀ y,
      (b.replace r').get? x.sender x.fragment.sequence = some y → r' = y := fun r' hs hq y hy => by
    have hkey : r'.hasKey x.sender x.fragment.sequence = true := Partial.hasKey_iff.2 ⟨hs.trans hsender, hq.trans hseq⟩
    rw [get?_eq_head?, entries_replace_own b hkey, hentries] at hy
    exact Option.some.inj hy
  cases hplace : place { r with lastTouch := x.now } x.fragment with
  | none =>
    refine ⟨fun m hm => ?_, hreplaced _ rfl rfl⟩
    cases hm
  | some y =>
    obtain ⟨hys, hyq⟩ := key_of_place hplace
    simp only [Option.getD_some]
    by_cases hdone : y.remaining = 0
    · simp only [if_pos hdone]
      refine ⟨fun m hm => ?_, fun z hz => ?_⟩
      · obtain ⟨c, hc, rfl⟩ := Option.map_eq_some_iff.1 hm
        exact ⟨hc, rfl⟩
      · obtain ⟨-, -, hnone⟩ := hbsound.remove x.sender x.fragment.sequence
        rw [hnone] at hz
        cases hz
    · simp only [if_neg hdone]
      refine ⟨fun m hm => ?_, hreplaced y hys hyq⟩
      cases hm

/-! ### A fragment of another message -/

theorem Sound.mem_enter_other {t : Sender} (h : a.Sound messages bytes) (hne : ¬ (t = s ∧ f.sequence = q))
    (hp : p ∈ (a.enter t f now received).1.pending) (hk : p.hasKey s q = true) : p ∈ a.pending := by
  obtain ⟨-, -, hsub, -⟩ := h.makeRoom f.size.toNat
  rw [enter_eq] at hp
  obtain hp | hp := List.mem_append.1 hp
  · exact hsub.subset hp
  · rw [List.mem_singleton.1 hp] at hk
    exact absurd (Partial.hasKey_iff.1 hk) hne

theorem Sound.mem_findOrBegin_other {t : Sender} (h : a.Sound messages bytes) (hne : ¬ (t = s ∧ f.sequence = q))
    (hp : p ∈ (a.findOrBegin t f now received).1.pending) (hk : p.hasKey s q = true) : p ∈ a.pending := by
  unfold Assembly.findOrBegin at hp
  split at hp
  · exact h.mem_enter_other hne hp hk
  · split at hp
    · exact hp
    · obtain ⟨hsound, -⟩ := h.remove t f.sequence
      exact (a.remove_sublist t f.sequence).subset (hsound.mem_enter_other hne hp hk)

theorem mem_replace_other {r : Partial} (hr : ¬ (r.sender = s ∧ r.sequence = q)) (hp : p ∈ (a.replace r).pending)
    (hk : p.hasKey s q = true) : p ∈ a.pending := by
  obtain ⟨y, hy, hyp⟩ := List.mem_map.1 hp
  split at hyp
  · subst hyp
    exact absurd (Partial.hasKey_iff.1 hk) hr
  · subst hyp
    exact hy

/-- A fragment leaves the messages of other keys as they are, if it leaves them at all. -/
theorem Sound.get?_feed_other (h : a.Sound messages bytes) (hne : x.hasKey s q = false)
    (hp : (a.feed x).1.get? s q = some p) : a.get? s q = some p := by
  have hk := hasKey_of_get? hp
  have hmem := List.mem_of_find?_eq_some hp
  have hkey : ¬ (x.sender = s ∧ x.fragment.sequence = q) := fun hx => by
    rw [Arrival.hasKey_iff.2 hx] at hne
    cases hne
  have hsub : (a.evictStale x.now).1.pending.Sublist a.pending := List.filter_sublist
  obtain ⟨hsound, -⟩ := h.evictStale x.now
  obtain ⟨hsender, hseq⟩ := key_findOrBegin (a.evictStale x.now).1 x.sender x.fragment x.now x.received
  refine h.get?_eq (hsub.subset ?_) hk
  have hfound : p ∈ ((a.evictStale x.now).1.findOrBegin x.sender x.fragment x.now x.received).1.pending →
      p ∈ (a.evictStale x.now).1.pending := fun hp => hsound.mem_findOrBegin_other hkey hp hk
  simp only [feed, Assembly.insert] at hmem
  split at hmem
  · exact hmem
  generalize (a.evictStale x.now).1.findOrBegin x.sender x.fragment x.now x.received = begun at *
  obtain ⟨b, r, events⟩ := begun
  simp only at hmem hfound hsender hseq
  rw [← hsender, ← hseq] at hkey
  refine hfound ?_
  split at hmem
  · exact mem_replace_other (r := { r with lastTouch := x.now }) hkey hmem hk
  · rename_i y hplace
    obtain ⟨hys, hyq⟩ := key_of_place hplace
    split at hmem
    · exact (b.remove_sublist _ _).subset hmem
    · exact mem_replace_other (by rw [hys, hyq]; exact hkey) hmem hk

/-! ## Any calls -/

/-- The fragments of message number `q` of `s` that came in since the message was begun, if they were `fs` before a
call. Fragments of a message that is longer than the assembly takes are turned away and are none of them. -/
def grown (s : Sender) (q : UInt32) (fs : List Fragment) (a : Assembly) : Call → List Fragment
  | .evict _ => fs
  | .insert x =>
    if x.hasKey s q = true ∧ x.fragment.size.toNat ≤ a.maxBytes then
      if a.begins x then [x.fragment] else fs ++ [x.fragment]
    else fs

/-- The fragments of message number `q` of `s` that came in since the message was begun. -/
def sinceBegun (s : Sender) (q : UInt32) (a : Assembly) (calls : List Call) : List Fragment :=
  (calls.foldl (fun (fs, a) call => (grown s q fs a call, (a.perform call).1)) ([], a)).1

theorem sinceBegun_concat (s : Sender) (q : UInt32) (a : Assembly) (calls : List Call) (call : Call) :
    sinceBegun s q a (calls ++ [call]) = grown s q (sinceBegun s q a calls) (a.performAll calls) call := by
  have hstate : ∀ fs : List Fragment, (calls.foldl (fun (st : List Fragment × Assembly) call =>
      (grown s q st.1 st.2 call, (st.2.perform call).1)) (fs, a)).2 = a.performAll calls := by
    induction calls generalizing a with
    | nil => exact fun _ => rfl
    | cons call calls ih => exact fun fs => ih _ _
  rw [sinceBegun, List.foldl_append]
  exact congrArg (grown s q (sinceBegun s q a calls) · call) (hstate [])

/-- The fragment that a call adds was read from a datagram. -/
def Call.Read : Call → Prop
  | .insert x => ∃ b, Datagram.decode b = .ok (.fragment x.fragment)
  | .evict _ => True

/-- A fragment that is read from a datagram is well made. -/
theorem Call.Read.sendable (h : (Call.insert x).Read) : x.fragment.Sendable := by
  obtain ⟨b, hb⟩ := h
  exact (decode_ok_iff.1 hb).1

theorem sameShape_blank (x : Arrival) :
    sameShape x.fragment (blank x.sender x.fragment x.now x.received) = true := by
  have hdata : (blank x.sender x.fragment x.now x.received).data.size = x.fragment.size.toNat := Bytes.size_replicate ..
  have hflags : (blank x.sender x.fragment x.now x.received).received.size = x.fragment.count.toNat :=
    Array.size_replicate
  rw [sameShape, hdata, hflags, beq_self_eq_true, beq_self_eq_true]
  rfl

/-- What a fragment makes of its message, which is then returned or under way. -/
theorem Sound.madeOf_feed_own (h : a.Sound messages bytes) (hkey : x.hasKey s q = true)
    (hsize : x.fragment.size.toNat ≤ bytes) (hx : x.fragment.Sendable)
    (hmade : ∀ p, a.get? s q = some p → MadeOf fs p) :
    ∃ p, MadeOf (grown s q fs a (.insert x)) p ∧ x.fragment ∈ grown s q fs a (.insert x) ∧
      (∀ m, (a.feed x).2.1 = some m → p.channel = some m.channel ∧ p.data = m.payload) ∧
      ∀ y, (a.feed x).1.get? s q = some y → p = y := by
  obtain ⟨rfl, rfl⟩ := Arrival.hasKey_iff.1 hkey
  have hgrown : grown x.sender x.fragment.sequence fs a (.insert x) =
      if a.begins x then [x.fragment] else fs ++ [x.fragment] := if_pos ⟨hkey, h.maxBytes_eq ▸ hsize⟩
  rw [hgrown]
  obtain ⟨hbegins, hp⟩ | ⟨p, hbegins, hget, hshape, hp⟩ := h.findOrBegin_cases x
  · rw [if_pos hbegins]
    have hjoined := ((madeOf_blank x.sender x.fragment x.now x.received).touch x.now).concat (sameShape_blank x) hx
    exact ⟨_, hjoined, List.mem_singleton_self _, h.feed_own hsize hp⟩
  · rw [hbegins, if_neg Bool.false_ne_true]
    have hjoined := ((hmade p hget).touch x.now).concat hshape hx
    exact ⟨_, hjoined, List.mem_append_right _ (List.mem_singleton_self _), h.feed_own hsize hp⟩

/-- A fragment of a message that is too long changes nothing but that old messages are given up. -/
theorem feed_of_long (hlong : a.maxBytes < x.fragment.size.toNat) :
    (a.feed x).1 = (a.evictStale x.now).1 ∧ (a.feed x).2.1 = none := by
  have hlong' : (a.evictStale x.now).1.maxBytes < x.fragment.size.toNat := hlong
  simp only [feed, Assembly.insert, if_pos hlong']
  exact ⟨trivial, trivial⟩

/-- One call keeps what is known of each message under way. -/
theorem Sound.madeOf_perform (h : a.Sound messages bytes) (hmade : ∀ p, a.get? s q = some p → MadeOf fs p)
    {call : Call} (hread : call.Read) (hp : (a.perform call).1.get? s q = some p) :
    MadeOf (grown s q fs a call) p := by
  cases call with
  | evict now => exact hmade p (h.get?_of_sublist List.filter_sublist hp)
  | insert x =>
    cases hkey : x.hasKey s q with
    | false =>
      have hgrown : grown s q fs a (.insert x) = fs := if_neg fun hown => by
        rw [hkey] at hown
        cases hown.1
      rw [hgrown]
      exact hmade p (h.get?_feed_other hkey hp)
    | true =>
      by_cases hsize : x.fragment.size.toNat ≤ a.maxBytes
      · obtain ⟨r, hr, -, -, hunder⟩ := h.madeOf_feed_own hkey (h.maxBytes_eq ▸ hsize) hread.sendable hmade
        exact hunder p hp ▸ hr
      · have hgrown : grown s q fs a (.insert x) = fs := if_neg fun hown => hsize hown.2
        have hfeed : (a.feed x).1.get? s q = some p := hp
        rw [(feed_of_long (Nat.lt_of_not_le hsize)).1] at hfeed
        rw [hgrown]
        exact hmade p (h.get?_of_sublist List.filter_sublist hfeed)

/-- What each message under way is made of. -/
theorem madeOf_performAll {timeout : Nat} {choices : Nat → Choice} {calls : List Call}
    (hread : ∀ call ∈ calls, call.Read) {s : Sender} {q : UInt32} {p : Partial}
    (hp : ((new timeout messages bytes choices).performAll calls).get? s q = some p) :
    MadeOf (sinceBegun s q (new timeout messages bytes choices) calls) p := by
  induction calls using List.reverseRecOn generalizing p with
  | nil => cases hp
  | append_singleton calls call ih =>
    have hbefore : ∀ call ∈ calls, call.Read := fun c hc => hread c (List.mem_append_left _ hc)
    have hcall : call.Read := hread call (List.mem_append_right _ (List.mem_singleton_self call))
    rw [performAll_concat] at hp
    rw [sinceBegun_concat]
    exact (sound_performAll timeout messages bytes choices calls).madeOf_perform (fun p => ih hbefore) hcall hp

/-- What a message that is returned is made of. It has the length that its fragments tell and the channel of one that
counts. Each byte of its payload is a byte that a fragment that counts gives, or a zero byte where none that counts
gives any. So all of them were sent if and only if the fragments that count cover the payload. -/
theorem message_made_of {timeout : Nat} {choices : Nat → Choice} {calls : List Call} {x : Arrival} {m : Message}
    (hread : ∀ call ∈ calls ++ [.insert x], call.Read)
    (hm : (((new timeout messages bytes choices).performAll calls).perform (.insert x)).2 = some m) :
    let fs := sinceBegun x.sender x.fragment.sequence (new timeout messages bytes choices) (calls ++ [.insert x])
    m.payload.size = x.fragment.size.toNat ∧
    (∃ f : Fragment, f.Counts fs ∧ f.channel = some m.channel) ∧
    (∀ (j : Nat) (v : UInt8), m.payload[j]? = some v →
      (∃ f : Fragment, f.Counts fs ∧ f.Gives j v) ∨ v = 0 ∧ ∀ f : Fragment, f.Counts fs → ¬ f.Covers j) ∧
    ((∀ (j : Nat) (v : UInt8), m.payload[j]? = some v → ∃ f : Fragment, f.Counts fs ∧ f.Gives j v) ↔
      ∀ j < m.payload.size, ∃ f : Fragment, f.Counts fs ∧ f.Covers j) := by
  have h := sound_performAll timeout messages bytes choices calls
  have hbefore : ∀ call ∈ calls, call.Read := fun c hc => hread c (List.mem_append_left _ hc)
  have hcall : (Call.insert x).Read := hread _ (List.mem_append_right _ (List.mem_singleton_self _))
  have hfeed : (((new timeout messages bytes choices).performAll calls).feed x).2.1 = some m := hm
  have hsize : x.fragment.size.toNat ≤ bytes := by
    refine Nat.le_of_not_lt fun hlong => ?_
    rw [← h.maxBytes_eq] at hlong
    rw [(feed_of_long hlong).2] at hfeed
    cases hfeed
  obtain ⟨p, hmade, hmem, hreturned, -⟩ := h.madeOf_feed_own (Arrival.hasKey_iff.2 ⟨rfl, rfl⟩) hsize hcall.sendable
    fun p hp => madeOf_performAll hbefore hp
  obtain ⟨hchannel, hdata⟩ := hreturned m hfeed
  have hshape := hmade.shape x.fragment hmem
  rw [sameShape, Bool.and_eq_true, beq_iff_eq, hdata] at hshape
  rw [sinceBegun_concat]
  have hbytes := hmade.bytes
  rw [hdata] at hbytes
  refine ⟨hshape.1, hmade.channel _ hchannel, hbytes, fun hall j hj => ?_, fun hcovers j v hv => ?_⟩
  · obtain ⟨f, hf, hgives⟩ := hall j _ (getElem?_pos m.payload j hj)
    exact ⟨f, hf, hgives.1⟩
  · obtain ⟨f, hf, hcover⟩ := hcovers j ((getElem?_eq_some_iff.1 hv).1)
    exact (hbytes j v hv).resolve_right fun hnone => hnone.2 f hf hcover

/-- A fragment that makes up the whole of a message of one byte, with the bytes that it holds. -/
def lone (data : ByteArray) : Arrival :=
  { sender := "s"
    fragment := { sequence := 7, size := 1, offset := 0, index := 0, count := 1, channel := some "a", data }
    now := 0
    received := 0 }

theorem read_lone {data : ByteArray} (h : data.size ≤ 1) : (Call.insert (lone data)).Read := by
  refine ⟨_, decode_encode_fragment ⟨?_, fun _ => ⟨"a", rfl, by decide, by decide⟩, fun h => absurd rfl h, ?_⟩⟩
  · show (0 : UInt16) < 1
    decide
  · show 0 + data.size ≤ 1
    omega

theorem message_made_of_lone :
    ((new 10).perform (.insert (lone [5].toByteArray))).2 = some ⟨"a", [5].toByteArray, 0⟩ ∧
      ∃ f : Fragment, f.Counts (sinceBegun "s" 7 (new 10) [.insert (lone [5].toByteArray)]) ∧ f.Gives 0 5 := by
  have hm : (((new 10).performAll []).perform (.insert (lone [5].toByteArray))).2 =
      some ⟨"a", [5].toByteArray, 0⟩ := rfl
  have hread : ∀ call ∈ [] ++ [Call.insert (lone [5].toByteArray)], call.Read :=
    List.forall_mem_singleton.2 (read_lone (Nat.le_refl 1))
  obtain ⟨-, -, hbytes, -⟩ := message_made_of hread hm
  obtain hgiven | ⟨hzero, -⟩ := hbytes 0 5 rfl
  · exact ⟨hm, hgiven⟩
  · cases hzero

/-- A fragment without data completes its message, which is returned with a byte that no fragment has. -/
theorem message_unsent :
    (Call.insert (lone .empty)).Read ∧
      ((new 10).perform (.insert (lone .empty))).2 = some ⟨"a", [0].toByteArray, 0⟩ ∧
      ∀ f ∈ sinceBegun "s" 7 (new 10) [.insert (lone .empty)], ¬ f.Covers 0 := by
  refine ⟨read_lone (Nat.zero_le 1), rfl, ?_⟩
  have hsince : sinceBegun "s" 7 (new 10) [.insert (lone .empty)] = [(lone .empty).fragment] := rfl
  rw [hsince, List.forall_mem_singleton]
  exact fun h => Nat.lt_irrefl _ h.2

example : Datagram.encode (.fragment (lone .empty).fragment) =
    [0x4C, 0x43, 0x30, 0x33, 0, 0, 0, 7, 0, 0, 0, 1, 0, 0, 0, 0, 0, 0, 0, 1, 0x61, 0].toByteArray := by
  decide +kernel

end Assembly
end PubSub.Wire
