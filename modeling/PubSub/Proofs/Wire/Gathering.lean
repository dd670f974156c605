import PubSub.Proofs.Wire.Assembly
import PubSub.Proofs.Wire.Split

/-!
# Gathering the pieces of a message

A message under way knows which of its pieces have come in, and its payload is right wherever one has. When all have,
it is the message that was cut.

* `Cut.Gathered`: what holds of a message under way.
* `Cut.placed`: a message under way with a new piece.

Results:

* `Cut.gathered_blank`, `Cut.Gathered.placed`: it holds at the start, and goes on holding with each new piece.
* `Cut.Gathered.remaining_eq_zero_iff`: no piece is missing exactly when all have come in.
* `Cut.Gathered.data_eq`: when all pieces are in, the payload is complete.
-/

namespace PubSub.Wire

namespace Cut

variable {c : Cut} {i : Nat}

/-- What holds of a message under way when the pieces `seen` have come in, the first of them at time `start`. -/
structure Gathered (c : Cut) (seen : Nat → Prop) (start : Timestamp) (p : Partial) : Prop where
  sequence : p.sequence = c.sequence
  size : p.data.size = c.payload.size
  flags : p.received.size = c.count
  received : ∀ i < c.count, p.received[i]? = some true ↔ seen i
  remaining : p.remaining = p.received.toList.count false
  agrees : ∀ i < c.count, seen i → ∀ j, c.start i ≤ j → j < c.stop i → p.data[j]? = c.payload[j]?
  channel : seen 0 → p.channel = some c.channel
  firstReceived : p.firstReceived = start

/-- Nothing of a message that is begun has come in. -/
theorem gathered_blank (c : Cut) (i : Nat) (sender : Sender) (now : Instant) (received : Timestamp) :
    Gathered c (fun _ => False) received (Assembly.blank sender (c.piece i) now received) := by
  refine ⟨rfl, ?_, ?_, fun j hj => ?_, ?_, fun _ _ h => h.elim, fun h => h.elim, rfl⟩
  · show (Bytes.replicate (c.piece i).size.toNat 0).size = c.payload.size
    rw [Bytes.size_replicate, toNat_size]
  · show (Array.replicate (c.piece i).count.toNat false).size = c.count
    rw [Array.size_replicate, toNat_count]
  · show (Array.replicate (c.piece i).count.toNat false)[j]? = some true ↔ False
    rw [toNat_count, Array.getElem?_replicate, if_pos hj]
    simp
  · show (c.piece i).count.toNat = _
    simp [Assembly.blank]

theorem Gathered.congr {seen seen' : Nat → Prop} {start : Timestamp} {p : Partial} (hp : Gathered c seen start p)
    (h : ∀ i < c.count, seen i ↔ seen' i) : Gathered c seen' start p := by
  have hpos : 0 < c.count := Nat.lt_of_lt_of_le Nat.zero_lt_two c.layout.two_le
  refine { hp with received := fun i hi => ?_, agrees := fun i hi hs => ?_, channel := fun h0 => ?_ }
  · exact (hp.received i hi).trans (h i hi)
  · exact hp.agrees i hi ((h i hi).2 hs)
  · exact hp.channel ((h 0 hpos).2 h0)

theorem Gathered.touch {seen : Nat → Prop} {start : Timestamp} {p : Partial} (hp : Gathered c seen start p)
    (now : Instant) : Gathered c seen start { p with lastTouch := now } :=
  { hp with }

/-- A piece that has come in before is not placed again. -/
theorem Gathered.place_seen {seen : Nat → Prop} {start : Timestamp} {p : Partial} (hp : Gathered c seen start p)
    (hi : i < c.count) (hs : seen i) : Assembly.place p (c.piece i) = none := by
  unfold Assembly.place
  rw [toNat_index hi, (hp.received i hi).2 hs]

/-- A message under way with a new piece. -/
def placed (p : Partial) (f : Fragment) : Partial :=
  { p with
    channel := f.channel <|> p.channel
    data := f.data.copySlice 0 p.data f.offset.toNat f.data.size
    received := p.received.setIfInBounds f.index.toNat true
    remaining := p.remaining - 1 }

theorem Gathered.flag_eq_false {seen : Nat → Prop} {start : Timestamp} {p : Partial} (hp : Gathered c seen start p)
    (hi : i < c.count) (hs : ¬ seen i) : p.received[i]? = some false := by
  have hlt : i < p.received.size := hp.flags.symm ▸ hi
  have hget := Array.getElem?_eq_getElem hlt
  cases hb : p.received[i] with
  | false => rw [hget, hb]
  | true => exact absurd ((hp.received i hi).1 (by rw [hget, hb])) hs

/-- A piece fits into the payload. -/
theorem Gathered.fits {seen : Nat → Prop} {start : Timestamp} {p : Partial} (hp : Gathered c seen start p)
    (hi : i < c.count) : (c.piece i).offset.toNat + (c.piece i).data.size ≤ p.data.size := by
  rw [hp.size, toNat_offset hi, size_data]
  have := start_le_stop hi
  have := c.stop_le i
  omega

/-- A new piece is placed. -/
theorem Gathered.place_new {seen : Nat → Prop} {start : Timestamp} {p : Partial} (hp : Gathered c seen start p)
    (hi : i < c.count) (hs : ¬ seen i) : Assembly.place p (c.piece i) = some (placed p (c.piece i)) := by
  unfold Assembly.place
  rw [toNat_index hi, hp.flag_eq_false hi hs]
  simp only
  rw [if_neg (Nat.not_lt.2 (hp.fits hi)), placed, toNat_index hi]

/-- The bytes of a piece are right where it is placed, and the others are left as they are. -/
theorem Gathered.agrees_placed {seen : Nat → Prop} {start : Timestamp} {p : Partial} (hp : Gathered c seen start p)
    (hi : i < c.count) {k j : Nat} (hk : k < c.count) (hseen : seen k ∨ k = i) (hlow : c.start k ≤ j)
    (hhigh : j < c.stop k) : (placed p (c.piece i)).data[j]? = c.payload[j]? := by
  have hstop : (c.piece i).offset.toNat + (c.piece i).data.size = c.stop i := by
    rw [toNat_offset hi, size_data]
    have := start_le_stop hi
    omega
  refine (Bytes.getElem?_copySlice (hp.fits hi) j).trans ?_
  rw [hstop, toNat_offset hi]
  by_cases hin : c.start i ≤ j ∧ j < c.stop i
  · have hend := c.stop_le i
    rw [if_pos hin, getElem?_pos c.payload j (by omega), getElem?_pos _ _ (by rw [size_data]; omega)]
    simp only [data_piece, ByteArray.getElem_extract, Nat.add_sub_cancel' hin.1]
  · rw [if_neg hin]
    refine hp.agrees k hk (hseen.resolve_right fun hki => ?_) j hlow hhigh
    subst hki
    exact hin ⟨hlow, hhigh⟩

theorem Gathered.placed {seen : Nat → Prop} {start : Timestamp} {p : Partial} (hp : Gathered c seen start p)
    (hi : i < c.count) (hs : ¬ seen i) : Gathered c (fun j => seen j ∨ j = i) start (placed p (c.piece i)) := by
  have hlt : i < p.received.toList.length := by
    rw [Array.length_toList, hp.flags]
    exact hi
  refine ⟨hp.sequence, (Bytes.size_copySlice (hp.fits hi)).trans hp.size, Array.size_setIfInBounds.trans hp.flags,
    fun j hj => ?_, ?_, fun k hk hseen j hlow hhigh => hp.agrees_placed hi hk hseen hlow hhigh, fun h0 => ?_,
    hp.firstReceived⟩
  · show (p.received.setIfInBounds (c.piece i).index.toNat true)[j]? = some true ↔ seen j ∨ j = i
    rw [toNat_index hi, Array.getElem?_setIfInBounds]
    by_cases hji : i = j
    · rw [if_pos hji, if_pos (hp.flags.symm ▸ hi)]
      exact ⟨fun _ => Or.inr hji.symm, fun _ => rfl⟩
    · rw [if_neg hji, hp.received j hj]
      exact ⟨Or.inl, fun h => h.resolve_right (Ne.symm hji)⟩
  · show p.remaining - 1 = (p.received.setIfInBounds (c.piece i).index.toNat true).toList.count false
    have hflag : p.received.toList[i] = false := by
      have := hp.flag_eq_false hi hs
      rw [← Array.getElem?_toList, List.getElem?_eq_getElem hlt] at this
      exact Option.some.inj this
    rw [toNat_index hi, hp.remaining, Array.toList_setIfInBounds, List.count_set hlt, hflag]
    rfl
  · show ((c.piece i).channel <|> p.channel) = some c.channel
    rw [channel_piece]
    by_cases hi0 : i = 0
    · rw [if_pos hi0]
      rfl
    · rw [if_neg hi0]
      exact hp.channel (h0.resolve_right (Ne.symm hi0))

/-- When all pieces are in, the payload is complete. -/
theorem Gathered.data_eq {seen : Nat → Prop} {start : Timestamp} {p : Partial} (hp : Gathered c seen start p)
    (hall : ∀ i < c.count, seen i) : p.data = c.payload := by
  refine ByteArray.ext_getElem hp.size fun j hj hj' => ?_
  obtain ⟨i, hi, hstart, hstop⟩ := c.layout.exists_piece hj'
  have hbyte := hp.agrees i hi (hall i hi) j hstart hstop
  rw [getElem?_pos p.data j hj, getElem?_pos c.payload j hj'] at hbyte
  exact Option.some.inj hbyte

/-- No piece is missing exactly when all have come in. -/
theorem Gathered.remaining_eq_zero_iff {seen : Nat → Prop} {start : Timestamp} {p : Partial}
    (hp : Gathered c seen start p) : p.remaining = 0 ↔ ∀ i < c.count, seen i := by
  rw [hp.remaining, List.count_eq_zero, List.mem_iff_getElem?, not_exists]
  constructor
  · intro hno i hi
    by_contra hs
    have hflag := hp.flag_eq_false hi hs
    rw [← Array.getElem?_toList] at hflag
    exact hno i hflag
  · intro hall i hflag
    rw [Array.getElem?_toList] at hflag
    have hi : i < c.count := by
      rw [← hp.flags]
      exact (Array.getElem?_eq_some_iff.1 hflag).1
    rw [(hp.received i hi).2 (hall i hi)] at hflag
    cases hflag

end Cut
end PubSub.Wire
