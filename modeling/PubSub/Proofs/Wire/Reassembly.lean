import Mathlib.Data.List.Chain
import Mathlib.Data.List.Induction
import PubSub.Proofs.Wire.Gathering

/-!
# A message that is cut is put together again

The pieces of a message come in in any order, some of them many times, among the fragments of other messages. The
message is returned when its last missing piece comes in, and at no time before.

* `Arrival`: a fragment that comes in.
* `Assembly.feed`, `Assembly.feedAll`: what an assembly makes of one arrival and of many.
* `Cut.Held`: what an assembly has of a message after some arrivals.
* `Delivery`: the datagrams of a message come in among other arrivals.

Results:

* `Cut.insert_piece`: what becomes of one piece.
* `Cut.feed_of_held`: one arrival leaves the message under way, or completes it.
* `Cut.held_feedAll`, `Cut.completed_feedAll`: so do many arrivals.
* `encodeMessage_reassembled`: the datagrams of a message give the message.
-/

namespace PubSub.Wire

variable {s : Sender}

/-! ## One piece -/

namespace Cut

variable {c : Cut} {i : Nat}

/-- A message under way has the shape that its pieces tell. -/
theorem Gathered.sameShape {seen : Nat → Prop} {start : Timestamp} {p : Partial} (hp : Gathered c seen start p) :
    Assembly.sameShape (c.piece i) p = true := by
  rw [Assembly.sameShape, hp.size, hp.flags, toNat_size, toNat_count, beq_self_eq_true, beq_self_eq_true]
  rfl

/-- What becomes of a piece once its message is found. The message goes on as long as pieces are missing, and is
returned and forgotten with the last one. -/
theorem insert_piece {a b : Assembly} {p : Partial} {events : List Assembly.Event} {now : Instant}
    {received start : Timestamp} {seen : Nat → Prop} (hi : i < c.count) (hmax : c.payload.size ≤ a.maxBytes)
    (hfound : (a.evictStale now).1.findOrBegin s (c.piece i) now received = (b, p, events))
    (hb : b.entries s c.sequence = [p]) (hp : Gathered c seen start p) (hmissing : ∃ k < c.count, ¬ seen k) :
    ((∃ k < c.count, ¬ (seen k ∨ k = i)) →
      (a.insert s (c.piece i) now received).2.1 = none ∧
        ∃ x, (a.insert s (c.piece i) now received).1.entries s c.sequence = [x] ∧
          Gathered c (fun k => seen k ∨ k = i) start x ∧ x.lastTouch = now) ∧
    ((∀ k < c.count, seen k ∨ k = i) →
      (a.insert s (c.piece i) now received).2.1 = some ⟨c.channel, c.payload, start⟩ ∧
        (a.insert s (c.piece i) now received).1.entries s c.sequence = []) := by
  have hkey : p.hasKey s c.sequence = true := by
    have hmem : p ∈ b.entries s c.sequence := hb ▸ List.mem_singleton_self p
    exact (List.mem_filter.1 hmem).2
  have hsmall : ¬ (a.evictStale now).1.maxBytes < (c.piece i).size.toNat := by
    rw [toNat_size]
    exact Nat.not_lt.2 hmax
  simp only [Assembly.insert, if_neg hsmall, hfound]
  have ht := hp.touch now
  have hkeyt : ({ p with lastTouch := now } : Partial).hasKey s c.sequence = true := hkey
  have htouch : ({ p with lastTouch := now } : Partial).lastTouch = now := rfl
  generalize ({ p with lastTouch := now } : Partial) = t at ht hkeyt htouch
  by_cases hs : seen i
  · -- a piece that has come in before changes nothing but the time
    have hsame : ∀ k, (seen k ∨ k = i) ↔ seen k := fun k => ⟨fun h => h.elim id fun hk => hk ▸ hs, Or.inl⟩
    simp only [hsame, ht.place_seen hi hs]
    refine ⟨fun _ => ⟨trivial, t, ?_, ht, htouch⟩, fun hall => ?_⟩
    · rw [Assembly.entries_replace_own b hkeyt, hb, List.map_cons, List.map_nil]
    · obtain ⟨k, hk, hno⟩ := hmissing
      exact absurd (hall k hk) hno
  · have hx := ht.placed hi hs
    have hkeyx : (placed t (c.piece i)).hasKey s c.sequence = true := hkeyt
    have htouchx : (placed t (c.piece i)).lastTouch = now := htouch
    simp only [ht.place_new hi hs]
    generalize placed t (c.piece i) = x at hx hkeyx htouchx
    constructor
    · rintro ⟨k, hk, hno⟩
      have hleft : ¬ x.remaining = 0 := fun h0 => hno (hx.remaining_eq_zero_iff.1 h0 k hk)
      rw [if_neg hleft]
      refine ⟨rfl, x, ?_, hx, htouchx⟩
      rw [Assembly.entries_replace_own b hkeyx, hb, List.map_cons, List.map_nil]
    · intro hall
      have h0 : x.remaining = 0 := hx.remaining_eq_zero_iff.2 hall
      have hpos : 0 < c.count := Nat.lt_of_lt_of_le Nat.zero_lt_two c.layout.two_le
      rw [if_pos h0]
      refine ⟨?_, ?_⟩
      · show (x.channel.map fun channel => (⟨channel, x.data, x.firstReceived⟩ : Message)) = _
        rw [hx.channel (hall 0 hpos), hx.data_eq hall, hx.firstReceived]
        rfl
      · show (b.remove s c.sequence).entries s c.sequence = []
        rw [Assembly.entries_remove_own, hb, List.tail_cons]

end Cut

/-! ## Many arrivals -/

/-- A fragment that comes in. -/
structure Arrival where
  /-- Who sends it. -/
  sender : Sender
  /-- What comes in. -/
  fragment : Fragment
  /-- When it comes in. -/
  now : Instant
  /-- Its receive time. -/
  received : Timestamp

namespace Arrival

/-- Whether an arrival belongs to message number `q` of `s`. -/
def hasKey (s : Sender) (q : UInt32) (x : Arrival) : Bool := x.sender == s && x.fragment.sequence == q

/-- The arrival is the datagram `d` from the sender `s`. -/
def Carries (x : Arrival) (s : Sender) (d : ByteArray) : Prop :=
  x.sender = s ∧ Datagram.decode d = .ok (.fragment x.fragment)

/-- Each of the datagrams `ds` from the sender `s` is among the arrivals. -/
def Cover (xs : List Arrival) (s : Sender) (ds : List ByteArray) : Prop := ∀ d ∈ ds, ∃ x ∈ xs, x.Carries s d

theorem hasKey_iff {q : UInt32} {x : Arrival} : x.hasKey s q = true ↔ x.sender = s ∧ x.fragment.sequence = q := by
  simp [hasKey]

end Arrival

namespace Assembly

/-- What an assembly makes of an arrival. -/
def feed (a : Assembly) (x : Arrival) : Assembly × Option Message × List Event :=
  a.insert x.sender x.fragment x.now x.received

/-- The assembly after some arrivals. -/
def feedAll (a : Assembly) (xs : List Arrival) : Assembly := xs.foldl (fun a x => (a.feed x).1) a

/-- What becomes of messages during some arrivals. -/
def events (a : Assembly) : List Arrival → List Event
  | [] => []
  | x :: xs => (a.feed x).2.2 ++ events (a.feed x).1 xs

theorem feedAll_concat (a : Assembly) (xs : List Arrival) (x : Arrival) :
    a.feedAll (xs ++ [x]) = ((a.feedAll xs).feed x).1 := by
  rw [feedAll, List.foldl_append]
  rfl

theorem events_append (a : Assembly) (xs ys : List Arrival) :
    a.events (xs ++ ys) = a.events xs ++ (a.feedAll xs).events ys := by
  induction xs generalizing a with
  | nil => rfl
  | cons x xs ih =>
    rw [List.cons_append, events, events, ih, List.append_assoc]
    rfl

theorem limits_feedAll (a : Assembly) (xs : List Arrival) :
    (a.feedAll xs).maxBytes = a.maxBytes ∧ (a.feedAll xs).timeout = a.timeout := by
  induction xs generalizing a with
  | nil => exact ⟨rfl, rfl⟩
  | cons x xs ih =>
    obtain ⟨hb, ht⟩ := ih (a.feed x).1
    obtain ⟨hb', ht'⟩ := limits_insert a x.sender x.fragment x.now x.received
    exact ⟨hb.trans hb', ht.trans ht'⟩

end Assembly

namespace Cut

variable {c : Cut}

/-- The pieces that are among some arrivals. -/
def Seen (c : Cut) (s : Sender) (xs : List Arrival) (i : Nat) : Prop :=
  ∃ x ∈ xs, x.sender = s ∧ x.fragment = c.piece i

/-- All pieces are among some arrivals. -/
def Complete (c : Cut) (s : Sender) (xs : List Arrival) : Prop := ∀ i < c.count, c.Seen s xs i

/-- What an assembly has of a message after the arrivals `xs`: nothing, or the pieces that have come in. -/
def Held (c : Cut) (s : Sender) (xs : List Arrival) (a : Assembly) : Prop :=
  (xs.filter (Arrival.hasKey s c.sequence) = [] ∧ a.entries s c.sequence = []) ∨
    ∃ first last p, (xs.filter (Arrival.hasKey s c.sequence)).head? = some first ∧
      (xs.filter (Arrival.hasKey s c.sequence)).getLast? = some last ∧ a.entries s c.sequence = [p] ∧
      c.Gathered (c.Seen s xs) first.received p ∧ p.lastTouch = last.now

theorem seen_concat {xs : List Arrival} {x : Arrival} {k : Nat} :
    c.Seen s (xs ++ [x]) k ↔ c.Seen s xs k ∨ (x.sender = s ∧ x.fragment = c.piece k) := by
  simp only [Seen, List.mem_append, List.mem_singleton, or_and_right, exists_or, exists_eq_left]

/-- A piece tells which one it is. -/
theorem piece_inj {i k : Nat} (hi : i < c.count) (hk : k < c.count) (h : c.piece i = c.piece k) : i = k := by
  rw [← toNat_index hi, ← toNat_index hk, h]

theorem not_complete_nil (c : Cut) (s : Sender) : ¬ c.Complete s [] := fun h => by
  obtain ⟨x, hx, _⟩ := h 0 (Nat.lt_of_lt_of_le Nat.zero_lt_two c.layout.two_le)
  cases hx

theorem exists_missing {xs : List Arrival} (h : ¬ c.Complete s xs) : ∃ k < c.count, ¬ c.Seen s xs k := by
  by_contra hno
  refine h fun k hk => ?_
  by_contra hs
  exact hno ⟨k, hk, hs⟩

/-- What is assumed of an arrival `x` after the arrivals `xs` at an assembly: it has come in before the message has
waited too long, does not crowd it out, and is one of its pieces if it has its key. -/
structure Timely (c : Cut) (s : Sender) (a : Assembly) (xs : List Arrival) (x : Arrival) : Prop where
  fits : c.payload.size ≤ a.maxBytes
  fresh : ∀ last, (xs.filter (Arrival.hasKey s c.sequence)).getLast? = some last → x.now ≤ last.now + a.timeout
  kept : Assembly.Event.crowdedOut c.sequence s ∉ (a.feed x).2.2
  own : x.hasKey s c.sequence = true → ∃ i < c.count, x.fragment = c.piece i

variable {a : Assembly} {xs : List Arrival} {x : Arrival}

theorem fresh_of_held (hx : c.Timely s a xs x) (hheld : c.Held s xs a) :
    ∀ p ∈ a.entries s c.sequence, a.isStale x.now p = false := by
  intro p hp
  rcases hheld with ⟨-, hnil⟩ | ⟨-, last, q, -, hlast, hentries, -, htouch⟩
  · rw [hnil] at hp
    cases hp
  · rw [hentries, List.mem_singleton] at hp
    subst hp
    have hgap := hx.fresh last hlast
    show decide (a.timeout < x.now - p.lastTouch) = false
    rw [decide_eq_false_iff_not, htouch, Nat.not_lt]
    rw [Nat.add_comm] at hgap
    exact Nat.sub_le_of_le_add hgap

/-- An arrival of another key leaves the message as it is. -/
theorem held_feed_other (hx : c.Timely s a xs x) (hheld : c.Held s xs a) (hk : x.hasKey s c.sequence = false) :
    c.Held s (xs ++ [x]) (a.feed x).1 ∧ ∀ k, c.Seen s (xs ++ [x]) k ↔ c.Seen s xs k := by
  have hne : ¬ (x.sender = s ∧ x.fragment.sequence = c.sequence) := fun h =>
    Bool.eq_false_iff.1 hk (Arrival.hasKey_iff.2 h)
  have hfilter : (xs ++ [x]).filter (Arrival.hasKey s c.sequence) = xs.filter (Arrival.hasKey s c.sequence) := by
    rw [List.filter_append, List.filter_cons, hk, if_neg Bool.false_ne_true, List.filter_nil, List.append_nil]
  have hseen : ∀ k, c.Seen s (xs ++ [x]) k ↔ c.Seen s xs k := by
    intro k
    rw [seen_concat]
    refine ⟨fun h => h.resolve_right fun hp => hne ⟨hp.1, ?_⟩, Or.inl⟩
    rw [hp.2]
    rfl
  refine ⟨?_, hseen⟩
  rw [Held, hfilter, show c.Seen s (xs ++ [x]) = c.Seen s xs from funext fun k => propext (hseen k),
    show (a.feed x).1.entries s c.sequence = a.entries s c.sequence from
      Assembly.entries_insert_other hne (fresh_of_held hx hheld) hx.kept]
  exact hheld

/-- A piece finds its message with the pieces before it, or begins it. -/
theorem found_of_held (hx : c.Timely s a xs x) (hheld : c.Held s xs a) (i : Nat) :
    ∃ first b p events, (xs.filter (Arrival.hasKey s c.sequence) ++ [x]).head? = some first ∧
      (a.evictStale x.now).1.findOrBegin s (c.piece i) x.now x.received = (b, p, events) ∧
      b.entries s c.sequence = [p] ∧ c.Gathered (c.Seen s xs) first.received p := by
  have hentries := Assembly.entries_evictStale_of_fresh (fresh_of_held hx hheld)
  rcases hheld with ⟨hown, hnil⟩ | ⟨first, last, p, hfirst, -, hone, hp, -⟩
  · have hseen : c.Seen s xs = fun _ => False := by
      funext k
      refine eq_false ?_
      rintro ⟨y, hy, hys, hyk⟩
      have hykey : y.hasKey s c.sequence = true := Arrival.hasKey_iff.2 ⟨hys, hyk ▸ rfl⟩
      have hmem : y ∈ xs.filter (Arrival.hasKey s c.sequence) := List.mem_filter.2 ⟨hy, hykey⟩
      rw [hown] at hmem
      cases hmem
    rw [hnil] at hentries
    obtain ⟨hb, hp⟩ := Assembly.findOrBegin_nil (f := c.piece i) hentries x.now x.received
    generalize (a.evictStale x.now).1.findOrBegin s (c.piece i) x.now x.received = found at hb hp
    obtain ⟨b, p, events⟩ := found
    subst hp
    refine ⟨x, b, _, events, ?_, rfl, hb, ?_⟩
    · rw [hown]
      rfl
    · rw [hseen]
      exact gathered_blank c i s x.now x.received
  · refine ⟨first, _, _, _, ?_, Assembly.findOrBegin_cons (f := c.piece i) (hentries.trans hone) hp.sameShape x.now
      x.received, hentries.trans hone, hp⟩
    rw [List.head?_append, hfirst]
    rfl

theorem filter_concat_own (h : x.hasKey s c.sequence = true) :
    (xs ++ [x]).filter (Arrival.hasKey s c.sequence) = xs.filter (Arrival.hasKey s c.sequence) ++ [x] := by
  rw [List.filter_append, List.filter_cons_of_pos h, List.filter_nil]

/-- What becomes of an arrival that has the key. -/
theorem feed_own (hx : c.Timely s a xs x) (hheld : c.Held s xs a) (hmissing : ¬ c.Complete s xs)
    (hk : x.hasKey s c.sequence = true) :
    (¬ c.Complete s (xs ++ [x]) → (a.feed x).2.1 = none ∧ c.Held s (xs ++ [x]) (a.feed x).1) ∧
      (c.Complete s (xs ++ [x]) →
        ∃ first, ((xs ++ [x]).filter (Arrival.hasKey s c.sequence)).head? = some first ∧
          (a.feed x).2.1 = some ⟨c.channel, c.payload, first.received⟩ ∧
          (a.feed x).1.entries s c.sequence = []) := by
  obtain ⟨hsender, -⟩ := Arrival.hasKey_iff.1 hk
  obtain ⟨i, hi, hpiece⟩ := hx.own hk
  obtain ⟨first, b, p, events, hfirst, hfound, hb, hp⟩ := found_of_held hx hheld i
  obtain ⟨hmore, hlast⟩ := insert_piece hi hx.fits hfound hb hp (exists_missing hmissing)
  have hseen : ∀ k < c.count, c.Seen s (xs ++ [x]) k ↔ c.Seen s xs k ∨ k = i := by
    intro k hk
    rw [seen_concat]
    refine or_congr_right ⟨fun h => piece_inj hk hi (h.2.symm.trans hpiece), fun h => ⟨hsender, ?_⟩⟩
    rw [hpiece, h]
  have hfeed : a.feed x = a.insert s (c.piece i) x.now x.received := by rw [Assembly.feed, hsender, hpiece]
  rw [hfeed, Held, filter_concat_own hk]
  constructor
  · intro hno
    obtain ⟨k, hkc, hks⟩ := exists_missing hno
    obtain ⟨hnone, y, hentries, hy, htouch⟩ := hmore ⟨k, hkc, fun h => hks ((hseen k hkc).2 h)⟩
    refine ⟨hnone, Or.inr ⟨first, x, y, hfirst, ?_, hentries, hy.congr fun k hk => (hseen k hk).symm, htouch⟩⟩
    rw [List.getLast?_append, List.getLast?_singleton]
    rfl
  · intro hall
    obtain ⟨hsome, hentries⟩ := hlast fun k hk => (hseen k hk).1 (hall k hk)
    exact ⟨first, hfirst, hsome, hentries⟩

/-- What becomes of an arrival while pieces are missing. The message stays under way, or this is its last piece. -/
theorem feed_of_held (hx : c.Timely s a xs x) (hheld : c.Held s xs a) (hmissing : ¬ c.Complete s xs) :
    (¬ c.Complete s (xs ++ [x]) →
      (x.hasKey s c.sequence = true → (a.feed x).2.1 = none) ∧ c.Held s (xs ++ [x]) (a.feed x).1) ∧
      (c.Complete s (xs ++ [x]) → x.hasKey s c.sequence = true ∧
        ∃ first, ((xs ++ [x]).filter (Arrival.hasKey s c.sequence)).head? = some first ∧
          (a.feed x).2.1 = some ⟨c.channel, c.payload, first.received⟩ ∧
          (a.feed x).1.entries s c.sequence = []) := by
  cases hk : x.hasKey s c.sequence with
  | true =>
    obtain ⟨hmore, hlast⟩ := feed_own hx hheld hmissing hk
    exact ⟨fun hno => ⟨fun _ => (hmore hno).1, (hmore hno).2⟩, fun hall => ⟨rfl, hlast hall⟩⟩
  | false =>
    obtain ⟨hheld', hseen⟩ := held_feed_other hx hheld hk
    refine ⟨fun _ => ⟨fun h => Bool.noConfusion h, hheld'⟩, fun hall => ?_⟩
    exact absurd (fun k hkc => (hseen k).1 (hall k hkc)) hmissing

/-- While pieces are missing, the message is under way. -/
theorem held_feedAll (hnil : a.entries s c.sequence = [])
    (hrun : ∀ pre x post, xs = pre ++ x :: post → ¬ c.Complete s pre → c.Timely s (a.feedAll pre) pre x) :
    ∀ pre post, xs = pre ++ post → ¬ c.Complete s pre → c.Held s pre (a.feedAll pre) := by
  intro pre
  -- induction on the arrivals, the last one taken off
  induction pre using List.reverseRecOn with
  | nil => exact fun _ _ _ => Or.inl ⟨rfl, hnil⟩
  | append_singleton pre x ih =>
    intro post hxs hmissing
    have hxs' : xs = pre ++ x :: post := by rw [hxs, List.append_assoc, List.singleton_append]
    have hmissing' : ¬ c.Complete s pre := fun hall =>
      hmissing fun k hk => seen_concat.2 (Or.inl (hall k hk))
    have hheld := ih (x :: post) hxs' hmissing'
    rw [Assembly.feedAll_concat]
    exact ((feed_of_held (hrun pre x post hxs' hmissing') hheld hmissing').1 hmissing).2

/-- Among some arrivals that bring about what did not hold at first, there is one that does. -/
theorem exists_turn {α : Type} {P : List α → Prop} (hnil : ¬ P []) {xs : List α} (h : P xs) :
    ∃ before last after, xs = before ++ last :: after ∧ ¬ P before ∧ P (before ++ [last]) := by
  induction xs using List.reverseRecOn with
  | nil => exact absurd h hnil
  | append_singleton xs x ih =>
    by_cases hxs : P xs
    · obtain ⟨before, last, after, rfl, hno, hyes⟩ := ih hxs
      exact ⟨before, last, after ++ [x], by rw [List.append_assoc, List.cons_append], hno, hyes⟩
    · exact ⟨xs, x, [], rfl, hxs, h⟩

/-- The message is returned with its last missing piece, and at no time before. -/
theorem completed_feedAll (hnil : a.entries s c.sequence = [])
    (hrun : ∀ pre x post, xs = pre ++ x :: post → ¬ c.Complete s pre → c.Timely s (a.feedAll pre) pre x)
    (hall : c.Complete s xs) :
    ∃ before last after first, xs = before ++ last :: after ∧ ¬ c.Complete s before ∧
      c.Complete s (before ++ [last]) ∧ last.hasKey s c.sequence = true ∧
      (xs.filter (Arrival.hasKey s c.sequence)).head? = some first ∧
      (∀ pre x post, before = pre ++ x :: post → x.hasKey s c.sequence = true →
        ((a.feedAll pre).feed x).2.1 = none) ∧
      ((a.feedAll before).feed last).2.1 = some ⟨c.channel, c.payload, first.received⟩ ∧
      ((a.feedAll before).feed last).1.entries s c.sequence = [] := by
  obtain ⟨before, last, after, hxs, hno, hyes⟩ := exists_turn (not_complete_nil c s) hall
  have hheld := held_feedAll hnil hrun before (last :: after) hxs hno
  have hlast := feed_of_held (hrun before last after hxs hno) hheld hno
  obtain ⟨hkey, first, hfirst, hsome, hentries⟩ := hlast.2 hyes
  refine ⟨before, last, after, first, hxs, hno, hyes, hkey, ?_, ?_, hsome, hentries⟩
  · rw [hxs, List.append_cons, List.filter_append, List.head?_append, hfirst]
    rfl
  · rintro pre x post rfl hx
    have hxs' : xs = pre ++ x :: (post ++ last :: after) := by rw [hxs, List.append_assoc, List.cons_append]
    have hmono : ∀ ys zs, c.Complete s ys → c.Complete s (ys ++ zs) := fun ys zs hys k hk => by
      obtain ⟨y, hy, hp⟩ := hys k hk
      exact ⟨y, List.mem_append_left zs hy, hp⟩
    have hpre : ¬ c.Complete s pre := fun h => hno (hmono pre _ h)
    have hpre' : ¬ c.Complete s (pre ++ [x]) := fun h => hno (by
      have := hmono (pre ++ [x]) post h
      rwa [List.append_assoc, List.singleton_append] at this)
    exact ((feed_of_held (hrun pre x _ hxs' hpre) (held_feedAll hnil hrun pre _ hxs' hpre) hpre).1 hpre').1 hx

end Cut

/-! ## Whole runs -/

/-- The datagrams `ds` of message number `q` of `s` come in among the arrivals `xs` at the assembly `a`, in any order
and any number of times, but each at least once. Two of them that follow one another are not too far apart, and the
message does not have to make way for others. -/
structure Delivery (a : Assembly) (s : Sender) (q : UInt32) (ds : List ByteArray) (xs : List Arrival) : Prop where
  unknown : a.get? s q = none
  own : ∀ x ∈ xs, x.hasKey s q = true → ∃ d ∈ ds, x.Carries s d
  cover : Arrival.Cover xs s ds
  ordered : xs.Pairwise fun x y => x.now ≤ y.now
  close : (xs.filter (Arrival.hasKey s q)).IsChain fun x y => y.now ≤ x.now + a.timeout
  kept : Assembly.Event.crowdedOut q s ∉ a.events xs

namespace Cut

variable {c : Cut} {a : Assembly} {xs : List Arrival}

theorem carries_iff {x : Arrival} {i : Nat} (hi : i < c.count) :
    x.Carries s (c.datagram i) ↔ x.sender = s ∧ x.fragment = c.piece i := by
  rw [Arrival.Carries, decode_datagram hi]
  refine and_congr_right fun _ => ⟨fun h => ?_, fun h => by rw [h]⟩
  exact (Datagram.fragment.inj (Except.ok.inj h)).symm

theorem cover_iff : Arrival.Cover xs s ((List.range c.count).map c.datagram) ↔ c.Complete s xs := by
  constructor
  · intro h i hi
    obtain ⟨x, hx, hc⟩ := h (c.datagram i) (List.mem_map_of_mem (List.mem_range.2 hi))
    exact ⟨x, hx, (carries_iff hi).1 hc⟩
  · intro h d hd
    obtain ⟨i, hi, rfl⟩ := List.mem_map.1 hd
    obtain ⟨x, hx, hp⟩ := h i (List.mem_range.1 hi)
    exact ⟨x, hx, (carries_iff (List.mem_range.1 hi)).2 hp⟩

/-- While pieces are missing, another one comes in before the message has waited too long. -/
theorem timely_of_delivery (h : Delivery a s c.sequence ((List.range c.count).map c.datagram) xs)
    (hmax : c.payload.size ≤ a.maxBytes) {pre post : List Arrival} {x : Arrival} (hxs : xs = pre ++ x :: post)
    (hmissing : ¬ c.Complete s pre) : c.Timely s (a.feedAll pre) pre x := by
  obtain ⟨hmax', htimeout⟩ := a.limits_feedAll pre
  refine ⟨by rw [hmax']; exact hmax, fun last hlast => ?_, fun hout => ?_, fun hkey => ?_⟩
  · -- the next arrival of the message is `x` or comes after it
    obtain ⟨k, hk, hno⟩ := exists_missing hmissing
    obtain ⟨z, hz, hzs, hzp⟩ := cover_iff.1 h.cover k hk
    have hzkey : z.hasKey s c.sequence = true := Arrival.hasKey_iff.2 ⟨hzs, hzp ▸ rfl⟩
    rw [hxs, List.mem_append] at hz
    have hzpost := hz.resolve_left fun hz => hno ⟨z, hz, hzs, hzp⟩
    have hclose := h.close
    rw [hxs, List.filter_append, List.isChain_append] at hclose
    cases hnext : (x :: post).filter (Arrival.hasKey s c.sequence) with
    | nil =>
      have hmem := List.mem_filter.2 ⟨hzpost, hzkey⟩
      rw [hnext] at hmem
      cases hmem
    | cons y ys =>
      have hy : y ∈ x :: post := List.mem_of_mem_filter (hnext ▸ List.mem_cons_self)
      have hordered := h.ordered
      rw [hxs, List.pairwise_append] at hordered
      have hxy : x.now ≤ y.now := by
        rcases List.mem_cons.1 hy with rfl | hy
        · exact Nat.le_refl _
        · exact List.rel_of_pairwise_cons hordered.2.1 hy
      rw [htimeout]
      exact Nat.le_trans hxy (hclose.2.2 last hlast y (by rw [hnext]; rfl))
  · refine h.kept ?_
    rw [hxs, Assembly.events_append, List.mem_append, Assembly.events, List.mem_append]
    exact Or.inr (Or.inl hout)
  · obtain ⟨d, hd, hcarries⟩ := h.own x (by rw [hxs]; exact List.mem_append_right pre List.mem_cons_self) hkey
    obtain ⟨i, hi, rfl⟩ := List.mem_map.1 hd
    exact ⟨i, List.mem_range.1 hi, ((carries_iff (List.mem_range.1 hi)).1 hcarries).2⟩

end Cut

/-- A message that takes more than one datagram is put together again. Its datagrams can be read, and however they come
in, the message is returned with the last one that is missing, at the receive time of the first one, and at no time
before; nothing of it is left then. -/
theorem encodeMessage_reassembled {sequence : UInt32} {channel : String} {payload : ByteArray} {limit : Nat}
    {ds : List ByteArray} (hz : '\x00' ∉ channel.toList) (hc : channel.utf8ByteSize ≤ maxChannelLength)
    (hlimit : 128 ≤ limit) (hs : encodeMessage sequence channel payload limit = some ds) (hmany : 1 < ds.length) :
    (∀ d ∈ ds, ∃ f, Datagram.decode d = .ok (.fragment f) ∧ f.sequence = sequence) ∧
      ∀ (a : Assembly) (s : Sender) (xs : List Arrival), payload.size ≤ a.maxBytes → Delivery a s sequence ds xs →
        ∃ before last after first, xs = before ++ last :: after ∧ ¬ Arrival.Cover before s ds ∧
          Arrival.Cover (before ++ [last]) s ds ∧ last.hasKey s sequence = true ∧
          (xs.filter (Arrival.hasKey s sequence)).head? = some first ∧
          (∀ pre x post, before = pre ++ x :: post → x.hasKey s sequence = true →
            ((a.feedAll pre).feed x).2.1 = none) ∧
          ((a.feedAll before).feed last).2.1 = some ⟨channel, payload, first.received⟩ ∧
          ((a.feedAll before).feed last).1.get? s sequence = none := by
  obtain ⟨c, rfl, rfl, rfl, rfl⟩ := encodeMessage_of_long hz hc hlimit hs hmany
  constructor
  · intro d hd
    obtain ⟨i, hi, rfl⟩ := List.mem_map.1 hd
    exact ⟨c.piece i, Cut.decode_datagram (List.mem_range.1 hi), rfl⟩
  · intro a s xs hmax h
    have hnil : a.entries s c.sequence = [] := by
      have := h.unknown
      rwa [Assembly.get?_eq_head?, List.head?_eq_none_iff] at this
    obtain ⟨before, last, after, first, hxs, hno, hyes, hkey, hfirst, hbefore, hsome, hentries⟩ :=
      Cut.completed_feedAll hnil (fun pre x post hxs hpre => Cut.timely_of_delivery h hmax hxs hpre)
        (Cut.cover_iff.1 h.cover)
    refine ⟨before, last, after, first, hxs, fun hcover => hno (Cut.cover_iff.1 hcover), Cut.cover_iff.2 hyes, hkey,
      hfirst, hbefore, hsome, ?_⟩
    rw [Assembly.get?_eq_head?, hentries]
    rfl

/-- A message of 130 bytes that is cut into two pieces. -/
def twoPieces : Cut where
  sequence := 7
  channel := "a"
  payload := Bytes.replicate 130 0
  first := 106
  most := 108
  count := 2
  layout := by
    rw [Bytes.size_replicate]
    constructor <;> decide
  zeroFree := by decide
  channel_le := by decide

/-- The second piece, a fragment of another sender, the second piece again and the first piece. -/
def swapped : List Arrival :=
  [⟨"s", twoPieces.piece 1, 0, 5⟩, ⟨"t", twoPieces.piece 0, 2, 6⟩, ⟨"s", twoPieces.piece 1, 3, 7⟩,
    ⟨"s", twoPieces.piece 0, 8, 9⟩]

theorem encodeMessage_twoPieces :
    encodeMessage 7 "a" (Bytes.replicate 130 0) 128 = some ((List.range twoPieces.count).map twoPieces.datagram) := by
  have hname : "a".utf8ByteSize = 1 := rfl
  have hsplit : ∀ payload : ByteArray, payload.size = 130 → split 7 "a" payload 128 =
      some ((List.range 2).map fun i => .fragment (piece 7 "a" payload 106 108 2 i)) := by
    intro payload hsize
    simp only [split, hsize, hname]
    rw [if_neg (by decide), if_neg (by decide), if_neg (by decide), if_neg (by decide)]
    rfl
  have hpiece : ∀ i, piece 7 "a" (Bytes.replicate 130 0) 106 108 2 i = twoPieces.piece i := fun i => by
    rw [Cut.piece, twoPieces]
  have hcount : twoPieces.count = 2 := by rw [twoPieces]
  rw [encodeMessage, hsplit _ (Bytes.size_replicate 130 0), Option.map_some, List.map_map, hcount]
  simp only [hpiece]
  rfl

theorem delivery_swapped :
    Delivery (Assembly.new 10) "s" 7 ((List.range twoPieces.count).map twoPieces.datagram) swapped := by
  refine ⟨rfl, fun x hx hkey => ?_, Cut.cover_iff.2 fun i hi => ?_, by decide, ?_, ?_⟩
  · have hcarries : ∀ i < twoPieces.count, x = ⟨x.sender, twoPieces.piece i, x.now, x.received⟩ → x.sender = "s" →
        ∃ d ∈ (List.range twoPieces.count).map twoPieces.datagram, x.Carries "s" d := fun i hi hx hs =>
      ⟨twoPieces.datagram i, List.mem_map_of_mem (List.mem_range.2 hi), (Cut.carries_iff hi).2 ⟨hs, by rw [hx]⟩⟩
    simp only [swapped, List.mem_cons, List.not_mem_nil, or_false] at hx
    rcases hx with rfl | rfl | rfl | rfl
    · exact hcarries 1 (by decide) rfl rfl
    · exact absurd (Arrival.hasKey_iff.1 hkey).1 (by decide)
    · exact hcarries 1 (by decide) rfl rfl
    · exact hcarries 0 (by decide) rfl rfl
  · have hlt : i < 2 := hi
    obtain rfl | rfl : i = 0 ∨ i = 1 := by omega
    · exact ⟨_, List.mem_cons_of_mem _ (List.mem_cons_of_mem _ (List.mem_cons_of_mem _ List.mem_cons_self)), rfl, rfl⟩
    · exact ⟨_, List.mem_cons_self, rfl, rfl⟩
  · have hown : swapped.filter (Arrival.hasKey "s" 7) =
        [⟨"s", twoPieces.piece 1, 0, 5⟩, ⟨"s", twoPieces.piece 1, 3, 7⟩, ⟨"s", twoPieces.piece 0, 8, 9⟩] := rfl
    rw [hown]
    decide
  · have hnone : ((Assembly.new 10).events swapped).length = 0 := by decide +kernel
    rw [List.length_eq_zero_iff.1 hnone]
    exact List.not_mem_nil

/-- The message comes out with the fourth arrival, at the receive time of the first. -/
theorem encodeMessage_reassembled_swapped :
    ∃ before last after first, swapped = before ++ last :: after ∧
      (swapped.filter (Arrival.hasKey "s" 7)).head? = some first ∧
      (((Assembly.new 10).feedAll before).feed last).2.1 =
        some ⟨"a", Bytes.replicate 130 0, first.received⟩ := by
  obtain ⟨before, last, after, first, hxs, -, -, -, hfirst, -, hsome, -⟩ :=
    (encodeMessage_reassembled (by decide) (by decide) (by decide) encodeMessage_twoPieces (by decide)).2
      (Assembly.new 10) "s" swapped (by rw [Bytes.size_replicate]; decide) delivery_swapped
  exact ⟨before, last, after, first, hxs, hfirst, hsome⟩

end PubSub.Wire
