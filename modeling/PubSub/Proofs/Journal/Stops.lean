import Mathlib.Order.Bounds.Basic
import PubSub.Proofs.Journal.Bytewise
import PubSub.Proofs.Journal.Seeking

/-!
# Where a reader stops

A reader goes to the first place from where it stands on at which there is a record, whole or torn off. It finds the
record and stands behind it, or waits where the record is torn off. If there is no such place, it goes to the end of
the file. This holds for whatever bytes a file has.

* `RecordAt`, `TornAt`: a record stands at a place, or is torn off there; `stopsFrom`: the places from one on.
* `Meets`: what a reader is to find, and where it is to stand.

Results:

* `image_iff_stops`: a record stands where something looks like one, or is torn off there.
* `scan_meets`: what is found is what is to be found.
* `Journal.next_meets`: a reader finds it, byte by byte, in as many turns as there are bytes, and one more, at most.
-/

namespace PubSub.Journal

open Bytes

variable {f : ByteArray} {c p stop : Nat}

/-! ## Records that stand, and records that are torn off -/

/-- A record stands at `p` and ends at `stop`. -/
structure RecordAt (f : ByteArray) (p stop : Nat) : Prop where
  sync : syncAt f p = true
  header : ∃ h, Header.decodeAt f p = .ok h ∧ stop = p + headerSize + h.bodyLength ∧
    (String.fromUTF8? (f.extract (p + headerSize) (p + headerSize + h.channelLength.toInt.toNat))).isSome
  within : stop ≤ f.size
  followed : Followed f stop

/-- A record is torn off at `p`: the file ends within its header, or within the body that the header tells of. -/
structure TornAt (f : ByteArray) (p : Nat) : Prop where
  sync : syncAt f p = true
  cut : f.size < p + headerSize ∨ ∃ h, Header.decodeAt f p = .ok h ∧ f.size < p + headerSize + h.bodyLength

/-- The places from `c` on where a record stands or is torn off. -/
def stopsFrom (f : ByteArray) (c : Nat) : Set Nat := {p | c ≤ p ∧ ((∃ stop, RecordAt f p stop) ∨ TornAt f p)}

theorem examine_of_recordAt (h : RecordAt f p stop) : ∃ r, examine f p = .record r stop := by
  obtain ⟨-, ⟨header, hdecode, rfl, htext⟩, hwithin, hfollowed⟩ := h
  obtain ⟨channel, hchannel⟩ := Option.isSome_iff_exists.1 htext
  unfold examine
  rw [if_neg (by omega), hdecode]
  simp only
  rw [if_neg (by omega), if_neg (fun hother => by simp [hfollowed hother.1] at hother), hchannel]
  exact ⟨_, rfl⟩

theorem examine_of_tornAt (h : TornAt f p) : examine f p = .torn := by
  unfold examine
  by_cases hshort : f.size < p + headerSize
  · rw [if_pos hshort]
  · obtain ⟨header, hdecode, hlong⟩ := h.cut.resolve_left hshort
    rw [if_neg hshort, hdecode]
    simp only
    rw [if_pos hlong]

/-- Where something looks like a record, one stands or is torn off. -/
theorem image_iff_stops : Image f p ↔ (∃ stop, RecordAt f p stop) ∨ TornAt f p := by
  constructor
  · rintro ⟨hsync, hshort | ⟨header, hdecode, hlooks⟩⟩
    · exact Or.inr ⟨hsync, Or.inl hshort⟩
    · by_cases hlong : f.size < p + headerSize + header.bodyLength
      · exact Or.inr ⟨hsync, Or.inr ⟨header, hdecode, hlong⟩⟩
      · obtain ⟨hfollowed, htext⟩ := hlooks.resolve_left hlong
        exact Or.inl ⟨_, hsync, ⟨header, hdecode, rfl, htext⟩, by omega, hfollowed⟩
  · rintro (⟨stop, hsync, ⟨header, hdecode, rfl, htext⟩, hwithin, hfollowed⟩ |
      ⟨hsync, hshort | ⟨header, hdecode, hlong⟩⟩)
    · exact ⟨hsync, Or.inr ⟨header, hdecode, Or.inr ⟨hfollowed, htext⟩⟩⟩
    · exact ⟨hsync, Or.inl hshort⟩
    · exact ⟨hsync, Or.inr ⟨header, hdecode, Or.inl hlong⟩⟩

/-- What a reader at `c` is to find in a file, and where it is to stand then. -/
structure Meets (f : ByteArray) (c : Nat) (found : Option Record) (cursor : Nat) : Prop where
  /-- The first place is that of a record: the reader finds it and stands behind it. -/
  record : ∀ p stop, IsLeast (stopsFrom f c) p → RecordAt f p stop →
    (∃ r, found = some r ∧ r.Fits ∧ r.encode = f.extract p stop) ∧ cursor = stop
  /-- The first place is one where a record is torn off: the reader waits for the rest of it there. -/
  torn : ∀ p, IsLeast (stopsFrom f c) p → TornAt f p → found = none ∧ cursor = p
  /-- There is no such place: the reader goes to the end. -/
  nothing : stopsFrom f c = ∅ → found = none ∧ cursor = f.size

theorem clear_of_isLeast (h : IsLeast (stopsFrom f c) p) : Clear f c p := by
  intro q hlow hhigh himage
  have hle : p ≤ q := h.2 ⟨hlow, image_iff_stops.1 himage⟩
  omega

/-- A reader finds what there is to be found first. -/
theorem scan_meets (hc : c ≤ f.size) : Meets f c ((scan f c).found.map Prod.snd) (scan f c).cursor := by
  constructor
  · intro p stop hleast hrecord
    obtain ⟨r, hr⟩ := examine_of_recordAt hrecord
    have hroom := lt_size_of_syncAt hrecord.sync
    obtain ⟨hfound, hcursor⟩ := scan_of_clear hleast.1.1 (by omega) (clear_of_isLeast hleast)
    rw [hfound, hcursor, scan_of_record hrecord.sync hr]
    exact ⟨⟨r, rfl, encode_of_examine hr⟩, rfl⟩
  · intro p hleast htorn
    have hroom := lt_size_of_syncAt htorn.sync
    obtain ⟨hfound, hcursor⟩ := scan_of_clear hleast.1.1 (by omega) (clear_of_isLeast hleast)
    rw [hfound, hcursor, scan_of_missing htorn.sync (examine_of_tornAt htorn)]
    exact ⟨rfl, rfl⟩
  · intro hempty
    have hclear : Clear f c f.size := by
      intro q hlow _ himage
      have hmem : q ∈ stopsFrom f c := ⟨hlow, image_iff_stops.1 himage⟩
      rw [hempty] at hmem
      exact hmem
    obtain ⟨hfound, hcursor⟩ := scan_of_clear hc (Nat.le_refl _) hclear
    rw [hfound, hcursor, scan_of_end rfl]
    exact ⟨rfl, rfl⟩

/-! ## Reading on -/

open Reader

/-- A reader finds what there is to be found first from where it stands on. It does so byte by byte, in one turn for
each byte that is left and one more at most, and stands where its next byte comes from. It makes no difference from
which length on it asks for the length of the file before it reads a body. -/
theorem next_meets {j : Journal} {s : Store} {file c : Nat} {f : ByteArray} (hj : j.use = .reading file c)
    (readable : (s.node file).read = .ok f) (hc : c ≤ f.size) :
    ∃ found cursor skipped,
      j.next s = (.ok (found.map Prod.snd), { j with use := .reading file cursor }, notices j.path skipped) ∧
      Meets f c (found.map Prod.snd) cursor ∧
      turns (some bodyLimit) f (f.size - c + 1) (standing c) = some ⟨found, standing cursor, skipped⟩ ∧
      ∀ limit n, turns limit f n (standing c) = turns (some bodyLimit) f n (standing c) := by
  have hnext : j.next s = (.ok ((scan f c).found.map Prod.snd), { j with use := .reading file (scan f c).cursor },
      notices j.path (scan f c).skipped) := by
    simp only [Journal.next, hj, readable]
  exact ⟨_, _, _, hnext, scan_meets hc, turns_eq_scan _ f c (Nat.lt_succ_self _), fun limit n =>
    turns_limit limit _ f n c⟩

/-- A reader that stands in the payload of a record goes past the image of a record there, to the record behind. -/
theorem next_meets_enclosing :
    ∃ r, (Journal.next ⟨.empty, .read, .reading 0 1⟩ (holding enclosing)).1 = .ok (some r) ∧ r.encode = lone.encode ∧
      (Journal.next ⟨.empty, .read, .reading 0 1⟩ (holding enclosing)).2.1.tell = 91 := by
  have hsize : (row enclosing).size = 91 := by decide +kernel
  have hstart : startOf enclosing 1 = 62 := by decide +kernel
  have hstands : Stands (row enclosing) lone.encode 62 := by
    have hlength : 1 < enclosing.length := by decide
    have h := stands_row hlength
    rwa [hstart] at h
  have hrecord : RecordAt (row enclosing) 62 91 := by
    refine ⟨by decide +kernel, ⟨lone.header, ?_, by decide +kernel, by decide +kernel⟩, by rw [hsize], fun hroom => ?_⟩
    · exact Record.decodeAt_header hstands.left.left (fits_lone lone List.mem_cons_self)
    · rw [hsize] at hroom
      omega
  have hclear : Clear (row enclosing) 1 62 := clear_of_isDamage (by decide +kernel)
  have hleast : IsLeast (stopsFrom (row enclosing) 1) 62 := by
    refine ⟨⟨by omega, Or.inl ⟨91, hrecord⟩⟩, fun p hp => ?_⟩
    by_contra hbefore
    exact hclear p hp.1 (by omega) (image_iff_stops.2 hp.2)
  obtain ⟨found, cursor, skipped, hnext, hmeets, -⟩ := next_meets (j := ⟨.empty, .read, .reading 0 1⟩)
    (s := holding enclosing) rfl (f := row enclosing) rfl (by rw [hsize]; omega)
  obtain ⟨⟨r, hfound, -, hencode⟩, rfl⟩ := hmeets.record 62 91 hleast hrecord
  refine ⟨r, ?_, ?_, ?_⟩
  · rw [hnext, hfound]
  · rw [hencode]
    exact hstands.extract_of_eq (by decide +kernel)
  · rw [hnext]
    rfl

end PubSub.Journal
