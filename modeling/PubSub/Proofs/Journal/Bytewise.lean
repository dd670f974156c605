import PubSub.Journal.Reader
import PubSub.Proofs.Journal.Images

/-!
# A reader that takes one byte after the other

Taking bytes until the last four are the sync word leads to the first place where the sync word stands, and what is
taken behind it is what stands there. So a reader that goes on from one sync word to the next, and back where what it
has taken is no record, finds what there is to be found and stands where it says that it does.

* `window_listAt`: the window has the bytes that were taken.
* `Reader.sweep_eq`: the sweep ends behind the first sync word.
* `Reader.turn_eq`: what one turn leads to.

Results:

* `Reader.turns_eq_scan`: a reader is done after as many turns as there are bytes, and one more, at most.
* `Reader.turns_limit`: whether long bodies are held against the length of the file makes no difference.
-/

namespace PubSub.Journal

open Bytes

variable {f : ByteArray} {c p : Nat}

/-! ## The window -/

theorem window_push (v : Nat) (b : UInt8) :
    UInt32.ofNat v <<< 8 ||| b.toUInt32 = UInt32.ofNat (v * 256 + b.toNat) := by
  have hb : b.toNat < 2 ^ 8 := b.toNat_lt
  apply UInt32.toNat_inj.1
  have hshift : (UInt32.ofNat v <<< 8).toNat = (v % 2 ^ 24) <<< 8 := by
    rw [UInt32.toNat_shiftLeft, UInt32.toNat_ofNat', Nat.shiftLeft_eq, Nat.shiftLeft_eq]
    show v % 2 ^ 32 * 2 ^ 8 % 2 ^ 32 = _
    omega
  rw [UInt32.toNat_or, hshift, UInt8.toNat_toUInt32, ← Nat.shiftLeft_add_eq_or_of_lt hb, UInt32.toNat_ofNat',
    Nat.shiftLeft_eq]
  omega

/-- The sync word stands where its four bytes are read as a number. -/
theorem word32At_eq_syncWord_iff (h : p + 4 ≤ f.size) : word32At f p = syncWord ↔ syncAt f p = true := by
  have hroom : p + 3 < f.size := by omega
  have h₀ := f[p].toNat_lt
  have h₁ := f[p + 1].toNat_lt
  have h₂ := f[p + 2].toNat_lt
  have h₃ := f[p + 3].toNat_lt
  have hvalue : numberAt f p 4 =
      ((f[p].toNat * 256 + f[p + 1].toNat) * 256 + f[p + 2].toNat) * 256 + f[p + 3].toNat := by
    rw [numberAt, listAt_succ (n := 3) (by omega), listAt_succ (n := 2) (by omega), listAt_succ (n := 1) (by omega),
      listAt_succ (n := 0) (by omega), listAt_zero]
    simp [value]
  have hword : syncWord.toNat = ((0xED * 256 + 0xA1) * 256 + 0xDA) * 256 + 0x01 := rfl
  rw [← UInt32.toNat_inj, toNat_word32At h, hvalue, hword, syncAt, dif_pos hroom]
  simp only [Bool.and_eq_true, beq_iff_eq, ← UInt8.toNat_inj]
  have c₀ : (0xED : UInt8).toNat = 0xED := rfl
  have c₁ : (0xA1 : UInt8).toNat = 0xA1 := rfl
  have c₂ : (0xDA : UInt8).toNat = 0xDA := rfl
  have c₃ : (0x01 : UInt8).toNat = 0x01 := rfl
  omega

/-- The next four bytes are there and are not the sync word. -/
theorem next_ne_syncWord_iff {q : Nat} :
    (f.extract q (q + 4)).size = 4 ∧ word32At (f.extract q (q + 4)) 0 ≠ syncWord ↔
      q + 4 ≤ f.size ∧ syncAt f q = false := by
  rw [word32At, numberAt_extract (by omega), Nat.add_zero, ByteArray.size_extract]
  constructor
  · rintro ⟨hsize, hother⟩
    have hroom : q + 4 ≤ f.size := by omega
    exact ⟨hroom, by simpa using mt (word32At_eq_syncWord_iff hroom).2 hother⟩
  · rintro ⟨hroom, hother⟩
    exact ⟨by omega, mt (word32At_eq_syncWord_iff hroom).1 (by simp [hother])⟩

theorem findSync_eq_none_iff : findSync f c = none ↔ ∀ q, c ≤ q → syncAt f q = false := by
  constructor
  · intro h q hq
    exact syncAt_of_findSync_none h hq
  · intro h
    cases hc : findSync f c with
    | none => rfl
    | some p =>
      obtain ⟨hle, hsync, -⟩ := (findSync_eq_some_iff f c p).1 hc
      rw [h p hle] at hsync
      cases hsync

/-- One more byte is pushed into the window. -/
theorem window_listAt {n : Nat} (h : c + n < f.size) :
    UInt32.ofNat (value (listAt f c n)) <<< 8 ||| f[c + n].toUInt32 = UInt32.ofNat (value (listAt f c (n + 1))) := by
  rw [window_push, listAt_succ h, value_append_singleton]

theorem Header.decodeAt_extract {stop : Nat} (h : p + headerSize ≤ stop) :
    Header.decodeAt (f.extract p stop) 0 = Header.decodeAt f p := by
  rw [headerSize] at h
  have hword : ∀ k, k ≤ 24 → word32At (f.extract p stop) (0 + k) = word32At f (p + k) := by
    intro k hk
    rw [word32At, word32At, Nat.zero_add, numberAt_extract (by omega)]
  have hlong : ∀ k, k ≤ 20 → word64At (f.extract p stop) (0 + k) = word64At f (p + k) := by
    intro k hk
    rw [word64At, word64At, Nat.zero_add, numberAt_extract (by omega)]
  have hsync := hword 0 (by omega)
  rw [Nat.add_zero] at hsync
  unfold Header.decodeAt
  rw [hsync, hword 20 (by omega), hword 24 (by omega), hlong 4 (by omega), hlong 12 (by omega)]
  rfl

/-- The sync word and what comes behind it up to the end of the header. -/
theorem decode_behind (hs : syncAt f p = true) (hroom : p + headerSize ≤ f.size) :
    Header.decode (ofNat 4 syncWord.toNat ++ f.extract (p + 4) (p + headerSize)) = Header.decodeAt f p := by
  rw [headerSize] at hroom ⊢
  have hword : ofNat 4 syncWord.toNat = f.extract p (p + 4) := by
    rw [← (word32At_eq_syncWord_iff (by omega)).2 hs, toNat_word32At (by omega), ofNat_numberAt (by omega)]
  rw [hword, ← ByteArray.extract_eq_extract_append_extract (p + 4) (by omega) (by omega)]
  exact Header.decodeAt_extract (by rw [headerSize])

/-! ## Turns -/

namespace Reader

/-- The sweep ends behind the first sync word from where it began. -/
theorem sweep_eq {start position taken : Nat} {window : UInt32} (htaken : position = start + taken)
    (hin : position ≤ max start f.size) (hwindow : window = UInt32.ofNat (value (listAt f start taken)))
    (hpassed : ∀ q, start ≤ q → q + 4 ≤ position → syncAt f q = false) :
    sweep f position window taken =
      match findSync f start with
      | some q => (q + 4 - start, true)
      | none => (f.size - start, false) := by
  fun_induction sweep f position window taken with
  | case1 position window taken hroom window' hfound =>
    obtain ⟨n, rfl⟩ : ∃ n, taken = n + 3 := ⟨taken - 3, by omega⟩
    subst htaken hwindow
    have hlast : syncAt f (start + n) = true := by
      rw [← word32At_eq_syncWord_iff (by omega), ← hfound.2, ← ofNat_value_listAt (by omega)]
      exact (window_listAt hroom).symm
    have hfirst : findSync f start = some (start + n) := by
      rw [findSync_eq_some_iff]
      exact ⟨by omega, hlast, fun q hq hlt => hpassed q hq (by omega)⟩
    rw [hfirst]
    simp
    omega
  | case2 position window taken hroom window' hgo ih =>
    subst htaken hwindow
    have hpushed : window' = UInt32.ofNat (value (listAt f start (taken + 1))) := window_listAt hroom
    apply ih (by omega) (by omega) hpushed
    intro q hq hend
    by_cases hnew : q + 4 ≤ start + taken
    · exact hpassed q hq hnew
    · -- the four bytes that end with the new one are the window
      obtain ⟨n, rfl⟩ : ∃ n, taken = n + 3 := ⟨taken - 3, by omega⟩
      obtain rfl : q = start + n := by omega
      by_contra hsync
      rw [hpushed, ofNat_value_listAt (by omega), word32At_eq_syncWord_iff (by omega)] at hgo
      exact hgo ⟨by omega, by simpa using hsync⟩
  | case3 position window taken hroom =>
    have hnone : findSync f start = none := by
      rw [findSync_eq_none_iff]
      intro q hq
      by_contra hsync
      have hend := lt_size_of_syncAt (by simpa using hsync)
      exact hsync (hpassed q hq (by omega))
    rw [hnone]
    simp
    omega

/-- What comes behind a sync word is taken for what stands there, whatever the limit. -/
theorem inspect_eq (limit : Option Nat) (hs : syncAt f p = true) :
    inspect limit f (standing (p + 4)) p =
      match examine f p with
      | .record r stop => .done (some (p, r)) (standing stop)
      | .torn => .done none (standing p)
      | .damaged d => .onward p d := by
  have hword := lt_size_of_syncAt hs
  have hrest : p + 4 + (headerSize - 4) = p + headerSize := rfl
  unfold inspect examine
  simp only [take, standing, hrest]
  by_cases hshort : f.size < p + headerSize
  · rw [if_pos hshort, if_pos (by rw [ByteArray.size_extract]; omega)]
  have hhead : (f.extract (p + 4) (p + headerSize)).size = headerSize - 4 := by
    rw [ByteArray.size_extract]
    omega
  rw [if_neg hshort, hhead, if_neg (Nat.lt_irrefl _), decode_behind hs (by omega), hrest]
  cases hdecode : Header.decodeAt f p with
  | error cause => rfl
  | ok h =>
    simp only
    by_cases htorn : f.size < p + headerSize + h.bodyLength
    · rw [if_pos htorn]
      split
      · rfl
      · rw [if_pos (by rw [ByteArray.size_extract]; omega)]
    have hbody : (f.extract (p + headerSize) (p + headerSize + h.bodyLength)).size = h.bodyLength := by
      rw [ByteArray.size_extract]
      omega
    rw [if_neg htorn, if_neg (fun hlong => htorn hlong.2), hbody, if_neg (Nat.lt_irrefl _)]
    have hnext := next_ne_syncWord_iff (f := f) (q := p + headerSize + h.bodyLength)
    by_cases hfollowed : p + headerSize + h.bodyLength + 4 ≤ f.size ∧ syncAt f (p + headerSize + h.bodyLength) = false
    · rw [if_pos (hnext.2 hfollowed), if_pos hfollowed]
    rw [if_neg (mt hnext.1 hfollowed), if_neg hfollowed]
    have hparts : h.channelLength.toInt.toNat ≤ h.bodyLength := by
      unfold Header.bodyLength
      omega
    have hchannel : (f.extract (p + headerSize) (p + headerSize + h.bodyLength)).extract 0 h.channelLength.toInt.toNat =
        f.extract (p + headerSize) (p + headerSize + h.channelLength.toInt.toNat) := by
      rw [ByteArray.extract_extract, Nat.add_zero, Nat.min_eq_left (by omega)]
    have hpayload : (f.extract (p + headerSize) (p + headerSize + h.bodyLength)).extract h.channelLength.toInt.toNat
        h.bodyLength = f.extract (p + headerSize + h.channelLength.toInt.toNat) (p + headerSize + h.bodyLength) := by
      rw [ByteArray.extract_extract, Nat.min_self]
    rw [hchannel, hpayload]
    cases String.fromUTF8? (f.extract (p + headerSize) (p + headerSize + h.channelLength.toInt.toNat)) with
    | none => rfl
    | some channel => simp

/-- What a turn leads to is told by what stands at the first sync word, whatever the limit. -/
theorem turn_eq (limit : Option Nat) (f : ByteArray) (c : Nat) :
    turn limit f (standing c) =
      match findSync f c with
      | none => .done none (standing (max c f.size))
      | some p =>
        match examine f p with
        | .record r stop => .done (some (p, r)) (standing stop)
        | .torn => .done none (standing p)
        | .damaged d => .onward p d := by
  have hsweep : sweep f c 0 0 =
      match findSync f c with
      | some q => (q + 4 - c, true)
      | none => (f.size - c, false) :=
    sweep_eq (by omega) (by omega) (by rw [listAt_zero]; rfl) (fun q hq hend => by omega)
  unfold turn
  cases hfirst : findSync f c with
  | none =>
    rw [hfirst] at hsweep
    have hend : c + (f.size - c) = max c f.size := by omega
    simp [standing, hsweep, hend]
  | some p =>
    rw [hfirst] at hsweep
    have hle := le_of_findSync hfirst
    have hbehind : c + (p + 4 - c) = p + 4 := by omega
    have hinspect := inspect_eq limit ((findSync_eq_some_iff f c p).1 hfirst).2.1
    simp only [standing] at hinspect ⊢
    simp only [hsweep, hbehind, if_true]
    exact hinspect

/-- The limit never changes what a reader finds. -/
theorem turns_limit (limit limit' : Option Nat) (f : ByteArray) (n c : Nat) :
    turns limit f n (standing c) = turns limit' f n (standing c) := by
  induction n generalizing c with
  | zero => rfl
  | succ n ih =>
    have hturn : turn limit f (standing c) = turn limit' f (standing c) := by rw [turn_eq, turn_eq]
    rw [turns, turns, hturn]
    cases turn limit' f (standing c) with
    | done found r => rfl
    | onward p d => simp only [ih]

/-- A reader is done after one turn for each byte that there is, and one more at most, and then it has found what there
is to be found and stands where it says that it does. -/
theorem turns_eq_scan (limit : Option Nat) (f : ByteArray) (c : Nat) {n : Nat} (hn : f.size - c < n) :
    turns limit f n (standing c) = some ⟨(scan f c).found, standing (scan f c).cursor, (scan f c).skipped⟩ := by
  -- each turn but the last goes on behind the first sync word, which shortens what is left
  induction n generalizing c with
  | zero => omega
  | succ n ih =>
    rw [turns, turn_eq, scan_eq]
    cases hfirst : findSync f c with
    | none => rfl
    | some p =>
      have hle := le_of_findSync hfirst
      have hlt := lt_size_of_findSync hfirst
      cases hexamine : examine f p with
      | record r stop => simp only [hexamine]
      | torn => simp only [hexamine]
      | damaged d =>
        have hrest := ih (p + 1) (by omega)
        simp only [hexamine, hrest, Option.map_some]

end Reader
end PubSub.Journal
