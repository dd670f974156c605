import Mathlib.Algebra.Order.Field.Basic
import Mathlib.Algebra.Order.Group.Unbundled.Abs
import Mathlib.Data.Rat.Cast.Order
import Mathlib.Tactic.FieldSimp
import Mathlib.Tactic.Linarith
import Mathlib.Tactic.Ring
import PubSub.Text.Binary64

/-!
# Nearest numbers

* `Binary64.value`: the number of a pattern without a sign, where infinity stands for the power of 2 behind all finite
  numbers.
* `Binary64.IsNearest`: no pattern is nearer to a number, and of two as near the even one is meant.

Results:

* `IsNearest.unique`: there is one nearest pattern only.
* `isNearest_nearest`: it is the one that is found.
* `isNearest_infinity`, `isNearest_zero`: the nearest patterns to very large and to very small numbers.
-/

namespace PubSub.Text.Binary64

variable {a b c n d p s t : ℕ} {q : ℚ}

/-! ## Values -/

/-- The number of a pattern, in multiples of the least one: the lowest 52 bits behind the point, and before it a
one that is not written; in the patterns with nothing above these bits a zero, with the least exponent. -/
def multiple (b : ℕ) : ℕ :=
  if b / 2 ^ 52 = 0 then b % 2 ^ 52 else (2 ^ 52 + b % 2 ^ 52) * 2 ^ (b / 2 ^ 52 - 1)

/-- The number of a pattern. -/
def value (b : ℕ) : ℚ := multiple b / 2 ^ places

theorem pow_two_pos (n : ℕ) : (0 : ℚ) < 2 ^ n := pow_pos two_pos n

theorem pow_two_div {k l m n : ℕ} (h : k + l = m + n) : ((2 ^ k * 2 ^ l : ℕ) : ℚ) / 2 ^ n = 2 ^ m := by
  rw [div_eq_iff (pow_two_pos n).ne', Nat.cast_mul, Nat.cast_pow, Nat.cast_pow, Nat.cast_ofNat, ← pow_add, h, pow_add]

theorem multiple_eq (hs : s = 0 ∨ 2 ^ 52 ≤ t) (ht : t ≤ 2 ^ 53) : multiple (s * 2 ^ 52 + t) = t * 2 ^ s := by
  rw [multiple]
  by_cases hsmall : s * 2 ^ 52 + t < 2 ^ 52
  · obtain rfl : s = 0 := by omega
    rw [if_pos (by omega)]
    omega
  · rw [if_neg (by omega)]
    rcases Nat.lt_or_eq_of_le ht with hlt | rfl
    · have hdiv : (s * 2 ^ 52 + t) / 2 ^ 52 = s + 1 := by omega
      have hmod : 2 ^ 52 + (s * 2 ^ 52 + t) % 2 ^ 52 = t := by omega
      rw [hdiv, hmod, Nat.add_sub_cancel]
    · have hdiv : (s * 2 ^ 52 + 2 ^ 53) / 2 ^ 52 = s + 2 := by omega
      have hmod : (s * 2 ^ 52 + 2 ^ 53) % 2 ^ 52 = 0 := by omega
      rw [hdiv, hmod, Nat.add_zero, show s + 2 - 1 = s + 1 from rfl, pow_succ 2 s]
      ring

/-- A pattern is one of those that share an exponent, or of the least. -/
theorem exists_exponent (b : ℕ) : ∃ s t, b = s * 2 ^ 52 + t ∧ (s = 0 ∨ 2 ^ 52 ≤ t) ∧ t < 2 ^ 53 := by
  by_cases hb : b < 2 ^ 53
  · exact ⟨0, b, by omega, Or.inl rfl, hb⟩
  · exact ⟨b / 2 ^ 52 - 1, b % 2 ^ 52 + 2 ^ 52, by omega, by omega, by omega⟩

/-- Numbers are ordered as their patterns are. -/
theorem strictMono_value : StrictMono value := by
  refine strictMono_nat_of_lt_succ fun b => ?_
  obtain ⟨s, t, rfl, hs, ht⟩ := exists_exponent b
  have hlt : multiple (s * 2 ^ 52 + t) < multiple (s * 2 ^ 52 + t + 1) := by
    rw [Nat.add_assoc, multiple_eq hs (Nat.le_of_lt ht), multiple_eq (hs.imp_right Nat.le_succ_of_le) ht]
    exact Nat.mul_lt_mul_of_pos_right (Nat.lt_succ_self t) (Nat.two_pow_pos s)
  rw [value, value]
  exact div_lt_div_of_pos_right (Nat.cast_lt.2 hlt) (pow_two_pos _)

theorem value_le (h : a ≤ b) : value a ≤ value b := strictMono_value.monotone h

theorem value_zero : value 0 = 0 := by
  have hmultiple : multiple 0 = 0 := (multiple_eq (s := 0) (t := 0) (Or.inl rfl) (Nat.zero_le _)).trans (Nat.zero_mul _)
  rw [value, hmultiple, Nat.cast_zero, zero_div]

theorem value_infinity : value infinity = 2 ^ 1024 := by
  have hinfinity : infinity = 2046 * 2 ^ 52 + 2 ^ 52 := by decide
  rw [value, hinfinity, multiple_eq (Or.inr (Nat.le_refl _)) (by norm_num)]
  exact pow_two_div (show 52 + 2046 = 1024 + places from rfl)

/-! ## The nearest pattern -/

/-- No number is nearer to `q` than that of the pattern `b`, and of two as near `b` is the even one. -/
structure IsNearest (q : ℚ) (b : ℕ) : Prop where
  le : b ≤ infinity
  closest : ∀ c ≤ infinity, |value b - q| ≤ |value c - q|
  even : ∀ c ≤ infinity, c ≠ b → |value c - q| = |value b - q| → b % 2 = 0

/-- Of two patterns as near to a number both would have to be even, but then an odd one between them is nearer. -/
theorem not_both_nearest (hb : IsNearest q b) (hc : IsNearest q c) : ¬ b < c := by
  intro hlt
  have heq : |value b - q| = |value c - q| := le_antisymm (hb.closest c hc.le) (hc.closest b hb.le)
  have hbeven := hb.even c hc.le (Nat.ne_of_gt hlt) heq.symm
  have hceven := hc.even b hb.le (Nat.ne_of_lt hlt) heq
  have hbetween : b + 1 < c := by omega
  have hlow : value b < value (b + 1) := strictMono_value (Nat.lt_succ_self b)
  have hhigh := strictMono_value hbetween
  have hnear := hb.closest (b + 1) (by have := hc.le; omega)
  rcases abs_cases (value b - q) with ⟨h, _⟩ | ⟨h, _⟩ <;>
    rcases abs_cases (value c - q) with ⟨h', _⟩ | ⟨h', _⟩ <;>
      rcases abs_cases (value (b + 1) - q) with ⟨h'', _⟩ | ⟨h'', _⟩ <;> linarith

theorem IsNearest.unique (hb : IsNearest q b) (hc : IsNearest q c) : b = c :=
  Nat.le_antisymm (Nat.le_of_not_lt (not_both_nearest hc hb)) (Nat.le_of_not_lt (not_both_nearest hb hc))

/-! ## Rounding -/

/-- No pattern at all is nearer to `q` than `b`, where the patterns go on beyond infinity, and of two as near `b` is the
even one. -/
def Closest (q : ℚ) (b : ℕ) : Prop :=
  ∀ c, |value b - q| ≤ |value c - q| ∧ (c ≠ b → |value c - q| = |value b - q| → b % 2 = 0)

/-- What would be beyond infinity is nearest to infinity. -/
theorem Closest.isNearest_min (h : Closest q b) : IsNearest q (min infinity b) := by
  rcases Nat.le_total b infinity with hb | hb
  · rw [Nat.min_eq_right hb]
    exact ⟨hb, fun c _ => (h c).1, fun c _ => (h c).2⟩
  · rw [Nat.min_eq_left hb]
    refine ⟨Nat.le_refl _, fun c hc => ?_, fun _ _ _ _ => by decide⟩
    rcases Nat.lt_or_eq_of_le hb with hlt | rfl
    · have hbeyond := strictMono_value hlt
      have hnear := (h infinity).1
      have hle := value_le hc
      -- As the pattern beyond infinity is nearer, the number itself is beyond infinity.
      have hq : value infinity ≤ q := by
        rcases abs_cases (value b - q) with ⟨h, _⟩ | ⟨h, _⟩ <;>
          rcases abs_cases (value infinity - q) with ⟨h', _⟩ | ⟨h', _⟩ <;> linarith
      rw [abs_of_nonpos (by linarith), abs_of_nonpos (by linarith)]
      linarith
    · exact (h c).1

/-- From a number between those of two patterns next to each other, all others are farther than one of the two. -/
theorem eq_or_farther (hlow : value a ≤ q) (hhigh : q < value (a + 1)) (c : ℕ) :
    c = a ∨ c = a + 1 ∨ |value a - q| < |value c - q| ∨ |value (a + 1) - q| < |value c - q| := by
  rcases Nat.lt_trichotomy c a with hc | rfl | hc
  · have hlt := strictMono_value hc
    refine Or.inr (Or.inr (Or.inl ?_))
    rw [abs_of_nonpos (by linarith), abs_of_nonpos (by linarith)]
    linarith
  · exact Or.inl rfl
  · rcases Nat.lt_or_eq_of_le (show a + 1 ≤ c from hc) with hc | rfl
    · have hlt := strictMono_value hc
      refine Or.inr (Or.inr (Or.inr ?_))
      rw [abs_of_nonneg (by linarith), abs_of_nonneg (by linarith)]
      linarith
    · exact Or.inr (Or.inl rfl)

/-- A number between those of two patterns next to each other is nearest to the nearer of the two, or to the even
one. -/
theorem closest_of_between (hlow : value a ≤ q) (hhigh : q < value (a + 1))
    (hb : b = a ∧ q - value a ≤ value (a + 1) - q ∨ b = a + 1 ∧ value (a + 1) - q ≤ q - value a)
    (heven : q - value a = value (a + 1) - q → b % 2 = 0) : Closest q b := by
  have hbelow : |value a - q| = q - value a := by rw [abs_sub_comm, abs_of_nonneg (sub_nonneg.2 hlow)]
  have habove : |value (a + 1) - q| = value (a + 1) - q := abs_of_pos (sub_pos.2 hhigh)
  rw [← hbelow, ← habove] at hb heven
  have hle : |value b - q| ≤ |value a - q| ∧ |value b - q| ≤ |value (a + 1) - q| := by
    rcases hb with ⟨rfl, h⟩ | ⟨rfl, h⟩
    · exact ⟨le_refl _, h⟩
    · exact ⟨h, le_refl _⟩
  have hor : b = a ∨ b = a + 1 := hb.imp And.left And.left
  intro c
  rcases eq_or_farther hlow hhigh c with rfl | rfl | hc | hc
  · refine ⟨hle.1, fun hne he => ?_⟩
    obtain rfl := hor.resolve_left (Ne.symm hne)
    exact heven he
  · refine ⟨hle.2, fun hne he => ?_⟩
    obtain rfl := hor.resolve_right (Ne.symm hne)
    exact heven he.symm
  · exact ⟨hle.1.trans hc.le, fun _ he => absurd he (hle.1.trans_lt hc).ne'⟩
  · exact ⟨hle.2.trans hc.le, fun _ he => absurd he (hle.2.trans_lt hc).ne'⟩

/-- The binary place at which a fraction is rounded leaves 53 places before it, or it is the lowest that there is. -/
theorem quotient_bounds (n d : ℕ) :
    let s := (n / d).log2 - 52
    (s = 0 ∨ 2 ^ 52 ≤ n / (d * 2 ^ s)) ∧ n / (d * 2 ^ s) < 2 ^ 53 := by
  intro s
  rw [← Nat.div_div_eq_div_mul]
  have hlt : n / d < 2 ^ ((n / d).log2 + 1) := Nat.lt_log2_self
  by_cases hs : (n / d).log2 ≤ 52
  · have hzero : s = 0 := Nat.sub_eq_zero_of_le hs
    rw [hzero, pow_zero, Nat.div_one]
    exact ⟨Or.inl rfl, hlt.trans_le (Nat.pow_le_pow_right two_pos (by omega))⟩
  · have hne : n / d ≠ 0 := by
      intro hzero
      rw [hzero] at hs
      exact hs (by decide)
    have hlog : (n / d).log2 = 52 + s := by
      have hdef : s = (n / d).log2 - 52 := rfl
      omega
    constructor
    · refine Or.inr ((Nat.le_div_iff_mul_le (Nat.two_pow_pos s)).2 ?_)
      rw [← pow_add, ← hlog]
      exact Nat.log2_self_le hne
    · refine Nat.div_lt_of_lt_mul ?_
      rw [← pow_add, show s + 53 = (n / d).log2 + 1 by omega]
      exact hlt

/-- Rounding takes the nearer of the whole numbers below and above a fraction, and the even one half-way. -/
theorem rounded_cases (n d : ℕ) : rounded n d = n / d ∧ 2 * (n % d) < d ∨
    rounded n d = n / d + 1 ∧ d < 2 * (n % d) ∨
    (rounded n d = n / d ∨ rounded n d = n / d + 1) ∧ rounded n d % 2 = 0 ∧ 2 * (n % d) = d := by
  rw [rounded]
  split
  case isTrue h => exact Or.inl ⟨rfl, h⟩
  case isFalse h =>
    split
    case isTrue h' => exact Or.inr (Or.inl ⟨rfl, h'⟩)
    case isFalse h' => exact Or.inr (Or.inr ⟨by omega, by omega, by omega⟩)

/-- The distances of a fraction, in multiples of the least number, from the patterns below and above it. -/
theorem value_sub (hd : 0 < d) (hs : s = 0 ∨ 2 ^ 52 ≤ t) (ht : t ≤ 2 ^ 53) (n : ℕ) :
    value (s * 2 ^ 52 + t) - n / (d * 2 ^ places) = (t * (d * 2 ^ s : ℕ) - n) / (d * 2 ^ places) := by
  have hdpos : (d : ℚ) ≠ 0 := (Nat.cast_pos.2 hd).ne'
  rw [value, multiple_eq hs ht, sub_div, Nat.cast_mul, Nat.cast_mul, mul_left_comm, mul_div_mul_left _ _ hdpos]

/-- Rounding a fraction at its binary place finds the nearest of all patterns. -/
theorem closest_rounded (hd : 0 < d) (n : ℕ) :
    Closest (n / (d * 2 ^ places)) (((n / d).log2 - 52) * 2 ^ 52 + rounded n (d * 2 ^ ((n / d).log2 - 52))) := by
  obtain ⟨hs, ht⟩ := quotient_bounds n d
  generalize (n / d).log2 - 52 = s at hs ht ⊢
  have hlow := value_sub hd hs ht.le n
  have hhigh := value_sub hd (hs.imp_right Nat.le_succ_of_le) ht n
  have hE : (0 : ℚ) < d * 2 ^ places := mul_pos (Nat.cast_pos.2 hd) (pow_two_pos _)
  have hmod : n % (d * 2 ^ s) < d * 2 ^ s := Nat.mod_lt n (Nat.mul_pos hd (Nat.two_pow_pos s))
  have hsplit : ((n / (d * 2 ^ s) : ℕ) : ℚ) * (d * 2 ^ s : ℕ) + (n % (d * 2 ^ s) : ℕ) = n := by
    rw [← Nat.cast_mul, ← Nat.cast_add, Nat.div_add_mod']
  have hcases := rounded_cases n (d * 2 ^ s)
  generalize rounded n (d * 2 ^ s) = b at hcases ⊢
  generalize n / (d * 2 ^ s) = t at hlow hhigh hsplit hcases
  generalize n % (d * 2 ^ s) = r at hmod hsplit hcases
  generalize d * 2 ^ s = D at hlow hhigh hmod hsplit hcases
  have hbelow : n / (d * 2 ^ places) - value (s * 2 ^ 52 + t) = r / (d * 2 ^ places) := by
    rw [← neg_sub, hlow, ← hsplit]
    ring
  have habove : value (s * 2 ^ 52 + t + 1) - n / (d * 2 ^ places) = (D - r) / (d * 2 ^ places) := by
    rw [Nat.add_assoc, hhigh, ← hsplit, Nat.cast_succ]
    ring
  have hnearer : (r : ℚ) / (d * 2 ^ places) ≤ (D - r) / (d * 2 ^ places) ↔ 2 * r ≤ D := by
    rw [div_le_div_iff_of_pos_right hE, le_sub_iff_add_le, ← two_mul]
    exact_mod_cast Iff.rfl
  have hfarther : ((D : ℚ) - r) / (d * 2 ^ places) ≤ r / (d * 2 ^ places) ↔ D ≤ 2 * r := by
    rw [div_le_div_iff_of_pos_right hE, sub_le_iff_le_add, ← two_mul]
    exact_mod_cast Iff.rfl
  have hnonneg : (0 : ℚ) ≤ r / (d * 2 ^ places) := div_nonneg (Nat.cast_nonneg r) hE.le
  have hpos : (0 : ℚ) < (D - r) / (d * 2 ^ places) := div_pos (sub_pos.2 (Nat.cast_lt.2 hmod)) hE
  refine closest_of_between (a := s * 2 ^ 52 + t) (sub_nonneg.1 (hbelow ▸ hnonneg)) (sub_pos.1 (habove ▸ hpos)) ?_ ?_
  · rw [hbelow, habove, hnearer, hfarther]
    omega
  · rw [hbelow, habove]
    intro heq
    have hhalf : 2 * r = D := Nat.le_antisymm (hnearer.1 heq.le) (hfarther.1 heq.ge)
    omega

/-- The nearest pattern is found. -/
theorem isNearest_nearest (p : ℕ) (hd : 0 < d) : IsNearest (p / d) (nearest p d) := by
  have hq : (p : ℚ) / d = (p * 2 ^ places : ℕ) / (d * 2 ^ places) := by
    rw [Nat.cast_mul, Nat.cast_pow, Nat.cast_ofNat, mul_div_mul_right _ _ (pow_two_pos _).ne']
  rw [hq]
  simp only [nearest, Nat.shiftLeft_eq]
  exact (closest_rounded hd _).isNearest_min

/-! ## Very large and very small numbers -/

/-- Behind all finite numbers infinity is nearest. -/
theorem isNearest_infinity (hq : value infinity ≤ q) : IsNearest q infinity := by
  refine ⟨Nat.le_refl _, fun c hc => ?_, fun _ _ _ _ => by decide⟩
  have hle := value_le hc
  rw [abs_of_nonpos (by linarith), abs_of_nonpos (by linarith)]
  linarith

/-- Below half of the least number zero is nearest. -/
theorem isNearest_zero (hq : 0 ≤ q) (hsmall : 2 * q < 1 / 2 ^ places) : IsNearest q 0 := by
  have hone : value 1 = 1 / 2 ^ places := by
    have hmultiple : multiple 1 = 1 :=
      (multiple_eq (s := 0) (t := 1) (Or.inl rfl) (by norm_num)).trans (Nat.one_mul _)
    rw [value, hmultiple, Nat.cast_one]
  have hclosest : Closest q 0 := by
    refine closest_of_between (a := 0) ?_ ?_ (Or.inl ⟨rfl, ?_⟩) fun _ => rfl
    · rwa [value_zero]
    · rw [Nat.zero_add, hone]
      linarith
    · rw [Nat.zero_add, hone, value_zero]
      linarith
  exact hclosest.isNearest_min

end PubSub.Text.Binary64
