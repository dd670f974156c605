import Mathlib.Data.List.TakeWhile
import PubSub.Proofs.Text.Nearest
import PubSub.Text.Decimal

/-!
# What numerals are

* `IsNatural`, `IsInteger`: the texts of whole numbers within bounds.
* `IsReal`: the texts of numbers that may have a fraction and an exponent, and of those that are only named.

Results:

* `nat?_eq_some_iff`, `int?_eq_some_iff`: whole numbers are read from these texts, and from no others.
* `isNearest_decimal`: of the digits of a number and its exponent the nearest pattern is made.
* `float?_eq_some_iff`: so numbers with a fraction are read, as the nearest that there are.
-/

namespace PubSub.Text

variable {cs ds : List Char} {n most : Nat} {z least greatest : Int} {s : String}

/-! ## Digits -/

/-- Decimal digits that write a number. -/
structure IsDigits (ds : List Char) (n : Nat) : Prop where
  ne_nil : ds ≠ []
  digits : ∀ d ∈ ds, isDigit d = true
  value : digitsValue ds = n

theorem digits?_eq_some_iff : digits? cs = some n ↔ IsDigits cs n := by
  rw [digits?, Option.ite_none_right_eq_some, List.all_eq_true, Option.some.injEq]
  exact ⟨fun ⟨⟨h₀, h⟩, hn⟩ => ⟨h₀, h, hn⟩, fun h => ⟨⟨h.ne_nil, h.digits⟩, h.value⟩⟩

@[simp] theorem digits?_plus (cs : List Char) : digits? ('+' :: cs) = none := if_neg fun h => by simp [isDigit] at h

@[simp] theorem digits?_minus (cs : List Char) : digits? ('-' :: cs) = none := if_neg fun h => by simp [isDigit] at h

/-! ## Whole numbers -/

/-- The text writes `n`, at most `most`, in digits, perhaps behind a plus sign. -/
def IsNatural (most : Nat) (s : String) (n : Nat) : Prop :=
  n ≤ most ∧ (IsDigits s.toList n ∨ ∃ ds, s.toList = '+' :: ds ∧ IsDigits ds n)

/-- The text writes `z`, from `least` to `greatest`, in digits, perhaps behind a sign. -/
def IsInteger (least greatest : Int) (s : String) (z : Int) : Prop :=
  (least ≤ z ∧ z ≤ greatest) ∧ ∃ n : Nat,
    (IsDigits s.toList n ∨ ∃ ds, s.toList = '+' :: ds ∧ IsDigits ds n) ∧ z = n ∨
      (∃ ds, s.toList = '-' :: ds ∧ IsDigits ds n) ∧ z = -n

theorem nat?_eq_some_iff : nat? most s = some n ↔ IsNatural most s n := by
  rw [nat?, IsNatural]
  simp only [Option.filter_eq_some_iff, decide_eq_true_eq, ← digits?_eq_some_iff]
  rw [and_comm]
  refine and_congr_right fun _ => ?_
  split
  case h_1 ds hs => simp [hs]
  case h_2 hs =>
    have hplus : ∀ ds, s.toList ≠ '+' :: ds := hs
    simp [hplus]

theorem int?_eq_some_iff : int? least greatest s = some z ↔ IsInteger least greatest s z := by
  rw [int?, IsInteger]
  simp only [Option.filter_eq_some_iff, decide_eq_true_eq, ← digits?_eq_some_iff]
  rw [and_comm]
  refine and_congr_right fun _ => ?_
  split
  case h_1 ds hs => simp [hs, @eq_comm _ z]
  case h_2 ds hs => simp [hs, @eq_comm _ z]
  case h_3 hplus hminus =>
    replace hplus : ∀ ds, s.toList ≠ '+' :: ds := hplus
    replace hminus : ∀ ds, s.toList ≠ '-' :: ds := hminus
    simp [hplus, hminus, @eq_comm _ z]

/-! ## Numbers with a fraction -/

/-- Names of infinity. -/
def infinityNames : List (List Char) := [['i', 'n', 'f'], ['i', 'n', 'f', 'i', 'n', 'i', 't', 'y']]

/-- Nothing, which is zero, or the mark of an exponent with the digits of the number behind it, perhaps signed. -/
def IsExponent : List Char → Int → Prop
  | [], e => e = 0
  | mark :: rest, e => (mark = 'e' ∨ mark = 'E') ∧ ∃ n : Nat,
    (IsDigits rest n ∨ ∃ ds, rest = '+' :: ds ∧ IsDigits ds n) ∧ e = n ∨
      (∃ ds, rest = '-' :: ds ∧ IsDigits ds n) ∧ e = -n

/-- The number that digits before a point and behind it write, with an exponent of ten. -/
def decimal (whole fraction : List Char) (e : Int) : ℚ := digitsValue (whole ++ fraction) * 10 ^ (e - fraction.length)

/-- A text that writes a number without a sign, and the pattern of the number, or of the nearest that there is. -/
inductive IsUnsigned : List Char → Nat → Prop
  /-- A name of infinity. -/
  | infinity {cs : List Char} : cs.map Char.toLower ∈ infinityNames → IsUnsigned cs Binary64.infinity
  /-- The name of what is no number. -/
  | notNumber {cs : List Char} : cs.map Char.toLower = ['n', 'a', 'n'] → IsUnsigned cs Binary64.notNumber
  /-- Digits with or without a point among them, and an exponent behind them. -/
  | decimal {whole point fraction exponent : List Char} {e : Int} {b : Nat} :
      (∀ d ∈ whole ++ fraction, isDigit d = true) → whole ++ fraction ≠ [] →
      (point = ['.'] ∨ point = [] ∧ fraction = []) → IsExponent exponent e →
      Binary64.IsNearest (decimal whole fraction e) b → IsUnsigned (whole ++ point ++ fraction ++ exponent) b

/-- The text writes the number `x`, perhaps behind a sign. -/
def IsReal (s : String) (x : Float) : Prop := ∃ b,
  (IsUnsigned s.toList b ∨ ∃ cs, s.toList = '+' :: cs ∧ IsUnsigned cs b) ∧ x = Binary64.toFloat b ∨
    (∃ cs, s.toList = '-' :: cs ∧ IsUnsigned cs b) ∧ x = Binary64.toFloat (Binary64.sign + b)

theorem exponent?_eq_some_iff : exponent? cs = some z ↔ IsExponent cs z := by
  unfold exponent?
  split
  case h_1 => exact Option.some_inj.trans eq_comm
  case h_2 e rest =>
    simp only [IsExponent, ← digits?_eq_some_iff]
    by_cases he : e = 'e' ∨ e = 'E'
    · rw [if_pos he, and_iff_right he]
      split
      case h_1 ds => simp [@eq_comm _ z]
      case h_2 ds => simp [@eq_comm _ z]
      case h_3 hplus hminus =>
        replace hplus : ∀ ds, rest ≠ '+' :: ds := hplus
        replace hminus : ∀ ds, rest ≠ '-' :: ds := hminus
        simp [hplus, hminus, @eq_comm _ z]
    · simp [he]

/-! ### The digits of a number -/

theorem digitsValue_cons (c : Char) (cs : List Char) :
    digitsValue (c :: cs) = (c.toNat - 48) * 10 ^ cs.length + digitsValue cs := by
  have hfold : ∀ (ds : List Char) (v : Nat), ds.foldl (fun v c => v * 10 + (c.toNat - 48)) v =
      v * 10 ^ ds.length + digitsValue ds := by
    intro ds
    induction ds with
    | nil =>
      intro v
      simp [digitsValue]
    | cons d ds ih =>
      intro v
      have hds : digitsValue (d :: ds) = (0 * 10 + (d.toNat - 48)) * 10 ^ ds.length + digitsValue ds := ih _
      rw [List.foldl_cons, ih, hds, List.length_cons, pow_succ]
      ring
  rw [digitsValue, List.foldl_cons, hfold, Nat.zero_mul, Nat.zero_add]

theorem digitsValue_dropWhile (cs : List Char) : digitsValue (cs.dropWhile (· == '0')) = digitsValue cs := by
  induction cs with
  | nil => rfl
  | cons c cs ih =>
    by_cases hc : c = '0'
    · subst hc
      rw [List.dropWhile_cons_of_pos rfl, ih, digitsValue_cons, show '0'.toNat - 48 = 0 from rfl, Nat.zero_mul,
        Nat.zero_add]
    · rw [List.dropWhile_cons_of_neg (by simpa using hc)]

theorem toNat_of_isDigit {c : Char} (h : isDigit c = true) : 48 ≤ c.toNat ∧ c.toNat ≤ 57 := by
  simp only [isDigit, Bool.and_eq_true, decide_eq_true_eq] at h
  exact h

theorem digitsValue_lt (h : ∀ d ∈ ds, isDigit d = true) : digitsValue ds < 10 ^ ds.length := by
  induction ds with
  | nil => exact Nat.one_pos
  | cons d ds ih =>
    rw [List.forall_mem_cons] at h
    have hd := toNat_of_isDigit h.1
    have hle : (d.toNat - 48) * 10 ^ ds.length ≤ 9 * 10 ^ ds.length := Nat.mul_le_mul_right _ (by omega)
    have hlt := ih h.2
    rw [digitsValue_cons, List.length_cons, pow_succ]
    omega

/-- Behind its leading zeros a number has as many digits as it has places. -/
theorem pow_length_le (h : ∀ d ∈ ds, isDigit d = true) (hne : digitsValue ds ≠ 0) :
    10 ^ (ds.dropWhile (· == '0')).length ≤ 10 * digitsValue ds := by
  rw [← digitsValue_dropWhile ds] at hne ⊢
  cases hdrop : ds.dropWhile (· == '0') with
  | nil =>
    rw [hdrop] at hne
    exact absurd rfl hne
  | cons d rest =>
    have hd := toNat_of_isDigit (h d ((List.dropWhile_sublist _).subset (hdrop ▸ List.mem_cons_self)))
    have hzero : d ≠ '0' := by
      have hfirst := List.head_dropWhile_not (· == '0') (w := by rw [hdrop]; exact List.cons_ne_nil _ _)
      simpa [hdrop] using hfirst
    have hpos : d.toNat ≠ 48 := fun he => hzero (Char.toNat_inj.1 he)
    have hle : 1 * 10 ^ rest.length ≤ (d.toNat - 48) * 10 ^ rest.length := Nat.mul_le_mul_right _ (by omega)
    rw [digitsValue_cons, List.length_cons, pow_succ]
    omega

/-! ### Numbers in scientific notation -/

section Scaled

variable {m k : Nat} {e : Int}

theorem ten_zpow_pos (e : Int) : (0 : ℚ) < 10 ^ e := zpow_pos (by norm_num) e

theorem ten_zpow_le {d e : Int} (h : d ≤ e) : (10 : ℚ) ^ d ≤ 10 ^ e := zpow_le_zpow_right₀ (by norm_num) h

/-- The number of the digits `m` with the exponent `e`, between the powers of ten that its places tell. -/
theorem scaled_bounds (hlow : 10 ^ k ≤ 10 * m) (hhigh : m < 10 ^ k) (e : Int) :
    (10 : ℚ) ^ (e + k) ≤ 10 * (m * 10 ^ e) ∧ (m * 10 ^ e : ℚ) < 10 ^ (e + k) := by
  have hlow' : (10 : ℚ) ^ k ≤ 10 * m := by exact_mod_cast hlow
  have hhigh' : (m : ℚ) < 10 ^ k := by exact_mod_cast hhigh
  rw [zpow_add₀ (by norm_num), zpow_natCast, mul_comm ((10 : ℚ) ^ e)]
  refine ⟨?_, mul_lt_mul_of_pos_right hhigh' (ten_zpow_pos e)⟩
  rw [← mul_assoc]
  exact mul_le_mul_of_nonneg_right hlow' (ten_zpow_pos e).le

theorem two_pow_le_ten_pow {j n : Nat} (h : j ≤ 3 * n) : (2 : ℚ) ^ j ≤ 10 ^ n :=
  calc
    (2 : ℚ) ^ j ≤ 2 ^ (3 * n) := pow_le_pow_right₀ one_le_two h
    _ = (2 ^ 3) ^ n := pow_mul 2 3 n
    _ ≤ 10 ^ n := pow_le_pow_left₀ (by norm_num) (by norm_num) n

/-- Beyond four hundred places there are no finite numbers. -/
theorem value_infinity_le {q : ℚ} {z : Int} (hz : 400 < z) (hq : 10 ^ z ≤ 10 * q) :
    Binary64.value Binary64.infinity ≤ q := by
  have hten : (10 : ℚ) ^ (401 : Int) = 10 * 10 ^ 400 := (zpow_natCast 10 401).trans (pow_succ' 10 400)
  have hle := ten_zpow_le (show 401 ≤ z from hz)
  have htwo : (2 : ℚ) ^ 1024 ≤ 10 ^ 400 := two_pow_le_ten_pow (by norm_num)
  rw [Binary64.value_infinity]
  exact htwo.trans (le_of_mul_le_mul_left (by rw [← hten]; exact hle.trans hq) (by norm_num : (0 : ℚ) < 10))

/-- Below four hundred places numbers are nearest to zero. -/
theorem two_mul_lt_least {q : ℚ} {z : Int} (hz : z < -400) (hq : q < 10 ^ z) :
    2 * q < 1 / 2 ^ Binary64.places := by
  have hten : (10 : ℚ) ^ (-401 : Int) = 1 / 10 ^ 401 := by
    rw [zpow_neg, one_div]
    exact congrArg _ (zpow_natCast 10 401)
  have hle : (10 : ℚ) ^ z ≤ 10 ^ (-401 : Int) := ten_zpow_le (Int.le_sub_one_of_lt hz)
  have htwo : (2 : ℚ) ^ (Binary64.places + 1) ≤ 10 ^ 401 := two_pow_le_ten_pow (by decide)
  calc
    2 * q < 2 * (1 / 10 ^ 401) := by
      rw [← hten]
      exact mul_lt_mul_of_pos_left (hq.trans_le hle) two_pos
    _ ≤ 2 * (1 / 2 ^ (Binary64.places + 1)) := by
      exact mul_le_mul_of_nonneg_left (one_div_le_one_div_of_le (Binary64.pow_two_pos _) htwo) two_pos.le
    _ = 1 / 2 ^ Binary64.places := by
      rw [pow_succ, ← div_div, mul_div_cancel₀ _ two_ne_zero]

theorem zpow_of_neg (h : e < 0) : (m * 10 ^ e : ℚ) = m / (10 ^ e.natAbs : Nat) := by
  obtain ⟨n, rfl⟩ : ∃ n : Nat, e = -n := ⟨e.natAbs, by omega⟩
  rw [Int.natAbs_neg, Int.natAbs_natCast, zpow_neg, zpow_natCast, Nat.cast_pow, Nat.cast_ofNat, div_eq_mul_inv]

theorem zpow_of_nonneg (h : 0 ≤ e) : (m * 10 ^ e : ℚ) = (m * 10 ^ e.natAbs : Nat) / (1 : Nat) := by
  obtain ⟨n, rfl⟩ : ∃ n : Nat, e = n := ⟨e.natAbs, by omega⟩
  rw [Int.natAbs_natCast, zpow_natCast, Nat.cast_mul, Nat.cast_pow, Nat.cast_ofNat, Nat.cast_one, div_one]

/-- The pattern that is computed is the nearest. -/
theorem isNearest_scaled (hlow : m ≠ 0 → 10 ^ k ≤ 10 * m) (hhigh : m < 10 ^ k) (e : Int) :
    Binary64.IsNearest (m * 10 ^ e) (scaled m k e) := by
  rw [scaled]
  split
  case isTrue hm =>
    rw [hm, Nat.cast_zero, zero_mul]
    refine Binary64.isNearest_zero (le_refl _) ?_
    rw [mul_zero]
    exact one_div_pos.2 (Binary64.pow_two_pos _)
  case isFalse hm =>
    obtain ⟨hle, hlt⟩ := scaled_bounds (hlow hm) hhigh e
    split
    case isTrue hlarge => exact Binary64.isNearest_infinity (value_infinity_le hlarge hle)
    case isFalse =>
      split
      case isTrue hsmall =>
        exact Binary64.isNearest_zero (mul_nonneg m.cast_nonneg (ten_zpow_pos e).le) (two_mul_lt_least hsmall hlt)
      case isFalse =>
        split
        case isTrue hneg =>
          rw [zpow_of_neg hneg, Nat.pow_eq]
          exact Binary64.isNearest_nearest m (Nat.pow_pos (by norm_num))
        case isFalse hnonneg =>
          rw [zpow_of_nonneg (Int.not_lt.1 hnonneg), Nat.pow_eq]
          exact Binary64.isNearest_nearest _ Nat.one_pos

end Scaled

/-- The pattern that is computed of the digits of a number is the nearest. -/
theorem isNearest_decimal {whole fraction : List Char} (h : ∀ d ∈ whole ++ fraction, isDigit d = true) (e : Int) :
    let all := (whole ++ fraction).dropWhile (· == '0')
    Binary64.IsNearest (decimal whole fraction e) (scaled (digitsValue all) all.length (e - fraction.length)) := by
  intro all
  have hall : digitsValue all = digitsValue (whole ++ fraction) := digitsValue_dropWhile _
  have hdigits : ∀ d ∈ all, isDigit d = true := fun d hd => h d ((List.dropWhile_sublist _).subset hd)
  rw [decimal, ← hall]
  exact isNearest_scaled (fun hm => hall ▸ pow_length_le h (hall ▸ hm)) (digitsValue_lt hdigits) _

/-! ### Reading -/

/-- The digits at the start of a text, where something else follows. -/
theorem takeWhile_isDigit_append (hds : ∀ d ∈ ds, isDigit d = true) (hcs : cs.takeWhile isDigit = []) :
    (ds ++ cs).takeWhile isDigit = ds := by
  rw [List.takeWhile_append_of_pos hds, hcs, List.append_nil]

theorem takeWhile_dropWhile (cs : List Char) : (cs.dropWhile isDigit).takeWhile isDigit = [] := by
  induction cs with
  | nil => rfl
  | cons c cs ih =>
    by_cases hc : isDigit c = true
    · rwa [List.dropWhile_cons_of_pos hc]
    · rw [List.dropWhile_cons_of_neg hc, List.takeWhile_cons_of_neg hc]

theorem IsExponent.takeWhile (h : IsExponent cs z) : cs.takeWhile isDigit = [] := by
  cases cs with
  | nil => rfl
  | cons e rest =>
    rcases h.1 with rfl | rfl
    · rfl
    · rfl

/-- The text names infinity, or what is no number. -/
def IsName (cs : List Char) : Prop := cs.map Char.toLower ∈ infinityNames ∨ cs.map Char.toLower = ['n', 'a', 'n']

/-- Digits and the point are as they are in lower case. -/
theorem toLower_eq {c : Char} (h : isDigit c = true ∨ c = '.') : c.toLower = c := by
  have hle : c.toNat ≤ 57 := by
    rcases h with h | rfl
    · exact (toNat_of_isDigit h).2
    · decide
  refine dif_neg fun hupper => ?_
  exact absurd (show 65 ≤ c.toNat from hupper.1) (by omega)

/-- What holds a digit or a point is no name. -/
theorem not_isName {c : Char} (hc : c ∈ cs) (h : isDigit c = true ∨ c = '.') : ¬ IsName cs := by
  have hnames : ∀ w ∈ ['n', 'a', 'n'] :: infinityNames, ∀ d ∈ w, ¬ (isDigit d = true ∨ d = '.') := by
    simp [infinityNames, isDigit]
  have hmem : c ∈ cs.map Char.toLower := List.mem_map.2 ⟨c, hc, toLower_eq h⟩
  rintro (hname | hname)
  · exact hnames _ (List.mem_cons_of_mem _ hname) c hmem h
  · exact hnames _ List.mem_cons_self c (hname ▸ hmem) h

section Parts

variable {whole point fraction exponent : List Char}

/-- Digits with or without a point among them, and something else behind them. -/
structure IsParts (whole point fraction exponent : List Char) : Prop where
  before : ∀ d ∈ whole, isDigit d = true
  behind : ∀ d ∈ fraction, isDigit d = true
  pointed : point = ['.'] ∨ point = [] ∧ fraction = []
  ended : exponent.takeWhile isDigit = []
  unpointed : point = [] → ∀ r, exponent ≠ '.' :: r

/-- Every text starts with such parts, if they may be empty. -/
theorem exists_parts (cs : List Char) :
    ∃ whole point fraction exponent,
      IsParts whole point fraction exponent ∧ cs = whole ++ point ++ fraction ++ exponent := by
  have hcs : cs = cs.takeWhile isDigit ++ cs.dropWhile isDigit := List.takeWhile_append_dropWhile.symm
  have hw : ∀ d ∈ cs.takeWhile isDigit, isDigit d = true := fun d => List.mem_takeWhile_imp
  by_cases hp : ∃ r, cs.dropWhile isDigit = '.' :: r
  · obtain ⟨r, hr⟩ := hp
    refine ⟨_, ['.'], r.takeWhile isDigit, r.dropWhile isDigit,
      ⟨hw, fun d => List.mem_takeWhile_imp, Or.inl rfl, takeWhile_dropWhile r, nofun⟩, ?_⟩
    rw [List.append_assoc, List.takeWhile_append_dropWhile, List.append_assoc, List.singleton_append, ← hr]
    exact hcs
  · refine ⟨_, [], [], cs.dropWhile isDigit,
      ⟨hw, List.forall_mem_nil _, Or.inr ⟨rfl, rfl⟩, takeWhile_dropWhile cs, fun _ r hr => hp ⟨r, hr⟩⟩, ?_⟩
    rw [List.append_nil, List.append_nil]
    exact hcs

/-- What is read of digits, perhaps with a point among them, and of what is behind them. -/
theorem IsParts.unsigned?_eq (h : IsParts whole point fraction exponent)
    (hname : ¬ IsName (whole ++ point ++ fraction ++ exponent)) :
    unsigned? (whole ++ point ++ fraction ++ exponent) =
      if whole ++ fraction = [] then none
      else (exponent? exponent).map fun e =>
        let all := (whole ++ fraction).dropWhile (· == '0')
        scaled (digitsValue all) all.length (e - fraction.length) := by
  simp only [IsName, infinityNames, List.mem_cons, List.not_mem_nil, or_false, not_or] at hname
  rw [unsigned?, if_neg (not_or.2 hname.1), if_neg hname.2]
  rcases h.pointed with rfl | ⟨rfl, rfl⟩
  · have hsplit : whole ++ ['.'] ++ fraction ++ exponent = whole ++ '.' :: (fraction ++ exponent) := by
      simp only [List.append_assoc, List.cons_append, List.nil_append]
    have hwhole : (whole ++ '.' :: (fraction ++ exponent)).takeWhile isDigit = whole :=
      takeWhile_isDigit_append h.before rfl
    have hfraction : (fraction ++ exponent).takeWhile isDigit = fraction :=
      takeWhile_isDigit_append h.behind h.ended
    simp only [hsplit, hwhole, List.drop_left, hfraction, List.append_eq_nil_iff]
  · have hwhole : (whole ++ exponent).takeWhile isDigit = whole := takeWhile_isDigit_append h.before h.ended
    simp only [List.append_nil, hwhole, List.drop_left]
    split
    case h_1 r => exact absurd rfl (h.unpointed rfl r)
    case h_2 => simp only [List.append_nil, and_true]

end Parts

/-- Names and digits are read as they are meant. -/
theorem IsUnsigned.of_unsigned? {b : Nat} (h : unsigned? cs = some b) : IsUnsigned cs b := by
  by_cases hname : IsName cs
  · simp only [IsName, infinityNames, List.mem_cons, List.not_mem_nil, or_false] at hname
    rw [unsigned?] at h
    rcases hname with hname | hname
    · rw [if_pos hname] at h
      cases h
      exact .infinity (by simpa only [infinityNames, List.mem_cons, List.not_mem_nil, or_false] using hname)
    · simp only [hname] at h
      cases h
      exact .notNumber hname
  · obtain ⟨whole, point, fraction, exponent, hparts, rfl⟩ := exists_parts cs
    rw [hparts.unsigned?_eq hname] at h
    obtain ⟨hne, h⟩ := Option.ite_none_left_eq_some.1 h
    obtain ⟨e, he, rfl⟩ := Option.map_eq_some_iff.1 h
    have hdigits : ∀ d ∈ whole ++ fraction, isDigit d = true := fun d hd =>
      (List.mem_append.1 hd).elim (hparts.before d) (hparts.behind d)
    exact .decimal hdigits hne hparts.pointed (exponent?_eq_some_iff.1 he) (isNearest_decimal hdigits e)

theorem IsUnsigned.eq_some {b : Nat} (h : IsUnsigned cs b) : unsigned? cs = some b := by
  cases h with
  | infinity hname =>
    simp only [infinityNames, List.mem_cons, List.not_mem_nil, or_false] at hname
    rw [unsigned?, if_pos hname]
  | notNumber hname =>
    rw [unsigned?]
    simp [hname]
  | @decimal whole point fraction exponent e b hdigits hne hp he hb =>
    obtain ⟨d, hd⟩ := List.exists_mem_of_ne_nil _ hne
    have hmem : d ∈ whole ++ point ++ fraction ++ exponent := by
      simp only [List.mem_append] at hd ⊢
      tauto
    have hparts : IsParts whole point fraction exponent := by
      refine ⟨fun d hd => hdigits d (List.mem_append_left _ hd), fun d hd => hdigits d (List.mem_append_right _ hd), hp,
        he.takeWhile, ?_⟩
      rintro - r rfl
      rcases he.1 with h | h <;> cases h
    rw [hparts.unsigned?_eq (not_isName hmem (Or.inl (hdigits d hd))), if_neg hne, exponent?_eq_some_iff.2 he]
    exact congrArg some ((isNearest_decimal hdigits e).unique hb)

theorem unsigned?_eq_some_iff {b : Nat} : unsigned? cs = some b ↔ IsUnsigned cs b :=
  ⟨IsUnsigned.of_unsigned?, IsUnsigned.eq_some⟩

/-- A sign stands before a number only once. -/
theorem unsigned?_sign {c : Char} (hc : c = '+' ∨ c = '-') : unsigned? (c :: cs) = none := by
  have hname : ¬ IsName (c :: cs) := by
    rcases hc with rfl | rfl <;> simp [IsName, infinityNames]
  have hparts : IsParts [] [] [] (c :: cs) := by
    refine ⟨List.forall_mem_nil _, List.forall_mem_nil _, Or.inr ⟨rfl, rfl⟩, ?_, fun _ => ?_⟩
    · rcases hc with rfl | rfl <;> rfl
    · rcases hc with rfl | rfl <;> simp
  exact hparts.unsigned?_eq hname

theorem float?_eq_some_iff {x : Float} : float? s = some x ↔ IsReal s x := by
  unfold float? IsReal
  simp only [← unsigned?_eq_some_iff]
  split
  case h_1 cs hs => simp [hs, unsigned?_sign, @eq_comm _ x]
  case h_2 cs hs => simp [hs, unsigned?_sign, @eq_comm _ x]
  case h_3 hplus hminus =>
    replace hplus : ∀ ds, s.toList ≠ '+' :: ds := hplus
    replace hminus : ∀ ds, s.toList ≠ '-' :: ds := hminus
    simp [hplus, hminus, @eq_comm _ x]

end PubSub.Text
