import HuddleCluster.Lib.Statistics

set_option autoImplicit false

-- An arithmetic that keeps the order of the numbers. A result is off by no more than
-- a part of it and a least amount.
structure Rounding (K : Type*) [Field K] [LinearOrder K] where
  round : K → K
  unit : K
  tiny : K
  unitNonneg : 0 ≤ unit
  unitHalf : 2 * unit ≤ 1
  tinyNonneg : 0 ≤ tiny
  mono : Monotone round
  zero : round 0 = 0
  one : round 1 = 1
  again : ∀ value, round (round value) = round value
  near : ∀ value, |round value - value| ≤ unit * |value| + tiny

namespace Rounding

section Exact

variable {K : Type*} [Field K] [LinearOrder K]

variable [IsStrictOrderedRing K]

def exact : Rounding K where
  round := id
  unit := 0
  tiny := 0
  unitNonneg := le_refl 0
  unitHalf := (mul_zero 2).trans_le zero_le_one
  tinyNonneg := le_refl 0
  mono := monotone_id
  zero := rfl
  one := rfl
  again _ := rfl
  near value := by simp [id]

end Exact

section Bounds

variable {K : Type*} [Field K] [LinearOrder K] (rounding : Rounding K)

theorem round_nonneg (value : K) (nonneg : 0 ≤ value) : 0 ≤ rounding.round value := by
  rw [← rounding.zero]
  exact rounding.mono nonneg

variable [IsStrictOrderedRing K]

theorem round_le (value : K) (nonneg : 0 ≤ value) : rounding.round value ≤ value + rounding.unit * value + rounding.tiny := by
  have near := (abs_le.mp (rounding.near value)).2
  rw [abs_of_nonneg nonneg] at near
  linarith

theorem le_round (value : K) (nonneg : 0 ≤ value) : value - rounding.unit * value - rounding.tiny ≤ rounding.round value := by
  have near := (abs_le.mp (rounding.near value)).1
  rw [abs_of_nonneg nonneg] at near
  linarith

end Bounds

end Rounding

-- A binary number of 64 bits: 53 of them for the digits, and no digit below 2 ^ -1074.
inductive Double where
  | finite (value : ℚ)
  | infinite (negative : Bool)
  | nan
deriving DecidableEq, Repr

namespace Double

open Statistics (roundHalfEven)

-- The exponent of the last digit.
def place (value : ℚ) : ℤ := max (Int.log 2 |value| - 52) (-1074)

def nearest (value : ℚ) : ℚ := roundHalfEven (value / 2 ^ place value) * 2 ^ place value

def of (value : ℚ) : Double :=
  if |nearest value| < 2 ^ 1024 then .finite (nearest value) else .infinite (decide (value < 0))

def rational? : Double → Option ℚ
  | .finite value => some value
  | .infinite _ | .nan => none

def neg : Double → Double
  | .finite value => .finite (-value)
  | .infinite negative => .infinite !negative
  | .nan => .nan

-- Nothing is above or below nan.
def lt : Double → Double → Bool
  | .finite a, .finite b => decide (a < b)
  | .infinite negative, .finite _ => negative
  | .finite _, .infinite negative => !negative
  | .infinite first, .infinite second => first && !second
  | .nan, _ | _, .nan => false

def le : Double → Double → Bool
  | .finite a, .finite b => decide (a ≤ b)
  | .infinite negative, .finite _ => negative
  | .finite _, .infinite negative => !negative
  | .infinite first, .infinite second => first || !second
  | .nan, _ | _, .nan => false

theorem le_not_lt (a b : Double) (le : a.le b = true) : b.lt a = false := by
  cases a with
  | finite a => cases b <;> simp_all [Double.le, Double.lt]
  | infinite negative => cases negative <;> cases b <;> simp_all [Double.le, Double.lt]
  | nan => cases b <;> rfl

theorem power_pos (exponent : ℤ) : (0 : ℚ) < 2 ^ exponent := zpow_pos two_pos exponent

theorem place_neg (value : ℚ) : place (-value) = place value := by rw [place, place, abs_neg]

theorem nearest_neg (value : ℚ) : nearest (-value) = -nearest value := by
  rw [nearest, nearest, place_neg, neg_div, Statistics.round_half_even_neg, Int.cast_neg, neg_mul]

theorem place_mono (a b : ℚ) (nonneg : 0 < a) (le : a ≤ b) : place a ≤ place b := by
  have logs : Int.log 2 |a| ≤ Int.log 2 |b| := by
    rw [abs_of_pos nonneg, abs_of_pos (nonneg.trans_le le)]
    exact Int.log_mono_right nonneg le
  exact max_le_max_right _ (by omega)

theorem nearest_whole (value : ℚ) (digits : ℤ) (shift : ℕ) (whole : value = digits * 2 ^ (place value + shift)) :
    nearest value = value := by
  have scaled : value / 2 ^ place value = ((digits * 2 ^ shift : ℤ) : ℚ) := by
    rw [div_eq_iff (power_pos _).ne']
    conv_lhs => rw [whole]
    rw [zpow_add₀ two_ne_zero, zpow_natCast]
    push_cast
    ring
  rw [nearest, scaled, Statistics.round_half_even_int, ← scaled, div_mul_cancel₀ _ (power_pos _).ne']

theorem nearest_zero : nearest 0 = 0 := nearest_whole 0 0 0 (by simp)

theorem place_le (value : ℚ) (digits : ℤ) (exponent : ℤ) (low : -1074 ≤ exponent) (size : value = digits * 2 ^ exponent)
    (short : |digits| < 2 ^ 53) (nonzero : value ≠ 0) : place value ≤ exponent := by
  have below : |value| < ((2 : ℕ) : ℚ) ^ (53 + exponent) := by
    rw [size, abs_mul, abs_of_pos (power_pos exponent), Nat.cast_ofNat, zpow_add₀ two_ne_zero]
    have digitsBelow : |(digits : ℚ)| < 2 ^ (53 : ℤ) := by exact_mod_cast short
    exact mul_lt_mul_of_pos_right digitsBelow (power_pos exponent)
  have log := (Int.lt_zpow_iff_log_lt one_lt_two (abs_pos.mpr nonzero)).mp below
  exact max_le (by omega) low

-- The doubles are the numbers of at most 53 digits.
theorem nearest_digits (digits exponent : ℤ) (low : -1074 ≤ exponent) (short : |digits| ≤ 2 ^ 53) :
    nearest (digits * 2 ^ exponent) = digits * 2 ^ exponent := by
  rcases eq_or_ne ((digits : ℚ) * 2 ^ exponent) 0 with zero | nonzero
  · rw [zero, nearest_zero]
  · rcases short.lt_or_eq with fewer | all
    · have fine := place_le _ digits exponent low rfl fewer nonzero
      obtain ⟨shift, same⟩ : ∃ shift : ℕ, exponent = place (digits * 2 ^ exponent) + shift :=
        ⟨(exponent - place (digits * 2 ^ exponent)).toNat, by omega⟩
      exact nearest_whole _ digits shift (by rw [← same])
    · obtain ⟨half, rfl⟩ : (2 : ℤ) ∣ digits := by
        rw [← abs_dvd_abs, all]
        norm_num
      have fewer : |half| < 2 ^ 53 := by
        rw [abs_mul] at all
        norm_num at all ⊢
        omega
      have moved : ((2 * half : ℤ) : ℚ) * 2 ^ exponent = half * 2 ^ (exponent + 1) := by
        rw [zpow_add_one₀ two_ne_zero]
        push_cast
        ring
      rw [moved] at nonzero ⊢
      have fine := place_le _ half (exponent + 1) (by omega) rfl fewer nonzero
      obtain ⟨shift, same⟩ : ∃ shift : ℕ, exponent + 1 = place (half * 2 ^ (exponent + 1)) + shift :=
        ⟨(exponent + 1 - place (half * 2 ^ (exponent + 1))).toNat, by omega⟩
      exact nearest_whole _ half shift (by rw [← same])

theorem nearest_int (value : ℤ) (short : |value| ≤ 2 ^ 53) : nearest value = value := by
  have digits := nearest_digits value 0 (by norm_num) short
  rwa [zpow_zero, mul_one] at digits

theorem nearest_one : nearest 1 = 1 := by simpa using nearest_int 1 (by norm_num)

theorem place_size (value : ℚ) : |value / 2 ^ place value| < 2 ^ 53 := by
  rw [abs_div, abs_of_pos (power_pos _), div_lt_iff₀ (power_pos _)]
  have log : |value| < ((2 : ℕ) : ℚ) ^ (Int.log 2 |value| + 1) := Int.lt_zpow_succ_log_self one_lt_two |value|
  have wide : Int.log 2 |value| + 1 ≤ 53 + place value := by
    have most := le_max_left (Int.log 2 |value| - 52) (-1074)
    rw [place]
    omega
  calc |value| < 2 ^ (Int.log 2 |value| + 1) := by exact_mod_cast log
    _ ≤ 2 ^ (53 + place value) := zpow_le_zpow_right₀ one_le_two wide
    _ = 2 ^ 53 * 2 ^ place value := by rw [zpow_add₀ two_ne_zero]; norm_num

theorem nearest_again (value : ℚ) : nearest (nearest value) = nearest value := by
  have size := abs_lt.mp (place_size value)
  have high := Statistics.round_half_even_mono _ _ size.2.le
  have low := Statistics.round_half_even_mono _ _ size.1.le
  have power : roundHalfEven ((2 : ℚ) ^ 53) = (2 : ℤ) ^ 53 := by
    rw [← Statistics.round_half_even_int ((2 : ℤ) ^ 53)]
    norm_num
  rw [power] at high
  rw [Statistics.round_half_even_neg, power] at low
  exact nearest_digits _ _ (le_max_right _ _) (abs_le.mpr ⟨low, high⟩)

-- Off by half of the last place at most.
theorem nearest_near (value : ℚ) : |nearest value - value| ≤ 2⁻¹ ^ 53 * |value| + 2⁻¹ ^ 1075 := by
  have half := Statistics.round_half_even_near (value / 2 ^ place value)
  have off : |nearest value - value| ≤ 1 / 2 * 2 ^ place value := by
    have whole : nearest value - value = (roundHalfEven (value / 2 ^ place value) - value / 2 ^ place value) * 2 ^ place value := by
      rw [nearest, sub_mul, div_mul_cancel₀ _ (power_pos _).ne']
    rw [whole, abs_mul, abs_of_pos (power_pos _)]
    exact mul_le_mul_of_nonneg_right half (power_pos _).le
  have nonneg : (0 : ℚ) ≤ 2⁻¹ ^ 53 * |value| := by positivity
  have tiny : (0 : ℚ) ≤ 2⁻¹ ^ 1075 := by positivity
  rcases eq_or_ne value 0 with rfl | nonzero
  · rw [nearest_zero, sub_zero, abs_zero]
    exact add_nonneg (mul_zero _).ge tiny
  refine off.trans ?_
  rcases max_choice (Int.log 2 |value| - 52) (-1074) with normal | least
  · have log : ((2 : ℕ) : ℚ) ^ Int.log 2 |value| ≤ |value| := Int.zpow_log_le_self one_lt_two (abs_pos.mpr nonzero)
    have last : (1 : ℚ) / 2 * 2 ^ place value = 2⁻¹ ^ 53 * 2 ^ Int.log 2 |value| := by
      rw [place, normal, zpow_sub₀ two_ne_zero]
      norm_num
      ring
    rw [last]
    refine le_trans (mul_le_mul_of_nonneg_left ?_ (by positivity)) (le_add_of_nonneg_right tiny)
    exact_mod_cast log
  · have last : (1 : ℚ) / 2 * 2 ^ place value = 2⁻¹ ^ 1075 := by
      rw [place, least, zpow_neg, show (1074 : ℤ) = ((1074 : ℕ) : ℤ) from rfl, zpow_natCast, inv_pow,
        pow_succ' (2 : ℚ) 1074, mul_inv]
      norm_num
    rw [last]
    exact le_add_of_nonneg_left nonneg

theorem nearest_nonneg (value : ℚ) (nonneg : 0 ≤ value) : 0 ≤ nearest value := by
  have scaled : 0 ≤ value / 2 ^ place value := div_nonneg nonneg (power_pos _).le
  have rounded := Statistics.round_half_even_mono _ _ scaled
  have zero := Statistics.round_half_even_int 0
  rw [Int.cast_zero] at zero
  rw [zero] at rounded
  exact mul_nonneg (Int.cast_nonneg rounded) (power_pos _).le

theorem power_scaled (value : ℚ) (exponent : ℤ) (coarse : place value ≤ exponent) :
    (2 : ℚ) ^ exponent / 2 ^ place value = ((2 ^ (exponent - place value).toNat : ℤ) : ℚ) := by
  rw [← zpow_sub₀ two_ne_zero]
  push_cast
  rw [← zpow_natCast, Int.toNat_of_nonneg (sub_nonneg.mpr coarse)]

theorem nearest_le_power (value : ℚ) (exponent : ℤ) (coarse : place value ≤ exponent) (le : value ≤ 2 ^ exponent) :
    nearest value ≤ 2 ^ exponent := by
  have scaled : value / 2 ^ place value ≤ 2 ^ exponent / 2 ^ place value := div_le_div_of_nonneg_right le (power_pos _).le
  rw [power_scaled value exponent coarse] at scaled
  have rounded := Statistics.round_half_even_mono _ _ scaled
  rw [Statistics.round_half_even_int] at rounded
  rw [nearest, ← le_div_iff₀ (power_pos _), power_scaled value exponent coarse]
  exact_mod_cast rounded

theorem power_le_nearest (value : ℚ) (exponent : ℤ) (coarse : place value ≤ exponent) (le : 2 ^ exponent ≤ value) :
    2 ^ exponent ≤ nearest value := by
  have scaled : 2 ^ exponent / 2 ^ place value ≤ value / 2 ^ place value := div_le_div_of_nonneg_right le (power_pos _).le
  rw [power_scaled value exponent coarse] at scaled
  have rounded := Statistics.round_half_even_mono _ _ scaled
  rw [Statistics.round_half_even_int] at rounded
  rw [nearest, ← div_le_iff₀ (power_pos _), power_scaled value exponent coarse]
  exact_mod_cast rounded

-- A greater number of the same place rounds to a greater one; between two places lies
-- a power of two.
theorem nearest_mono_pos (a b : ℚ) (positive : 0 < a) (le : a ≤ b) : nearest a ≤ nearest b := by
  rcases (place_mono a b positive le).eq_or_lt with same | finer
  · have scaled : a / 2 ^ place b ≤ b / 2 ^ place b := div_le_div_of_nonneg_right le (power_pos _).le
    rw [nearest, nearest, same]
    exact mul_le_mul_of_nonneg_right (by exact_mod_cast Statistics.round_half_even_mono _ _ scaled) (power_pos _).le
  · have normal : place b = Int.log 2 |b| - 52 := by
      have least : -1074 ≤ place a := le_max_right _ _
      rcases max_choice (Int.log 2 |b| - 52) (-1074) with normal | low
      · exact normal
      · exact absurd (finer.trans_eq low) (not_lt.mpr least)
    have smaller : Int.log 2 |a| + 1 ≤ Int.log 2 |b| := by
      have log : Int.log 2 |a| - 52 ≤ place a := le_max_left _ _
      omega
    have power : ((2 : ℕ) : ℚ) ^ Int.log 2 |b| ≤ |b| := Int.zpow_log_le_self one_lt_two (abs_pos.mpr (positive.trans_le le).ne')
    have below : |a| < ((2 : ℕ) : ℚ) ^ (Int.log 2 |a| + 1) := Int.lt_zpow_succ_log_self one_lt_two |a|
    rw [Nat.cast_ofNat, abs_of_pos (positive.trans_le le)] at power
    rw [Nat.cast_ofNat, abs_of_pos positive] at below
    rw [abs_of_pos (positive.trans_le le)] at normal smaller
    rw [abs_of_pos positive] at smaller
    calc nearest a ≤ 2 ^ Int.log 2 b := nearest_le_power a _ (by omega) (below.le.trans (zpow_le_zpow_right₀ one_le_two smaller))
      _ ≤ nearest b := power_le_nearest b _ (by omega) power

theorem nearest_mono : Monotone nearest := by
  intro a b le
  rcases lt_trichotomy a 0 with negative | rfl | positive
  · rcases lt_or_ge b 0 with below | above
    · have mirrored := nearest_mono_pos (-b) (-a) (neg_pos.mpr below) (neg_le_neg le)
      rw [nearest_neg, nearest_neg] at mirrored
      exact neg_le_neg_iff.mp mirrored
    · have mirrored := nearest_nonneg (-a) (neg_nonneg.mpr negative.le)
      rw [nearest_neg] at mirrored
      exact (neg_nonneg.mp mirrored).trans (nearest_nonneg b above)
  · rw [nearest_zero]
    exact nearest_nonneg b le
  · exact nearest_mono_pos a b positive le

def rounding : Rounding ℚ where
  round := nearest
  unit := 2⁻¹ ^ 53
  tiny := 2⁻¹ ^ 1075
  unitNonneg := by positivity
  unitHalf := by norm_num
  tinyNonneg := by positivity
  mono := nearest_mono
  zero := nearest_zero
  one := nearest_one
  again := nearest_again
  near := nearest_near

-- A small number is lost in a sum.
example : nearest (1 + 1 / 2 ^ 53) = 1 ∧ nearest (1 / 10) ≠ 1 / 10 := by decide +kernel

end Double
