import Mathlib.Algebra.Order.Field.Power
import Mathlib.Data.Rat.Cast.Defs
import Mathlib.Tactic.FieldSimp
import Mathlib.Tactic.Linarith
import Mathlib.Tactic.NormNum
import Mathlib.Tactic.Ring
import SeriesQuery.Decimal.Binary64

/-!
A double is the nearest one to its own value, whatever fraction the value is given as. The bounds
that spare `nearest` a power of ten change nothing.
-/

set_option autoImplicit false

namespace SeriesQuery.Decimal

/-! ## Doubles -/

def doubleBits (mantissa : Nat) (exponent : Int) : Nat :=
  (exponent - leastExponent).toNat * 2 ^ 52 + mantissa

/-- The mantissa has 53 binary digits, or fewer at the least exponent. -/
structure IsDouble (mantissa : Nat) (exponent : Int) : Prop where
  small : mantissa < 2 ^ 53
  least : leastExponent ≤ exponent
  normal : exponent = leastExponent ∨ 2 ^ 52 ≤ mantissa
  finite : doubleBits mantissa exponent < infinityBits

/-! ## Fractions as numbers -/

namespace Ratio

/-- The number that a fraction stands for. -/
def toRat (ratio : Ratio) : ℚ := (ratio.numerator : ℚ) / ratio.denominator

theorem toRat_scaled (coefficient : Nat) {base : Nat} (positive : 0 < base) (exponent : Int) :
    (scaled coefficient base exponent).toRat = coefficient * (base : ℚ) ^ exponent := by
  have nonzero : (base : ℚ) ≠ 0 := by exact_mod_cast positive.ne'
  unfold scaled toRat
  split
  · next large =>
    obtain ⟨count, rfl⟩ := Int.eq_ofNat_of_zero_le large
    simp
  · next small =>
    obtain ⟨count, rfl⟩ := Int.exists_eq_neg_ofNat (Int.not_le.1 small).le
    simp [div_eq_mul_inv]

theorem denominator_scaled_pos (coefficient : Nat) {base : Nat} (positive : 0 < base)
    (exponent : Int) : 0 < (scaled coefficient base exponent).denominator := by
  unfold scaled
  split
  · exact Nat.one_pos
  · exact Nat.pow_pos positive

/-- The fraction counted in powers of two. -/
def inUnits (ratio : Ratio) (exponent : Int) : Ratio :=
  if 0 ≤ exponent then ⟨ratio.numerator, ratio.denominator * Nat.pow 2 exponent.toNat⟩
  else ⟨ratio.numerator * Nat.pow 2 (-exponent).toNat, ratio.denominator⟩

theorem toRat_inUnits (ratio : Ratio) (exponent : Int) :
    (ratio.inUnits exponent).toRat = ratio.toRat / 2 ^ exponent := by
  unfold inUnits toRat
  split
  · next large =>
    obtain ⟨count, rfl⟩ := Int.eq_ofNat_of_zero_le large
    simp [div_div]
  · next small =>
    obtain ⟨count, rfl⟩ := Int.exists_eq_neg_ofNat (Int.not_le.1 small).le
    simp [div_eq_mul_inv]
    ring

theorem denominator_inUnits_pos {ratio : Ratio} (positive : 0 < ratio.denominator)
    (exponent : Int) : 0 < (ratio.inUnits exponent).denominator := by
  unfold inUnits
  split
  · exact Nat.mul_pos positive (Nat.pow_pos (by decide))
  · exact positive

theorem numerator_pos {ratio : Ratio} (positive : 0 < ratio.toRat) : 0 < ratio.numerator := by
  refine Nat.pos_of_ne_zero fun zero => ?_
  rw [toRat, zero, Nat.cast_zero, zero_div] at positive
  exact absurd positive (lt_irrefl 0)

theorem quotient_lt_iff {ratio : Ratio} (positive : 0 < ratio.denominator) (bound : Nat) :
    ratio.numerator / ratio.denominator < bound ↔ ratio.toRat < bound := by
  have positive' : (0 : ℚ) < ratio.denominator := by exact_mod_cast positive
  rw [Nat.div_lt_iff_lt_mul positive, toRat, div_lt_iff₀ positive']
  exact_mod_cast Iff.rfl

/-! ## Exponents -/

/-- The exponent at which the fraction has a 53 digit binary mantissa. -/
def leadingExponent (ratio : Ratio) : Int :=
  let guess : Int := (ratio.numerator.log2 : Int) - ratio.denominator.log2 - 53
  if (ratio.inUnits guess).numerator / (ratio.inUnits guess).denominator < 2 ^ 53 then guess
  else guess + 1

theorem binaryExponent_eq (ratio : Ratio) :
    ratio.binaryExponent = max leastExponent ratio.leadingExponent := by
  unfold binaryExponent leadingExponent inUnits
  simp only
  split
  · rfl
  · rfl

theorem two_zpow_log2_le {value : Nat} (positive : 0 < value) :
    (2 : ℚ) ^ (value.log2 : Int) ≤ value ∧ (value : ℚ) < 2 ^ ((value.log2 : Int) + 1) := by
  have low := Nat.log2_self_le positive.ne'
  have high := @Nat.lt_log2_self value
  constructor
  · rw [zpow_natCast]
    exact_mod_cast low
  · have same : (value.log2 : Int) + 1 = ((value.log2 + 1 : Nat) : Int) := by omega
    rw [same, zpow_natCast]
    exact_mod_cast high

theorem toRat_lt_iff {ratio : Ratio} (nonzero : 0 < ratio.denominator) (exponent : Int) :
    (ratio.inUnits exponent).numerator / (ratio.inUnits exponent).denominator < 2 ^ 53 ↔
      ratio.toRat < 2 ^ (exponent + 53) := by
  have positive : (0 : ℚ) < 2 ^ exponent := zpow_pos two_pos exponent
  rw [quotient_lt_iff (denominator_inUnits_pos nonzero exponent), toRat_inUnits,
    div_lt_iff₀ positive, zpow_add₀ two_ne_zero, mul_comm]
  norm_num

theorem toRat_bounds {ratio : Ratio} (positive : 0 < ratio.numerator)
    (nonzero : 0 < ratio.denominator) :
    2 ^ (ratio.leadingExponent + 52) ≤ ratio.toRat ∧
      ratio.toRat < 2 ^ (ratio.leadingExponent + 53) := by
  obtain ⟨numeratorLow, numeratorHigh⟩ := two_zpow_log2_le positive
  obtain ⟨denominatorLow, denominatorHigh⟩ := two_zpow_log2_le nonzero
  have nonzero' : (0 : ℚ) < ratio.denominator := by exact_mod_cast nonzero
  let guess : Int := (ratio.numerator.log2 : Int) - ratio.denominator.log2 - 53
  have low : 2 ^ (guess + 52) ≤ ratio.toRat := by
    rw [toRat, le_div_iff₀ nonzero']
    calc (2 : ℚ) ^ (guess + 52) * ratio.denominator
      _ ≤ 2 ^ (guess + 52) * 2 ^ ((ratio.denominator.log2 : Int) + 1) := by gcongr
      _ = 2 ^ (ratio.numerator.log2 : Int) := by
        rw [← zpow_add₀ two_ne_zero]
        congr 1
        omega
      _ ≤ ratio.numerator := numeratorLow
  have high : ratio.toRat < 2 ^ (guess + 54) := by
    rw [toRat, div_lt_iff₀ nonzero']
    calc (ratio.numerator : ℚ)
      _ < 2 ^ ((ratio.numerator.log2 : Int) + 1) := numeratorHigh
      _ = 2 ^ (guess + 54) * 2 ^ (ratio.denominator.log2 : Int) := by
        rw [← zpow_add₀ two_ne_zero]
        congr 1
        omega
      _ ≤ 2 ^ (guess + 54) * ratio.denominator := by gcongr
  -- The guess is right or one too small, and the quotient tells which.
  have below := toRat_lt_iff nonzero guess
  unfold leadingExponent
  simp only
  split
  · next small => exact ⟨low, below.1 small⟩
  · next large =>
    have atLeast := not_lt.1 (mt below.2 large)
    rw [show guess + 1 + 52 = guess + 53 by ring, show guess + 1 + 53 = guess + 54 by ring]
    exact ⟨atLeast, high⟩

theorem le_leadingExponent {ratio : Ratio} (positive : 0 < ratio.numerator)
    (nonzero : 0 < ratio.denominator) {exponent : Int} (large : 2 ^ (exponent + 52) ≤ ratio.toRat) :
    exponent ≤ ratio.leadingExponent := by
  have bounds := toRat_bounds positive nonzero
  have less := (zpow_lt_zpow_iff_right₀ (one_lt_two : (1 : ℚ) < 2)).1 (large.trans_lt bounds.2)
  omega

theorem leadingExponent_le {ratio : Ratio} (positive : 0 < ratio.numerator)
    (nonzero : 0 < ratio.denominator) {exponent : Int} (small : ratio.toRat < 2 ^ (exponent + 53)) :
    ratio.leadingExponent ≤ exponent := by
  have bounds := toRat_bounds positive nonzero
  have less := (zpow_lt_zpow_iff_right₀ (one_lt_two : (1 : ℚ) < 2)).1 (bounds.1.trans_lt small)
  omega

/-! ## Rounding -/

theorem roundHalfEven_mul (value : Nat) {denominator : Nat} (positive : 0 < denominator) :
    roundHalfEven (value * denominator) denominator = value := by
  simp [roundHalfEven, positive]

theorem le_roundHalfEven (numerator denominator : Nat) :
    numerator / denominator ≤ roundHalfEven numerator denominator := by
  unfold roundHalfEven
  simp only
  split
  · exact Nat.le_refl _
  · split
    · exact Nat.le_succ _
    · exact Nat.le_add_right _ _

theorem roundHalfEven_le (numerator denominator : Nat) :
    roundHalfEven numerator denominator ≤ numerator / denominator + 1 := by
  unfold roundHalfEven
  simp only
  split
  · exact Nat.le_succ _
  · split
    · exact Nat.le_refl _
    · omega

theorem roundHalfEven_eq_zero {numerator denominator : Nat} (small : 2 * numerator < denominator) :
    roundHalfEven numerator denominator = 0 := by
  have less : numerator < denominator := by omega
  simp [roundHalfEven, Nat.div_eq_of_lt less, Nat.mod_eq_of_lt less, small]

/-- The fraction counted in powers of two, as a whole number. -/
def rounded (ratio : Ratio) (exponent : Int) : Nat :=
  roundHalfEven (ratio.inUnits exponent).numerator (ratio.inUnits exponent).denominator

theorem nearestBits_eq {ratio : Ratio} (positive : 0 < ratio.numerator) :
    ratio.nearestBits = min infinityBits
      ((ratio.binaryExponent - leastExponent).toNat * 2 ^ 52 +
        ratio.rounded ratio.binaryExponent) := by
  unfold nearestBits rounded inUnits
  rw [if_neg positive.ne']
  simp only
  split
  · rfl
  · rfl

theorem le_rounded {ratio : Ratio} (nonzero : 0 < ratio.denominator) {count : Nat} {exponent : Int}
    (large : count * 2 ^ exponent ≤ ratio.toRat) : count ≤ ratio.rounded exponent := by
  refine le_trans (not_lt.1 fun less => ?_) (le_roundHalfEven _ _)
  have unit : (0 : ℚ) < 2 ^ exponent := zpow_pos two_pos _
  rw [quotient_lt_iff (denominator_inUnits_pos nonzero _), toRat_inUnits, div_lt_iff₀ unit] at less
  exact absurd less (not_lt.2 large)

theorem le_rounded_leadingExponent {ratio : Ratio} (positive : 0 < ratio.numerator)
    (nonzero : 0 < ratio.denominator) :
    2 ^ 52 ≤ ratio.rounded ratio.leadingExponent := by
  refine le_rounded nonzero ?_
  have low := (toRat_bounds positive nonzero).1
  rw [zpow_add₀ two_ne_zero, mul_comm] at low
  exact_mod_cast low

theorem nearestBits_of_isDouble {mantissa : Nat} {exponent : Int}
    (double : IsDouble mantissa exponent) (positive : 0 < mantissa) {ratio : Ratio}
    (nonzero : 0 < ratio.denominator) (same : ratio.toRat = mantissa * 2 ^ exponent) :
    ratio.nearestBits = doubleBits mantissa exponent := by
  obtain ⟨small, least, normal, finite⟩ := double
  have unit : (0 : ℚ) < 2 ^ exponent := zpow_pos two_pos exponent
  have value : (0 : ℚ) < ratio.toRat := by
    rw [same]
    exact mul_pos (by exact_mod_cast positive) unit
  have numerator := numerator_pos value
  have high : ratio.toRat < 2 ^ (exponent + 53) := by
    rw [same, zpow_add₀ two_ne_zero, mul_comm]
    gcongr
    exact_mod_cast small
  have atMost := leadingExponent_le numerator nonzero high
  -- A mantissa of 53 digits fixes the exponent; with fewer digits it is the least one.
  have found : ratio.binaryExponent = exponent := by
    rw [binaryExponent_eq]
    rcases normal with rfl | large
    · exact max_eq_left atMost
    · have low : 2 ^ (exponent + 52) ≤ ratio.toRat := by
        rw [same, zpow_add₀ two_ne_zero, mul_comm]
        gcongr
        exact_mod_cast large
      have atLeast := le_leadingExponent numerator nonzero low
      omega
  have units : (ratio.inUnits exponent).numerator =
      mantissa * (ratio.inUnits exponent).denominator := by
    have positive' : (0 : ℚ) < (ratio.inUnits exponent).denominator := by
      exact_mod_cast denominator_inUnits_pos nonzero exponent
    have quotient := toRat_inUnits ratio exponent
    rw [same, mul_div_cancel_right₀ _ unit.ne', toRat, div_eq_iff positive'.ne'] at quotient
    exact_mod_cast quotient
  rw [nearestBits_eq numerator, found, rounded, units,
    roundHalfEven_mul mantissa (denominator_inUnits_pos nonzero exponent)]
  exact min_eq_right finite.le

theorem nearestBits_of_large {ratio : Ratio} (nonzero : 0 < ratio.denominator)
    (large : 2 ^ (1024 : Int) ≤ ratio.toRat) : ratio.nearestBits = infinityBits := by
  have numerator := numerator_pos ((zpow_pos two_pos _).trans_le large)
  have atLeast : 972 ≤ ratio.leadingExponent := le_leadingExponent numerator nonzero large
  have found : ratio.binaryExponent = ratio.leadingExponent := by
    rw [binaryExponent_eq, leastExponent]
    omega
  -- With the exponent this large, the mantissa carries the sum to the bits of infinity.
  have mantissa := le_rounded_leadingExponent numerator nonzero
  rw [nearestBits_eq numerator, found]
  refine min_eq_left ?_
  rw [infinityBits, leastExponent]
  omega

theorem nearestBits_of_small {ratio : Ratio} (nonzero : 0 < ratio.denominator)
    (small : ratio.toRat < 2 ^ (-1075 : Int)) : ratio.nearestBits = 0 := by
  rcases Nat.eq_zero_or_pos ratio.numerator with zero | numerator
  · rw [nearestBits, if_pos zero]
  · have high : ratio.toRat < 2 ^ (leastExponent + 53) :=
      small.trans (zpow_lt_zpow_right₀ one_lt_two (by decide))
    -- So small a number is measured in the smallest unit there is, and is less than half of it.
    have found : ratio.binaryExponent = leastExponent := by
      rw [binaryExponent_eq, max_eq_left (leadingExponent_le numerator nonzero high)]
    have unit : (0 : ℚ) < 2 ^ leastExponent := zpow_pos two_pos _
    have units : (ratio.inUnits leastExponent).toRat < 1 / 2 := by
      rw [toRat_inUnits, div_lt_iff₀ unit]
      refine small.trans_le (le_of_eq ?_)
      rw [leastExponent, show (-1075 : Int) = -1 + -1074 by decide, zpow_add₀ two_ne_zero]
      norm_num
    have positive : (0 : ℚ) < (ratio.inUnits leastExponent).denominator := by
      exact_mod_cast denominator_inUnits_pos nonzero leastExponent
    have half : 2 * (ratio.inUnits leastExponent).numerator <
        (ratio.inUnits leastExponent).denominator := by
      rw [toRat, div_lt_iff₀ positive] at units
      have doubled : (2 : ℚ) * (ratio.inUnits leastExponent).numerator <
          (ratio.inUnits leastExponent).denominator := by linarith only [units]
      exact_mod_cast doubled
    rw [nearestBits_eq numerator, found, rounded, roundHalfEven_eq_zero half, sub_self]
    rfl

end Ratio

theorem two_zpow_three_mul (exponent : Int) : (2 : ℚ) ^ (3 * exponent) = 8 ^ exponent := by
  rw [zpow_mul]
  norm_num

theorem eight_zpow_le {exponent : Int} (large : 0 ≤ exponent) :
    (8 : ℚ) ^ exponent ≤ 10 ^ exponent :=
  zpow_le_zpow_left₀ large (by norm_num) (by norm_num)

theorem ten_zpow_le {exponent : Int} (small : exponent < 0) :
    (10 : ℚ) ^ exponent ≤ 8 ^ exponent := by
  have opposite := eight_zpow_le (Int.neg_nonneg_of_nonpos small.le)
  have positive : (0 : ℚ) < 8 ^ (-exponent) := zpow_pos (by norm_num) _
  rw [← neg_neg exponent, zpow_neg, zpow_neg 8]
  exact inv_anti₀ positive opposite

theorem nearest_eq (negative : Bool) (coefficient : Nat) (exponent : Int) :
    nearest negative coefficient exponent =
      withSign negative (Ratio.scaled coefficient 10 exponent).nearestBits := by
  have denominator := Ratio.denominator_scaled_pos coefficient (by decide : 0 < 10) exponent
  have value := Ratio.toRat_scaled coefficient (by decide : 0 < 10) exponent
  have ten : (0 : ℚ) < 10 ^ exponent := zpow_pos (by norm_num) _
  have eight : (0 : ℚ) < 8 ^ exponent := zpow_pos (by norm_num) _
  unfold nearest
  simp only
  refine congrArg (withSign negative) ?_
  split
  · next zero =>
    rw [Ratio.nearestBits_of_small denominator]
    rw [value, zero, Nat.cast_zero, zero_mul]
    exact zpow_pos two_pos _
  · next nonzero =>
    obtain ⟨low, high⟩ := Ratio.two_zpow_log2_le (Nat.pos_of_ne_zero nonzero)
    -- The bounds are powers of eight, which lie between one and the powers of ten.
    split
    · next size =>
      rw [Ratio.nearestBits_of_large denominator]
      calc (2 : ℚ) ^ (1024 : Int)
        _ ≤ 2 ^ ((coefficient.log2 : Int) + 3 * exponent) :=
          zpow_le_zpow_right₀ one_le_two (by omega)
        _ = 2 ^ (coefficient.log2 : Int) * 8 ^ exponent := by
          rw [zpow_add₀ two_ne_zero, two_zpow_three_mul]
        _ ≤ coefficient * 10 ^ exponent := mul_le_mul low (eight_zpow_le size.1) eight.le
          (Nat.cast_nonneg _)
        _ = _ := value.symm
    · split
      · next size =>
        rw [Ratio.nearestBits_of_small denominator]
        calc (Ratio.scaled coefficient 10 exponent).toRat
          _ = coefficient * 10 ^ exponent := value
          _ ≤ coefficient * 8 ^ exponent := by
            gcongr
            exact ten_zpow_le size.1
          _ < 2 ^ ((coefficient.log2 : Int) + 1) * 8 ^ exponent := by gcongr
          _ = 2 ^ ((coefficient.log2 : Int) + 1 + 3 * exponent) := by
            rw [zpow_add₀ two_ne_zero (_ + 1) (3 * exponent), two_zpow_three_mul]
          _ ≤ 2 ^ (-1075 : Int) := zpow_le_zpow_right₀ one_le_two (by omega)
      · rfl

end SeriesQuery.Decimal
