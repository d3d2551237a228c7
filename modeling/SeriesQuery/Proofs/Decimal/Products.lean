import SeriesQuery.Proofs.Decimal.RoundTrip

/-!
The product of two doubles is finite as long as the exact product stays below the largest double.
-/

set_option autoImplicit false

namespace SeriesQuery.Decimal

open Float.Model

def largest : ℚ := (2 ^ 53 - 1) * 2 ^ (971 : Int)

theorem largest_eq : largest = ((2 ^ 53 - 1) * 2 ^ 971 : Nat) := by
  have factor : ((2 ^ 53 - 1 : Nat) : ℚ) = 2 ^ 53 - 1 := by norm_num
  rw [Nat.cast_mul, Nat.cast_pow, factor]
  rfl

theorem largest_add : largest + 2 ^ (971 : Int) = 2 ^ (1024 : Int) := by
  rw [largest, show (1024 : Int) = (53 : Nat) + 971 by decide, zpow_add₀ two_ne_zero, zpow_natCast]
  ring

theorem largest_lt : largest < 2 ^ (1024 : Int) := by
  rw [← largest_add]
  exact lt_add_of_pos_right _ (zpow_pos two_pos _)

/-! ## Doubles near a number -/

namespace Ratio

theorem toRat_lt_of_nearestBits_lt {ratio : Ratio} (nonzero : 0 < ratio.denominator) {count : Nat}
    (low : 2 ^ 52 ≤ count) (high : count ≤ 2 ^ 53)
    (below : ratio.nearestBits < doubleBits count 971) :
    ratio.toRat < count * 2 ^ (971 : Int) := by
  by_contra large
  have large := not_lt.1 large
  have start : 2 ^ ((971 : Int) + 52) ≤ ratio.toRat := by
    refine le_trans ?_ large
    rw [zpow_add₀ two_ne_zero, mul_comm]
    gcongr
    exact_mod_cast low
  have numerator := numerator_pos ((zpow_pos two_pos _).trans_le start)
  have atLeast := le_leadingExponent numerator nonzero start
  have found : ratio.binaryExponent = ratio.leadingExponent := by
    rw [binaryExponent_eq, leastExponent]
    omega
  have full := le_rounded_leadingExponent numerator nonzero
  rw [nearestBits_eq numerator, found] at below
  unfold doubleBits infinityBits leastExponent at below
  -- At this very exponent the mantissa decides, and above it the exponent does.
  rcases eq_or_lt_of_le atLeast with same | above
  · have mantissa := le_rounded nonzero large
    rw [same] at mantissa
    omega
  · omega

theorem rounded_le {ratio : Ratio} (nonzero : 0 < ratio.denominator) {exponent : Int} {count : Nat}
    (small : ratio.toRat < count * 2 ^ exponent) : ratio.rounded exponent ≤ count := by
  have unit : (0 : ℚ) < 2 ^ exponent := zpow_pos two_pos exponent
  have below := (quotient_lt_iff (denominator_inUnits_pos nonzero exponent) count).2
    (by rw [toRat_inUnits, div_lt_iff₀ unit]; exact small)
  exact (roundHalfEven_le _ _).trans below

theorem rounded_mul_le (ratio : Ratio) (exponent : Int) :
    (ratio.rounded exponent : ℚ) * 2 ^ exponent ≤ ratio.toRat + 2 ^ exponent := by
  have unit : (0 : ℚ) < 2 ^ exponent := zpow_pos two_pos exponent
  have up := roundHalfEven_le (ratio.inUnits exponent).numerator
    (ratio.inUnits exponent).denominator
  rw [← rounded] at up
  have quotient : (((ratio.inUnits exponent).numerator /
      (ratio.inUnits exponent).denominator : Nat) : ℚ) ≤ ratio.toRat / 2 ^ exponent :=
    Nat.cast_div_le.trans_eq (toRat_inUnits ratio exponent)
  generalize (ratio.inUnits exponent).numerator / _ = whole at up quotient
  rw [le_div_iff₀ unit] at quotient
  calc (ratio.rounded exponent : ℚ) * 2 ^ exponent
    _ ≤ (whole + 1) * 2 ^ exponent := by
      gcongr
      exact_mod_cast up
    _ = whole * 2 ^ exponent + 2 ^ exponent := by ring
    _ ≤ ratio.toRat + 2 ^ exponent := by gcongr

/-- A mantissa that was rounded up to its full size starts the next exponent. -/
theorem exists_double_of_mantissa {mantissa : Nat} {exponent : Int} (low : 2 ^ 52 ≤ mantissa)
    (high : mantissa ≤ 2 ^ 53) (least : leastExponent ≤ exponent) (most : exponent ≤ 971)
    (edge : exponent = 971 → mantissa < 2 ^ 53) :
    ∃ found position, IsDouble found position ∧
      doubleBits found position = doubleBits mantissa exponent ∧
      (found : ℚ) * 2 ^ position = mantissa * 2 ^ exponent := by
  rcases high.lt_or_eq with small | rfl
  · refine ⟨mantissa, exponent, ⟨small, least, .inr low, ?_⟩, rfl, rfl⟩
    unfold doubleBits infinityBits leastExponent
    omega
  · have next : doubleBits (2 ^ 52) (exponent + 1) = doubleBits (2 ^ 53) exponent := by
      unfold doubleBits leastExponent at *
      omega
    refine ⟨2 ^ 52, exponent + 1, ⟨by decide, by omega, .inr le_rfl, ?_⟩, next, ?_⟩
    · rw [next]
      unfold doubleBits infinityBits leastExponent
      omega
    · rw [zpow_add₀ two_ne_zero, zpow_one]
      push_cast
      ring

theorem exists_double_near {ratio : Ratio} (nonzero : 0 < ratio.denominator)
    (large : 1 ≤ ratio.toRat) (small : ratio.toRat < largest) :
    ∃ mantissa exponent, IsDouble mantissa exponent ∧
      ratio.nearestBits = doubleBits mantissa exponent ∧
      (mantissa : ℚ) * 2 ^ exponent ≤ ratio.toRat * (1 + 1 / 2 ^ 52) := by
  have numerator := numerator_pos (one_pos.trans_le large)
  obtain ⟨low, high⟩ := toRat_bounds numerator nonzero
  have least := le_rounded_leadingExponent numerator nonzero
  have value := rounded_mul_le ratio ratio.leadingExponent
  -- The number can be rounded up to a power of two, but not past the largest double.
  have most : ratio.rounded ratio.leadingExponent ≤ 2 ^ 53 := by
    refine rounded_le nonzero ?_
    rw [zpow_add₀ two_ne_zero, mul_comm] at high
    exact_mod_cast high
  have edge : ratio.leadingExponent = 971 →
      ratio.rounded ratio.leadingExponent ≤ 2 ^ 53 - 1 := fun same => by
    refine rounded_le nonzero ?_
    have size : ((2 ^ 53 - 1 : Nat) : ℚ) = 2 ^ 53 - 1 := by norm_num
    rw [same, size]
    exact small
  have above : -53 < ratio.leadingExponent := by
    have start : (2 : ℚ) ^ (0 : Int) < 2 ^ (ratio.leadingExponent + 53) := by
      rw [zpow_zero]
      exact large.trans_lt high
    have less := (zpow_lt_zpow_iff_right₀ (one_lt_two : (1 : ℚ) < 2)).1 start
    omega
  have below : ratio.leadingExponent ≤ 971 :=
    leadingExponent_le numerator nonzero (small.trans largest_lt)
  -- A unit in the last place is a small part of the number, since no place is wasted.
  have unit : (2 : ℚ) ^ ratio.leadingExponent ≤ ratio.toRat * (1 / 2 ^ 52) := by
    rw [zpow_add₀ two_ne_zero] at low
    rw [mul_one_div, le_div_iff₀ (by norm_num)]
    exact_mod_cast low
  have bits := nearestBits_eq numerator
  rw [binaryExponent_eq, max_eq_right (by unfold leastExponent; omega)] at bits
  have near : (ratio.rounded ratio.leadingExponent : ℚ) * 2 ^ ratio.leadingExponent ≤
      ratio.toRat * (1 + 1 / 2 ^ 52) := by
    rw [mul_add, mul_one]
    exact value.trans (by gcongr)
  obtain ⟨found, position, double, same, number⟩ := exists_double_of_mantissa least most
    (by unfold leastExponent; omega) below fun same => Nat.lt_of_le_sub_one (by decide) (edge same)
  refine ⟨found, position, double, ?_, number.trans_le near⟩
  have finite := double.finite
  rw [bits, same]
  rw [same] at finite
  exact min_eq_right finite.le

end Ratio

/-! ## Fields of a word -/

theorem toNat_unpackExponent (bits : UInt64) :
    (@UnpackedFloat.unpackExponent Format.binary64 bits.toBitVec).toNat =
      bits.toNat % signBit / 2 ^ 52 := by
  have word := bits.toNat_lt
  unfold UnpackedFloat.unpackExponent signBit
  simp only [BitVec.toNat_cast, BitVec.extractLsb_toNat, UInt64.toNat_toBitVec,
    Nat.shiftRight_eq_div_pow]
  omega

theorem toNat_unpackMantissa (bits : UInt64) :
    (@UnpackedFloat.unpackMantissa Format.binary64 bits.toBitVec).toNat =
      bits.toNat % signBit % 2 ^ 52 := by
  unfold UnpackedFloat.unpackMantissa signBit
  simp only [BitVec.toNat_cast, BitVec.extractLsb_toNat, UInt64.toNat_toBitVec,
    Nat.shiftRight_eq_div_pow]
  omega

theorem ofBitVec_unpackSign {bits : UInt64} (positive : bits.toNat < signBit) :
    UnpackedFloat.Sign.ofBitVec (@UnpackedFloat.unpackSign Format.binary64 bits.toBitVec) =
      .positive := by
  have zero : @UnpackedFloat.unpackSign Format.binary64 bits.toBitVec = 0 := by
    refine BitVec.eq_of_toNat_eq ?_
    unfold UnpackedFloat.unpackSign
    unfold signBit at positive
    simp only [BitVec.toNat_cast, BitVec.extractLsb_toNat, UInt64.toNat_toBitVec,
      Nat.shiftRight_eq_div_pow]
    change bits.toNat / 2 ^ 63 % _ = 0
    rw [Nat.div_eq_of_lt positive]
  rw [zero]
  rfl

theorem isFinite_of_field {value : Float}
    (field : value.toBits.toNat % signBit / 2 ^ 52 ≠ 0x7ff) : isFinite value = true := by
  unfold isFinite parts partsOfBits
  simp only [Nat.pow_eq]
  rw [if_neg field]
  by_cases zero : value.toBits.toNat % signBit / 2 ^ 52 = 0
  · rw [if_pos zero]
  · rw [if_neg zero]

/-- The fields that the bits of a positive double are made of. -/
structure Fields (bits field fraction : Nat) : Prop where
  positive : bits < signBit
  high : bits % signBit / 2 ^ 52 = field
  low : bits % signBit % 2 ^ 52 = fraction
  small : field < 2047

section
variable {mantissa : Nat} {exponent : Int}

theorem fields_doubleBits (double : IsDouble mantissa exponent) :
    (Fields (doubleBits mantissa exponent) 0 mantissa ∧ exponent = leastExponent) ∨
      ∃ field fraction : Nat, Fields (doubleBits mantissa exponent) (field + 1) fraction ∧
        mantissa = 2 ^ 52 + fraction ∧ exponent = field + leastExponent := by
  obtain ⟨small, least, normal, finite⟩ := double
  unfold infinityBits at finite
  by_cases subnormal : mantissa < 2 ^ 52
  · have lowest : exponent = leastExponent := by omega
    rw [lowest, doubleBits_subnormal]
    refine .inl ⟨⟨?_, ?_, ?_, by decide⟩, rfl⟩
    all_goals
      unfold signBit
      omega
  · obtain ⟨fraction, rfl⟩ := Nat.exists_eq_add_of_le (not_lt.1 subnormal)
    obtain ⟨field, same⟩ := Int.eq_ofNat_of_zero_le (Int.sub_nonneg_of_le least)
    have value : exponent = field + leastExponent := by omega
    have bits : doubleBits (2 ^ 52 + fraction) exponent = (field + 1) * 2 ^ 52 + fraction := by
      rw [doubleBits, same, Int.toNat_natCast]
      omega
    rw [bits] at finite ⊢
    refine .inr ⟨field, fraction, ⟨?_, ?_, ?_, ?_⟩, rfl, value⟩
    all_goals
      try unfold signBit
      omega

theorem partsOfBits_doubleBits (double : IsDouble mantissa exponent) :
    partsOfBits (doubleBits mantissa exponent) = .finite false mantissa exponent := by
  rcases fields_doubleBits double with ⟨fields, rfl⟩ | ⟨field, fraction, fields, rfl, rfl⟩
  · simp only [partsOfBits, Nat.pow_eq, fields.high, fields.low,
      decide_eq_false (not_le.2 fields.positive)]
    rfl
  · simp only [partsOfBits, Nat.pow_eq, fields.high, fields.low,
      decide_eq_false (not_le.2 fields.positive), if_neg fields.small.ne,
      if_neg (Nat.succ_ne_zero field)]
    congr 1
    · exact Nat.add_comm _ _
    · omega

end

theorem toBits_ofBits {bits : Nat} (finite : bits < infinityBits) :
    (Float.ofBits (UInt64.ofNat bits)).toBits.toNat = bits := by
  have word : (UInt64.ofNat bits).toNat = bits := by
    rw [UInt64.toNat_ofNat']
    exact Nat.mod_eq_of_lt (finite.trans (by decide))
  have valid : Format.binary64.Valid (UInt64.ofNat bits).toBitVec := by
    refine ⟨fun full _ => ?_⟩
    have field := toNat_unpackExponent (UInt64.ofNat bits)
    rw [full, word] at field
    change 2047 = _ at field
    unfold infinityBits at finite
    unfold signBit at field
    omega
  have same := UnpackedFloat.pack_unpack_of_valid valid
  change (UnpackedFloat.pack Format.binary64 (UnpackedFloat.unpack Format.binary64 _)).toNat = bits
  rw [same]
  exact word

section
variable {mantissa : Nat} {exponent : Int}

theorem parts_doubleBits (double : IsDouble mantissa exponent) :
    parts (withSign false (doubleBits mantissa exponent)) = .finite false mantissa exponent := by
  rw [parts, withSign, if_neg (by simp), toBits_ofBits double.finite,
    partsOfBits_doubleBits double]

theorem unpack_subnormal {value : Float} (fields : Fields value.toBits.toNat 0 mantissa) :
    value.toModel.unpack = if positive : 0 < mantissa then
      .finite .positive mantissa leastExponent positive else .zero .positive := by
  have exponents := toNat_unpackExponent value.toBits
  have mantissas := toNat_unpackMantissa value.toBits
  rw [fields.high] at exponents
  rw [fields.low] at mantissas
  have none : @UnpackedFloat.unpackExponent Format.binary64 value.toBits.toBitVec = 0#11 :=
    BitVec.eq_of_toNat_eq exponents
  change UnpackedFloat.unpack Format.binary64 value.toBits.toBitVec = _
  unfold UnpackedFloat.unpack
  dsimp only
  rw [none, if_neg (by decide), if_pos rfl, ofBitVec_unpackSign fields.positive]
  split
  · next zero =>
    rw [zero] at mantissas
    rw [dif_neg (by rw [← mantissas]; simp)]
  · next nonzero =>
    have positive : 0 < mantissa := by
      rw [← mantissas]
      exact Nat.pos_of_ne_zero fun zero => nonzero (BitVec.eq_of_toNat_eq zero)
    rw [dif_pos positive, UnpackedFloat.finite.injEq]
    exact ⟨rfl, mantissas, rfl⟩

theorem unpack_normal {value : Float} {field fraction : Nat}
    (fields : Fields value.toBits.toNat (field + 1) fraction) (positive : 0 < 2 ^ 52 + fraction) :
    value.toModel.unpack =
      .finite .positive (2 ^ 52 + fraction) (field + leastExponent) positive := by
  have exponents := toNat_unpackExponent value.toBits
  have mantissas := toNat_unpackMantissa value.toBits
  rw [fields.high] at exponents
  rw [fields.low] at mantissas
  have notFull : @UnpackedFloat.unpackExponent Format.binary64 value.toBits.toBitVec ≠ -1#11 := by
    intro full
    rw [full] at exponents
    exact absurd exponents.symm fields.small.ne
  have some : @UnpackedFloat.unpackExponent Format.binary64 value.toBits.toBitVec ≠ 0#11 := by
    intro none
    rw [none] at exponents
    exact absurd exponents.symm (Nat.succ_ne_zero field)
  change UnpackedFloat.unpack Format.binary64 value.toBits.toBitVec = _
  unfold UnpackedFloat.unpack
  dsimp only
  rw [if_neg notFull, if_neg some, ofBitVec_unpackSign fields.positive,
    UnpackedFloat.finite.injEq]
  refine ⟨rfl, ?_, ?_⟩
  · rw [BitVec.toNat_append, mantissas, ← Nat.shiftLeft_add_eq_or_of_lt]
    · rfl
    · rw [← mantissas]
      exact BitVec.isLt _
  · rw [exponents]
    change ((field + 1 : Nat) : Int) - (1023 + 52) = field + leastExponent
    unfold leastExponent
    omega

theorem unpack_of_parts {value : Float} (same : parts value = .finite false mantissa exponent) :
    value.toModel.unpack = if positive : 0 < mantissa then
      .finite .positive mantissa exponent positive else .zero .positive := by
  have ⟨double, bits⟩ := partsOfBits_finite value.toBits.toNat_lt same
  rw [if_neg (by simp)] at bits
  rcases fields_doubleBits double with ⟨fields, rfl⟩ | ⟨field, fraction, fields, rfl, rfl⟩
  · exact unpack_subnormal (bits ▸ fields)
  · rw [dif_pos (by omega)]
    exact unpack_normal (bits ▸ fields) _

end

theorem parts_nearest {coefficient : Nat} {exponent : Int}
    (large : 1 ≤ (coefficient : ℚ) * 10 ^ exponent)
    (small : (coefficient : ℚ) * 10 ^ exponent < largest) :
    ∃ mantissa position, parts (nearest false coefficient exponent) =
        .finite false mantissa position ∧
      (mantissa : ℚ) * 2 ^ position ≤ coefficient * 10 ^ exponent * (1 + 1 / 2 ^ 52) := by
  have value : (Ratio.scaled coefficient 10 exponent).toRat = coefficient * 10 ^ exponent := by
    exact_mod_cast Ratio.toRat_scaled coefficient (by decide : 0 < 10) exponent
  rw [← value] at large small ⊢
  obtain ⟨mantissa, position, double, bits, near⟩ := Ratio.exists_double_near
    (Ratio.denominator_scaled_pos coefficient (by decide) exponent) large small
  refine ⟨mantissa, position, ?_, near⟩
  rw [nearest_eq, bits, parts_doubleBits double]

/-! ## Rounding of products -/

theorem mantissa_shiftRight (mantissa : UnpackedFloat.ExtendedMantissa) (count : Nat) :
    (mantissa >>> count).mantissa = mantissa.mantissa / 2 ^ count := by
  induction count with
  | zero => exact (Nat.div_one _).symm
  | succ count ih =>
    change (mantissa >>> count).mantissa / 2 = _
    rw [ih, Nat.div_div_eq_div_mul, Nat.pow_succ]

theorem roundedMantissa_le (mantissa : UnpackedFloat.ExtendedMantissa) :
    mantissa.roundedMantissa ≤ mantissa.mantissa + 1 := by
  unfold UnpackedFloat.ExtendedMantissa.roundedMantissa
  cases mantissa.accuracy with
  | exact => exact Nat.le_succ _
  | inexact order =>
    cases order with
    | lt => exact Nat.le_succ _
    | eq =>
      change mantissa.mantissa + mantissa.mantissa % 2 ≤ _
      omega
    | gt => exact Nat.le_refl _

section
variable {mantissa : Nat} {exponent : Int}

theorem shifted_exponent (mantissa : Nat) (exponent : Int) :
    (UnpackedFloat.shiftToTargetExponent Format.binary64 mantissa exponent .exact).2 =
      max exponent (max (mantissa.log2 + exponent - 52) leastExponent) := by
  change exponent + ((max ((mantissa.log2 : Int) + 1 + exponent - 53) (-1074) - exponent).toNat :
    Int) = _
  unfold leastExponent
  omega

theorem shifted_mantissa_le (mantissa : Nat) (exponent : Int) :
    let shifted := UnpackedFloat.shiftToTargetExponent Format.binary64 mantissa exponent .exact
    (shifted.1.mantissa : ℚ) * 2 ^ shifted.2 ≤ mantissa * 2 ^ exponent := by
  unfold UnpackedFloat.shiftToTargetExponent UnpackedFloat.shiftToExponent
  dsimp only
  generalize (Format.binary64.targetExponent (totalExponent mantissa exponent) -
    exponent).toNat = count
  rw [mantissa_shiftRight, zpow_add₀ two_ne_zero, zpow_natCast]
  have whole : ((mantissa / 2 ^ count : Nat) : ℚ) * 2 ^ count ≤ mantissa := by
    exact_mod_cast Nat.div_mul_le_self mantissa (2 ^ count)
  calc ((mantissa / 2 ^ count : Nat) : ℚ) * (2 ^ exponent * 2 ^ count)
    _ = ((mantissa / 2 ^ count : Nat) : ℚ) * 2 ^ count * 2 ^ exponent := by ring
    _ ≤ mantissa * 2 ^ exponent := by gcongr

theorem shifted_exponent_le (low : exponent ≤ 971)
    (small : (mantissa : ℚ) * 2 ^ exponent < 2 ^ (1024 : Int)) :
    (UnpackedFloat.shiftToTargetExponent Format.binary64 mantissa exponent .exact).2 ≤ 971 := by
  have digits : (mantissa.log2 : Int) + exponent ≤ 1023 := by
    rcases Nat.eq_zero_or_pos mantissa with rfl | positive
    · rw [Nat.log2_zero]
      omega
    · have start := (Ratio.two_zpow_log2_le positive).1
      have unit : (0 : ℚ) < 2 ^ exponent := zpow_pos two_pos exponent
      have size : (2 : ℚ) ^ ((mantissa.log2 : Int) + exponent) < 2 ^ (1024 : Int) := by
        rw [zpow_add₀ two_ne_zero]
        exact (mul_le_mul_of_nonneg_right start unit.le).trans_lt small
      have less := (zpow_lt_zpow_iff_right₀ (one_lt_two : (1 : ℚ) < 2)).1 size
      omega
  rw [shifted_exponent, leastExponent]
  omega

theorem round_exponent_le (sign : UnpackedFloat.Sign) (low : exponent ≤ 971)
    (small : (mantissa : ℚ) * 2 ^ exponent < largest) :
    UnpackedFloat.roundWithAccuracy Format.binary64 sign mantissa exponent .exact = .zero sign ∨
      ∃ (rounded : Nat) (position : Int) (positive : 0 < rounded),
        UnpackedFloat.roundWithAccuracy Format.binary64 sign mantissa exponent .exact =
          .finite sign rounded position positive ∧ position ≤ 971 := by
  have value := shifted_mantissa_le mantissa exponent
  have first : (UnpackedFloat.shiftToTargetExponent Format.binary64 mantissa exponent .exact).2 ≤
      971 := shifted_exponent_le low (small.trans largest_lt)
  unfold UnpackedFloat.roundWithAccuracy
  revert value first
  generalize UnpackedFloat.shiftToTargetExponent Format.binary64 mantissa exponent .exact = shifted
  intro value first
  have unit : (2 : ℚ) ^ shifted.2 ≤ 2 ^ (971 : Int) := zpow_le_zpow_right₀ one_le_two first
  have rounded : (shifted.1.roundedMantissa : ℚ) ≤ shifted.1.mantissa + 1 := by
    exact_mod_cast roundedMantissa_le shifted.1
  -- Rounding adds at most a unit, which does not lead past the next power of two.
  have bound : (shifted.1.roundedMantissa : ℚ) * 2 ^ shifted.2 < 2 ^ (1024 : Int) :=
    calc (shifted.1.roundedMantissa : ℚ) * 2 ^ shifted.2
      _ ≤ (shifted.1.mantissa + 1) * 2 ^ shifted.2 := by gcongr
      _ = shifted.1.mantissa * 2 ^ shifted.2 + 2 ^ shifted.2 := by ring
      _ < largest + 2 ^ (971 : Int) := add_lt_add_of_lt_of_le (value.trans_lt small) unit
      _ = 2 ^ (1024 : Int) := largest_add
  have second := shifted_exponent_le first bound
  dsimp only
  split
  · exact .inl rfl
  · next nonzero => exact .inr ⟨_, _, Nat.pos_of_ne_zero nonzero, rfl, second⟩

end

theorem unpackExponent_pack (sign : UnpackedFloat.Sign) {mantissa : Nat} {exponent : Int}
    (positive : 0 < mantissa) (low : exponent ≤ 971) :
    @UnpackedFloat.unpackExponent Format.binary64 (UnpackedFloat.pack Format.binary64
      (.finite sign mantissa exponent positive)) ≠ -1#11 := by
  have field : ¬2 ^ Format.binary64.exponentBits ≤
      (exponent + Format.binary64.exponentBias +
        Format.binary64.mantissaBitsWithoutImplicit).toNat + 1 := by
    change ¬2048 ≤ (exponent + 1023 + 52).toNat + 1
    omega
  unfold UnpackedFloat.pack
  dsimp only
  rw [if_neg field]
  split
  · rw [UnpackedFloat.unpackExponent_packComponents]
    intro full
    have same := congrArg BitVec.toNat full
    change (exponent + 1023 + 52).toNat % 2048 = 2047 at same
    omega
  · rw [UnpackedFloat.unpackExponent_packComponents]
    decide

theorem unpackExponent_pack_zero (sign : UnpackedFloat.Sign) :
    @UnpackedFloat.unpackExponent Format.binary64 (UnpackedFloat.pack Format.binary64
      (.zero sign)) ≠ -1#11 := by
  cases sign <;> decide

section
variable {leftMantissa rightMantissa : Nat} {leftExponent rightExponent : Int}

theorem add_exponents_le (left : IsDouble leftMantissa leftExponent)
    (right : IsDouble rightMantissa rightExponent) (positive : 0 < rightMantissa)
    (small : ((leftMantissa * rightMantissa : Nat) : ℚ) * 2 ^ (leftExponent + rightExponent) <
      largest) : leftExponent + rightExponent ≤ 971 := by
  have high := right.finite
  unfold doubleBits infinityBits leastExponent at high
  rcases left.normal with lowest | large
  · rw [lowest, leastExponent]
    omega
  · by_contra far
    -- Otherwise the product of a normal mantissa would reach the largest double.
    have size : 2 ^ 52 ≤ leftMantissa * rightMantissa :=
      large.trans (Nat.le_mul_of_pos_right _ positive)
    have unit : (2 : ℚ) ^ (972 : Int) ≤ 2 ^ (leftExponent + rightExponent) :=
      zpow_le_zpow_right₀ one_le_two (by omega)
    refine absurd small (not_lt.2 ?_)
    calc largest
      _ ≤ 2 ^ 53 * 2 ^ (971 : Int) := by
        unfold largest
        gcongr
        norm_num
      _ = 2 ^ 52 * 2 ^ (972 : Int) := by
        rw [show (972 : Int) = 1 + 971 by decide, zpow_add₀ two_ne_zero 1]
        ring
      _ ≤ ((leftMantissa * rightMantissa : Nat) : ℚ) * 2 ^ (leftExponent + rightExponent) := by
        gcongr
        exact_mod_cast size

theorem isFinite_mul {left right : Float} (leftParts : parts left = .finite false leftMantissa
      leftExponent) (rightParts : parts right = .finite false rightMantissa rightExponent)
    (small : ((leftMantissa * rightMantissa : Nat) : ℚ) * 2 ^ (leftExponent + rightExponent) <
      largest) : isFinite (left * right) = true := by
  have packed : (left * right).toBits.toBitVec = UnpackedFloat.pack Format.binary64
      (UnpackedFloat.mul Format.binary64 left.toModel.unpack right.toModel.unpack) := rfl
  -- The exponent field is that of zero, or one that the bound keeps below that of infinity.
  have full : @UnpackedFloat.unpackExponent Format.binary64 (left * right).toBits.toBitVec ≠
      -1#11 := by
    rw [packed, unpack_of_parts leftParts, unpack_of_parts rightParts]
    split
    · split
      · next positive =>
        have low := add_exponents_le (isDouble_of_parts leftParts).1
          (isDouble_of_parts rightParts).1 positive small
        change @UnpackedFloat.unpackExponent Format.binary64 (UnpackedFloat.pack _
          (UnpackedFloat.roundWithAccuracy Format.binary64 .positive
            (leftMantissa * rightMantissa) (leftExponent + rightExponent) .exact)) ≠ _
        rcases round_exponent_le .positive low small with zero | ⟨_, _, above, rounded, bound⟩
        · rw [zero]
          exact unpackExponent_pack_zero _
        · rw [rounded]
          exact unpackExponent_pack _ above bound
      · exact unpackExponent_pack_zero _
    · split
      · exact unpackExponent_pack_zero _
      · exact unpackExponent_pack_zero _
  refine isFinite_of_field fun same => full (BitVec.eq_of_toNat_eq ?_)
  rw [toNat_unpackExponent, same]
  rfl

end

end SeriesQuery.Decimal
