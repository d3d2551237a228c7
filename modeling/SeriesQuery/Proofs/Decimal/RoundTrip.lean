import Mathlib
import SeriesQuery.Proofs.Decimal.Nearest
import SeriesQuery.Proofs.Decimal.Numerals
import SeriesQuery.Proofs.Language.Trimming

/-!
A finite double is read back from its shortest plain notation.
-/

set_option autoImplicit false

namespace SeriesQuery.Decimal

/-! ## Parts of doubles -/

theorem doubleBits_subnormal (fraction : Nat) : doubleBits fraction leastExponent = fraction := by
  rw [doubleBits, sub_self]
  exact Nat.zero_add fraction

theorem doubleBits_normal {field : Nat} (positive : 0 < field) (fraction : Nat) :
    doubleBits (fraction + 2 ^ 52) (field + leastExponent - 1) = field * 2 ^ 52 + fraction := by
  rw [doubleBits]
  omega

section
variable {value : Float} {negative : Bool} {mantissa : Nat} {exponent : Int}

theorem partsOfBits_finite {bits : Nat} (bound : bits < 2 ^ 64)
    (same : partsOfBits bits = .finite negative mantissa exponent) :
    IsDouble mantissa exponent ∧
      (if negative then signBit + doubleBits mantissa exponent
        else doubleBits mantissa exponent) = bits := by
  -- The highest bit is the sign, and the other ones are two fields.
  have sign : (if decide (signBit ≤ bits) then signBit + bits % signBit
      else bits % signBit) = bits := by
    by_cases large : signBit ≤ bits
    · rw [if_pos (decide_eq_true large)]
      unfold signBit at *
      omega
    · rw [if_neg (mt of_decide_eq_true large)]
      unfold signBit at *
      omega
  have fields := Nat.div_add_mod' (bits % signBit) (2 ^ 52)
  have fraction := Nat.mod_lt (bits % signBit) (by decide : 0 < 2 ^ 52)
  have magnitude : bits % signBit < 2 ^ 63 := Nat.mod_lt bits (by decide)
  have infinite : infinityBits = 2047 * 2 ^ 52 := rfl
  unfold partsOfBits at same
  simp only [Nat.pow_eq] at same
  split at same
  · split at same <;> cases same
  · next finite =>
    -- Only the mantissas of normal doubles have a leading bit that is not written.
    split at same
    · next subnormal =>
      cases same
      have same := doubleBits_subnormal (bits % signBit % 2 ^ 52)
      rw [subnormal, Nat.zero_mul, Nat.zero_add] at fields
      refine ⟨⟨by omega, le_refl _, .inl rfl, by omega⟩, ?_⟩
      rw [same, fields]
      exact sign
    · next normal =>
      cases same
      have same := doubleBits_normal (Nat.pos_of_ne_zero normal) (bits % signBit % 2 ^ 52)
      refine ⟨⟨by omega, by omega, .inr (Nat.le_add_left _ _), by omega⟩, ?_⟩
      rw [same, fields]
      exact sign

theorem isDouble_of_parts (same : parts value = .finite negative mantissa exponent) :
    IsDouble mantissa exponent ∧ withSign negative (doubleBits mantissa exponent) = value := by
  obtain ⟨double, bits⟩ := partsOfBits_finite value.toBits.toNat_lt same
  refine ⟨double, ?_⟩
  rw [withSign, bits, UInt64.ofNat_toNat, Float.ofBits_toBits]

end

theorem isNaN_of_isFinite {value : Float} (finite : isFinite value = true) :
    value.isNaN = false := by
  rw [Float.isNaN_eq_decide_eq_nan, decide_eq_false_iff_not]
  rintro rfl
  exact absurd finite (by decide +kernel)

/-! ## Shortest decimals -/

/-- The decimal is not zero, and the double with these bits is the nearest one. -/
def Scaled.ReadsBack (decimal : Scaled) (bits : Nat) : Prop :=
  decimal.coefficient ≠ 0 ∧ decimal.ratio.nearestBits = bits

section
variable {ratio : Ratio} {bits : Nat} {found : Scaled}

theorem readsBack_of_check
    (check : (found.coefficient != 0 && found.ratio.nearestBits == bits) = true) :
    found.ReadsBack bits := by
  rw [Bool.and_eq_true, bne_iff_ne, beq_iff_eq] at check
  exact check

theorem readsBack_of_neighbour? {exponent : Int}
    (same : neighbour? ratio bits exponent = some found) : found.ReadsBack bits := by
  unfold neighbour? at same
  simp only at same
  generalize (if 0 ≤ exponent then _ else _ : Nat × Nat) = grid at same
  split at same
  · next below above =>
    cases same
    split
    · exact readsBack_of_check below
    · exact readsBack_of_check above
  · next below _ =>
    cases same
    exact readsBack_of_check below
  · next _ above =>
    cases same
    exact readsBack_of_check above
  · cases same

theorem readsBack_of_searchGrids {count : Nat} {exponent : Int}
    (same : searchGrids ratio bits count exponent = some found) : found.ReadsBack bits := by
  induction count generalizing exponent with
  | zero => cases same
  | succ count ih =>
    unfold searchGrids at same
    split at same
    · next near =>
      cases same
      exact readsBack_of_neighbour? near
    · exact ih same

end

theorem toRat_exactDecimal (mantissa : Nat) (exponent : Int) :
    (exactDecimal mantissa exponent).ratio.toRat = mantissa * 2 ^ exponent := by
  rw [Scaled.ratio, Ratio.toRat_scaled _ (by decide)]
  unfold exactDecimal
  split
  · next large =>
    obtain ⟨count, rfl⟩ := Int.eq_ofNat_of_zero_le large
    simp
  · next small =>
    obtain ⟨count, rfl⟩ := Int.exists_eq_neg_ofNat (Int.not_le.1 small).le
    have ten : (10 : ℚ) ^ count = 5 ^ count * 2 ^ count := by
      rw [← mul_pow]
      norm_num
    simp [ten]
    field_simp

theorem coefficient_exactDecimal {mantissa : Nat} (nonzero : mantissa ≠ 0) (exponent : Int) :
    (exactDecimal mantissa exponent).coefficient ≠ 0 := by
  unfold exactDecimal
  split
  · exact Nat.mul_ne_zero nonzero (Nat.pow_pos (by decide)).ne'
  · exact Nat.mul_ne_zero nonzero (Nat.pow_pos (by decide)).ne'

theorem readsBack_shortest {mantissa : Nat} {exponent : Int} (double : IsDouble mantissa exponent)
    (nonzero : mantissa ≠ 0) :
    (shortest mantissa exponent).ReadsBack (doubleBits mantissa exponent) := by
  have positive := Nat.pos_of_ne_zero nonzero
  have bits := Ratio.nearestBits_of_isDouble double positive
    (Ratio.denominator_scaled_pos mantissa (by decide : 0 < 2) exponent)
    (Ratio.toRat_scaled mantissa (by decide : 0 < 2) exponent)
  rw [shortest, if_neg nonzero]
  simp only [bits]
  split
  · next found => exact readsBack_of_searchGrids found
  · exact ⟨coefficient_exactDecimal nonzero exponent,
      Ratio.nearestBits_of_isDouble double positive (Ratio.denominator_scaled_pos _ (by decide) _)
        (toRat_exactDecimal mantissa exponent)⟩

/-! ## Digits -/

theorem digitsValue_zeros_append (count : Nat) (digits : List Char) :
    digitsValue (List.replicate count '0' ++ digits) = digitsValue digits := by
  change Nat.ofDigitChars 10 _ 0 = Nat.ofDigitChars 10 _ 0
  rw [Nat.ofDigitChars_append, Nat.ofDigitChars_replicate_zero, Nat.mul_zero]

theorem digitsValue_append_zeros (digits : List Char) (count : Nat) :
    digitsValue (digits ++ List.replicate count '0') = 10 ^ count * digitsValue digits := by
  change Nat.ofDigitChars 10 _ 0 = 10 ^ count * Nat.ofDigitChars 10 _ 0
  rw [Nat.ofDigitChars_append, Nat.ofDigitChars_replicate_zero]

theorem isDigit_of_mem_replicate {count : Nat} {c : Char} (member : c ∈ List.replicate count '0') :
    c.isDigit = true := by
  rw [(List.mem_replicate.1 member).2]
  decide

theorem scaled_pow_mul (count coefficient : Nat) :
    Ratio.scaled (10 ^ count * coefficient) 10 0 = Ratio.scaled coefficient 10 count := by
  simp [Ratio.scaled, Nat.mul_comm]

section
variable {digits : List Char} (all : ∀ c ∈ digits, c.isDigit = true)
include all

theorem readMagnitude?_zeros_before (negative : Bool) (count : Nat) :
    readMagnitude? negative (['0', '.'] ++ List.replicate count '0' ++ digits) =
      some (nearest negative (digitsValue digits) (-(count + digits.length : Nat))) := by
  have places : ∀ c ∈ List.replicate count '0' ++ digits, c.isDigit = true :=
    fun c member => (List.mem_append.1 member).elim isDigit_of_mem_replicate (all c)
  have value : digitsValue (['0'] ++ (List.replicate count '0' ++ digits)) = digitsValue digits :=
    digitsValue_zeros_append (count + 1) digits
  rw [List.append_assoc]
  refine (readMagnitude?_point (by decide : ['0'] ≠ []) (by decide) places).trans ?_
  rw [value, List.length_append, List.length_replicate]

/-- Zeros follow the digits, and what was an exponent becomes a factor. -/
theorem readMagnitude?_zeros_after (nonempty : digits ≠ []) (negative : Bool) (count : Nat) :
    readMagnitude? negative (digits ++ List.replicate count '0') =
      some (withSign negative (Ratio.scaled (digitsValue digits) 10 count).nearestBits) := by
  have wholes : ∀ c ∈ digits ++ List.replicate count '0', c.isDigit = true :=
    fun c member => (List.mem_append.1 member).elim (all c) isDigit_of_mem_replicate
  rw [readMagnitude?_whole (List.append_ne_nil_of_left_ne_nil nonempty _) wholes,
    digitsValue_append_zeros, nearest_eq, scaled_pow_mul]

theorem readMagnitude?_take_drop (negative : Bool) {count : Nat} (start : digits.take count ≠ []) :
    readMagnitude? negative (digits.take count ++ ['.'] ++ digits.drop count) =
      some (nearest negative (digitsValue digits) (-(digits.length - count : Nat))) := by
  rw [List.append_assoc, List.singleton_append, readMagnitude?_point start
    (fun c member => all c (List.mem_of_mem_take member))
    (fun c member => all c (List.mem_of_mem_drop member)), List.take_append_drop, List.length_drop]

end

/-- Wherever the point stands, the number is read back. -/
theorem readMagnitude?_positional (negative : Bool) (decimal : Scaled) :
    readMagnitude? negative (positional (digitsOf decimal.coefficient)
        (decimal.exponent + (digitsOf decimal.coefficient).length) false) =
      some (withSign negative decimal.ratio.nearestBits) := by
  obtain ⟨coefficient, exponent⟩ := decimal
  have value := digitsValue_digitsOf coefficient
  have all : ∀ c ∈ digitsOf coefficient, c.isDigit = true := fun _ => isDigit_of_mem_toDigits
  have nonempty : digitsOf coefficient ≠ [] := (numeric_digitsOf coefficient).nonempty
  generalize digitsOf coefficient = digits at value all nonempty ⊢
  simp only [positional, Bool.false_eq_true, if_false, List.append_nil]
  split
  · next below =>
    have places : -(((-(exponent + digits.length)).toNat + digits.length : Nat) : Int) =
        exponent := by omega
    rw [readMagnitude?_zeros_before all, value, nearest_eq, places]
    rfl
  · next inside =>
    split
    · next above =>
      have zeros : (((exponent + digits.length).toNat - digits.length : Nat) : Int) = exponent := by
        omega
      rw [readMagnitude?_zeros_after all nonempty, value, zeros]
      rfl
    · next within =>
      have start : digits.take (exponent + digits.length).toNat ≠ [] := by
        rw [Ne, List.take_eq_nil_iff]
        rintro (none | none)
        · omega
        · exact nonempty none
      have places : -((digits.length - (exponent + digits.length).toNat : Nat) : Int) =
          exponent := by omega
      rw [readMagnitude?_take_drop all negative start, value, nearest_eq, places]
      rfl

/-! ## Texts -/

theorem positional_head {digits : List Char} (nonempty : digits ≠ [])
    (all : ∀ c ∈ digits, c.isDigit = true) (whole : Int) :
    ∃ c rest, positional digits whole false = c :: rest ∧ c.isDigit = true := by
  obtain ⟨first, others, rfl⟩ := List.exists_cons_of_ne_nil nonempty
  have digit := all first List.mem_cons_self
  simp only [positional, Bool.false_eq_true, if_false, List.append_nil]
  split
  · exact ⟨'0', _, rfl, by decide⟩
  · next inside =>
    split
    · exact ⟨first, _, rfl, digit⟩
    · obtain ⟨count, same⟩ := Nat.exists_eq_succ_of_ne_zero (by omega : whole.toNat ≠ 0)
      rw [same]
      exact ⟨first, _, rfl, digit⟩

theorem readMagnitude?_shortest {mantissa : Nat} {exponent : Int}
    (double : IsDouble mantissa exponent) (negative : Bool) :
    readMagnitude? negative (plainStyle.magnitude (shortest mantissa exponent)) =
      some (withSign negative (doubleBits mantissa exponent)) := by
  by_cases zero : mantissa = 0
  · subst zero
    obtain rfl := double.normal.resolve_right (by decide)
    exact readMagnitude?_whole (by decide : ['0'] ≠ []) (by decide)
  · obtain ⟨nonzero, bits⟩ := readsBack_shortest double zero
    have positional : plainStyle.isPositional ((shortest mantissa exponent).exponent +
      (digitsOf (shortest mantissa exponent).coefficient).length) = true := rfl
    rw [← bits, FloatStyle.magnitude]
    simp only [nonzero, positional, if_false, if_true]
    exact readMagnitude?_positional negative _

theorem magnitude_head (decimal : Scaled) :
    ∃ c rest, plainStyle.magnitude decimal = c :: rest ∧ c.isDigit = true := by
  unfold FloatStyle.magnitude
  split
  · exact positional_head (by decide) (by decide) 1
  · exact positional_head (numeric_digitsOf _).nonempty (fun _ => isDigit_of_mem_toDigits) _

theorem readFloat?_plain {value : Float} (finite : isFinite value = true) :
    readFloat? (plain value) = some value := by
  unfold isFinite at finite
  unfold plain FloatStyle.write
  split at finite
  · next negative mantissa exponent same =>
    obtain ⟨double, bits⟩ := isDouble_of_parts same
    obtain ⟨c, rest, text, digit⟩ := magnitude_head (shortest mantissa exponent)
    have read := readMagnitude?_shortest double negative
    rw [same]
    simp only
    rw [text] at read ⊢
    rw [readFloat?_of_digit digit, read, bits]
  · cases finite

end SeriesQuery.Decimal
