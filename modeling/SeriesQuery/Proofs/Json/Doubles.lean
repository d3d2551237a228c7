import SeriesQuery.Proofs.Decimal.Products
import SeriesQuery.Proofs.Json.Leaves

/-!
The text of a finite double is read as a finite double, though the two roundings of the reader can
lead to another one. They enlarge a number by so little that only the largest doubles could be lost,
and these are read back.
-/

set_option autoImplicit false

namespace SeriesQuery.Json

open Decimal (digitsValue)

/-! ## Literals of doubles -/

/-- A literal for a double of this value: with a fraction or an exponent, and few digits before the
point. -/
structure Literal.Writes (literal : Literal) (value : ℚ) : Prop where
  formed : literal.WellFormed
  broken : literal.isWhole = false
  short : literal.whole.length ≤ 16
  value : (digitsValue (literal.whole ++ literal.fraction) : ℚ) *
    10 ^ (literal.exponent?.getD 0 - literal.fraction.length) = value

def Parted (text : List Char) (value : ℚ) : Prop :=
  ∃ literal : Literal, literal.negative = false ∧ literal.Writes value ∧ literal.text = text

section
variable {whole fraction digits : List Char} {value : ℚ}

theorem parted_pointed (formed : WholePart whole) (all : ∀ c ∈ fraction, c.isDigit = true)
    (some : fraction ≠ []) (short : whole.length ≤ 16)
    (same : (digitsValue (whole ++ fraction) : ℚ) * 10 ^ (-fraction.length : Int) = value) :
    Parted (whole ++ '.' :: fraction) value := by
  refine ⟨⟨false, whole, fraction, none⟩, rfl, ⟨⟨formed, all⟩, ?_, short, ?_⟩, ?_⟩
  · simp [Literal.isWhole, some]
  · simpa using same
  · simp [Literal.text, pointText, exponentText, some]

theorem WholePart.take (formed : WholePart digits) (other : digits.head? ≠ some '0') {count : Nat}
    (positive : count ≠ 0) : WholePart (digits.take count) := by
  refine ⟨fun none => ?_, fun c member => formed.all c (List.mem_of_mem_take member),
    fun zero => ?_⟩
  · rcases List.take_eq_nil_iff.1 none with none | none
    · exact positive none
    · exact formed.nonempty none
  · rw [List.head?_take, if_neg positive] at zero
    exact absurd zero other

theorem parted_positional (formed : WholePart digits) (other : digits.head? ≠ some '0') {point : Int}
    (low : point ≤ 16) : Parted (Decimal.positional digits point true)
      (digitsValue digits * 10 ^ (point - digits.length)) := by
  have zeros (count : Nat) : ∀ c ∈ List.replicate count '0', c.isDigit = true :=
    fun _ => Decimal.isDigit_of_mem_replicate
  unfold Decimal.positional
  split
  -- The point stands before every digit: one zero is the whole part, and the zeros behind the point
  -- count among the places.
  · have fraction := List.forall_mem_append.2 ⟨zeros (-point).toNat, formed.all⟩
    have value : digitsValue (['0'] ++ (List.replicate (-point).toNat '0' ++ digits)) =
        digitsValue digits := Decimal.digitsValue_zeros_append ((-point).toNat + 1) digits
    have parted := parted_pointed (.of_digit (by decide : '0'.isDigit = true)) fraction
      (List.append_ne_nil_of_right_ne_nil _ formed.nonempty) (by decide) rfl
    have places : -(((-point).toNat + digits.length : Nat) : Int) = point - digits.length := by
      omega
    rw [value, List.length_append, List.length_replicate, places] at parted
    simpa using parted
  · next inside =>
    split
    · next short =>
      -- The point stands behind the digits: zeros reach up to it, and one more is the fraction.
      have value := Decimal.digitsValue_append_zeros digits (point.toNat - digits.length + 1)
      rw [List.replicate_succ', ← List.append_assoc] at value
      refine parted_pointed (formed.append other (zeros _)) (by decide) (by decide) ?_ ?_
      · rw [List.length_append, List.length_replicate]
        omega
      · have places : point - digits.length = (point.toNat - digits.length : Nat) := by omega
        rw [value, places, zpow_natCast]
        push_cast
        rw [pow_succ]
        simp
        ring
    · next within =>
      -- The point stands among the digits, which are cut there.
      have rest : digits.drop point.toNat ≠ [] := by
        rw [Ne, List.drop_eq_nil_iff]
        exact within
      have parted := parted_pointed (formed.take other (by omega : point.toNat ≠ 0))
        (fun c member => formed.all c (List.mem_of_mem_drop member)) rest
        (List.length_take_le _ _ |>.trans (by omega)) rfl
      have places : -((digits.length - point.toNat : Nat) : Int) = point - digits.length := by
        omega
      rw [List.take_append_drop, List.length_drop, places] at parted
      simpa using parted

theorem parted_scientific (formed : WholePart digits) (exponent : Int) :
    Parted (Decimal.scientific digits exponent)
      (digitsValue digits * 10 ^ (exponent + 1 - digits.length)) := by
  unfold Decimal.scientific
  cases digits with
  | nil => exact absurd rfl formed.nonempty
  | cons digit others =>
    have ⟨first, all⟩ := List.forall_mem_cons.1 formed.all
    have places : exponent + 1 - (others.length + 1 : Nat) = exponent - others.length := by omega
    refine ⟨⟨false, [digit], others, some exponent⟩, rfl, ⟨⟨.of_digit first, all⟩, ?_, ?_, ?_⟩, ?_⟩
    · simp [Literal.isWhole]
    · exact (by decide : 1 ≤ 16)
    · rw [List.length_cons, places]
      rfl
    · cases others <;> simp [Literal.text, pointText, exponentText]

end

theorem parted_magnitude (decimal : Decimal.Scaled) :
    Parted (Decimal.jsonStyle.magnitude decimal) decimal.ratio.toRat := by
  have digits := wholePart_digitsOf decimal.coefficient
  have value := Decimal.digitsValue_digitsOf decimal.coefficient
  rw [Decimal.Scaled.ratio, Decimal.Ratio.toRat_scaled _ (by decide : 0 < 10)]
  unfold Decimal.FloatStyle.magnitude
  dsimp only
  split
  · next zero =>
    refine parted_pointed (.of_digit (by decide : '0'.isDigit = true)) (by decide : ∀ c ∈ ['0'],
      c.isDigit = true) (by decide) (by decide) ?_
    change ((0 : Nat) : ℚ) * _ = _
    rw [zero, Nat.cast_zero, zero_mul, zero_mul]
  · next nonzero =>
    have other := head?_toDigits (Nat.pos_of_ne_zero nonzero)
    split
    · next inside =>
      have low : decimal.exponent + (Decimal.digitsOf decimal.coefficient).length ≤ 16 := by
        unfold Decimal.FloatStyle.isPositional Decimal.jsonStyle at inside
        simp only [Option.all_some, Bool.and_eq_true, decide_eq_true_eq] at inside
        exact inside.2
      have parted := parted_positional digits other low
      rw [value, add_sub_cancel_right] at parted
      exact_mod_cast parted
    · have parted := parted_scientific digits
        (decimal.exponent + (Decimal.digitsOf decimal.coefficient).length - 1)
      rw [value, sub_add_cancel, add_sub_cancel_right] at parted
      exact_mod_cast parted

theorem exists_literal {value : Float} {negative : Bool} {mantissa : Nat} {exponent : Int}
    (same : Decimal.parts value = .finite negative mantissa exponent) :
    ∃ literal : Literal, literal.Writes (Decimal.shortest mantissa exponent).ratio.toRat ∧
      literal.text = Decimal.jsonStyle.magnitude (Decimal.shortest mantissa exponent) ∧
        Literal.text { literal with negative } = (floatText value).toList := by
  obtain ⟨literal, positive, writes, text⟩ :=
    parted_magnitude (Decimal.shortest mantissa exponent)
  refine ⟨literal, writes, text, ?_⟩
  have finite : Decimal.isFinite value = true := by rw [Decimal.isFinite, same]
  rw [floatText, if_pos finite, Decimal.FloatStyle.write, same]
  dsimp only
  rw [String.toList_ofList, ← text]
  unfold Literal.text
  rw [positive]
  rfl

/-! ## Significands -/

theorem absorb_all {digits : List Char} {significand : Nat}
    (small : Nat.ofDigitChars 10 digits significand < wordBound) :
    absorb significand digits = (Nat.ofDigitChars 10 digits significand, []) := by
  induction digits generalizing significand with
  | nil => rfl
  | cons digit rest ih =>
    rw [Nat.ofDigitChars_cons] at small ⊢
    have next : 10 * significand + (digit.toNat - '0'.toNat) ≤ Nat.ofDigitChars 10 rest
        (10 * significand + (digit.toNat - '0'.toNat)) := by
      rw [Nat.ofDigitChars_eq_ofDigitChars_zero]
      exact (Nat.le_mul_of_pos_left _ (Nat.pow_pos (by decide))).trans (Nat.le_add_right _ _)
    rw [absorb, if_pos (next.trans_lt small), ih small]

theorem absorb_le (digits : List Char) {significand : Nat} (small : significand < wordBound) :
    (absorb significand digits).1 < wordBound ∧
      (absorb significand digits).1 * 10 ^ (absorb significand digits).2.length ≤
        Nat.ofDigitChars 10 digits significand := by
  induction digits generalizing significand with
  | nil => exact ⟨small, by simp [absorb]⟩
  | cons digit rest ih =>
    rw [absorb]
    split
    · next next =>
      rw [Nat.ofDigitChars_cons]
      exact ih next
    · refine ⟨small, ?_⟩
      rw [Nat.ofDigitChars_eq_ofDigitChars_zero, Nat.mul_comm]
      exact Nat.le_add_right _ _

theorem digitsValue_lt {digits : List Char} (all : ∀ c ∈ digits, c.isDigit = true) :
    digitsValue digits < 10 ^ digits.length := by
  induction digits with
  | nil => exact Nat.one_pos
  | cons digit rest ih =>
    have ⟨first, others⟩ := List.forall_mem_cons.1 all
    have small : digit.toNat - '0'.toNat ≤ 9 :=
      Nat.sub_le_sub_right (Char.isDigit_iff_toNat.1 first).2 _
    change Nat.ofDigitChars 10 (digit :: rest) 0 < _
    rw [Nat.ofDigitChars_cons, Nat.ofDigitChars_eq_ofDigitChars_zero, List.length_cons, pow_succ]
    have tail : Nat.ofDigitChars 10 rest 0 < 10 ^ rest.length := ih others
    have head := Nat.mul_le_mul_left (10 ^ rest.length) small
    rw [Nat.mul_zero, Nat.zero_add]
    omega

/-! ## Scaling -/

open Decimal (nearest parts largest isFinite)

/-- Two roundings do not enlarge a number below this one beyond the largest double. -/
def safe : ℚ := (2 ^ 53 - 8) * 2 ^ (971 : Int)

theorem safe_mul_le : safe * (1 + 1 / 2 ^ 52) ^ 2 ≤ largest := by
  have factor : ((2 : ℚ) ^ 53 - 8) * (1 + 1 / 2 ^ 52) ^ 2 ≤ 2 ^ 53 - 1 := by norm_num
  calc safe * (1 + 1 / 2 ^ 52) ^ 2
    _ = (2 ^ 53 - 8) * (1 + 1 / 2 ^ 52) ^ 2 * 2 ^ (971 : Int) := by
      unfold safe
      ring
    _ ≤ largest := mul_le_mul_of_nonneg_right factor (zpow_nonneg two_pos.le _)

theorem safe_eq : safe = ((2 ^ 53 - 8 : Nat) : ℚ) * 2 ^ (971 : Int) := by
  have factor : ((2 ^ 53 - 8 : Nat) : ℚ) = 2 ^ 53 - 8 := by norm_num
  rw [factor, safe]

theorem safe_pos : 0 < safe :=
  mul_pos (by norm_num) (zpow_pos two_pos _)

theorem safe_lt : safe < 10 ^ 309 := by
  have bound : 2 ^ 53 * 2 ^ 971 < 10 ^ 309 := by decide +kernel
  have cast : ((2 ^ 53 * 2 ^ 971 : Nat) : ℚ) < (10 ^ 309 : Nat) := Nat.cast_lt.2 bound
  rw [Nat.cast_mul, Nat.cast_pow, Nat.cast_pow, Nat.cast_pow] at cast
  exact (mul_le_mul_of_nonneg_right (by norm_num) (zpow_nonneg two_pos.le _)).trans_lt cast

theorem ten_pow_lt_largest {exponent : Nat} (low : exponent ≤ highestPower) :
    (10 : ℚ) ^ exponent < largest := by
  have bound : 10 ^ highestPower < (2 ^ 53 - 1) * 2 ^ 971 := by decide +kernel
  have cast : ((10 ^ highestPower : Nat) : ℚ) < ((2 ^ 53 - 1) * 2 ^ 971 : Nat) :=
    Nat.cast_lt.2 bound
  rw [← Decimal.largest_eq, Nat.cast_pow] at cast
  exact (pow_le_pow_right₀ (by norm_num) low).trans_lt cast

theorem word_lt_largest {significand : Nat} (word : significand < wordBound) :
    (significand : ℚ) < largest := by
  have bound : wordBound < (2 ^ 53 - 1) * 2 ^ 971 := by decide +kernel
  rw [Decimal.largest_eq]
  exact Nat.cast_lt.2 (word.trans bound)

theorem parts_powerOfTen {exponent : Nat} (low : exponent ≤ highestPower) :
    ∃ mantissa position, parts (powerOfTen exponent) = .finite false mantissa position ∧
      (mantissa : ℚ) * 2 ^ position ≤ 10 ^ exponent * (1 + 1 / 2 ^ 52) := by
  have value : ((1 : Nat) : ℚ) * 10 ^ (exponent : Int) = 10 ^ exponent := by
    rw [Nat.cast_one, one_mul, zpow_natCast]
  have found := Decimal.parts_nearest (by rw [value]; exact one_le_pow₀ (by norm_num))
    (by rw [value]; exact ten_pow_lt_largest low)
  rw [value] at found
  exact found

theorem parts_nearest_zero : parts (nearest false 0 0) = .finite false 0 Decimal.leastExponent := by
  decide +kernel

theorem isFinite_scaled {significand exponent : Nat} (word : significand < wordBound)
    (low : exponent ≤ highestPower) (small : (significand : ℚ) * 10 ^ exponent < safe) :
    isFinite (nearest false significand 0 * powerOfTen exponent) = true := by
  obtain ⟨powerMantissa, powerExponent, power, powerNear⟩ := parts_powerOfTen low
  rcases Nat.eq_zero_or_pos significand with rfl | positive
  · refine Decimal.isFinite_mul parts_nearest_zero power ?_
    rw [Nat.zero_mul, Nat.cast_zero, zero_mul]
    exact (pow_pos (by norm_num) 0).trans (ten_pow_lt_largest (Nat.zero_le _))
  · have value : (significand : ℚ) * 10 ^ (0 : Int) = significand := by rw [zpow_zero, mul_one]
    have one : (1 : ℚ) ≤ significand := by exact_mod_cast positive
    have found : ∃ mantissa position, parts (nearest false significand 0) =
        .finite false mantissa position ∧ (mantissa : ℚ) * 2 ^ position ≤ _ :=
      Decimal.parts_nearest (by rw [value]; exact one) (by rw [value]; exact word_lt_largest word)
    rw [value] at found
    obtain ⟨mantissa, position, same, near⟩ := found
    refine Decimal.isFinite_mul same power ?_
    calc ((mantissa * powerMantissa : Nat) : ℚ) * 2 ^ (position + powerExponent)
      -- Either factor is off by one part in 2 ^ 52 at most, and the safe numbers leave room for
      -- both.
      _ = (mantissa * 2 ^ position) * (powerMantissa * 2 ^ powerExponent) := by
        rw [zpow_add₀ two_ne_zero]
        push_cast
        ring
      _ ≤ (significand * (1 + 1 / 2 ^ 52)) * (10 ^ exponent * (1 + 1 / 2 ^ 52)) := by gcongr
      _ = significand * 10 ^ exponent * (1 + 1 / 2 ^ 52) ^ 2 := by ring
      _ < safe * (1 + 1 / 2 ^ 52) ^ 2 := mul_lt_mul_of_pos_right small (by norm_num)
      _ ≤ largest := safe_mul_le

theorem isSome_scaled? {significand : Nat} {exponent : Int} (word : significand < wordBound)
    (small : (significand : ℚ) * 10 ^ exponent < safe) :
    (scaled? (nearest false significand 0) exponent).isSome = true := by
  unfold scaled?
  dsimp only
  split
  · next large =>
    obtain ⟨power, rfl⟩ := Int.eq_ofNat_of_zero_le large
    rw [zpow_natCast] at small
    rw [Int.natAbs_natCast]
    split
    · next low => rw [if_pos (isFinite_scaled word low small), Option.isSome_some]
    · next high =>
      -- So large a power leaves room for zero alone.
      have zero : significand = 0 := by
        by_contra nonzero
        have one : (1 : ℚ) ≤ significand := by exact_mod_cast Nat.pos_of_ne_zero nonzero
        have size : (10 : ℚ) ^ 309 ≤ significand * 10 ^ power :=
          calc (10 : ℚ) ^ 309
            _ ≤ 10 ^ power := pow_le_pow_right₀ (by norm_num) (Nat.lt_of_not_le high)
            _ ≤ significand * 10 ^ power := le_mul_of_one_le_left (by positivity) one
        exact absurd (size.trans_lt (small.trans safe_lt)) (lt_irrefl _)
      have same : (nearest false 0 0 == 0) = true := by decide +kernel
      rw [zero, if_pos same, Option.isSome_some]
  · split
    · rw [Option.isSome_some]
    · split
      · rw [Option.isSome_some]
      · rw [Option.isSome_some]

/-! ## Reading -/

theorem isSome_float? {literal : Literal} {value : ℚ} (writes : literal.Writes value)
    (small : value < safe) : literal.float?.isSome = true := by
  have size : digitsValue literal.whole < wordBound :=
    calc digitsValue literal.whole
      _ < 10 ^ literal.whole.length := digitsValue_lt writes.formed.whole.all
      _ ≤ 10 ^ 16 := Nat.pow_le_pow_right (by decide) writes.short
      _ ≤ wordBound := by decide
  -- The digits of the whole part fit a word and are all taken. Digits of the fraction may be
  -- dropped, which only makes the number smaller.
  have whole : absorb 0 literal.whole = (digitsValue literal.whole, []) := absorb_all size
  have ⟨word, low⟩ := absorb_le literal.fraction size
  have digits : Nat.ofDigitChars 10 literal.fraction (digitsValue literal.whole) =
      digitsValue (literal.whole ++ literal.fraction) := (Nat.ofDigitChars_append 0).symm
  unfold Literal.float?
  rw [whole]
  dsimp only
  rw [digits] at low
  generalize absorb (digitsValue literal.whole) literal.fraction = absorbed at word low
  obtain ⟨significand, dropped⟩ := absorbed
  dsimp only at word low ⊢
  rw [Option.isSome_map]
  refine isSome_scaled? word (lt_of_le_of_lt ?_ small)
  rw [← writes.value]
  calc (significand : ℚ) * 10 ^ ((([] : List Char).length : Int) -
        ((literal.fraction.length : Int) - dropped.length) + literal.exponent?.getD 0)
    _ = (significand * 10 ^ dropped.length : Nat) *
        10 ^ (literal.exponent?.getD 0 - literal.fraction.length) := by
      rw [Nat.cast_mul, Nat.cast_pow, Nat.cast_ofNat, mul_assoc, ← zpow_natCast,
        ← zpow_add₀ (by norm_num), List.length_nil]
      congr 2
      omega
    _ ≤ _ := by
      gcongr

/-- The largest doubles are read back although their texts are not below the bound. -/
theorem isSome_float?_largest : ∀ count < 8,
    ((readLiteral (Decimal.jsonStyle.magnitude (Decimal.shortest (2 ^ 53 - 1 - count) 971))).bind
      fun found => found.1.float?).isSome = true := by
  intro count bound
  interval_cases count <;> decide +kernel

theorem isSome_float?_of_finite {mantissa : Nat} {exponent : Int}
    (double : Decimal.IsDouble mantissa exponent) {literal : Literal}
    (writes : literal.Writes (Decimal.shortest mantissa exponent).ratio.toRat)
    (text : literal.text = Decimal.jsonStyle.magnitude (Decimal.shortest mantissa exponent)) :
    literal.float?.isSome = true := by
  rcases Nat.eq_zero_or_pos mantissa with rfl | nonzero
  · refine isSome_float? writes ?_
    rw [Decimal.shortest, if_pos rfl, Decimal.Scaled.ratio,
      Decimal.Ratio.toRat_scaled _ (by decide : 0 < 10), Nat.cast_zero, zero_mul]
    exact safe_pos
  · have bits := (Decimal.readsBack_shortest double nonzero.ne').2
    by_cases below : Decimal.doubleBits mantissa exponent < Decimal.doubleBits (2 ^ 53 - 8) 971
    · refine isSome_float? writes ?_
      have small := Decimal.Ratio.toRat_lt_of_nearestBits_lt
        (Decimal.Ratio.denominator_scaled_pos _ (by decide : 0 < 10) _) (by decide) (by decide)
        (bits.trans_lt below)
      rw [safe_eq]
      exact small
    -- Too large for the general bound are only the eight largest doubles, and each of them is read.
    · obtain ⟨low, least, normal, finite⟩ := double
      unfold Decimal.doubleBits Decimal.infinityBits Decimal.leastExponent at *
      obtain rfl : exponent = 971 := by omega
      have found := isSome_float?_largest (2 ^ 53 - 1 - mantissa) (by omega)
      have read := readLiteral_text writes.formed (stops_nil isNumberPart)
      rw [show 2 ^ 53 - 1 - (2 ^ 53 - 1 - mantissa) = mantissa by omega, ← text] at found
      rw [List.append_nil] at read
      rw [read] at found
      exact found

theorem isSome_float?_sign (literal : Literal) (negative : Bool) :
    (Literal.float? { literal with negative }).isSome = literal.float?.isSome := by
  unfold Literal.float?
  dsimp only
  rw [Option.isSome_map, Option.isSome_map]

theorem number?_of_broken {literal : Literal} (broken : literal.isWhole = false) :
    literal.number? = literal.float?.map .float := by
  rw [Literal.number?, broken]
  rfl

theorem exists_literal_of_finite {value : Float} (finite : isFinite value = true) :
    ∃ (literal : Literal) (read : Float), literal.WellFormed ∧
      literal.text = (floatText value).toList ∧ literal.number? = some (.float read) := by
  unfold isFinite at finite
  split at finite
  · next negative mantissa exponent same =>
    obtain ⟨literal, writes, text, signed⟩ := exists_literal same
    have float := isSome_float?_of_finite (Decimal.isDouble_of_parts same).1 writes text
    rw [← isSome_float?_sign literal negative] at float
    obtain ⟨read, float⟩ := Option.isSome_iff_exists.1 float
    have formed : Literal.WellFormed { literal with negative } :=
      ⟨writes.formed.whole, writes.formed.fraction⟩
    have broken : Literal.isWhole { literal with negative } = false := writes.broken
    have number : Literal.number? { literal with negative } = some (.float read) := by
      rw [number?_of_broken broken, float]
      rfl
    exact ⟨{ literal with negative }, read, formed, signed, number⟩
  · cases finite

end SeriesQuery.Json
