import SeriesQuery.Decimal.Text
import SeriesQuery.Proofs.Text.Stretches

/-!
Numbers are written with digits, points and dashes, and read from their digits.
-/

set_option autoImplicit false

namespace SeriesQuery.Decimal

def isNumeral (c : Char) : Bool := c.isDigit || c == '.' || c == '-'

theorem isNumeral_of_isDigit {c : Char} (digit : c.isDigit = true) : isNumeral c = true := by
  simp [isNumeral, digit]

structure Numeric (text : List Char) : Prop where
  nonempty : text ≠ []
  numerals : ∀ c ∈ text, isNumeral c = true

theorem Numeric.append {first : List Char} (numeric : Numeric first) {rest : List Char}
    (numerals : ∀ c ∈ rest, isNumeral c = true) : Numeric (first ++ rest) where
  nonempty := List.append_ne_nil_of_left_ne_nil numeric.nonempty rest
  numerals c member := (List.mem_append.1 member).elim (numeric.numerals c) (numerals c)

theorem Numeric.of_append {last : List Char} (numeric : Numeric last) {first : List Char}
    (numerals : ∀ c ∈ first, isNumeral c = true) : Numeric (first ++ last) where
  nonempty := List.append_ne_nil_of_right_ne_nil first numeric.nonempty
  numerals c member := (List.mem_append.1 member).elim (numerals c) (numeric.numerals c)

theorem isDigit_of_mem_toDigits {value : Nat} {c : Char} (member : c ∈ Nat.toDigits 10 value) :
    c.isDigit = true :=
  Nat.isDigit_of_mem_toDigits (by decide) (by decide) member

theorem numeric_digitsOf (value : Nat) : Numeric (digitsOf value) where
  nonempty := Nat.toDigits_ne_nil
  numerals _ member := isNumeral_of_isDigit (isDigit_of_mem_toDigits member)

theorem digitsValue_digitsOf (value : Nat) : digitsValue (digitsOf value) = value :=
  Nat.ofDigitChars_toDigits (by decide) (by decide)

theorem toList_toString_nat (value : Nat) : (toString value).toList = digitsOf value := by
  simp [digitsOf, Nat.toString_eq_repr, Nat.repr]

theorem numeric_toString_nat (value : Nat) : Numeric (toString value).toList := by
  rw [toList_toString_nat]
  exact numeric_digitsOf value

theorem numeric_toString_int (value : Int) : Numeric (toString value).toList := by
  rw [Int.toString_eq_repr, Int.repr_eq_if]
  split
  · exact numeric_toString_nat value.toNat
  · rw [String.toList_append]
    exact (numeric_toString_nat (-value).toNat).of_append (by decide)

theorem isNumeral_of_mem_replicate {count : Nat} {c : Char} (member : c ∈ List.replicate count '0') :
    isNumeral c = true := by
  rw [(List.mem_replicate.1 member).2]
  decide

theorem numeric_positional {digits : List Char} (numeric : Numeric digits) (whole : Int) :
    Numeric (positional digits whole false) := by
  unfold positional
  split
  · exact numeric.of_append fun c member => (List.mem_append.1 member).elim
      (fun zero => (by decide : ∀ c ∈ ['0', '.'], isNumeral c = true) c zero)
      isNumeral_of_mem_replicate
  · split
    · simp only [Bool.false_eq_true, if_false, List.append_nil]
      exact numeric.append fun _ => isNumeral_of_mem_replicate
    · rw [List.append_assoc]
      refine ⟨by simp, fun c member => ?_⟩
      rcases List.mem_append.1 member with taken | rest
      · exact numeric.numerals c (List.mem_of_mem_take taken)
      · rcases List.mem_cons.1 rest with rfl | dropped
        · decide
        · exact numeric.numerals c (List.mem_of_mem_drop dropped)

theorem numeric_sign (negative : Bool) {text : List Char} (numeric : Numeric text) :
    Numeric ((if negative then ['-'] else []) ++ text) := by
  apply numeric.of_append
  cases negative with
  | true => decide
  | false => decide

theorem numeric_magnitude (decimal : Scaled) : Numeric (plainStyle.magnitude decimal) := by
  unfold FloatStyle.magnitude
  split
  · exact numeric_positional ⟨by simp, by decide⟩ 1
  · exact numeric_positional (numeric_digitsOf _) _

theorem numeric_plain {value : Float} (finite : isFinite value = true) :
    Numeric (plain value).toList := by
  unfold isFinite at finite
  unfold plain FloatStyle.write
  split
  · next same => rw [same] at finite; cases finite
  · next same => rw [same] at finite; cases finite
  · rw [String.toList_ofList]
    exact numeric_sign _ (numeric_magnitude _)

theorem isNumeral_or_isAlpha_of_mem_plain {value : Float} {c : Char}
    (member : c ∈ (plain value).toList) : isNumeral c = true ∨ c.isAlpha = true := by
  cases finite : isFinite value with
  | true => exact .inl ((numeric_plain finite).numerals c member)
  | false =>
    unfold isFinite at finite
    unfold plain FloatStyle.write at member
    revert c
    split
    · decide
    · split
      · decide
      · decide
    · next same => rw [same] at finite; cases finite

theorem numeric_withPoint {digits : List Char} (numeric : Numeric digits) {places : Nat}
    (long : places < digits.length) :
    Numeric (digits.take (digits.length - places) ++
      if places = 0 then [] else '.' :: digits.drop (digits.length - places)) := by
  constructor
  · refine List.append_ne_nil_of_left_ne_nil ?_ _
    rw [Ne, List.take_eq_nil_iff]
    rintro (none | none)
    · omega
    · exact numeric.nonempty none
  · intro c member
    rcases List.mem_append.1 member with taken | rest
    · exact numeric.numerals c (List.mem_of_mem_take taken)
    · split at rest
      · cases rest
      · rcases List.mem_cons.1 rest with rfl | dropped
        · decide
        · exact numeric.numerals c (List.mem_of_mem_drop dropped)

theorem numeric_fixedMagnitude (places : Nat) (ratio : Ratio) :
    Numeric (fixedMagnitude places ratio) := by
  have digits := numeric_digitsOf
    (roundHalfEven (ratio.numerator * Nat.pow 10 places) ratio.denominator)
  apply numeric_withPoint
  · exact digits.of_append fun _ => isNumeral_of_mem_replicate
  · rw [List.length_append, List.length_replicate]
    omega

theorem numeric_fixed {value : Float} (finite : isFinite value = true) (places : Nat) :
    Numeric (fixed places value).toList := by
  unfold isFinite at finite
  unfold fixed
  split
  · next same => rw [same] at finite; cases finite
  · next same => rw [same] at finite; cases finite
  · rw [String.toList_ofList]
    exact numeric_sign _ (numeric_fixedMagnitude _ _)

/-! ## Reading -/

section
variable {negative : Bool} {whole fraction : List Char}

theorem readMagnitude?_whole (nonempty : whole ≠ []) (digits : ∀ c ∈ whole, c.isDigit = true) :
    readMagnitude? negative whole = some (nearest negative (digitsValue whole) 0) := by
  have split := span_append digits (stops_nil Char.isDigit)
  rw [List.append_nil] at split
  rw [readMagnitude?, split]
  simp [nonempty, readExponent?]

theorem readMagnitude?_point (nonempty : whole ≠ []) (digits : ∀ c ∈ whole, c.isDigit = true)
    (places : ∀ c ∈ fraction, c.isDigit = true) :
    readMagnitude? negative (whole ++ '.' :: fraction) =
      some (nearest negative (digitsValue (whole ++ fraction)) (-fraction.length)) := by
  have split := span_append digits (stops_cons (by decide : Char.isDigit '.' = false) fraction)
  have others := span_append places (stops_nil Char.isDigit)
  rw [List.append_nil] at others
  rw [readMagnitude?, split]
  simp only [others]
  simp [nonempty, readExponent?]

end

theorem toLower_of_isDigit {c : Char} (digit : c.isDigit = true) : c.toLower = c := by
  have small : ¬ (c.val ≥ 'A'.val ∧ c.val ≤ 'Z'.val) := by
    simp only [Char.isDigit, Bool.and_eq_true, decide_eq_true_eq] at digit
    intro letter
    exact absurd (UInt32.le_trans letter.1 digit.2) (by decide)
  exact dif_neg small

/-- A text that starts with a digit is no name of a number. -/
theorem readFloat?_of_digit {c : Char} (digit : c.isDigit = true) (rest : List Char)
    (negative : Bool) :
    readFloat? (String.ofList ((if negative then ['-'] else []) ++ c :: rest)) =
      readMagnitude? negative (c :: rest) := by
  have lower : (c :: rest).map Char.toLower = c :: rest.map Char.toLower := by
    rw [List.map_cons, toLower_of_isDigit digit]
  have notSpelled : ∀ {first : Char} {others : List Char}, first.isDigit = false →
      c :: rest.map Char.toLower ≠ first :: others := by
    rintro first others letter same
    rw [(List.cons.inj same).1, letter] at digit
    cases digit
  have spelled : (if (c :: rest).map Char.toLower = "inf".toList ∨
        (c :: rest).map Char.toLower = "infinity".toList then some (infinity negative)
      else if (c :: rest).map Char.toLower = "nan".toList then some notANumber
      else readMagnitude? negative (c :: rest)) = readMagnitude? negative (c :: rest) := by
    rw [lower, if_neg, if_neg]
    · exact notSpelled (by decide)
    · exact not_or.2 ⟨notSpelled (by decide), notSpelled (by decide)⟩
  unfold readFloat?
  rw [String.toList_ofList]
  cases negative with
  | true => exact spelled
  | false =>
    simp only [Bool.false_eq_true, if_false, List.nil_append]
    -- Neither sign is a digit.
    split
    · next same =>
      rw [(List.cons.inj same).1] at digit
      cases digit
    · next same =>
      rw [(List.cons.inj same).1] at digit
      cases digit
    · exact spelled

end SeriesQuery.Decimal
