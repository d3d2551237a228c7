import SeriesQuery.Json.Reader
import SeriesQuery.Proofs.Decimal.RoundTrip

/-!
Numbers and strings of JSON text are read as they were written, whatever follows them.
-/

set_option autoImplicit false

namespace SeriesQuery.Json

/-! ## Numbers -/

def isNumberPart (c : Char) : Bool := c.isDigit || c == '.' || c == 'e' || c == 'E'

structure WholePart (digits : List Char) : Prop where
  nonempty : digits ≠ []
  all : ∀ c ∈ digits, c.isDigit = true
  /-- A leading zero stands alone. -/
  plain : digits.head? = some '0' → digits = ['0']

def pointText (fraction : List Char) : List Char :=
  if fraction = [] then [] else '.' :: fraction

def exponentText : Option Int → List Char
  | none => []
  | some exponent => 'e' :: (toString exponent).toList

namespace Literal

def text (literal : Literal) : List Char :=
  (if literal.negative then ['-'] else []) ++ (literal.whole ++
    (pointText literal.fraction ++ exponentText literal.exponent?))

structure WellFormed (literal : Literal) : Prop where
  whole : WholePart literal.whole
  fraction : ∀ c ∈ literal.fraction, c.isDigit = true

end Literal

theorem WholePart.of_digit {c : Char} (digit : c.isDigit = true) : WholePart [c] := by
  refine ⟨List.cons_ne_nil c [], by simpa using digit, fun zero => ?_⟩
  rw [Option.some.inj zero]

theorem head?_toDigits {value : Nat} (positive : 0 < value) :
    (Nat.toDigits 10 value).head? ≠ some '0' := by
  induction value using Nat.strongRecOn with
  | ind value ih =>
    rw [Nat.toDigits_eq_if (by decide)]
    split
    · next small =>
      have nonzero : ∀ digit < 10, 0 < digit → digit.digitChar ≠ '0' := by decide
      exact fun zero => nonzero value small positive (Option.some.inj zero)
    · rw [List.head?_append_of_ne_nil _ Nat.toDigits_ne_nil]
      exact ih (value / 10) (by omega) (by omega)

theorem wholePart_digitsOf (value : Nat) : WholePart (Decimal.digitsOf value) := by
  cases Nat.eq_zero_or_pos value with
  | inl zero =>
    rw [zero]
    exact .of_digit (by decide)
  | inr positive =>
    exact ⟨Nat.toDigits_ne_nil, fun _ => Decimal.isDigit_of_mem_toDigits,
      fun zero => absurd zero (head?_toDigits positive)⟩

theorem WholePart.append {digits more : List Char} (whole : WholePart digits)
    (other : digits.head? ≠ some '0') (all : ∀ c ∈ more, c.isDigit = true) :
    WholePart (digits ++ more) := by
  refine ⟨List.append_ne_nil_of_left_ne_nil whole.nonempty more,
    List.forall_mem_append.2 ⟨whole.all, all⟩, fun zero => ?_⟩
  rw [List.head?_append_of_ne_nil digits whole.nonempty] at zero
  exact absurd zero other

section
variable {rest : List Char}

theorem stops_isDigit (stops : Stops isNumberPart rest) : Stops Char.isDigit rest :=
  stops.mono fun c digit => by simp [isNumberPart, digit]

theorem readWhole_append {digits : List Char} (whole : WholePart digits)
    (stops : Stops Char.isDigit rest) : readWhole (digits ++ rest) = some (digits, rest) := by
  rw [readWhole, span_append whole.all stops]
  split
  · next same => exact absurd (congrArg Prod.fst same) whole.nonempty
  · next c others after same =>
    have first := congrArg Prod.fst same
    have single := whole.plain (by rw [show digits = '0' :: c :: others from first]; rfl)
    rw [show digits = '0' :: c :: others from first] at single
    cases single
  · rfl

theorem readFraction_pointText {fraction : List Char} (all : ∀ c ∈ fraction, c.isDigit = true)
    (stops : Stops Char.isDigit rest) (noPoint : Stops (· == '.') rest) :
    readFraction (pointText fraction ++ rest) = some (fraction, rest) := by
  unfold pointText
  cases fraction with
  | nil =>
    cases rest with
    | nil => rfl
    | cons c others =>
      have other : c ≠ '.' := by simpa using noPoint c others rfl
      simp [readFraction, other]
  | cons digit others =>
    have split := span_append all stops
    simp only [List.cons_ne_nil, if_false, List.cons_append] at split ⊢
    rw [readFraction, split]

theorem readExponentDigits_append (negative : Bool) (magnitude : Nat)
    (stops : Stops Char.isDigit rest) :
    readExponentDigits negative (Decimal.digitsOf magnitude ++ rest) =
      some (some (if negative then -(magnitude : Int) else magnitude), rest) := by
  have digits := wholePart_digitsOf magnitude
  have value := Decimal.digitsValue_digitsOf magnitude
  rw [readExponentDigits, span_append digits.all stops]
  generalize Decimal.digitsOf magnitude = text at digits value ⊢
  cases text with
  | nil => exact absurd rfl digits.nonempty
  | cons digit others =>
    dsimp only
    rw [value]

theorem toList_toString (value : Int) :
    (toString value).toList =
      (if value < 0 then ['-'] else []) ++ Decimal.digitsOf value.natAbs := by
  rw [Int.toString_eq_repr, Int.repr_eq_if]
  split
  · next large =>
    rw [if_neg (by omega), Nat.repr_eq_ofList_toDigits, String.toList_ofList,
      show value.natAbs = value.toNat by omega]
    rfl
  · next small =>
    rw [if_pos (by omega), String.toList_append, Nat.repr_eq_ofList_toDigits,
      String.toList_ofList, show value.natAbs = (-value).toNat by omega]
    simp [Decimal.digitsOf]

theorem readExponent_minus (text : List Char) :
    readExponent ('e' :: '-' :: text) = readExponentDigits true text := by
  simp [readExponent]

theorem readExponent_digit {c : Char} (digit : c.isDigit = true) (text : List Char) :
    readExponent ('e' :: c :: text) = readExponentDigits false (c :: text) := by
  have notPlus : c ≠ '+' := by rintro rfl; cases digit
  have notMinus : c ≠ '-' := by rintro rfl; cases digit
  simp [readExponent, notPlus, notMinus]

theorem readExponent_exponentText (exponent? : Option Int) (stops : Stops isNumberPart rest) :
    readExponent (exponentText exponent? ++ rest) = some (exponent?, rest) := by
  cases exponent? with
  | none =>
    cases rest with
    | nil => rfl
    | cons c others =>
      have other : ¬(c = 'e' ∨ c = 'E') := by
        have out := stops c others rfl
        rintro (rfl | rfl) <;> exact absurd out (by decide)
      exact if_neg other
  | some exponent =>
    rw [exponentText, List.cons_append, toList_toString]
    by_cases negative : exponent < 0
    · rw [if_pos negative, List.append_assoc, List.singleton_append, readExponent_minus,
        readExponentDigits_append true _ (stops_isDigit stops), if_pos rfl,
        show -(exponent.natAbs : Int) = exponent by omega]
    · have digits := wholePart_digitsOf exponent.natAbs
      have read := readExponentDigits_append false exponent.natAbs (stops_isDigit stops)
      rw [if_neg negative, List.nil_append]
      obtain ⟨c, others, same⟩ := List.exists_cons_of_ne_nil digits.nonempty
      rw [same, List.cons_append] at read ⊢
      rw [readExponent_digit (digits.all c (by simp [same])), read, if_neg (by simp),
        show (exponent.natAbs : Int) = exponent by omega]

theorem readLiteral_digit {c : Char} (digit : c.isDigit = true) (text : List Char) :
    readLiteral (c :: text) = readMagnitude false (c :: text) := by
  have notMinus : c ≠ '-' := by rintro rfl; cases digit
  simp [readLiteral, notMinus]

theorem stops_exponentText (exponent? : Option Int) (stops : Stops isNumberPart rest) :
    Stops Char.isDigit (exponentText exponent? ++ rest) ∧
      Stops (· == '.') (exponentText exponent? ++ rest) := by
  cases exponent? with
  | none => exact ⟨stops_isDigit stops, stops.mono fun c point => by simp_all [isNumberPart]⟩
  | some exponent => exact ⟨stops_cons (by decide) _, stops_cons (by decide) _⟩

theorem stops_pointText (fraction : List Char) {more : List Char}
    (stops : Stops Char.isDigit more) : Stops Char.isDigit (pointText fraction ++ more) := by
  unfold pointText
  split
  · exact stops
  · exact stops_cons (by decide) _

theorem readMagnitude_text {literal : Literal} (formed : literal.WellFormed)
    (stops : Stops isNumberPart rest) :
    readMagnitude literal.negative (literal.whole ++ (pointText literal.fraction ++
      (exponentText literal.exponent? ++ rest))) = some (literal, rest) := by
  have ⟨noDigit, noPoint⟩ := stops_exponentText literal.exponent? stops
  have whole := readWhole_append formed.whole (stops_pointText literal.fraction noDigit)
  have fraction := readFraction_pointText formed.fraction noDigit noPoint
  have exponent := readExponent_exponentText literal.exponent? stops
  unfold readMagnitude
  rw [whole, Option.bind_eq_bind, Option.bind_some]
  dsimp only
  rw [fraction, Option.bind_eq_bind, Option.bind_some]
  dsimp only
  rw [exponent]
  rfl

theorem readLiteral_text {literal : Literal} (formed : literal.WellFormed)
    (stops : Stops isNumberPart rest) :
    readLiteral (literal.text ++ rest) = some (literal, rest) := by
  have read := readMagnitude_text formed stops
  unfold Literal.text
  rw [List.append_assoc, List.append_assoc, List.append_assoc]
  cases same : literal.negative with
  | true =>
    rw [same] at read
    exact read
  | false =>
    rw [same] at read
    obtain ⟨c, others, start⟩ := List.exists_cons_of_ne_nil formed.whole.nonempty
    simp only [Bool.false_eq_true, if_false, List.nil_append]
    rw [← read, start, List.cons_append, readLiteral_digit (formed.whole.all c (by simp [start]))]

end

/-! ## Whole numbers -/

def integerLiteral (value : Int) : Literal :=
  ⟨decide (value < 0), Decimal.digitsOf value.natAbs, [], none⟩

theorem wellFormed_integerLiteral (value : Int) : (integerLiteral value).WellFormed :=
  ⟨wholePart_digitsOf _, fun _ member => absurd member List.not_mem_nil⟩

theorem text_integerLiteral (value : Int) :
    (integerLiteral value).text = (toString value).toList := by
  rw [toList_toString]
  by_cases negative : value < 0 <;>
    simp [integerLiteral, Literal.text, pointText, exponentText, negative]

/-- A whole number that fits 64 bits is itself again. -/
theorem number?_integerLiteral {value : Int} (least : -2 ^ 63 ≤ value) (most : value < 2 ^ 64) :
    (integerLiteral value).number? = some (.integer value) := by
  have small : value.natAbs < wordBound := by
    unfold wordBound UInt64.size
    omega
  have edge : Int64.minValue.toInt.natAbs = 2 ^ 63 := by decide
  simp only [Literal.number?, integerLiteral, Literal.isWhole, Decimal.digitsValue_digitsOf,
    List.isEmpty_nil, Option.isNone_none, Bool.and_self, small, decide_true, if_true, edge]
  by_cases negative : value < 0
  · have bounded : 0 < value.natAbs ∧ value.natAbs ≤ 2 ^ 63 := by omega
    rw [decide_eq_true negative, if_neg (by simp), if_pos bounded,
      show -(value.natAbs : Int) = value by omega]
  · rw [decide_eq_false negative, if_pos (by simp), show (value.natAbs : Int) = value by omega]

theorem number?_integerLiteral_of_large {value : Nat} (large : ¬ value < wordBound) :
    (integerLiteral value).number? = (integerLiteral value).float?.map .float := by
  have beyond : ¬ Decimal.digitsValue (integerLiteral value).whole < wordBound := by
    rw [integerLiteral, Int.natAbs_natCast, Decimal.digitsValue_digitsOf]
    exact large
  rw [Literal.number?.eq_def]
  simp only [beyond, decide_false, Bool.and_false, Bool.false_eq_true, if_false]

/-! ## Strings -/

/-- Whether a character is written by its code. -/
def isCoded (c : Char) : Bool :=
  decide (c.toNat < 32) && !(c == '\n' || c == '\r' || c == '\t' || c.toNat == 8 || c.toNat == 12)

def pieceOf (c : Char) : Piece := if isCoded c then .unit c.toNat else .char c

theorem joinPieces_pieceOf (c : Char) (pieces : List Piece) :
    joinPieces (pieceOf c :: pieces) = (joinPieces pieces).map (c :: ·) := by
  unfold pieceOf
  split
  · next coded =>
    have small : c.toNat < 32 := by
      simp only [isCoded, Bool.and_eq_true, decide_eq_true_eq] at coded
      exact coded.1
    have alone : isHighSurrogate c.toNat = false ∧ isLowSurrogate c.toNat = false := by
      simp only [isHighSurrogate, isLowSurrogate, decide_eq_false_iff_not]
      omega
    -- The unit is no half of a pair, whatever comes after it.
    cases pieces with
    | nil => simp [joinPieces, alone]
    | cons piece rest =>
      cases piece with
      | char value => simp [joinPieces, alone]
      | unit value => simp [joinPieces, alone]
  · rfl

theorem readPieces_plain {c : Char} (large : ¬c.toNat < 32) (noQuote : c ≠ '"')
    (noBackslash : c ≠ '\\') (rest : List Char) :
    readPieces (c :: rest) =
      (readPieces rest).map fun (pieces, rest) => (.char c :: pieces, rest) := by
  rw [readPieces.eq_def]
  split
  · next same => exact absurd (List.cons.inj same).1 noBackslash
  · next same => exact absurd (List.cons.inj same).1 noBackslash
  · next same => exact absurd (List.cons.inj same).1 noQuote
  · next same =>
    obtain ⟨rfl, rfl⟩ := List.cons.inj same
    rw [if_neg (not_or.2 ⟨large, noBackslash⟩)]
    cases readPieces rest <;> rfl
  · next same => cases same

theorem readPieces_letter {letter c : Char} (other : letter ≠ 'u')
    (escaped : escaped? letter = some c) (rest : List Char) :
    readPieces ('\\' :: letter :: rest) =
      (readPieces rest).map fun (pieces, rest) => (.char c :: pieces, rest) := by
  rw [readPieces.eq_def]
  split
  · next same => exact absurd (List.cons.inj (List.cons.inj same).2).1 other
  · next same =>
    obtain ⟨rfl, rfl⟩ := List.cons.inj (List.cons.inj same).2
    rw [escaped]
    cases readPieces rest <;> rfl
  · next same => cases (List.cons.inj same).1
  · next letters _ same =>
    obtain ⟨rfl, rfl⟩ := List.cons.inj same
    exact (letters letter rest rfl rfl).elim
  · next same => cases same

theorem readPieces_controlEscape {c : Char} (small : c.toNat < 32) (rest : List Char) :
    readPieces (controlEscape c ++ rest) =
      (readPieces rest).map fun (pieces, rest) => (.unit c.toNat :: pieces, rest) := by
  have forms : ∀ code < 32, ['\\', 'u'] ++ List.replicate (4 - (Nat.toDigits 16 code).length) '0' ++
      Nat.toDigits 16 code =
        ['\\', 'u', '0', '0', (code / 16).digitChar, (code % 16).digitChar] ∧
      Text.hexValue? ['0', '0', (code / 16).digitChar, (code % 16).digitChar] = some code := by
    decide
  have ⟨form, value⟩ := forms c.toNat small
  unfold controlEscape
  dsimp only
  rw [form]
  simp only [List.cons_append, List.nil_append, readPieces, value, Option.bind_eq_bind,
    Option.bind_some]
  cases readPieces rest <;> rfl

theorem readPieces_escapeChar (c : Char) (rest : List Char) :
    readPieces (escapeChar c ++ rest) =
      (readPieces rest).map fun (pieces, rest) => (pieceOf c :: pieces, rest) := by
  have known {code : Nat} (same : c.toNat = code) : c = Char.ofNat code := by
    rw [← same, Char.ofNat_toNat]
  -- A character has one way to be escaped, and these are tried in order.
  unfold escapeChar
  split
  · next special =>
    rcases special with rfl | rfl
    · exact readPieces_letter (by decide) rfl rest
    · exact readPieces_letter (by decide) rfl rest
  · next usual =>
    have ⟨noQuote, noBackslash⟩ := not_or.1 usual
    split
    · next same => subst same; exact readPieces_letter (by decide) rfl rest
    split
    · next same => subst same; exact readPieces_letter (by decide) rfl rest
    split
    · next same => subst same; exact readPieces_letter (by decide) rfl rest
    split
    · next same => cases known same; exact readPieces_letter (by decide) rfl rest
    split
    · next same => cases known same; exact readPieces_letter (by decide) rfl rest
    split
    · next noFeed noReturn noTab noBackspace noForm small =>
      have coded : pieceOf c = .unit c.toNat := by
        simp_all [pieceOf, isCoded]
      rw [coded]
      exact readPieces_controlEscape small rest
    · next large =>
      have plain : pieceOf c = .char c := by
        simp [pieceOf, isCoded, large]
      rw [plain]
      exact readPieces_plain large noQuote noBackslash rest

theorem readPieces_escaped (text rest : List Char) :
    readPieces (text.flatMap escapeChar ++ '"' :: rest) = some (text.map pieceOf, rest) := by
  induction text with
  | nil => rfl
  | cons c text ih =>
    rw [List.flatMap_cons, List.append_assoc, readPieces_escapeChar, ih]
    rfl

theorem joinPieces_map_pieceOf (text : List Char) :
    joinPieces (text.map pieceOf) = some text := by
  induction text with
  | nil => rfl
  | cons c text ih =>
    rw [List.map_cons, joinPieces_pieceOf, ih]
    rfl

theorem toList_stringText (text : String) :
    (stringText text).toList = '"' :: (text.toList.flatMap escapeChar ++ ['"']) := by
  simp [stringText]

theorem readString_stringText (text : String) (rest : List Char) :
    readString (text.toList.flatMap escapeChar ++ '"' :: rest) = some (some text, rest) := by
  unfold readString
  rw [readPieces_escaped]
  simp [joinPieces_map_pieceOf]

end SeriesQuery.Json
