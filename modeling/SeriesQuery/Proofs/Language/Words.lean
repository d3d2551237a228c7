import SeriesQuery.Proofs.Decimal.Numerals
import SeriesQuery.Proofs.Language.Starts

/-!
Readers of words take the written forms of words, and leave what follows them.
-/

set_option autoImplicit false

namespace SeriesQuery.Language

open Grammar

/-- The reader takes every text of the form as the value and leaves what follows it, as far as that
is of a kind that may follow. -/
def Reads {α : Type} (reader : Reader α) (form : Form) (value : α) (follow : List Char → Prop) :
    Prop :=
  ∀ text ∈ form, ∀ rest, follow rest → reader (text ++ rest) = some (value, rest)

/-- Forms that know their own end. -/
def Anything (_ : List Char) : Prop := True

/-! ## Gaps and keywords -/

theorem skipGap_of_stops {text : List Char} (stops : Stops Text.isGap text) :
    skipGap text = text := dropWhile_of_stops stops

theorem skipGap_append {gaps rest : List Char} (written : gaps ∈ blanks)
    (stops : Stops Text.isGap rest) : skipGap (gaps ++ rest) = rest := by
  rw [skipGap, List.dropWhile_append_of_pos written]
  exact skipGap_of_stops stops

theorem gap_append {gaps rest : List Char} (written : gaps ∈ space)
    (stops : Stops Text.isGap rest) : gap (gaps ++ rest) = some rest := by
  obtain ⟨nonempty, all⟩ := written
  cases gaps with
  | nil => exact absurd rfl nonempty
  | cons c others =>
    have first : Text.isGap c = true := all c List.mem_cons_self
    have others : skipGap (others ++ rest) = rest :=
      skipGap_append (fun d member => all d (List.mem_cons_of_mem c member)) stops
    simp [gap, first, others]

theorem gap_eq_none {text : List Char} (stops : Stops Text.isGap text) : gap text = none := by
  cases text with
  | nil => rfl
  | cons c rest => simp [gap, stops c rest rfl]

theorem keyword_append_of_lower {word text : List Char} (rest : List Char)
    (same : text.map Char.toLower = word.map Char.toLower) :
    keyword word (text ++ rest) = some rest := by
  induction word generalizing text with
  | nil =>
    rw [List.map_nil, List.map_eq_nil_iff] at same
    subst same
    cases rest <;> rfl
  | cons c word ih =>
    obtain ⟨d, others, rfl, lower, lowers⟩ := List.map_eq_cons_iff.1 same
    simp [keyword, lower, ih lowers]

theorem keyword_append {word : String} {text : List Char} (written : text ∈ spelled word)
    (rest : List Char) : keyword word.toList (text ++ rest) = some rest :=
  keyword_append_of_lower rest written

/-- Two words differ, letter case aside, in a place that both have. -/
def clash : List Char → List Char → Bool
  | c :: word, d :: other => c.toLower != d.toLower || clash word other
  | _, _ => false

theorem keyword_eq_none_of_clash {word other text : List Char} (rest : List Char)
    (same : text.map Char.toLower = other.map Char.toLower) (clashes : clash word other = true) :
    keyword word (text ++ rest) = none := by
  induction word generalizing other text with
  | nil => cases other <;> cases clashes
  | cons c word ih =>
    cases other with
    | nil => cases clashes
    | cons d other =>
      obtain ⟨e, others, rfl, lower, lowers⟩ := List.map_eq_cons_iff.1 same
      simp only [clash, Bool.or_eq_true, bne_iff_ne, ne_eq] at clashes
      simp only [List.cons_append, keyword]
      split
      · next equal =>
        have tailClash := clashes.resolve_left fun differ => differ (equal.symm.trans lower)
        exact ih lowers tailClash
      · rfl

theorem keyword_eq_none_of_starts {c : Char} {word heads text : List Char}
    (starts : Starts heads text) (missing : c.toLower ∉ heads) :
    keyword (c :: word) text = none := by
  obtain ⟨d, rest, rfl, found⟩ := starts
  have differ : d.toLower ≠ c.toLower := fun same => missing (same ▸ found)
  simp [keyword, differ]

theorem char_eq_none_of_starts {c : Char} {heads text : List Char} (starts : Starts heads text)
    (missing : c.toLower ∉ heads) : char c text = none := by
  obtain ⟨d, rest, rfl, found⟩ := starts
  have differ : d ≠ c := fun same => missing (same ▸ found)
  simp [char, differ]

theorem char_append {word : String} {c : Char} {text : List Char} (same : word.toList = [c])
    (written : text ∈ exactly word) (rest : List Char) : char c (text ++ rest) = some rest := by
  rw [show text = [c] from Eq.trans written same]
  simp [char]

/-! ## One step in a form

Where a form goes on with a gap, a keyword or a mark, reading that leaves a text of what remains. -/

theorem skipGap_mem {form : Form} {heads : List Char} (opens : Opens form heads)
    (noGap : ∀ c ∈ heads, Text.isGap c = false) {text : List Char} (written : text ∈ blanks * form)
    (rest : List Char) : ∃ found ∈ form, skipGap (text ++ rest) = found ++ rest := by
  obtain ⟨gaps, gapsWritten, found, foundWritten, rfl⟩ := Language.mem_mul.1 written
  have stops := ((opens found foundWritten).append rest).stops caseFree_isGap noGap
  exact ⟨found, foundWritten, by rw [List.append_assoc, skipGap_append gapsWritten stops]⟩

theorem gap_mem {form : Form} {heads : List Char} (opens : Opens form heads)
    (noGap : ∀ c ∈ heads, Text.isGap c = false) {text : List Char} (written : text ∈ space * form)
    (rest : List Char) : ∃ found ∈ form, gap (text ++ rest) = some (found ++ rest) := by
  obtain ⟨gaps, gapsWritten, found, foundWritten, rfl⟩ := Language.mem_mul.1 written
  have stops := ((opens found foundWritten).append rest).stops caseFree_isGap noGap
  exact ⟨found, foundWritten, by rw [List.append_assoc, gap_append gapsWritten stops]⟩

theorem keyword_mem {form : Form} {word : String} {text : List Char}
    (written : text ∈ spelled word * form) (rest : List Char) :
    ∃ found ∈ form, keyword word.toList (text ++ rest) = some (found ++ rest) := by
  obtain ⟨first, firstWritten, found, foundWritten, rfl⟩ := Language.mem_mul.1 written
  exact ⟨found, foundWritten, by rw [List.append_assoc, keyword_append firstWritten]⟩

theorem char_mem {form : Form} {word : String} {c : Char} (same : word.toList = [c])
    {text : List Char} (written : text ∈ exactly word * form) (rest : List Char) :
    ∃ found ∈ form, char c (text ++ rest) = some (found ++ rest) := by
  obtain ⟨first, firstWritten, found, foundWritten, rfl⟩ := Language.mem_mul.1 written
  exact ⟨found, foundWritten, by rw [List.append_assoc, char_append same firstWritten]⟩

theorem Reads.mem {α : Type} {reader : Reader α} {form next : Form} {value : α}
    {follow : List Char → Prop} (reads : Reads reader form value follow) {text : List Char}
    (written : text ∈ form * next) (rest : List Char)
    (follows : ∀ found ∈ next, follow (found ++ rest)) :
    ∃ found ∈ next, reader (text ++ rest) = some (value, found ++ rest) := by
  obtain ⟨first, firstWritten, found, foundWritten, rfl⟩ := Language.mem_mul.1 written
  have read := reads first firstWritten (found ++ rest) (follows found foundWritten)
  exact ⟨found, foundWritten, by rw [List.append_assoc, read]⟩

/-! ## Names and texts -/

theorem stretch_append {p : Char → Bool} {text rest : List Char} (nonempty : text ≠ [])
    (all : ∀ c ∈ text, p c = true) (stops : Stops p rest) :
    stretch p (text ++ rest) = some (text, rest) := by
  rw [stretch, span_append all stops]
  cases text with
  | nil => exact absurd rfl nonempty
  | cons c others => rfl

theorem stretch_eq_none {p : Char → Bool} {text : List Char} (stops : Stops p text) :
    stretch p text = none := by
  rw [stretch, List.span_eq_takeWhile_dropWhile, takeWhile_of_stops stops]

theorem eq_append_of_stretch {p : Char → Bool} {text taken rest : List Char}
    (read : stretch p text = some (taken, rest)) : text = taken ++ rest := by
  have same : text.span p = (taken, rest) := by
    unfold stretch at read
    split at read
    · cases read
    · exact Option.some.inj read
  rw [List.span_eq_takeWhile_dropWhile] at same
  cases same
  exact (List.takeWhile_append_dropWhile).symm

theorem ne_of_notMem {closing : Char} {text : List Char} (missing : closing ∉ text) :
    ∀ c ∈ text, (c != closing) = true := by
  intro c member
  rw [bne_iff_ne]
  rintro rfl
  exact missing member

theorem enclosed_append {opening closing : Char} {text : List Char} (missing : closing ∉ text)
    (rest : List Char) :
    enclosed opening closing (opening :: text ++ [closing] ++ rest) = some (text, rest) := by
  have split : (text ++ closing :: rest).span (· != closing) = (text, closing :: rest) :=
    span_append (ne_of_notMem missing) (stops_cons (by simp) rest)
  simp only [enclosed, char, List.cons_append, List.append_assoc, List.nil_append, if_true,
    Option.bind_eq_bind, Option.bind_some, split]
  rfl

theorem reads_name (field : String) : Reads name (nameForm field) field Anything := by
  rintro text ⟨nonempty, missing, rfl⟩ rest -
  have some : field.toList ≠ [] := by simpa using nonempty
  have split : stretch (· != '"') (field.toList ++ '"' :: rest) =
      .some (field.toList, '"' :: rest) :=
    stretch_append some (ne_of_notMem missing) (stops_cons (by simp) rest)
  simp [name, split, char]

theorem reads_quoted (content : String) : Reads quoted (quotedForm content) content Anything := by
  rintro text ⟨missing, rfl⟩ rest -
  simp only [quoted, enclosed_append missing rest]
  simp

/-! ## Numbers -/

/-- Digits, or a point that could go on with a number. -/
def isNumeric (c : Char) : Bool := c.isDigit || c == '.'

def EndsNumber (rest : List Char) : Prop := Stops isNumeric rest

theorem caseFree_isNumeric : CaseFree isNumeric :=
  caseFree_isDigit.or (caseFree_beq (by decide))

theorem EndsNumber.stops {rest : List Char} (ends : EndsNumber rest) :
    Stops Char.isDigit rest := by
  intro c others same
  have out := ends c others same
  simp only [isNumeric, Bool.or_eq_false_iff] at out
  exact out.1

theorem Digits.stretch_append (digits : Digits) {rest : List Char}
    (stops : Stops Char.isDigit rest) :
    stretch Char.isDigit (digits.text ++ rest) = some (digits.text, rest) :=
  SeriesQuery.Language.stretch_append digits.nonempty digits.digits stops

theorem Digits.isEmpty_eq_false (digits : Digits) : digits.text.isEmpty = false := by
  simpa using digits.nonempty

theorem Digits.readDigits? (digits : Digits) :
    Decimal.readDigits? digits.text = some digits.value := by
  have all : digits.text.all Char.isDigit = true := List.all_eq_true.2 digits.digits
  simp [Decimal.readDigits?, digits.isEmpty_eq_false, all, Digits.value]

theorem exists_of_readDigits? {text : List Char} {amount : Nat}
    (read : Decimal.readDigits? text = some amount) :
    ∃ digits : Digits, digits.text = text ∧ digits.value = amount := by
  unfold Decimal.readDigits? at read
  split at read
  · next whole =>
    simp only [Bool.and_eq_true, Bool.not_eq_true', List.isEmpty_eq_false_iff, List.all_eq_true]
      at whole
    exact ⟨⟨text, whole.1, whole.2⟩, rfl, Option.some.inj read⟩
  · cases read

/-- A number in its shortest notation. -/
def Digits.ofNat (value : Nat) : Digits where
  text := Decimal.digitsOf value
  nonempty := (Decimal.numeric_digitsOf value).nonempty
  digits _ := Decimal.isDigit_of_mem_toDigits

@[simp] theorem Digits.value_ofNat (value : Nat) : (Digits.ofNat value).value = value :=
  Decimal.digitsValue_digitsOf value

theorem Digits.toList_toString (value : Nat) : (toString value).toList = (Digits.ofNat value).text :=
  Decimal.toList_toString_nat value

theorem Digits.text_eq (digits : Digits) : ∃ c rest, digits.text = c :: rest ∧ c.isDigit = true := by
  cases same : digits.text with
  | nil => exact absurd same digits.nonempty
  | cons c rest => exact ⟨c, rest, rfl, digits.digits c (same ▸ List.mem_cons_self)⟩

def unsigned (sign : List Char) : Reader Scalar := fun text => do
  let (whole, rest) ← stretch Char.isDigit text
  let fraction : Option (List Char × List Char) := match rest with
    | '.' :: rest => stretch Char.isDigit rest
    | _ => none
  match fraction with
  | some (fraction, rest) =>
    let value ← Decimal.readFloat? (String.ofList (sign ++ whole ++ ['.'] ++ fraction))
    return (.float value, rest)
  | none =>
    let value ← Decimal.readInt64? (String.ofList (sign ++ whole))
    return (.integer value, rest)

theorem number_of_ne {c : Char} (noSign : c ≠ '-') (text : List Char) :
    number (c :: text) = unsigned [] (c :: text) := by
  unfold number
  split
  next matched =>
    split at matched
    · next same => cases same; exact absurd rfl noSign
    · cases matched; rfl

theorem number_eq_none {heads text : List Char} (starts : Starts heads text)
    (noNumber : ∀ c ∈ heads, c ≠ '-' ∧ c.isDigit = false) : number text = none := by
  have noDigit : stretch Char.isDigit text = none :=
    stretch_eq_none (starts.stops caseFree_isDigit fun c member => (noNumber c member).2)
  obtain ⟨c, others, rfl, found⟩ := starts
  have noSign : c ≠ '-' := by
    rintro rfl
    exact (noNumber _ found).1 rfl
  rw [number_of_ne noSign, unsigned, noDigit]
  rfl

theorem unsigned_whole (sign : List Char) (whole : Digits) {rest : List Char}
    (ends : EndsNumber rest) :
    unsigned sign (whole.text ++ rest) =
      (Decimal.readInt64? (String.ofList (sign ++ whole.text))).map
        fun value => (.integer value, rest) := by
  simp only [unsigned, whole.stretch_append ends.stops, Option.bind_eq_bind, Option.bind_some]
  split
  · next matched =>
    split at matched
    · next others => exact absurd (ends '.' others rfl) (by decide)
    · cases matched
  · exact Option.map_eq_bind.symm

theorem unsigned_fraction (sign : List Char) (whole fraction : Digits) {rest : List Char}
    (stops : Stops Char.isDigit rest) :
    unsigned sign (whole.text ++ '.' :: (fraction.text ++ rest)) =
      (Decimal.readFloat? (String.ofList (sign ++ whole.text ++ ['.'] ++ fraction.text))).map
        fun value => (.float value, rest) := by
  have point : Stops Char.isDigit ('.' :: (fraction.text ++ rest)) := stops_cons (by decide) _
  have taken := whole.stretch_append point
  simp only [unsigned, taken, fraction.stretch_append stops, Option.bind_eq_bind, Option.bind_some]
  exact Option.map_eq_bind.symm

namespace Numeral

theorem number_append (numeral : Numeral) (rest : List Char) :
    number (numeral.text ++ rest) =
      unsigned numeral.signText (numeral.whole.text ++
        ((numeral.fraction?.map fun fraction => '.' :: fraction.text).getD [] ++ rest)) := by
  obtain ⟨negative, whole, fraction?⟩ := numeral
  simp only [text, signText, List.append_assoc]
  cases negative with
  | true => rfl
  | false =>
    obtain ⟨c, others, same, digit⟩ := whole.text_eq
    rw [same]
    exact number_of_ne (by rintro rfl; cases digit) _

theorem readInt64?_eq (negative : Bool) (whole : Digits) {value : Int64}
    (same : value.toInt = if negative then -(whole.value : Int) else whole.value) :
    Decimal.readInt64? (String.ofList ((if negative then ['-'] else []) ++ whole.text)) =
      some value := by
  have range : Int64.minValue.toInt ≤ value.toInt ∧ value.toInt ≤ Int64.maxValue.toInt :=
    ⟨Int64.minValue_le_toInt value, Int64.toInt_le value⟩
  have result : (if Int64.minValue.toInt ≤ value.toInt ∧ value.toInt ≤ Int64.maxValue.toInt then
      some (Int64.ofInt value.toInt) else none) = some value := by
    rw [if_pos range, Int64.ofInt_toInt]
  rw [same] at result
  cases negative with
  | true =>
    simp only [Decimal.readInt64?, if_true, String.toList_ofList, List.singleton_append,
      whole.readDigits?, Option.bind_some]
    exact result
  | false =>
    obtain ⟨c, others, split, digit⟩ := whole.text_eq
    have read := whole.readDigits?
    rw [split] at read
    simp only [Decimal.readInt64?, String.toList_ofList, split, if_false, List.nil_append,
      Bool.false_eq_true]
    split
    · next matched => cases matched; cases digit
    · next matched => cases matched; cases digit
    · simp only [read, Option.bind_some]
      exact result

theorem readMagnitude?_eq (negative : Bool) (whole : Digits) (fraction? : Option Digits) :
    Decimal.readMagnitude? negative (whole.text ++
        (fraction?.map fun fraction => '.' :: fraction.text).getD []) =
      some (toFloat ⟨negative, whole, fraction?⟩) := by
  cases fraction? with
  | none =>
    rw [Option.map_none, Option.getD_none, List.append_nil,
      Decimal.readMagnitude?_whole whole.nonempty whole.digits]
    simp [toFloat, fractionDigits]
  | some fraction =>
    exact Decimal.readMagnitude?_point whole.nonempty whole.digits fraction.digits

theorem readFloat?_text (numeral : Numeral) :
    Decimal.readFloat? (String.ofList numeral.text) = some numeral.toFloat := by
  obtain ⟨negative, whole, fraction?⟩ := numeral
  have read := readMagnitude?_eq negative whole fraction?
  obtain ⟨c, others, same, digit⟩ := whole.text_eq
  simp only [text, signText, List.append_assoc]
  rw [same] at read ⊢
  exact (Decimal.readFloat?_of_digit digit _ negative).trans read

end Numeral

theorem reads_number (value : Scalar) : Reads number (numberForm value) value EndsNumber := by
  rintro text ⟨numeral, denotes, rfl⟩ rest ends
  rw [Numeral.number_append]
  obtain ⟨negative, whole, fraction?⟩ := numeral
  cases value with
  | integer value =>
    obtain ⟨absent, same⟩ := denotes
    cases absent
    have read := Numeral.readInt64?_eq negative whole same
    simp only [Option.map_none, Option.getD_none, List.nil_append, unsigned_whole _ _ ends]
    simp only [Numeral.signText, read, Option.map_some]
  | float value =>
    obtain ⟨present, same⟩ := denotes
    cases fraction? with
    | none => exact absurd rfl present
    | some fraction =>
      have read := Numeral.readFloat?_text ⟨negative, whole, some fraction⟩
      simp only [Numeral.text, Option.map_some, Option.getD_some, List.append_assoc] at read
      simp only [Option.map_some, Option.getD_some, List.cons_append,
        unsigned_fraction _ _ _ ends.stops, List.append_assoc, List.nil_append]
      rw [read, same, Option.map_some]
  | null | bool _ | timestamp _ | string _ => cases denotes

theorem durationText_append (digits : Digits) (unit : DurationUnit) (rest : List Char) :
    durationText (digits.text ++ [unit.symbol] ++ rest) =
      some (digits.text ++ [unit.symbol], rest) := by
  have symbol : unit.symbol.isDigit = false := by cases unit <;> rfl
  have taken := digits.stretch_append (stops_cons symbol rest)
  simp only [durationText, List.append_assoc, List.singleton_append, taken, Option.bind_eq_bind,
    Option.bind_some, DurationUnit.ofSymbol?_symbol, Option.isSome_some, if_true]
  rfl

theorem ofChars?_digits (digits : Digits) (unit : DurationUnit) :
    Duration.ofChars? (digits.text ++ [unit.symbol]) =
      if digits.value < UInt32.size then some ⟨UInt32.ofNat digits.value, unit⟩ else none := by
  simp only [Duration.ofChars?, List.reverse_append, List.reverse_cons, List.reverse_nil,
    List.nil_append, List.singleton_append, List.reverse_reverse, DurationUnit.ofSymbol?_symbol,
    digits.readDigits?]

theorem ofChars?_append (digits : Digits) (duration : Duration)
    (same : digits.value = duration.amount.toNat) :
    Duration.ofChars? (digits.text ++ [duration.unit.symbol]) = some duration := by
  rw [ofChars?_digits, same, if_pos duration.amount.toNat_lt_size, UInt32.ofNat_toNat]

theorem reads_duration (value : Duration) :
    Reads duration (durationForm value) value Anything := by
  rintro text ⟨digits, same, rfl⟩ rest -
  simp only [duration, durationText_append, Option.bind_eq_bind, Option.bind_some,
    ofChars?_append digits value same]
  rfl

/-! ## Literals and operators -/

theorem enclosed_eq_none {opening closing : Char} {heads text : List Char}
    (starts : Starts heads text) (missing : opening.toLower ∉ heads) :
    enclosed opening closing text = none := by
  simp only [enclosed, char_eq_none_of_starts starts missing]
  rfl

theorem quoted_eq_none {heads text : List Char} (starts : Starts heads text)
    (missing : '\'' ∉ heads) : quoted text = none := by
  have absent : enclosed '\'' '\'' text = none := enclosed_eq_none starts missing
  simp only [quoted, absent]
  rfl

theorem reads_literal (value : Scalar) : Reads literal (literalForm value) value EndsNumber := by
  intro text written rest ends
  -- The readers are tried in a fixed order, so that a literal must not be taken by one before its
  -- own.
  cases value with
  | string content =>
    simp only [literal, reads_quoted content text written rest trivial]
  | bool value =>
    cases value with
    | true =>
      have written : text ∈ spelled "true" := written
      have starts := (opens_spelled rfl text written).append rest
      simp only [literal, quoted_eq_none starts (by decide)]
      rw [keyword_append written]
    | false =>
      have written : text ∈ spelled "false" := written
      have starts := (opens_spelled rfl text written).append rest
      have notTrue : keyword "true".toList (text ++ rest) = none :=
        keyword_eq_none_of_starts starts (by decide)
      simp only [literal, quoted_eq_none starts (by decide), notTrue]
      rw [keyword_append written]
  | null =>
    have starts := (opens_spelled rfl text written).append rest
    have notTrue : keyword "true".toList (text ++ rest) = none :=
      keyword_eq_none_of_starts starts (by decide)
    have notFalse : keyword "false".toList (text ++ rest) = none :=
      keyword_eq_none_of_starts starts (by decide)
    simp only [literal, quoted_eq_none starts (by decide), notTrue, notFalse]
    rw [keyword_append written]
  | timestamp value => exact absurd written (Language.notMem_zero text)
  | integer _ | float _ =>
    have starts := (opens_numberForm _ text written).append rest
    have notTrue : keyword "true".toList (text ++ rest) = none :=
      keyword_eq_none_of_starts starts (by decide)
    have notFalse : keyword "false".toList (text ++ rest) = none :=
      keyword_eq_none_of_starts starts (by decide)
    have notNull : keyword "null".toList (text ++ rest) = none :=
      keyword_eq_none_of_starts starts (by decide)
    simp only [literal, quoted_eq_none starts (by decide), notTrue, notFalse, notNull]
    exact reads_number _ text written rest ends

/-- A character that could make a longer operator. -/
def isOperatorEnd (c : Char) : Bool := c == '=' || c == '>' || c == '~'

theorem caseFree_isOperatorEnd : CaseFree isOperatorEnd :=
  ((caseFree_beq (by decide)).or (caseFree_beq (by decide))).or (caseFree_beq (by decide))

theorem reads_comparison (operator : Operator) :
    Reads comparison (operatorForm operator) operator (Stops isOperatorEnd) := by
  intro text written rest stops
  -- Some operators are the beginning of others: what follows must not complete them.
  have noEqual : ∀ others, rest ≠ '=' :: others := by
    rintro others rfl
    exact absurd (stops '=' others rfl) (by decide)
  have noGreater : ∀ others, rest ≠ '>' :: others := by
    rintro others rfl
    exact absurd (stops '>' others rfl) (by decide)
  cases operator with
  | equal =>
    rcases (Language.mem_add _ _ _).1 written with same | same
    · rw [show text = ['='] from same]
      simp [comparison]
    · rw [show text = ['=', '='] from same]
      simp [comparison]
  | notEqual =>
    rcases (Language.mem_add _ _ _).1 written with same | same
    · rw [show text = ['!', '='] from same]
      simp [comparison]
    · rw [show text = ['<', '>'] from same]
      simp [comparison]
  | greater =>
    rw [show text = ['>'] from written]
    simp [comparison]
  | greaterOrEqual =>
    rw [show text = ['>', '='] from written]
    simp [comparison]
  | less =>
    rw [show text = ['<'] from written]
    simp [comparison]
  | lessOrEqual =>
    rw [show text = ['<', '='] from written]
    simp [comparison]
  | isIn | notIn | between | regex | notRegex => exact absurd written (Language.notMem_zero text)

end SeriesQuery.Language
