import SeriesQuery.Proofs.Language.Conditions
import SeriesQuery.Proofs.Language.Trimming

/-!
Readers of the selection. The name of a function may be bare, and every other name stands between
quotes.
-/

set_option autoImplicit false

namespace SeriesQuery.Language

open Grammar

/-! ## Bare names -/

theorem caseFree_of_letter {p : Char → Bool}
    (letter : ∀ c, 65 ≤ c.toNat ∧ c.toNat ≤ 90 ∨ 97 ≤ c.toNat ∧ c.toNat ≤ 122 → p c = true) :
    CaseFree p := by
  intro c
  rcases toLower_eq_or c with same | ⟨low, high, lower⟩
  · rw [same]
  · rw [letter c (by omega), letter c.toLower (by omega)]

theorem isAlphabetic_of_letter {c : Char}
    (letter : 65 ≤ c.toNat ∧ c.toNat ≤ 90 ∨ 97 ≤ c.toNat ∧ c.toNat ≤ 122) :
    Text.isAlphabetic c = true := by
  have ascii : c.toNat < 128 := by omega
  rw [Text.isAlphabetic, if_pos ascii]
  apply Bool.or_eq_true_iff.2
  rcases letter with upper | lower
  · left
    exact decide_eq_true upper
  · right
    exact Bool.and_eq_true_iff.2 ⟨decide_eq_true lower.1, decide_eq_true lower.2⟩

theorem caseFree_startsName : CaseFree startsName :=
  caseFree_of_letter fun c letter => by simp [startsName, isAlphabetic_of_letter letter]

theorem caseFree_continuesName : CaseFree continuesName :=
  caseFree_of_letter fun c letter => by
    simp [continuesName, Text.isAlphanumeric, isAlphabetic_of_letter letter]

theorem continuesName_of_isDigit {c : Char} (digit : c.isDigit = true) :
    continuesName c = true := by
  have ascii : c.toNat < 128 := by have := toNat_of_isDigit digit; omega
  simp [continuesName, Text.isAlphanumeric, Text.isNumeric, ascii, digit]

/-- A name that needs no quotes. -/
structure BareName (text : List Char) : Prop where
  starts : ∃ c rest, text = c :: rest ∧ startsName c = true
  continues : ∀ c ∈ text, continuesName c = true

theorem BareName.name_append {text rest : List Char} (bare : BareName text)
    (stops : Stops continuesName rest) : name (text ++ rest) = some (String.ofList text, rest) := by
  obtain ⟨c, others, rfl, first⟩ := bare.starts
  have noQuote : c ≠ '"' := by
    rintro rfl
    exact absurd first (by decide)
  have taken : (others ++ rest).span continuesName = (others, rest) :=
    span_append (fun d member => bare.continues d (List.mem_cons_of_mem _ member)) stops
  rw [List.cons_append, name.eq_def]
  split
  · next same => exact absurd (List.cons.inj same).1 noQuote
  · next same =>
    obtain ⟨rfl, rfl⟩ := List.cons.inj same
    rw [if_pos first, taken]
  · next same => cases same

theorem BareName.mem_nameForm {text : List Char} (bare : BareName text) :
    '"' :: text ++ ['"'] ∈ nameForm (String.ofList text) := by
  refine ⟨?_, ?_, by rw [String.toList_ofList]⟩
  · obtain ⟨c, rest, rfl, -⟩ := bare.starts
    intro same
    have same := congrArg String.toList same
    rw [String.toList_ofList] at same
    cases same
  · rw [String.toList_ofList]
    intro member
    exact absurd (bare.continues _ member) (by decide)

/-- Whether a word is a bare name does not depend on how it is spelled. -/
theorem bareName_of_lower {text lower : List Char} (same : text.map Char.toLower = lower)
    (starts : ∃ c rest, lower = c :: rest ∧ startsName c = true)
    (continues : ∀ c ∈ lower, continuesName c = true) : BareName text := by
  constructor
  · obtain ⟨c, rest, rfl, first⟩ := starts
    obtain ⟨d, others, rfl, rfl, -⟩ := List.map_eq_cons_iff.1 same
    exact ⟨d, others, rfl, caseFree_startsName d ▸ first⟩
  · intro c member
    rw [← caseFree_continuesName]
    exact continues _ (same ▸ List.mem_map_of_mem member)

/-! ## Functions -/

theorem readNat?_digits {digits : Digits} {bound : Nat} (small : digits.value < bound) :
    Decimal.readNat? bound (String.ofList digits.text) = some digits.value := by
  obtain ⟨c, rest, same, digit⟩ := digits.text_eq
  have read := digits.readDigits?
  simp only [Decimal.readNat?, String.toList_ofList]
  rw [same] at read ⊢
  split
  · next plus => cases plus; cases digit
  · rw [read, Option.filter_some, if_pos (by simpa using small)]

theorem ofName?_percentile {text : List Char} :
    AggregateFunction.ofName? (String.ofList ('p' :: text)) =
      AggregateFunction.percentileOfName? ('p' :: text) := by
  have differ {word : String} (starts : word.toList.head? ≠ some 'p') :
      String.ofList ('p' :: text) ≠ word := by
    rintro rfl
    exact starts (by rw [String.toList_ofList]; rfl)
  unfold AggregateFunction.ofName?
  split
  all_goals first
    | next same => exact absurd same (differ (by decide))
    | rw [String.toList_ofList]

theorem percentileOfName?_eq {word : List Char} {digits : Digits} {percent : UInt8}
    (known : word = ['p'] ∨ word = "percentile_".toList) (same : digits.value = percent.toNat)
    (most : digits.value ≤ 100) :
    AggregateFunction.percentileOfName? (word ++ digits.text) = some (.percentile percent) := by
  have read := readNat?_digits (show digits.value < 101 by omega)
  rcases known with rfl | rfl
  · obtain ⟨c, rest, text, digit⟩ := digits.text_eq
    have short : Text.dropStart? "percentile_".toList (['p'] ++ digits.text) = none := by
      rw [text]
      have differ : 'e' ≠ c := by rintro rfl; cases digit
      simp [Text.dropStart?, differ]
    simp only [AggregateFunction.percentileOfName?, short, Text.dropStart?_append,
      Option.bind_some, read, same, Option.map_some, UInt8.ofNat_toNat]
  · simp only [AggregateFunction.percentileOfName?, Text.dropStart?_append, Option.bind_some, read,
      same, Option.map_some, UInt8.ofNat_toNat]

/-- The first letters of the names of functions. -/
def functionHeads : List Char := ['m', 'a', 's', 'c', 'f', 'l', 'p']

/-- What is true of the written names of a function. -/
structure Names (function : AggregateFunction) (text : List Char) : Prop where
  bare : BareName text
  read : AggregateFunction.read? (String.ofList text) = some function
  starts : Starts functionHeads text

theorem names_of_lower {function : AggregateFunction} {text lower : List Char}
    (same : text.map Char.toLower = lower) (starts : ∃ c rest, lower = c :: rest ∧ c ∈ functionHeads)
    (continues : ∀ c ∈ lower, continuesName c = true) (solid : Solid lower)
    (read : AggregateFunction.ofName? (String.ofList lower) = some function) :
    Names function text where
  bare := by
    have letters : ∀ c ∈ functionHeads, startsName c = true := by decide
    obtain ⟨c, rest, split, letter⟩ := starts
    exact bareName_of_lower same ⟨c, rest, split, letters c letter⟩ continues
  read := by
    rw [AggregateFunction.read?, (Solid.of_lower same solid).toSmall_trim, same, read]
  starts := by
    obtain ⟨c, rest, rfl, letter⟩ := starts
    obtain ⟨d, others, rfl, rfl, -⟩ := List.map_eq_cons_iff.1 same
    exact ⟨d, others, rfl, letter⟩

theorem names_percentile {percent : UInt8} {text : List Char}
    (written : text ∈ functionForm (.percentile percent)) : Names (.percentile percent) text := by
  obtain ⟨digits, same, most, written⟩ := written
  obtain ⟨first, firstWritten, last, lastWritten, rfl⟩ := Language.mem_mul.1 written
  rw [show last = digits.text from lastWritten]
  have small : digits.text.map Char.toLower = digits.text := map_toLower_of_digits digits.digits
  -- The digits are the same in either case of letters, whichever word stands before them.
  have finish {word : List Char} (lower : first.map Char.toLower = word)
      (known : word = ['p'] ∨ word = "percentile_".toList) :
      Names (.percentile percent) (first ++ digits.text) := by
    have whole : (first ++ digits.text).map Char.toLower = word ++ digits.text := by
      rw [List.map_append, lower, small]
    have start : ∃ others, word = 'p' :: others := by
      rcases known with rfl | rfl
      · exact ⟨_, rfl⟩
      · exact ⟨_, rfl⟩
    have letters : ∀ c ∈ word, continuesName c = true ∧ Text.isBlank c = false := by
      rcases known with rfl | rfl
      · decide
      · decide
    have read := percentileOfName?_eq known same most
    obtain ⟨others, rfl⟩ := start
    refine names_of_lower whole ⟨'p', _, rfl, by decide⟩ ?_ ?_ ?_
    · intro c member
      rcases List.mem_append.1 member with letter | digit
      · exact (letters c letter).1
      · exact continuesName_of_isDigit (digits.digits c digit)
    · intro c member
      rcases List.mem_append.1 member with letter | digit
      · exact (letters c letter).2
      · exact isBlank_of_isDigit (digits.digits c digit)
    · rw [List.cons_append] at read ⊢
      rw [ofName?_percentile, read]
  rcases (Language.mem_add _ _ _).1 firstWritten with short | long
  · exact finish short (.inl rfl)
  · exact finish long (.inr rfl)

theorem names_of_mem {function : AggregateFunction} {text : List Char}
    (written : text ∈ functionForm function) : Names function text := by
  cases function with
  | mean =>
    rcases (Language.mem_add _ _ _).1 written with written | written
    · rcases (Language.mem_add _ _ _).1 written with written | written
      · exact names_of_lower written ⟨_, _, rfl, by decide⟩ (by decide) (by decide) rfl
      · exact names_of_lower written ⟨_, _, rfl, by decide⟩ (by decide) (by decide) rfl
    · exact names_of_lower written ⟨_, _, rfl, by decide⟩ (by decide) (by decide) rfl
  | stddev =>
    rcases (Language.mem_add _ _ _).1 written with written | written
    · exact names_of_lower written ⟨_, _, rfl, by decide⟩ (by decide) (by decide) rfl
    · exact names_of_lower written ⟨_, _, rfl, by decide⟩ (by decide) (by decide) rfl
  | percentile percent => exact names_percentile written
  | sum | min | max | count | first | last | median | spread =>
    exact names_of_lower written ⟨_, _, rfl, by decide⟩ (by decide) (by decide) rfl

theorem opens_calledForm (function : AggregateFunction) :
    Opens (calledForm function) ('"' :: functionHeads) := by
  intro text written
  rcases (Language.mem_add _ _ _).1 written with written | written
  · exact (names_of_mem written).starts.mono (List.subset_cons_self _ _)
  · rw [mul_assoc] at written
    have opens : Opens (exactly "\"") ('"' :: functionHeads) := opens_exactly ⟨_, _, rfl, by decide⟩
    exact opens.mul _ text written

theorem name_calledForm {function : AggregateFunction} {text : List Char}
    (written : text ∈ calledForm function) {rest : List Char} (stops : Stops continuesName rest) :
    ∃ word, name (text ++ rest) = some (word, rest) ∧
      AggregateFunction.read? word = some function := by
  rcases (Language.mem_add _ _ _).1 written with written | written
  · have names := names_of_mem written
    exact ⟨String.ofList text, names.bare.name_append stops, names.read⟩
  · simp only [mul_assoc, Language.mem_mul (l := exactly _), Language.mem_mul (l := functionForm _)]
      at written
    obtain ⟨first, firstWritten, _, ⟨word, wordWritten, last, lastWritten, rfl⟩, rfl⟩ := written
    have names := names_of_mem wordWritten
    have quotes : first ++ (word ++ last) = '"' :: word ++ ['"'] := by
      rw [show first = ['"'] from firstWritten, show last = ['"'] from lastWritten]
      rfl
    rw [quotes]
    exact ⟨String.ofList word, reads_name _ _ names.bare.mem_nameForm rest trivial, names.read⟩

/-! ## Items -/

theorem opens_measuredForm (field : String) : Opens (measuredForm field) ['"', '*'] := by
  intro text written
  rcases (Language.mem_add _ _ _).1 written with written | written
  · exact (opens_nameForm field text written).mono (by decide)
  · split at written
    · exact opens_exactly ⟨_, _, rfl, by decide⟩ text written
    · exact absurd written (Language.notMem_zero text)

/-- A function is applied to all fields, which need no quotes, or to a named one. -/
theorem measured_mem {field : String} {next : Form} {text : List Char}
    (written : text ∈ measuredForm field * next) (rest : List Char) : ∃ found ∈ next,
      char '*' (text ++ rest) = some (found ++ rest) ∧ field = wildcard ∨
      char '*' (text ++ rest) = none ∧ name (text ++ rest) = some (field, found ++ rest) := by
  obtain ⟨first, firstWritten, found, foundWritten, rfl⟩ := Language.mem_mul.1 written
  refine ⟨found, foundWritten, ?_⟩
  rw [List.append_assoc]
  rcases (Language.mem_add _ _ _).1 firstWritten with named | all
  · have starts := (opens_nameForm field first named).append (found ++ rest)
    exact .inr ⟨char_eq_none_of_starts starts (by decide), reads_name field first named _ trivial⟩
  · split at all
    · next same => exact .inl ⟨char_append rfl all _, same⟩
    · exact absurd all (Language.notMem_zero first)

theorem aliasTail_eq_bind (text : List Char) :
    aliasTail text = (gap text).bind fun text =>
      (keyword "AS".toList text).bind fun rest => (gap rest).bind name := rfl

theorem aliasTail_eq_none {rest : List Char} (follows : Follows itemEnds rest) :
    aliasTail rest = none := by
  have absent : keyword "AS".toList (skipGap rest) = none := follows.keyword_eq_none (by decide)
  rw [aliasTail_eq_bind]
  apply gap_bind_eq_none
  rw [absent, Option.bind_none]

theorem reads_aliasTail (alias? : Option String) {text : List Char}
    (written : text ∈ aliasForm alias?) {rest : List Char} (follows : Follows itemEnds rest) :
    Grammar.optional aliasTail (text ++ rest) = (alias?, rest) := by
  cases alias? with
  | none =>
    rw [show text = [] from written, List.nil_append]
    simp only [Grammar.optional, aliasTail_eq_none follows]
  | some column =>
    simp only [aliasForm, mul_assoc] at written
    have opensAs : Opens (spelled "AS") ['a'] := opens_spelled rfl
    obtain ⟨_, written, firstRead⟩ := gap_mem (opensAs.mul _) (by decide) written rest
    obtain ⟨_, written, wordRead⟩ := keyword_mem written rest
    obtain ⟨_, written, secondRead⟩ := gap_mem (opens_nameForm column) (by decide) written rest
    simp only [Grammar.optional, aliasTail, firstRead, wordRead, secondRead,
      reads_name column _ written rest trivial, Option.bind_eq_bind, Option.bind_some]

theorem reads_aggregateItem (function : AggregateFunction) (field : String)
    (alias? : Option String) :
    Reads aggregateItem (selectForm (.aggregate function field alias?))
      (.aggregate function field alias?) (Follows itemEnds) := by
  intro text written rest follows
  simp only [selectForm, mul_assoc] at written
  obtain ⟨called, calledWritten, after, afterWritten, rfl⟩ := Language.mem_mul.1 written
  have stops : Stops continuesName (after ++ rest) := by
    have opens := (opens_open.mul (blanks * (measuredForm field * (blanks * (exactly ")" *
      aliasForm alias?))))).blanks_mul
    exact ((opens after afterWritten).append rest).stops caseFree_continuesName (by decide)
  obtain ⟨word, wordRead, functionRead⟩ := name_calledForm calledWritten stops
  -- Each reader takes its part of the form and leaves the rest to the next one.
  obtain ⟨_, written, firstRead⟩ := skipGap_mem (opens_open.mul _) (by decide) afterWritten rest
  obtain ⟨_, written, openRead⟩ := char_mem (c := '(') rfl written rest
  obtain ⟨_, written, secondRead⟩ :=
    skipGap_mem ((opens_measuredForm field).mul _) (by decide) written rest
  obtain ⟨_, written, fieldRead⟩ := measured_mem written rest
  obtain ⟨_, written, thirdRead⟩ := skipGap_mem (opens_close.mul _) (by decide) written rest
  obtain ⟨_, written, closeRead⟩ := char_mem (c := ')') rfl written rest
  have aliasRead := reads_aliasTail alias? written follows
  rw [List.append_assoc]
  rcases fieldRead with ⟨isAll, rfl⟩ | ⟨notAll, nameRead⟩
  · simp only [aggregateItem, wordRead, functionRead, firstRead, openRead, secondRead, isAll,
      thirdRead, closeRead, aliasRead, Option.bind_eq_bind, Option.bind_some]
    rfl
  · simp only [aggregateItem, wordRead, functionRead, firstRead, openRead, secondRead, notAll,
      nameRead, thirdRead, closeRead, aliasRead, Option.bind_eq_bind, Option.bind_some]
    rfl

theorem aggregateItem_eq_none {field : String} {text : List Char}
    (written : text ∈ nameForm field) {rest : List Char} (follows : Follows itemEnds rest) :
    aggregateItem (text ++ rest) = none := by
  have noOpen : char '(' (skipGap rest) = none := follows.char_eq_none (by decide)
  simp only [aggregateItem, reads_name field text written rest trivial, noOpen,
    Option.bind_eq_bind, Option.bind_some, Option.bind_none, Option.bind_fun_none]

theorem opens_selectForm (item : SelectItem) :
    Opens (selectForm item) ('*' :: '"' :: functionHeads) := by
  intro text written
  cases item with
  | all => exact opens_exactly ⟨_, _, rfl, by decide⟩ text written
  | field field => exact (opens_nameForm field text written).mono (by decide)
  | aggregate function field alias? =>
    simp only [selectForm, mul_assoc] at written
    exact ((opens_calledForm function).mul _ text written).mono (List.subset_cons_self _ _)

theorem reads_selectItem (item : SelectItem) :
    Reads selectItem (selectForm item) item (Follows itemEnds) := by
  intro text written rest follows
  cases item with
  | all =>
    have isAll : char '*' (text ++ rest) = some rest := char_append rfl written rest
    simp only [selectItem, isAll]
  | field field =>
    have notAll : char '*' (text ++ rest) = none :=
      char_eq_none_of_starts ((opens_nameForm field text written).append rest) (by decide)
    simp only [selectItem, notAll, aggregateItem_eq_none written follows,
      reads_name field text written rest trivial, Option.none_or, Option.map_some]
  | aggregate function field alias? =>
    have read := reads_aggregateItem function field alias? text written rest follows
    simp only [selectForm, mul_assoc] at written
    have starts := ((opens_calledForm function).mul _ text written).append rest
    have notAll : char '*' (text ++ rest) = none := char_eq_none_of_starts starts (by decide)
    simp only [selectItem, notAll, read, Option.some_or]

/-! ## The clause -/

theorem distinct_mem {distinct : Bool} {next : Form}
    (opens : Opens next ('*' :: '"' :: functionHeads)) {text : List Char}
    (written : text ∈ distinctForm distinct * next) (rest : List Char) : ∃ found ∈ next,
      (keyword "DISTINCT".toList (text ++ rest)).bind gap = some (found ++ rest) ∧
        distinct = true ∨
      (keyword "DISTINCT".toList (text ++ rest)).bind gap = none ∧ text = found ∧
        distinct = false := by
  cases distinct with
  | true =>
    simp only [distinctForm, if_true, mul_assoc] at written
    obtain ⟨_, written, wordRead⟩ := keyword_mem written rest
    obtain ⟨found, written, gapRead⟩ := gap_mem opens (by decide) written rest
    exact ⟨found, written, .inl ⟨by rw [wordRead, Option.bind_some, gapRead], rfl⟩⟩
  | false =>
    have written : text ∈ next := by simpa [distinctForm] using written
    have absent : keyword "DISTINCT".toList (text ++ rest) = none :=
      keyword_eq_none_of_starts ((opens text written).append rest) (by decide)
    exact ⟨text, written, .inr ⟨by rw [absent, Option.bind_none], rfl, rfl⟩⟩

theorem opens_distinctForm_mul {distinct : Bool} {next : Form} {heads : List Char}
    (opens : Opens next heads) : Opens (distinctForm distinct * next) ('d' :: heads) := by
  intro text written
  cases distinct with
  | true =>
    simp only [distinctForm, if_true, mul_assoc] at written
    have opensWord : Opens (spelled "DISTINCT") ['d'] := opens_spelled rfl
    exact (opensWord.mul _ text written).mono (by simp)
  | false =>
    have written : text ∈ next := by simpa [distinctForm] using written
    exact (opens text written).mono (List.subset_cons_self _ _)

theorem reads_selectClause (distinct : Bool) (items : List SelectItem) :
    Reads selectClause
      (spelled "SELECT" * (space * (distinctForm distinct * listed selectForm items)))
      (distinct, items) (Follows listEnds) := by
  intro text written rest follows
  have opens := opens_listed opens_selectForm items
  have reads : Reads (commaList selectItem) (listed selectForm items) items (Follows listEnds) :=
    reads_commaList (fun item _ => reads_selectItem item) opens_selectForm (by decide)
  obtain ⟨_, written, wordRead⟩ := keyword_mem written rest
  obtain ⟨_, written, gapRead⟩ :=
    gap_mem (opens_distinctForm_mul opens) (by decide) written rest
  obtain ⟨found, written, distinctRead⟩ := distinct_mem opens written rest
  have listRead := reads found written rest follows
  rcases distinctRead with ⟨present, rfl⟩ | ⟨absent, rfl, rfl⟩
  · simp only [selectClause, wordRead, gapRead, present, listRead, Option.bind_eq_bind,
      Option.bind_some]
    rfl
  · simp only [selectClause, wordRead, gapRead, absent, listRead, Option.bind_eq_bind,
      Option.bind_some]
    rfl

end SeriesQuery.Language
