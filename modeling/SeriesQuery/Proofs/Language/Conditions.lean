import SeriesQuery.Proofs.Language.Lists

/-!
Readers of conditions take the written forms of conditions, each alternative only its own.
-/

set_option autoImplicit false

namespace SeriesQuery.Language

open Grammar

/-! ## Values and patterns -/

def values : Reader (List Scalar) := fun text => do
  let rest ← char '(' (skipGap text)
  let (items, rest) ← commaList literal (skipGap rest)
  return (items, ← char ')' (skipGap rest))

theorem opens_listed {α : Type} {form : α → Form} {heads : List Char}
    (opens : ∀ a, Opens (form a) heads) (items : List α) : Opens (listed form items) heads := by
  cases items with
  | nil => exact opens_zero heads
  | cons first others => exact (opens first).mul _

theorem opens_open : Opens (exactly "(") ['('] := opens_exactly ⟨_, _, rfl, by decide⟩

theorem opens_close : Opens (exactly ")") [')'] := opens_exactly ⟨_, _, rfl, by decide⟩

theorem reads_values (items : List Scalar) :
    Reads values (blanks * valuesForm items) items Anything := by
  intro text written rest _
  simp only [valuesForm, mul_assoc] at written
  obtain ⟨_, written, outerRead⟩ := skipGap_mem (opens_open.mul _) (by decide) written rest
  obtain ⟨_, written, openRead⟩ := char_mem (c := '(') rfl written rest
  have opensList := (opens_listed opens_literalForm items).mul (blanks * exactly ")")
  obtain ⟨_, written, beforeRead⟩ := skipGap_mem opensList (by decide) written rest
  have listReads : Reads (commaList literal) (listed literalForm items) items (Follows listEnds) :=
    reads_commaList
      (fun value _ text written rest follows =>
        reads_literal value text written rest (Follows.endsNumber follows))
      opens_literalForm (by decide)
  have follows : ∀ found ∈ blanks * exactly ")", Follows listEnds (found ++ rest) :=
    fun _ written => follows_mem opens_close (by decide) (by decide) written rest
  obtain ⟨_, written, listRead⟩ := listReads.mem written rest follows
  obtain ⟨_, written, afterRead⟩ := skipGap_mem opens_close (by decide) written rest
  have closeRead : char ')' (_ ++ rest) = some rest := char_append rfl written rest
  simp only [values, outerRead, openRead, beforeRead, listRead, afterRead, closeRead,
    Option.bind_eq_bind, Option.bind_some]
  rfl

/-! ## Tails -/

theorem listTail_isIn {text rest : List Char} (notNegated : keyword "NOT".toList text = none)
    (word : keyword "IN".toList text = some rest) :
    listTail text = (values rest).map fun (items, rest) => ((.isIn, .list items), rest) := by
  simp only [listTail, notNegated, word]
  simp [values, Option.map_bind]

theorem listTail_notIn {text afterNot afterGap rest : List Char}
    (negation : keyword "NOT".toList text = some afterNot) (space : gap afterNot = some afterGap)
    (word : keyword "IN".toList afterGap = some rest) :
    listTail text = (values rest).map fun (items, rest) => ((.notIn, .list items), rest) := by
  simp only [listTail, negation, space, word, Option.bind_eq_bind, Option.bind_some]
  simp [values, Option.map_bind]

theorem reads_listTail_isIn (items : List Scalar) :
    Reads listTail (tailForm .isIn (.list items)) (.isIn, .list items) Anything := by
  intro text written rest _
  simp only [tailForm, mul_assoc] at written
  have starts := ((opens_spelled rfl).mul _ text written).append rest
  have notNegated : keyword "NOT".toList (text ++ rest) = none :=
    keyword_eq_none_of_starts starts (by decide)
  obtain ⟨_, written, wordRead⟩ := keyword_mem written rest
  rw [listTail_isIn notNegated wordRead, reads_values items _ written rest trivial]
  rfl

theorem reads_listTail_notIn (items : List Scalar) :
    Reads listTail (tailForm .notIn (.list items)) (.notIn, .list items) Anything := by
  intro text written rest _
  simp only [tailForm, mul_assoc] at written
  have opensIn : Opens (spelled "IN") ['i'] := opens_spelled rfl
  obtain ⟨_, written, notRead⟩ := keyword_mem written rest
  obtain ⟨_, written, gapRead⟩ := gap_mem (opensIn.mul _) (by decide) written rest
  obtain ⟨_, written, wordRead⟩ := keyword_mem written rest
  rw [listTail_notIn notRead gapRead wordRead, reads_values items _ written rest trivial]
  rfl

theorem space_endsNumber {form : Form} {text : List Char} (written : text ∈ space * form)
    (rest : List Char) : EndsNumber (text ++ rest) :=
  ((opens_space.mul form text written).append rest).stops caseFree_isNumeric (by decide)

theorem reads_betweenTail (low high : Scalar) :
    Reads betweenTail (tailForm .between (.list [low, high])) (.between, .list [low, high])
      EndsNumber := by
  intro text written rest ends
  simp only [tailForm, mul_assoc] at written
  have opensAnd : Opens (spelled "AND") ['a'] := opens_spelled rfl
  obtain ⟨_, written, wordRead⟩ := keyword_mem written rest
  obtain ⟨_, written, firstRead⟩ :=
    gap_mem ((opens_literalForm low).mul _) (by decide) written rest
  obtain ⟨_, written, lowRead⟩ :=
    (reads_literal low).mem written rest fun _ written => space_endsNumber written rest
  obtain ⟨_, written, secondRead⟩ := gap_mem (opensAnd.mul _) (by decide) written rest
  obtain ⟨_, written, andRead⟩ := keyword_mem written rest
  obtain ⟨_, written, thirdRead⟩ := gap_mem (opens_literalForm high) (by decide) written rest
  simp only [betweenTail, wordRead, firstRead, lowRead, secondRead, andRead, thirdRead,
    reads_literal high _ written rest ends, Option.bind_eq_bind, Option.bind_some]
  rfl

theorem opens_patternForm (pattern : String) : Opens (patternForm pattern) ['/'] := by
  rintro text ⟨-, rfl⟩
  exact ⟨'/', pattern.toList ++ ['/'], rfl, by decide⟩

theorem enclosed_pattern {pattern : String} {text : List Char} (written : text ∈ patternForm pattern)
    (rest : List Char) : enclosed '/' '/' (text ++ rest) = some (pattern.toList, rest) := by
  obtain ⟨missing, rfl⟩ := written
  exact enclosed_append missing rest

theorem enclosed_skipGap {pattern : String} {text : List Char}
    (written : text ∈ blanks * patternForm pattern) (rest : List Char) :
    enclosed '/' '/' (skipGap (text ++ rest)) = some (pattern.toList, rest) := by
  obtain ⟨_, written, read⟩ := skipGap_mem (opens_patternForm pattern) (by decide) written rest
  rw [read]
  exact enclosed_pattern written rest

theorem reads_regexTail (pattern : String) :
    Reads regexTail (tailForm .regex (.scalar (.string pattern)))
      (.regex, .scalar (.string pattern)) Anything := by
  intro text written rest _
  simp only [tailForm, mul_assoc, Language.mem_mul (l := exactly _)] at written
  obtain ⟨first, firstWritten, tail, tailWritten, rfl⟩ := written
  rw [show first = ['=', '~'] from firstWritten]
  simp [regexTail, enclosed_skipGap tailWritten]

theorem reads_notRegexTail (pattern : String) :
    Reads regexTail (tailForm .notRegex (.scalar (.string pattern)))
      (.notRegex, .scalar (.string pattern)) Anything := by
  intro text written rest _
  simp only [tailForm, mul_assoc, Language.mem_mul (l := exactly _)] at written
  obtain ⟨first, firstWritten, tail, tailWritten, rfl⟩ := written
  rw [show first = ['!', '~'] from firstWritten]
  simp [regexTail, enclosed_skipGap tailWritten]

theorem stops_isOperatorEnd {form : Form} {heads : List Char} (opens : Opens form heads)
    (none : ∀ c ∈ gapHeads ++ heads, isOperatorEnd c = false) {text : List Char}
    (written : text ∈ blanks * form) (rest : List Char) : Stops isOperatorEnd (text ++ rest) :=
  ((opens.blanks_mul text written).append rest).stops caseFree_isOperatorEnd none

theorem reads_comparisonTail (operator : Operator) (value : Scalar) :
    Reads comparisonTail (comparedForm operator value) (operator, .scalar value) EndsNumber := by
  intro text written rest ends
  simp only [comparedForm, mul_assoc] at written
  have opens := opens_literalForm value
  obtain ⟨_, written, operatorRead⟩ := (reads_comparison operator).mem written rest fun _ written =>
    stops_isOperatorEnd opens (by decide) written rest
  obtain ⟨_, written, gapRead⟩ := skipGap_mem opens (by decide) written rest
  simp only [comparisonTail, operatorRead, gapRead, reads_literal value _ written rest ends,
    Option.bind_eq_bind, Option.bind_some]
  rfl

/-! ## Alternatives -/

theorem listTail_eq_none {heads text : List Char} (starts : Starts heads text)
    (noN : 'n' ∉ heads) (noI : 'i' ∉ heads) : listTail text = none := by
  have notNegated : keyword "NOT".toList text = none := keyword_eq_none_of_starts starts noN
  have notIn : keyword "IN".toList text = none := keyword_eq_none_of_starts starts noI
  simp only [listTail, notNegated, notIn]
  rfl

theorem betweenTail_eq_none {heads text : List Char} (starts : Starts heads text)
    (noB : 'b' ∉ heads) : betweenTail text = none := by
  have absent : keyword "BETWEEN".toList text = none := keyword_eq_none_of_starts starts noB
  simp only [betweenTail, absent]
  rfl

theorem regexTail_eq_none {operator : Operator} {word : List Char}
    (written : word ∈ operatorForm operator) {rest : List Char} (stops : Stops isOperatorEnd rest) :
    regexTail (word ++ rest) = none := by
  have known : word ∈ [['='], ['=', '='], ['!', '='], ['<', '>'], ['>'], ['>', '='], ['<'],
      ['<', '=']] := by
    cases operator with
    | equal | notEqual =>
      rcases (Language.mem_add _ _ _).1 written with same | same
      · rw [show word = _ from same]
        decide
      · rw [show word = _ from same]
        decide
    | greater | greaterOrEqual | less | lessOrEqual =>
      rw [show word = _ from written]
      decide
    | isIn | notIn | between | regex | notRegex => exact absurd written (Language.notMem_zero word)
  have noTilde : ∀ others, rest ≠ '~' :: others := by
    rintro others rfl
    exact absurd (stops '~' others rfl) (by decide)
  -- Of the operators only this one could go on as the sign of a pattern.
  have single : regexTail ('=' :: rest) = none := by
    cases rest with
    | nil => rfl
    | cons c others =>
      have differ : c ≠ '~' := fun same => noTilde others (same ▸ rfl)
      simp [regexTail, differ]
  simp only [List.mem_cons, List.not_mem_nil, or_false] at known
  rcases known with rfl | rfl | rfl | rfl | rfl | rfl | rfl | rfl
  · exact single
  all_goals simp [regexTail]

theorem regexTail_eq_none_of_compared {operator : Operator} {value : Scalar} {text : List Char}
    (written : text ∈ comparedForm operator value) (rest : List Char) :
    regexTail (text ++ rest) = none := by
  simp only [comparedForm, mul_assoc, Language.mem_mul (l := operatorForm _)] at written
  obtain ⟨word, wordWritten, found, foundWritten, rfl⟩ := written
  rw [List.append_assoc]
  exact regexTail_eq_none wordWritten
    (stops_isOperatorEnd (opens_literalForm value) (by decide) foundWritten rest)

def tail : Reader (Operator × ConditionValue) := fun text =>
  (((listTail text).or (betweenTail text)).or (regexTail text)).or (comparisonTail text)

theorem tail_of_listTail {text : List Char} {found : (Operator × ConditionValue) × List Char}
    (read : listTail text = some found) : tail text = some found := by
  simp only [tail, read, Option.some_or]

theorem tail_of_betweenTail {text : List Char} {found : (Operator × ConditionValue) × List Char}
    (noList : listTail text = none) (read : betweenTail text = some found) :
    tail text = some found := by
  simp only [tail, noList, read, Option.none_or, Option.some_or]

theorem tail_of_regexTail {text : List Char} {found : (Operator × ConditionValue) × List Char}
    {heads : List Char} (starts : Starts heads text) (noWord : ∀ c ∈ ['n', 'i', 'b'], c ∉ heads)
    (read : regexTail text = some found) : tail text = some found := by
  have noList := listTail_eq_none starts (noWord 'n' (by decide)) (noWord 'i' (by decide))
  have noBetween := betweenTail_eq_none starts (noWord 'b' (by decide))
  simp only [tail, noList, noBetween, read, Option.none_or, Option.some_or]

theorem reads_tail (operator : Operator) (value : ConditionValue) :
    Reads tail (tailForm operator value) (operator, value) EndsNumber := by
  intro text written rest ends
  have whole := written
  unfold tailForm at written
  -- The readers are tried in a fixed order: those before the right one must not read this start.
  split at written
  · next values => exact tail_of_listTail (reads_listTail_isIn values text whole rest trivial)
  · next values => exact tail_of_listTail (reads_listTail_notIn values text whole rest trivial)
  · next low high =>
    have starts := ((((((opens_spelled rfl).mul _).mul _).mul _).mul _).mul _).mul _ text written
      |>.append rest
    exact tail_of_betweenTail (listTail_eq_none starts (by decide) (by decide))
      (reads_betweenTail low high text whole rest ends)
  · next pattern =>
    have opens : Opens (exactly "=~") operatorHeads := opens_exactly ⟨_, _, rfl, by decide⟩
    have starts := ((opens.mul _).mul _ text written).append rest
    exact tail_of_regexTail starts (by decide) (reads_regexTail pattern text whole rest trivial)
  · next pattern =>
    have opens : Opens (exactly "!~") operatorHeads := opens_exactly ⟨_, _, rfl, by decide⟩
    have starts := ((opens.mul _).mul _ text written).append rest
    exact tail_of_regexTail starts (by decide) (reads_notRegexTail pattern text whole rest trivial)
  · have starts := ((opens_operatorForm _).mul _).mul _ text written |>.append rest
    have noList := listTail_eq_none starts (by decide) (by decide)
    have noBetween := betweenTail_eq_none starts (by decide)
    have noPattern := regexTail_eq_none_of_compared written rest
    have read := reads_comparisonTail _ _ text written rest ends
    simp only [tail, noList, noBetween, noPattern, read, Option.none_or]
  · exact absurd written (Language.notMem_zero text)

/-! ## Fields and times -/

theorem opens_tailForm (operator : Operator) (value : ConditionValue) :
    Opens (tailForm operator value) ('n' :: 'i' :: 'b' :: operatorHeads) := by
  intro text written
  unfold tailForm at written
  split at written
  · exact (((opens_spelled rfl).mul _).mul _ text written).mono (by decide)
  · exact (((((opens_spelled rfl).mul _).mul _).mul _).mul _ text written).mono (by decide)
  · exact (((((((opens_spelled rfl).mul _).mul _).mul _).mul _).mul _).mul _ text written).mono
      (by decide)
  · exact ((opens_exactly ⟨_, _, rfl, by decide⟩).mul _).mul _ text written
  · exact ((opens_exactly ⟨_, _, rfl, by decide⟩).mul _).mul _ text written
  · exact (((opens_operatorForm _).mul _).mul _ text written).mono (by decide)
  · exact absurd written (Language.notMem_zero text)

theorem reads_fieldCondition (field : String) (operator : Operator) (value : ConditionValue) :
    Reads fieldCondition (nameForm field * blanks * tailForm operator value)
      (field, operator, value) EndsNumber := by
  intro text written rest ends
  rw [mul_assoc] at written
  obtain ⟨_, written, nameRead⟩ := (reads_name field).mem written rest fun _ _ => trivial
  obtain ⟨_, written, gapRead⟩ :=
    skipGap_mem (opens_tailForm operator value) (by decide) written rest
  have read := reads_tail operator value _ written rest ends
  simp only [tail] at read
  simp only [fieldCondition, nameRead, gapRead, read, Option.bind_eq_bind, Option.bind_some]
  rfl

theorem opens_durationForm (value : Duration) : Opens (durationForm value) digitHeads := by
  rintro text ⟨digits, -, rfl⟩
  exact digits.starts.append _

theorem opens_dateForm (instant : Time.Instant) : Opens (dateForm instant) ['\''] := by
  rintro text ⟨date, -, written⟩
  exact opens_quotedForm date text written

theorem mark_mem {form : Form} {heads : List Char} (opens : Opens form heads) (noEqual : '=' ∉ heads)
    {text : List Char} (written : text ∈ (exactly ">" + exactly ">=") * form) (rest : List Char) :
    ∃ after, char '>' (text ++ rest) = some after ∧
      ∃ found ∈ form, (char '=' after).getD after = found ++ rest := by
  obtain ⟨mark, markWritten, found, foundWritten, rfl⟩ := Language.mem_mul.1 written
  rw [List.append_assoc]
  rcases (Language.mem_add _ _ _).1 markWritten with same | same
  · have absent : char '=' (found ++ rest) = none :=
      char_eq_none_of_starts ((opens found foundWritten).append rest) noEqual
    refine ⟨found ++ rest, char_append rfl same _, found, foundWritten, ?_⟩
    rw [absent, Option.getD_none]
  · rw [show mark = ['>', '='] from same]
    exact ⟨'=' :: (found ++ rest), rfl, found, foundWritten, rfl⟩

theorem opens_mark : Opens (exactly ">" + exactly ">=") ['>'] := by
  intro text written
  rcases (Language.mem_add _ _ _).1 written with written | written
  · exact opens_exactly ⟨_, _, rfl, by decide⟩ text written
  · exact opens_exactly ⟨_, _, rfl, by decide⟩ text written

theorem opens_minus : Opens (exactly "-") ['-'] := opens_exactly ⟨_, _, rfl, by decide⟩

/-- A distance from now up to its length. -/
def sinceForm : Form :=
  spelled "time" * blanks * (exactly ">" + exactly ">=") * blanks * spelled "now()" * blanks *
    exactly "-" * blanks

theorem latestItem_append {since rest : List Char} (written : since ∈ sinceForm)
    (stops : Stops Text.isGap rest) : latestItem (since ++ rest) = duration rest := by
  simp only [sinceForm, mul_assoc] at written
  have opensNow : Opens (spelled "now()") ['n'] := opens_spelled rfl
  obtain ⟨_, written, timeRead⟩ := keyword_mem written rest
  obtain ⟨_, written, firstRead⟩ := skipGap_mem (opens_mark.mul _) (by decide) written rest
  obtain ⟨_, markRead, _, written, equalRead⟩ :=
    mark_mem (opensNow.mul _).blanks_mul (by decide) written rest
  obtain ⟨_, written, secondRead⟩ := skipGap_mem (opensNow.mul _) (by decide) written rest
  obtain ⟨_, written, nowRead⟩ := keyword_mem written rest
  obtain ⟨_, written, thirdRead⟩ := skipGap_mem (opens_minus.mul _) (by decide) written rest
  obtain ⟨_, written, minusRead⟩ := char_mem (c := '-') rfl written rest
  simp only [latestItem, timeRead, firstRead, markRead, equalRead, secondRead, nowRead, thirdRead,
    minusRead, skipGap_append written stops, Option.bind_eq_bind, Option.bind_some]

theorem reads_latestItem (value : Duration) :
    Reads latestItem (itemForm (.latest value)) value Anything := by
  intro text written rest _
  obtain ⟨since, sinceWritten, length, lengthWritten, rfl⟩ := Language.mem_mul.1 written
  have stops := ((opens_durationForm value length lengthWritten).append rest).stops caseFree_isGap
    (by decide)
  rw [List.append_assoc, latestItem_append sinceWritten stops]
  exact reads_duration value length lengthWritten rest trivial

theorem reads_boundItem (operator : Operator) (instant : Time.Instant) :
    Reads boundItem (itemForm (.timeBound operator instant)) (operator, instant) Anything := by
  intro text written rest _
  simp only [itemForm, mul_assoc] at written
  have opensDate := opens_dateForm instant
  obtain ⟨_, written, timeRead⟩ := keyword_mem written rest
  obtain ⟨_, written, firstRead⟩ :=
    skipGap_mem ((opens_operatorForm operator).mul _) (by decide) written rest
  obtain ⟨_, written, operatorRead⟩ := (reads_comparison operator).mem written rest
    fun _ written => stops_isOperatorEnd opensDate (by decide) written rest
  obtain ⟨found, ⟨date, dateRead, written⟩, secondRead⟩ :=
    skipGap_mem opensDate (by decide) written rest
  simp only [boundItem, timeRead, firstRead, operatorRead, secondRead,
    reads_quoted date found written rest trivial, dateRead, Option.bind_eq_bind, Option.bind_some]
  rfl

/-- A comparison is one of the two marks of a window that ends now, or starts in another way. -/
theorem mark_or_starts {operator : Operator} {text : List Char}
    (written : text ∈ operatorForm operator) :
    text ∈ exactly ">" + exactly ">=" ∨ Starts ['=', '!', '<'] text := by
  cases operator with
  | greater => exact .inl (.inl written)
  | greaterOrEqual => exact .inl (.inr written)
  | equal | notEqual =>
    right
    rcases (Language.mem_add _ _ _).1 written with written | written
    · exact opens_exactly ⟨_, _, rfl, by decide⟩ text written
    · exact opens_exactly ⟨_, _, rfl, by decide⟩ text written
  | less | lessOrEqual => exact .inr (opens_exactly ⟨_, _, rfl, by decide⟩ text written)
  | isIn | notIn | between | regex | notRegex => exact absurd written (Language.notMem_zero text)

theorem latestItem_eq_none {operator : Operator} {instant : Time.Instant} {text : List Char}
    (written : text ∈ itemForm (.timeBound operator instant)) (rest : List Char) :
    latestItem (text ++ rest) = none := by
  simp only [itemForm, mul_assoc] at written
  have opensDate := opens_dateForm instant
  obtain ⟨_, written, timeRead⟩ := keyword_mem written rest
  obtain ⟨found, written, firstRead⟩ :=
    skipGap_mem ((opens_operatorForm operator).mul _) (by decide) written rest
  simp only [latestItem, timeRead, firstRead, Option.bind_eq_bind, Option.bind_some]
  obtain ⟨word, wordWritten, after, afterWritten, rfl⟩ := Language.mem_mul.1 written
  rcases mark_or_starts wordWritten with mark | starts
  -- A distance may start with the same mark, but a date stands where its `now()` would.
  · have written := Language.mem_mul.2 ⟨word, mark, after, afterWritten, rfl⟩
    obtain ⟨_, markRead, _, written, equalRead⟩ :=
      mark_mem opensDate.blanks_mul (by decide) written rest
    obtain ⟨date, written, secondRead⟩ := skipGap_mem opensDate (by decide) written rest
    have notNow : keyword "now()".toList (date ++ rest) = none :=
      keyword_eq_none_of_starts ((opensDate date written).append rest) (by decide)
    simp only [markRead, equalRead, secondRead, notNow, Option.bind_some, Option.bind_none]
  · have noMark : char '>' (word ++ after ++ rest) = none :=
      char_eq_none_of_starts ((starts.append after).append rest) (by decide)
    simp only [noMark, Option.bind_none]

theorem timeItem_eq_none {text : List Char} (starts : Starts ['"'] text) :
    latestItem text = none ∧ boundItem text = none := by
  have absent : keyword "time".toList text = none :=
    keyword_eq_none_of_starts starts (by decide)
  simp only [latestItem, boundItem, absent]
  exact ⟨rfl, rfl⟩

theorem reads_whereItem (item : WhereItem) :
    Reads whereItem (itemForm item) item EndsNumber := by
  intro text written rest ends
  cases item with
  | latest value =>
    simp only [whereItem, reads_latestItem value text written rest trivial]
  | timeBound operator instant =>
    simp only [whereItem, latestItem_eq_none written,
      reads_boundItem operator instant text written rest trivial]
  | condition field operator value =>
    have starts := (((opens_nameForm field).mul _).mul _ text written).append rest
    obtain ⟨notLatest, notBound⟩ := timeItem_eq_none starts
    simp only [whereItem, notLatest, notBound,
      reads_fieldCondition field operator value text written rest ends, Option.map_some]

end SeriesQuery.Language
