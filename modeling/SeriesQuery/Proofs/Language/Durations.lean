import SeriesQuery.Proofs.Language.SingleConditions
import SeriesQuery.Proofs.Outcomes
import SeriesQuery.Proofs.Text.Padding

/-!
Lengths of time. A text is one exactly when it is digits and a unit with an amount of 32 bits, and
the query language takes the same texts for the distance of a window from now.
-/

set_option autoImplicit false

namespace SeriesQuery.Language

open Grammar

/-! ## Texts -/

theorem ofChars?_eq_some_iff {text : List Char} {value : Duration} :
    Duration.ofChars? text = some value ↔ text ∈ durationForm value := by
  constructor
  · intro read
    unfold Duration.ofChars? at read
    split at read
    · cases read
    · next symbol reversed same =>
      split at read
      · next unit amount known number =>
        obtain ⟨digits, digitsText, rfl⟩ := exists_of_readDigits? number
        split at read
        · next fits =>
          cases read
          refine ⟨digits, (UInt32.toNat_ofNat_of_lt' fits).symm, ?_⟩
          rw [digitsText, ← DurationUnit.eq_symbol_of_ofSymbol? known, ← List.reverse_cons, ← same,
            List.reverse_reverse]
        · cases read
      · cases read
  · rintro ⟨digits, same, rfl⟩
    exact ofChars?_append digits value same

theorem solid_durationForm {value : Duration} {text : List Char}
    (written : text ∈ durationForm value) : Solid text := by
  obtain ⟨digits, -, rfl⟩ := written
  refine digits.solid.append (List.forall_mem_singleton.2 ?_)
  cases value.unit <;> rfl

theorem read?_eq_some_iff (text : String) (value : Duration) :
    Duration.read? text = some value ↔ ∃ digits : Digits, digits.value = value.amount.toNat ∧
      Text.Padded (digits.text ++ [value.unit.symbol]) text.toList := by
  rw [Duration.read?, ofChars?_eq_some_iff]
  refine exists_congr fun digits => and_congr_right fun same => ?_
  have written : digits.text ++ [value.unit.symbol] ∈ durationForm value := ⟨digits, same, rfl⟩
  have solid := solid_durationForm written
  exact Text.trimChars_eq_iff_padded (closed_durationForm value _ written).1 solid.stops
    solid.endsSolid

theorem exists_read?_iff (text : String) :
    (∃ value, Duration.read? text = some value) ↔
      ∃ (digits : Digits) (unit : DurationUnit), digits.value ≤ 4294967295 ∧
        Text.Padded (digits.text ++ [unit.symbol]) text.toList := by
  constructor
  · rintro ⟨value, read⟩
    obtain ⟨digits, same, padded⟩ := (read?_eq_some_iff text value).1 read
    refine ⟨digits, value.unit, ?_, padded⟩
    rw [same]
    exact Nat.le_of_lt_succ value.amount.toNat_lt_size
  · rintro ⟨digits, unit, fits, padded⟩
    refine ⟨⟨UInt32.ofNat digits.value, unit⟩, (read?_eq_some_iff text _).2 ⟨digits, ?_, padded⟩⟩
    exact (UInt32.toNat_ofNat_of_lt' (Nat.lt_succ_of_le fits)).symm

/-- No digits but those of ASCII count, and any white space may stand around them. -/
example : Duration.read? "\u0663d" = none ∧ Duration.read? "\u00a0007w\n" = some ⟨7, .weeks⟩ := by
  decide

theorem read?_of_solid {text : List Char} (solid : Solid text) :
    Duration.read? (String.ofList text) = Duration.ofChars? text := by
  rw [Duration.read?, String.toList_ofList, solid.trimChars_eq]

theorem read?_text (value : Duration) : Duration.read? value.text = some value := by
  have written : value.text.toList ∈ durationForm value := by
    refine ⟨.ofNat value.amount.toNat, Digits.value_ofNat _, ?_⟩
    rw [Duration.text, Duration.amountText, String.toList_append, Digits.toList_toString,
      String.toList_singleton]
  rw [← String.ofList_toList (s := value.text), read?_of_solid (solid_durationForm written),
    ofChars?_eq_some_iff]
  exact written

/-! ## The reader of lengths -/

theorem eq_append_of_durationText {text found rest : List Char}
    (read : durationText text = some (found, rest)) : text = found ++ rest := by
  obtain ⟨⟨digits, behind⟩, taken, read⟩ := Option.bind_eq_some_iff.1 read
  cases behind with
  | nil => cases read
  | cons symbol behind =>
    dsimp only at read
    split at read
    · cases read
      rw [eq_append_of_stretch taken, List.append_assoc, List.singleton_append]
    · cases read

/-- The reader takes exactly the written forms of lengths, whatever follows them. -/
theorem duration_eq_some_iff {text rest : List Char} {value : Duration} :
    duration text = some (value, rest) ↔ ∃ written ∈ durationForm value, text = written ++ rest := by
  constructor
  · intro read
    obtain ⟨⟨found, behind⟩, taken, read⟩ := Option.bind_eq_some_iff.1 read
    obtain ⟨known, understood, same⟩ := Option.bind_eq_some_iff.1 read
    cases same
    exact ⟨found, ofChars?_eq_some_iff.1 understood, eq_append_of_durationText taken⟩
  · rintro ⟨written, isForm, rfl⟩
    exact reads_duration value written isForm rest trivial

/-- Of digits with a letter, the reader takes both, or nothing. -/
theorem duration_append (digits : Digits) {letter : Char} (noDigit : letter.isDigit = false)
    (rest : List Char) :
    duration (digits.text ++ letter :: rest) =
      (Duration.ofChars? (digits.text ++ [letter])).map fun value => (value, rest) := by
  have taken := digits.stretch_append (stops_cons noDigit rest)
  unfold duration durationText
  simp only [taken, Option.bind_eq_bind, Option.bind_some]
  cases known : DurationUnit.ofSymbol? letter with
  | none =>
    have unknown : Duration.ofChars? (digits.text ++ [letter]) = none := by
      simp only [Duration.ofChars?, List.reverse_append, List.reverse_singleton,
        List.singleton_append, known]
    rw [unknown]
    rfl
  | some unit =>
    simp only [Option.isSome_some, if_true]
    exact Option.map_eq_bind.symm

/-! ## Items -/

theorem literal_now {text : List Char} (written : text ∈ spelled "now()") (rest : List Char) :
    literal (text ++ rest) = none := by
  have starts : Starts ['n'] (text ++ rest) := (opens_spelled rfl text written).append rest
  have notTrue : keyword "true".toList (text ++ rest) = none :=
    keyword_eq_none_of_starts starts (by decide)
  have notFalse : keyword "false".toList (text ++ rest) = none :=
    keyword_eq_none_of_starts starts (by decide)
  have notNull : keyword "null".toList (text ++ rest) = none :=
    keyword_eq_none_of_clash rest written (by decide)
  have noNumber : number (text ++ rest) = none := number_eq_none starts (by decide)
  simp only [literal, quoted_eq_none starts (by decide), notTrue, notFalse, notNull, noNumber]

theorem comparison_of_since {since : List Char} (written : since ∈ sinceForm) (rest : List Char) :
    ∃ after operator behind, keyword "time".toList (since ++ rest) = some after ∧
      Starts ['>'] (skipGap after) ∧ comparison (skipGap after) = some (operator, behind) ∧
      regexTail (skipGap after) = none ∧ quoted (skipGap behind) = none ∧
      literal (skipGap behind) = none := by
  simp only [sinceForm, mul_assoc] at written
  have opensNow : Opens (spelled "now()") ['n'] := opens_spelled rfl
  obtain ⟨_, written, timeRead⟩ := keyword_mem written rest
  obtain ⟨found, written, firstRead⟩ := skipGap_mem (opens_mark.mul _) (by decide) written rest
  have starts : Starts ['>'] (found ++ rest) := (opens_mark.mul _ found written).append rest
  obtain ⟨mark, markWritten, behind, behindWritten, rfl⟩ := Language.mem_mul.1 written
  obtain ⟨operator, operatorWritten⟩ : ∃ operator, mark ∈ operatorForm operator :=
    ((Language.mem_add _ _ _).1 markWritten).elim (fun same => ⟨.greater, same⟩)
      fun same => ⟨.greaterOrEqual, same⟩
  -- Behind the operator stands the word `now()`, which no reader of values takes.
  have ended := stops_isOperatorEnd (opensNow.mul _) (by decide) behindWritten rest
  obtain ⟨now, nowWritten, secondRead⟩ :=
    skipGap_mem (opensNow.mul _) (by decide) behindWritten rest
  have noQuote := quoted_eq_none ((opensNow.mul _ now nowWritten).append rest) (by decide)
  obtain ⟨word, wordWritten, last, -, rfl⟩ := Language.mem_mul.1 nowWritten
  have noValue := literal_now wordWritten (last ++ rest)
  rw [← List.append_assoc] at noValue
  rw [List.append_assoc] at firstRead starts
  refine ⟨_, operator, behind ++ rest, timeRead, ?_, ?_, ?_, ?_, ?_⟩
  · rw [firstRead]
    exact starts
  · rw [firstRead]
    exact reads_comparison operator mark operatorWritten _ ended
  · rw [firstRead]
    exact regexTail_eq_none operatorWritten ended
  · rw [secondRead]
    exact noQuote
  · rw [secondRead]
    exact noValue

theorem boundItem_since {since : List Char} (written : since ∈ sinceForm) (rest : List Char) :
    boundItem (since ++ rest) = none := by
  obtain ⟨after, operator, behind, word, -, compared, -, noQuote, -⟩ :=
    comparison_of_since written rest
  simp only [boundItem, word, compared, noQuote, Option.bind_eq_bind, Option.bind_some,
    Option.bind_none]

theorem fieldCondition_since {since : List Char} (written : since ∈ sinceForm)
    (rest : List Char) : fieldCondition (since ++ rest) = none := by
  obtain ⟨after, operator, behind, word, starts, compared, noPattern, -, noValue⟩ :=
    comparison_of_since written rest
  obtain ⟨field, named, -⟩ := name_of_time word (starts.mono (by decide))
  have noList := listTail_eq_none starts (by decide) (by decide)
  have noBetween := betweenTail_eq_none starts (by decide)
  have noComparison : comparisonTail (skipGap after) = none := by
    simp only [comparisonTail, compared, noValue, Option.bind_eq_bind, Option.bind_some,
      Option.bind_none]
  simp only [fieldCondition, named, noList, noBetween, noPattern, noComparison, Option.none_or,
    Option.bind_eq_bind, Option.bind_some, Option.bind_none]

/-- Without a length, there is nothing else that the item could be. -/
theorem whereItem_append {since rest : List Char} (written : since ∈ sinceForm)
    (stops : Stops Text.isGap rest) :
    whereItem (since ++ rest) =
      (duration rest).map fun (value, rest) => (.latest value, rest) := by
  rw [whereItem, latestItem_append written stops, boundItem_since written rest,
    fieldCondition_since written rest]
  cases duration rest <;> rfl

theorem whereItem_digits {since : List Char} (written : since ∈ sinceForm) (digits : Digits)
    {letter : Char} (noDigit : letter.isDigit = false) (visible : Text.isBlank letter = false)
    (rest : List Char) :
    whereItem (since ++ (digits.text ++ letter :: rest)) =
      (Duration.read? (String.ofList (digits.text ++ [letter]))).map
        fun value => (.latest value, rest) := by
  have stops : Stops Text.isGap (digits.text ++ letter :: rest) :=
    (digits.starts.append _).stops caseFree_isGap (by decide)
  have solid : Solid (digits.text ++ [letter]) :=
    digits.solid.append (List.forall_mem_singleton.2 visible)
  rw [whereItem_append written stops, duration_append digits noDigit, read?_of_solid solid,
    Option.map_map]
  rfl

theorem stops_since {since : List Char} (written : since ∈ sinceForm) (rest : List Char) :
    Stops Text.isGap (since ++ rest) := by
  simp only [sinceForm, mul_assoc] at written
  have starts : Starts ['t'] (since ++ rest) := ((opens_spelled rfl).mul _ since written).append rest
  exact starts.stops caseFree_isGap (by decide)

/-! ## Queries -/

/-- A name between quotes, or one that needs none. -/
def givenForm (name : String) : Form :=
  {text | text ∈ nameForm name ∨ BareName text ∧ text = name.toList}

theorem reads_givenForm (given : String) :
    Reads name (givenForm given) given (Stops continuesName) := by
  intro text written rest stops
  rcases written with quoted | ⟨bare, rfl⟩
  · exact reads_name given text quoted rest trivial
  · rw [bare.name_append stops, String.ofList_toList]

theorem stops_givenForm {given : String} {text : List Char} (written : text ∈ givenForm given)
    (rest : List Char) : Stops Text.isGap (text ++ rest) := by
  rcases written with quoted | ⟨bare, -⟩
  · exact ((opens_nameForm given text quoted).append rest).stops caseFree_isGap (by decide)
  · exact bare.stops_gap rest

/-- A query up to the first of its conditions. -/
def leadForm (distinct : Bool) (selection : List SelectItem) (measurement : String) : Form :=
  selectionForm distinct selection * (givenForm measurement * whereLead)

def plainClauses (distinct : Bool) (selection : List SelectItem) (measurement : String)
    (conditions : List (Connective × WhereItem)) : Clauses :=
  ⟨distinct, selection, measurement, conditions, [], none, none, [], none, none⟩

theorem noClause_of_stops {rest : List Char} (stops : Stops Text.isGap rest) : NoClause rest := by
  intro word member
  rw [gap_eq_none stops, Option.bind_none]

theorem noClause_whereLead {lead : List Char} (written : lead ∈ whereLead) (rest : List Char) :
    NoClause (lead ++ rest) := by
  have opensWord : Opens (spelled "WHERE") ['w'] := opens_spelled rfl
  obtain ⟨found, written, gapRead⟩ := gap_mem (opensWord.mul _) (by decide) written rest
  have starts : Starts ['w'] (found ++ rest) := (opensWord.mul _ found written).append rest
  intro word member
  rw [gapRead, Option.bind_some]
  simp only [wordsAfterWhere, List.mem_cons, List.not_mem_nil, or_false] at member
  rcases member with rfl | rfl | rfl | rfl | rfl | rfl
  all_goals exact keyword_eq_none_of_starts starts (by decide)

theorem opens_leadForm (distinct : Bool) (selection : List SelectItem) (measurement : String) :
    Opens (leadForm distinct selection measurement) ['s'] :=
  (((opens_spelled rfl).mul _).mul _).mul _

theorem clauses_lead {distinct : Bool} {selection : List SelectItem} {measurement : String}
    {lead : List Char} (written : lead ∈ leadForm distinct selection measurement)
    (text : List Char) : ∃ word ∈ whereLead,
      clauses (lead ++ text) = restClauses distinct selection measurement (word ++ text) := by
  obtain ⟨front, frontWritten, behind, behindWritten, rfl⟩ := Language.mem_mul.1 written
  obtain ⟨measured, nameWritten, word, wordWritten, rfl⟩ := Language.mem_mul.1 behindWritten
  have stops : Stops continuesName (word ++ text) :=
    ((opens_space.mul _ word wordWritten).append text).stops caseFree_continuesName (by decide)
  refine ⟨word, wordWritten, ?_⟩
  rw [List.append_assoc, List.append_assoc]
  exact clauses_append frontWritten (stops_givenForm nameWritten _)
    (reads_givenForm measurement measured nameWritten _ stops)

/-- What follows the length has no gap, so that nothing is read from it. -/
theorem repeated_joinedItem {rest : List Char} (stops : Stops Text.isGap rest) :
    repeated joinedItem rest = ([], rest) := by
  have noItem : joinedItem rest = none := by
    simp only [joinedItem, connective_eq_bind, gap_eq_none stops]
    rfl
  rw [repeated, noItem]

section
variable {distinct : Bool} {selection : List SelectItem} {measurement : String}
  {lead since token : List Char} (leadWritten : lead ∈ leadForm distinct selection measurement)
  (sinceWritten : since ∈ sinceForm) (solid : Solid token)
include leadWritten sinceWritten solid

theorem clauses_of_duration {value : Duration} {rest : List Char}
    (read : duration token = some (value, rest)) :
    clauses (lead ++ (since ++ token)) =
      some (plainClauses distinct selection measurement [(.and, .latest value)], rest) := by
  obtain ⟨word, wordWritten, parsed⟩ := clauses_lead leadWritten (since ++ token)
  have stops : Stops Text.isGap rest := by
    obtain ⟨written, -, rfl⟩ := duration_eq_some_iff.1 read
    exact Solid.stops_gap fun c member => solid c (List.mem_append_right _ member)
  have noGap : Stops Text.isGap (since ++ token) := stops_since sinceWritten token
  have whereRead : clause whereClause (word ++ (since ++ token)) =
      (some [(.and, .latest value)], rest) := by
    rw [clause_whereClause wordWritten noGap, whereItem_append sinceWritten solid.stops_gap, read]
    simp only [Option.map_some, repeated_joinedItem stops]
  rw [parsed, restClauses_of_noClause whereRead (noClause_of_stops stops), skipGap_of_stops stops]
  rfl

theorem clauses_of_no_duration (nonempty : token ≠ []) (read : duration token = none) :
    ∃ rest, clauses (lead ++ (since ++ token)) =
        some (plainClauses distinct selection measurement [], rest) ∧
      ¬ ∀ c ∈ rest, Text.isBlank c = true := by
  obtain ⟨word, wordWritten, parsed⟩ := clauses_lead leadWritten (since ++ token)
  have noGap : Stops Text.isGap (since ++ token) := stops_since sinceWritten token
  have whereRead : clause whereClause (word ++ (since ++ token)) =
      (none, word ++ (since ++ token)) := by
    rw [clause_whereClause wordWritten noGap, whereItem_append sinceWritten solid.stops_gap, read]
    rfl
  refine ⟨_, parsed.trans
    (restClauses_of_noClause whereRead (noClause_whereLead wordWritten (since ++ token))), ?_⟩
  intro blank
  refine nonempty (solid.eq_nil_of_blank fun c member => blank_of_skipGap blank c ?_)
  exact List.mem_append_right _ (List.mem_append_right _ member)

theorem readQuery_since_eq_ok_iff (nonempty : token ≠ []) (now : Time.Instant) (query : Query) :
    readQuery now (String.ofList (lead ++ (since ++ token))) = .ok query ↔
      ∃ value, Duration.ofChars? token = some value ∧
        (plainClauses distinct selection measurement [(.and, .latest value)]).query now = query := by
  have starts : Stops Text.isBlank (lead ++ (since ++ token)) :=
    ((opens_leadForm _ _ _ lead leadWritten).append _).stops caseFree_isBlank (by decide)
  have ends : EndsSolid (lead ++ (since ++ token)) := by
    rw [← List.append_assoc]
    exact endsSolid_append nonempty solid.endsSolid
  rw [readQuery_eq_ok_iff, String.toList_ofList, trimChars_eq starts ends]
  constructor
  · rintro ⟨found, rest, parsed, blank, built⟩
    cases read : duration token with
    | none =>
      obtain ⟨left, same, solidLeft⟩ :=
        clauses_of_no_duration leadWritten sinceWritten solid nonempty read
      rw [parsed] at same
      cases same
      exact absurd blank solidLeft
    | some taken =>
      obtain ⟨value, left⟩ := taken
      rw [clauses_of_duration leadWritten sinceWritten solid read] at parsed
      cases parsed
      -- What is left is white space, and a solid text has none: the length is all of it.
      obtain ⟨written, isForm, same⟩ := duration_eq_some_iff.1 read
      have behind : Solid rest := fun c member => solid c (same ▸ List.mem_append_right _ member)
      rw [behind.eq_nil_of_blank blank, List.append_nil] at same
      exact ⟨value, ofChars?_eq_some_iff.2 (same ▸ isForm), built⟩
  · rintro ⟨value, read, built⟩
    have taken : duration token = some (value, []) :=
      duration_eq_some_iff.2 ⟨token, ofChars?_eq_some_iff.1 read, (List.append_nil token).symm⟩
    exact ⟨_, [], clauses_of_duration leadWritten sinceWritten solid taken,
      List.forall_mem_nil _, built⟩

end

/-- A text is read as a length exactly when it is digits and the letter of a unit with white space
around them, and the number fits 32 bits; the printed text is one of them. In a query, behind
`time >= now() -`, digits with a letter are taken as the same length, wherever the item stands and
whatever follows; a query that ends with any other solid text there is refused. -/
theorem durations_agree {distinct : Bool} {selection : List SelectItem} {measurement : String}
    {lead since : List Char} (leadWritten : lead ∈ leadForm distinct selection measurement)
    (sinceWritten : since ∈ sinceForm) (now : Time.Instant) :
    (∀ text value, Duration.read? text = some value ↔
      ∃ digits : Digits, digits.value = value.amount.toNat ∧
        Text.Padded (digits.text ++ [value.unit.symbol]) text.toList) ∧
    (∀ text, (∃ value, Duration.read? text = some value) ↔
      ∃ (digits : Digits) (unit : DurationUnit), digits.value ≤ 4294967295 ∧
        Text.Padded (digits.text ++ [unit.symbol]) text.toList) ∧
    (∀ value : Duration, Duration.read? value.text = some value) ∧
    (∀ (digits : Digits) (letter : Char) (rest : List Char), letter.isDigit = false →
      Text.isBlank letter = false →
        whereItem (since ++ (digits.text ++ letter :: rest)) =
          (Duration.read? (String.ofList (digits.text ++ [letter]))).map
            fun value => (.latest value, rest)) ∧
    ∀ token, token ≠ [] → Solid token →
      (∀ value, (∃ query, readQuery now (String.ofList (lead ++ (since ++ token))) = .ok query ∧
          query.time = .relative value) ↔ Duration.read? (String.ofList token) = some value) ∧
      ((∃ problem, readQuery now (String.ofList (lead ++ (since ++ token))) = .error problem) ↔
        Duration.read? (String.ofList token) = none) := by
  refine ⟨read?_eq_some_iff, exists_read?_iff, read?_text, ?_, ?_⟩
  · intro digits letter rest noDigit visible
    exact whereItem_digits sinceWritten digits noDigit visible rest
  · intro token nonempty solid
    have accepted := readQuery_since_eq_ok_iff leadWritten sinceWritten solid nonempty now
    rw [read?_of_solid solid, exists_error_iff]
    simp only [accepted]
    constructor
    · intro value
      constructor
      · rintro ⟨query, ⟨found, read, rfl⟩, time⟩
        rw [Clauses.time_query] at time
        cases time
        exact read
      · intro read
        exact ⟨_, ⟨value, read, rfl⟩, Clauses.time_query now⟩
    · rw [Option.eq_none_iff_forall_ne_some]
      constructor
      · intro refused value read
        exact refused ⟨_, value, read, rfl⟩
      · rintro nothing ⟨query, value, read, -⟩
        exact nothing value read

def cpuLead : List Char := "SELECT * FROM ".toList ++ ("cpu".toList ++ " WHERE ".toList)

def looseSince : List Char :=
  "Time".toList ++ (" ".toList ++ (">".toList ++ ([] ++
    ("NOW()".toList ++ ("\t".toList ++ ("-".toList ++ []))))))

theorem cpuLead_mem : cpuLead ∈ leadForm false [.all] "cpu" := by
  have bare : "cpu".toList ∈ givenForm "cpu" := .inr ⟨⟨⟨'c', _, rfl, by decide⟩, by decide⟩, rfl⟩
  exact Language.append_mem_mul wildcard_mem_selectionForm
    (Language.append_mem_mul bare where_mem_whereLead)

theorem looseSince_mem : looseSince ∈ sinceForm := by
  have time : "Time".toList ∈ spelled "time" :=
    (by decide : "Time".toList.map Char.toLower = "time".toList.map Char.toLower)
  have now : "NOW()".toList ∈ spelled "now()" :=
    (by decide : "NOW()".toList.map Char.toLower = "now()".toList.map Char.toLower)
  have nothing : [] ∈ blanks := List.forall_mem_nil _
  have tab : "\t".toList ∈ blanks := show ∀ c ∈ "\t".toList, Text.isGap c = true by decide
  unfold sinceForm looseSince
  simp only [mul_assoc]
  apply Language.append_mem_mul time
  apply Language.append_mem_mul blank_mem_space.2
  apply Language.append_mem_mul (.inl rfl)
  apply Language.append_mem_mul nothing
  apply Language.append_mem_mul now
  apply Language.append_mem_mul tab
  exact Language.append_mem_mul rfl nothing

/-- With leading zeros seven weeks are read; an amount of 33 bits is refused and does not wrap. -/
theorem durations_agree_weeks :
    cpuLead ∈ leadForm false [.all] "cpu" ∧ looseSince ∈ sinceForm ∧
      (∃ query, readQuery .earliest "SELECT * FROM cpu WHERE Time >NOW()\t-007w" = .ok query ∧
        query.time = .relative ⟨7, .weeks⟩) ∧
      ∃ problem, readQuery .earliest "SELECT * FROM cpu WHERE Time >NOW()\t-4294967303w" =
        .error problem := by
  obtain ⟨-, -, -, -, queries⟩ := durations_agree cpuLead_mem looseSince_mem .earliest
  have weeks := (queries "007w".toList (by decide) (by decide)).1 ⟨7, .weeks⟩
  have wide := (queries "4294967303w".toList (by decide) (by decide)).2
  have weeksText : String.ofList (cpuLead ++ (looseSince ++ "007w".toList)) =
      "SELECT * FROM cpu WHERE Time >NOW()\t-007w" := rfl
  have wideText : String.ofList (cpuLead ++ (looseSince ++ "4294967303w".toList)) =
      "SELECT * FROM cpu WHERE Time >NOW()\t-4294967303w" := rfl
  rw [weeksText] at weeks
  rw [wideText] at wide
  exact ⟨cpuLead_mem, looseSince_mem, weeks.2 (by decide), wide.2 (by decide)⟩

end SeriesQuery.Language
