import SeriesQuery.Proofs.Flux.Readings

/-!
Predicates are written so that they are read as the expression they stand for.
-/

set_option autoImplicit false

namespace SeriesQuery.Flux

theorem quoted_of_unquoted {text : String} (unquoted : Unquoted text) :
    Text.quoted text = "\"" ++ text ++ "\"" := by
  have same : text.toList.flatMap Text.escapeQuote = text.toList := by
    have each : ∀ c ∈ text.toList, Text.escapeQuote c = [c] := by
      intro c member
      obtain ⟨noQuote, noSlash⟩ := unquoted c member
      rw [Text.escapeQuote, if_neg (not_or.2 ⟨noSlash, noQuote⟩)]
    calc text.toList.flatMap Text.escapeQuote
      _ = text.toList.flatMap fun c => [c] := by
        rw [List.flatMap_def, List.flatMap_def, List.map_congr_left each]
      _ = text.toList := by simp
  apply String.toList_inj.1
  rw [Text.quoted, Text.toList_quotedBy, same]
  simp

/-! ## Punctuation -/

theorem glue_space : Glue " " [] :=
  ⟨⟨by decide, by simp +decide [Lexes, lex]⟩, by decide, by decide⟩

theorem glue_and : Glue " and " [.and] :=
  ⟨⟨by decide, by simp +decide [Lexes, lex, wordToken]⟩, by decide, by decide⟩

theorem glue_or : Glue " or " [.or] :=
  ⟨⟨by decide, by simp +decide [Lexes, lex, wordToken]⟩, by decide, by decide⟩

theorem glue_comma : Glue ", " [.symbol ','] :=
  ⟨⟨by decide, by simp +decide [Lexes, lex]⟩, by decide, by decide⟩

theorem glue_set : Glue ", set: [" [.symbol ',', wordOf "set", .symbol ':', .symbol '['] :=
  ⟨⟨by decide, by simp +decide [Lexes, lex, wordToken, wordOf]⟩, by decide, by decide⟩

theorem opening_parenthesis : Opening "(" [.symbol '('] :=
  ⟨by decide, by simp +decide [Lexes, lex]⟩

theorem closing_parenthesis : Closing ")" [.symbol ')'] :=
  ⟨by decide, by simp +decide [Lexes, lex]⟩

theorem opening_cell : Opening "r[" [.word ['r'], .symbol '['] :=
  ⟨by decide, by simp +decide [Lexes, lex, wordToken]⟩

theorem closing_cell : Closing "]" [.symbol ']'] :=
  ⟨by decide, by simp +decide [Lexes, lex]⟩

theorem opening_time : Opening "time(v: "
    [.word ['t', 'i', 'm', 'e'], .symbol '(', .word ['v'], .symbol ':'] :=
  ⟨by decide, by simp +decide [Lexes, lex, wordToken]⟩

theorem opening_not : Opening "not " [.not] :=
  ⟨by decide, by simp +decide [Lexes, lex, wordToken]⟩

theorem opening_exists : Opening "exists " [wordOf "exists"] :=
  ⟨by decide, by simp +decide [Lexes, lex, wordToken, wordOf]⟩

theorem opening_contains : Opening "contains(value: "
    [wordOf "contains", .symbol '(', wordOf "value", .symbol ':'] :=
  ⟨by decide, by simp +decide [Lexes, lex, wordToken, wordOf]⟩

theorem closing_contains : Closing "])" [.symbol ']', .symbol ')'] :=
  ⟨by decide, by simp +decide [Lexes, lex]⟩

theorem opening_filter : Opening "filter(fn: (r) => " [wordOf "filter", .symbol '(', wordOf "fn",
    .symbol ':', .symbol '(', wordOf "r", .symbol ')', .operator ['=', '>']] :=
  ⟨by decide, by simp +decide [Lexes, lex, wordToken, wordOf]⟩

/-! ## Cells and literals -/

theorem isWord_of_isIdentifier {column : String} (identifier : isIdentifier column = true) :
    ∀ c ∈ column.toList, isWord c = true := by
  intro c member
  unfold isIdentifier at identifier
  cases same : column.toList with
  | nil =>
    rw [same] at identifier
    cases identifier
  | cons first others =>
    rw [same] at identifier member
    simp only [Bool.and_eq_true, Bool.or_eq_true, List.all_eq_true] at identifier
    obtain ⟨starts, goesOn⟩ := identifier
    rcases List.mem_cons.1 member with rfl | member
    · rcases starts with alpha | line
      · simp [isWord, Char.isAlphanum, alpha]
      · simp [isWord, line]
    · rcases goesOn c member with name | line
      · simp [isWord, name]
      · simp [isWord, line]

theorem lexes_cell (column : String) : Lexes (cell column) (cellTokens column) := by
  unfold cell cellTokens
  by_cases identifier : isIdentifier column = true
  · rw [if_pos identifier, if_pos identifier]
    have same : ("r." ++ column).toList = 'r' :: '.' :: column.toList := by simp
    have lexes : Lexes ("r." ++ column) [wordToken ("r." ++ column).toList] := by
      apply lexes_word
      · rw [same]
        exact List.cons_ne_nil _ _
      · rw [same]
        simpa [isWord] using isWord_of_isIdentifier identifier
    rw [same] at lexes
    simpa [wordToken] using lexes
  · rw [if_neg identifier, if_neg identifier]
    exact (opening_cell.append (lexes_quoted column)).close closing_cell

namespace Literal

def term : Literal → Term
  | .bool value => .word (Scalar.boolText value)
  | .integer value => .word (toString value.toInt)
  | .float value => .word (floatText value)
  | .string value => .string value
  | .instant value => .time value.zulu
  | .timeText value => .time value

def isNumber : Literal → Bool
  | .float value => Decimal.isFinite value
  | _ => true

end Literal

theorem numeric_floatText {value : Float} (finite : Decimal.isFinite value = true) :
    Decimal.Numeric (floatText value).toList := by
  unfold floatText
  split
  · exact Decimal.numeric_fixed finite 1
  · exact Decimal.numeric_plain finite

theorem isWord_of_isNumeral {c : Char} (numeral : Decimal.isNumeral c = true) : isWord c = true := by
  simp only [Decimal.isNumeral, Bool.or_eq_true, beq_iff_eq] at numeral
  rcases numeral with (digit | rfl) | rfl
  · simp [isWord, Char.isAlphanum, digit]
  · rfl
  · rfl

theorem isValue_of_numeric {text : List Char} (numeric : Decimal.Numeric text) :
    isValue text = true := by
  have all : text.all Decimal.isNumeral = true := List.all_eq_true.2 numeric.numerals
  simp [isValue, all]

theorem lexes_numeric {text : String} (numeric : Decimal.Numeric text.toList) :
    Lexes text [.word text.toList] := by
  have lexes := lexes_word numeric.nonempty fun c member =>
    isWord_of_isNumeral (numeric.numerals c member)
  have plain : wordToken text.toList = .word text.toList := by
    have starts {c : Char} {rest : List Char} (same : text.toList = c :: rest) :
        Decimal.isNumeral c = true := numeric.numerals c (by simp [same])
    rw [wordToken, if_neg, if_neg, if_neg]
    all_goals
      intro same
      cases starts same
  rwa [plain] at lexes

theorem isClear_term {literal : Literal} (number : literal.isNumber = true) :
    literal.term.isClear = true := by
  cases literal with
  | bool value => cases value <;> rfl
  | integer value => exact isValue_of_numeric (Decimal.numeric_toString_int _)
  | float value => exact isValue_of_numeric (numeric_floatText number)
  | string | instant | timeText => rfl

theorem lexes_time (content : String) :
    Lexes ("time(v: " ++ Text.quoted content ++ ")") (Term.time content).tokens :=
  (opening_time.append (lexes_quoted content)).close closing_parenthesis

theorem time_quoted_zulu (value : Time.Instant) :
    "time(v: " ++ Text.quoted value.zulu ++ ")" = Literal.text (.instant value) := by
  rw [quoted_of_unquoted value.unquoted_zulu]
  simp [Literal.text, ← String.toList_inj]

theorem lexes_literal {literal : Literal} (number : literal.isNumber = true) :
    Lexes literal.text literal.term.tokens := by
  cases literal with
  | bool value =>
    cases value with
    | false => exact lexes_word (by decide) (by decide)
    | true => exact lexes_word (by decide) (by decide)
  | integer value => exact lexes_numeric (Decimal.numeric_toString_int _)
  | float value => exact lexes_numeric (numeric_floatText number)
  | string value => exact lexes_quoted value
  | instant value =>
    have lexes := lexes_time value.zulu
    rwa [time_quoted_zulu] at lexes
  | timeText value => exact lexes_time value

/-! ## Comparisons -/

theorem lexes_operatorText (operator : Operator) :
    Lexes (operatorText operator) [.operator (operatorText operator).toList] := by
  cases operator <;> simp +decide [Lexes, operatorText, lex]

theorem lexes_presence (column : String) :
    Lexes ("exists " ++ cell column) (presenceTokens column) :=
  opening_exists.append (lexes_cell column)

theorem lexes_comparison (column : String) (operator : Operator) {literal : Literal}
    (number : literal.isNumber = true) :
    Lexes (comparisonText column operator literal)
      (comparisonTokens column operator literal.term) := by
  have lexes := ((lexes_cell column).glue glue_space (lexes_operatorText operator)).glue glue_space
    (lexes_literal number)
  simpa only [comparisonText, comparisonTokens, List.append_nil] using lexes

theorem lexes_membership (column : String) {literals : List Literal}
    (numbers : ∀ literal ∈ literals, literal.isNumber = true) :
    Lexes (Predicate.member column literals).text
      (membershipTokens column (literals.map Literal.term)) := by
  have set := lexes_intercalate glue_comma fun literal member =>
    lexes_literal (numbers literal member)
  rw [membershipTokens, List.map_map]
  exact ((opening_contains.append (lexes_cell column)).glue glue_set set).close closing_contains

/-! ## Texts of expressions -/

def Spells (text : String) (expression : Expression) : Prop :=
  ∃ tokens, Lexes text tokens ∧ ReadsAll tokens expression

theorem spells_missing (column : String) :
    Spells (Predicate.missing column).text (.not (.present column)) := by
  have lexes := opening_not.append (lexes_presence column)
  have same : "not " ++ ("exists " ++ cell column) = "not exists " ++ cell column := by
    rw [← String.append_assoc]
    rfl
  rw [same] at lexes
  exact ⟨_, lexes, (readsPart_present column).not.all⟩

theorem spells_present (column : String) :
    Spells (Predicate.present column).text (.present column) :=
  ⟨_, lexes_presence column, (readsPart_present column).all⟩

theorem spells_compare (column : String) {operator : Operator}
    (comparison : operator.isComparison = true) {literal : Literal}
    (number : literal.isNumber = true) :
    Spells (Predicate.compare column operator literal).text
      (.compare column operator literal.term) :=
  ⟨_, lexes_comparison column operator number,
    (readsPart_compare column comparison (isClear_term number)).all⟩

theorem spells_member (column : String) {literals : List Literal}
    (numbers : ∀ literal ∈ literals, literal.isNumber = true) :
    Spells (Predicate.member column literals).text
      (.member column (literals.map Literal.term)) := by
  refine ⟨_, lexes_membership column numbers, (readsPart_member column ?_).all⟩
  rw [List.forall_mem_map]
  exact fun literal member => isClear_term (numbers literal member)

theorem spells_all (column : String) {comparisons : List (Operator × Literal)}
    (valid : ∀ comparison ∈ comparisons,
      comparison.1.isComparison = true ∧ comparison.2.isNumber = true) :
    Spells (Predicate.all column comparisons).text
      (Expression.all (comparisons.map fun comparison =>
        .compare column comparison.1 comparison.2.term)) := by
  cases comparisons with
  | nil =>
    have lexes : Lexes "true" [wordOf "true"] := by simp +decide [Lexes, lex, wordToken, wordOf]
    exact ⟨_, lexes, readsPart_always.all⟩
  | cons first others =>
    refine ⟨[.and].intercalate ((first :: others).map fun comparison =>
      comparisonTokens column comparison.1 comparison.2.term), ?_, ?_⟩
    · exact lexes_intercalate glue_and fun comparison member =>
        lexes_comparison column comparison.1 (valid comparison member).2
    · refine readsAll_intercalate (List.cons_ne_nil _ _) fun comparison member => ?_
      obtain ⟨isComparison, number⟩ := valid comparison member
      exact readsPart_compare column isComparison (isClear_term number)

end SeriesQuery.Flux
