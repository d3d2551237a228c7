import SeriesQuery.Proofs.Flux.Expressions

/-!
Tokens that are read as the expression they were written for. What may follow depends on how tightly
the expression binds.
-/

set_option autoImplicit false

namespace SeriesQuery.Flux

theorem expect_append (expected rest : List Token) :
    expect expected (expected ++ rest) = some rest := by
  simp [expect]

theorem readSimple_nil : readSimple [] = none := rfl

theorem readSimple_not (rest : List Token) : readSimple (.not :: rest) = none := rfl

theorem readSimple_parenthesis (rest : List Token) : readSimple (.symbol '(' :: rest) = none := rfl

theorem readAtom_of_simple {tokens rest : List Token} {expression : Expression}
    (found : readSimple tokens = some (expression, rest)) (depth : Nat) :
    readAtom depth tokens = some (expression, rest) := by
  unfold readAtom
  split
  · rw [readSimple_parenthesis] at found
    cases found
  · exact found

theorem readNegation_of_simple {tokens rest : List Token} {expression : Expression}
    (found : readSimple tokens = some (expression, rest)) (depth : Nat) :
    readNegation (depth + 1) tokens = some (expression, rest) := by
  rw [readNegation.eq_def]
  split
  · contradiction
  · rw [readSimple_not] at found
    cases found
  · next same _ =>
    cases same
    exact readAtom_of_simple found depth

theorem readNegation_not (depth : Nat) (rest : List Token) :
    readNegation (depth + 1) (.not :: rest) =
      (readNegation depth rest).map fun (negated, rest) => (.not negated, rest) := by
  rw [readNegation]

theorem readNegation_parenthesis {depth : Nat} {rest after : List Token} {inner : Expression}
    (found : readAny depth rest = some (inner, .symbol ')' :: after)) :
    readNegation (depth + 2) (.symbol '(' :: rest) = some (inner, after) := by
  rw [readNegation, readAtom, found]
  · show (do return (inner, ← expect [Token.symbol ')'] ([Token.symbol ')'] ++ after))) = _
    rw [expect_append]
    rfl
  · nofun

/-! ## Levels of binding -/

def ReadsPart (tokens : List Token) (expression : Expression) : Prop :=
  ∀ depth rest, 4 * tokens.length ≤ depth + 2 →
    readNegation depth (tokens ++ rest) = some (expression, rest)

def ReadsAll (tokens : List Token) (expression : Expression) : Prop :=
  ∀ depth rest, 4 * tokens.length ≤ depth + 1 → rest.head? ≠ some .and →
    readAll depth (tokens ++ rest) = some (expression, rest)

def ReadsAny (tokens : List Token) (expression : Expression) : Prop :=
  ∀ depth rest, 4 * tokens.length ≤ depth → rest.head? ≠ some .and → rest.head? ≠ some .or →
    readAny depth (tokens ++ rest) = some (expression, rest)

theorem ReadsPart.nonempty {tokens : List Token} {expression : Expression}
    (reads : ReadsPart tokens expression) : 0 < tokens.length := by
  rw [List.length_pos_iff]
  rintro rfl
  have found := reads 0 [] (Nat.zero_le _)
  rw [readNegation] at found
  cases found

theorem ReadsAll.nonempty {tokens : List Token} {expression : Expression}
    (reads : ReadsAll tokens expression) : 0 < tokens.length := by
  rw [List.length_pos_iff]
  rintro rfl
  have found := reads 0 [] (Nat.zero_le _) nofun
  rw [readAll] at found
  cases found

theorem ReadsPart.of_simple {tokens : List Token} {expression : Expression}
    (read : ∀ rest, readSimple (tokens ++ rest) = some (expression, rest)) :
    ReadsPart tokens expression := by
  intro depth rest enough
  have nonempty : 0 < tokens.length := by
    rw [List.length_pos_iff]
    rintro rfl
    have found := read []
    rw [List.nil_append, readSimple_nil] at found
    cases found
  obtain ⟨depth, rfl⟩ : ∃ n, depth = n + 1 := ⟨depth - 1, by omega⟩
  exact readNegation_of_simple (read rest) depth

theorem ReadsPart.not {tokens : List Token} {expression : Expression}
    (reads : ReadsPart tokens expression) : ReadsPart (.not :: tokens) (.not expression) := by
  intro depth rest enough
  rw [List.length_cons] at enough
  obtain ⟨depth, rfl⟩ : ∃ n, depth = n + 1 := ⟨depth - 1, by omega⟩
  rw [List.cons_append, readNegation_not, reads depth rest (by omega), Option.map_some]

theorem ReadsAny.parenthesised {tokens : List Token} {expression : Expression}
    (reads : ReadsAny tokens expression) :
    ReadsPart (.symbol '(' :: tokens ++ [.symbol ')']) expression := by
  intro depth rest enough
  rw [List.length_append, List.length_cons, List.length_singleton] at enough
  obtain ⟨depth, rfl⟩ : ∃ n, depth = n + 2 := ⟨depth - 2, by omega⟩
  rw [List.append_assoc, List.cons_append]
  exact readNegation_parenthesis (reads depth _ (by omega) nofun nofun)

theorem ReadsPart.all {tokens : List Token} {expression : Expression}
    (reads : ReadsPart tokens expression) : ReadsAll tokens expression := by
  intro depth rest enough noAnd
  have nonempty := reads.nonempty
  obtain ⟨depth, rfl⟩ : ∃ n, depth = n + 1 := ⟨depth - 1, by omega⟩
  rw [readAll, reads depth rest (by omega)]
  split
  · next same =>
    cases same
    exact absurd rfl noAnd
  · rfl

theorem ReadsPart.and {first others : List Token} {expression second : Expression}
    (reads : ReadsPart first expression) (follows : ReadsAll others second) :
    ReadsAll (first ++ [.and] ++ others) (.and expression second) := by
  intro depth rest enough noAnd
  have nonempty := follows.nonempty
  simp only [List.length_append, List.length_singleton] at enough
  obtain ⟨depth, rfl⟩ : ∃ n, depth = n + 1 := ⟨depth - 1, by omega⟩
  rw [readAll, List.append_assoc, List.append_assoc, reads depth _ (by omega)]
  rw [List.singleton_append]
  show (readAll depth (others ++ rest)).map _ = _
  rw [follows depth rest (by omega) noAnd, Option.map_some]

theorem readsAll_intercalate {α : Type} {tokens : α → List Token} {expression : α → Expression}
    {items : List α} (nonempty : items ≠ [])
    (each : ∀ a ∈ items, ReadsPart (tokens a) (expression a)) :
    ReadsAll ([.and].intercalate (items.map tokens)) (Expression.all (items.map expression)) := by
  induction items with
  | nil => exact absurd rfl nonempty
  | cons first others ih =>
    have head := each first List.mem_cons_self
    cases others with
    | nil => simpa [Expression.all] using head.all
    | cons second rest =>
      have tail := ih (List.cons_ne_nil _ _) fun a member =>
        each a (List.mem_cons_of_mem first member)
      simp only [List.map_cons, List.intercalate_cons_cons]
      exact head.and tail

theorem ReadsAll.any {tokens : List Token} {expression : Expression}
    (reads : ReadsAll tokens expression) : ReadsAny tokens expression := by
  intro depth rest enough noAnd noOr
  have nonempty := reads.nonempty
  obtain ⟨depth, rfl⟩ : ∃ n, depth = n + 1 := ⟨depth - 1, by omega⟩
  rw [readAny, reads depth rest (by omega) noAnd]
  split
  · next same =>
    cases same
    exact absurd rfl noOr
  · rfl

theorem ReadsAll.or {first others : List Token} {expression second : Expression}
    (reads : ReadsAll first expression) (follows : ReadsAny others second) :
    ReadsAny (first ++ [.or] ++ others) (.or expression second) := by
  intro depth rest enough noAnd noOr
  have nonempty := reads.nonempty
  simp only [List.length_append, List.length_singleton] at enough
  obtain ⟨depth, rfl⟩ : ∃ n, depth = n + 1 := ⟨depth - 1, by omega⟩
  rw [readAny, List.append_assoc, List.append_assoc, reads depth _ (by omega) (by simp)]
  show (readAny depth (others ++ rest)).map _ = _
  rw [follows depth rest (by omega) noAnd noOr, Option.map_some]

/-! ## Tokens of comparisons -/

def cellTokens (column : String) : List Token :=
  if isIdentifier column then [.word ('r' :: '.' :: column.toList)]
  else [.word ['r'], .symbol '[', .text column.toList, .symbol ']']

def Term.tokens : Term → List Token
  | .word text => [.word text.toList]
  | .string content => [.text content.toList]
  | .time content => [.word ['t', 'i', 'm', 'e'], .symbol '(', .word ['v'], .symbol ':',
    .text content.toList, .symbol ')']

/-- A word that is no value could be the start of something else. -/
def Term.isClear : Term → Bool
  | .word text => isValue text.toList
  | _ => true

def presenceTokens (column : String) : List Token := [wordOf "exists"] ++ cellTokens column

def comparisonTokens (column : String) (operator : Operator) (term : Term) : List Token :=
  cellTokens column ++ [.operator (operatorText operator).toList] ++ term.tokens

def membershipTokens (column : String) (terms : List Term) : List Token :=
  [wordOf "contains", .symbol '(', wordOf "value", .symbol ':'] ++ cellTokens column ++
    [.symbol ',', wordOf "set", .symbol ':', .symbol '['] ++
    [.symbol ','].intercalate (terms.map Term.tokens) ++ [.symbol ']', .symbol ')']

theorem readCell_append (column : String) (rest : List Token) :
    readCell (cellTokens column ++ rest) = some (column, rest) := by
  unfold cellTokens
  split
  · simp [readCell]
  · simp [readCell]

theorem readOperator_append {operator : Operator} (comparison : operator.isComparison = true)
    (rest : List Token) :
    readOperator (.operator (operatorText operator).toList :: rest) = some (operator, rest) := by
  cases operator with
  | equal | notEqual | greater | greaterOrEqual | less | lessOrEqual => rfl
  | isIn | notIn | between | regex | notRegex => cases comparison

theorem readTerm_append {term : Term} (clear : term.isClear = true) (rest : List Token) :
    readTerm (term.tokens ++ rest) = some (term, rest) := by
  cases term with
  | string content => simp [Term.tokens, readTerm]
  | time content => simp [Term.tokens, readTerm]
  | word text =>
    have value : isValue text.toList = true := clear
    rw [Term.tokens, List.singleton_append, readTerm, if_pos value, String.ofList_toList]
    intro content after _ same
    rw [same] at value
    cases value

theorem readTerms_append {terms : List Term} (nonempty : terms ≠ [])
    (clear : ∀ term ∈ terms, term.isClear = true) {count : Nat} (enough : terms.length ≤ count)
    {rest : List Token} (noComma : rest.head? ≠ some (.symbol ',')) :
    readTerms count ([.symbol ','].intercalate (terms.map Term.tokens) ++ rest) =
      some (terms, rest) := by
  -- By the terms: behind each but the last one stands a comma, behind the last one none.
  induction terms generalizing count with
  | nil => exact absurd rfl nonempty
  | cons first others ih =>
    obtain ⟨count, rfl⟩ : ∃ n, count = n + 1 := ⟨count - 1, by simp at enough; omega⟩
    have firstClear := clear first List.mem_cons_self
    cases others with
    | nil =>
      rw [List.map_singleton, List.intercalate_singleton, readTerms, readTerm_append firstClear]
      split
      · next same =>
        cases same
        exact absurd rfl noComma
      · next same =>
        cases same
        rfl
      · contradiction
    | cons second more =>
      have read := ih (List.cons_ne_nil _ _) (fun term member => clear term (.tail _ member))
        (Nat.le_of_succ_le_succ enough)
      rw [List.map_cons, List.map_cons, List.intercalate_cons_cons, ← List.map_cons]
      rw [List.append_assoc, List.append_assoc, readTerms, readTerm_append firstClear]
      show (readTerms count
        ([.symbol ','].intercalate ((second :: more).map Term.tokens) ++ rest)).map _ = _
      rw [read, Option.map_some]

theorem length_le_terms (terms : List Term) :
    terms.length ≤ ([Token.symbol ','].intercalate (terms.map Term.tokens)).length := by
  induction terms with
  | nil => exact Nat.zero_le _
  | cons first others ih =>
    have one : 1 ≤ first.tokens.length := by cases first <;> simp [Term.tokens]
    cases others with
    | nil => simpa using one
    | cons second more =>
      simp only [List.map_cons, List.intercalate_cons_cons, List.length_append, List.length_cons,
        List.length_nil] at ih ⊢
      omega

theorem readSet_append {terms : List Term} (clear : ∀ term ∈ terms, term.isClear = true)
    (rest : List Token) :
    readSet ([.symbol ','].intercalate (terms.map Term.tokens) ++ .symbol ']' :: rest) =
      some (terms, rest) := by
  cases terms with
  | nil => rfl
  | cons first others =>
    have enough := length_le_terms (first :: others)
    rw [readSet, readTerms_append (List.cons_ne_nil _ _) clear]
    · show (do return (first :: others, ← expect [Token.symbol ']'] ([Token.symbol ']'] ++ rest))) = _
      rw [expect_append]
      rfl
    · rw [List.length_append]
      omega
    · simp
    · intro after same
      cases first <;> cases others <;> simp [Term.tokens] at same

theorem readPresence_append (column : String) (rest : List Token) :
    readPresence (presenceTokens column ++ rest) = some (.present column, rest) := by
  rw [presenceTokens, List.append_assoc, readPresence, expect_append]
  simp [readCell_append]

theorem readMembership_append (column : String) {terms : List Term}
    (clear : ∀ term ∈ terms, term.isClear = true) (rest : List Token) :
    readMembership (membershipTokens column terms ++ rest) = some (.member column terms, rest) := by
  simp only [membershipTokens, List.append_assoc]
  rw [readMembership, expect_append]
  simp [readCell_append, expect, readSet_append clear]

theorem readComparison_append (column : String) {operator : Operator}
    (comparison : operator.isComparison = true) {term : Term} (clear : term.isClear = true)
    (rest : List Token) :
    readComparison (comparisonTokens column operator term ++ rest) =
      some (.compare column operator term, rest) := by
  simp [comparisonTokens, readComparison, readCell_append, readOperator_append comparison,
    readTerm_append clear]

/-! ## Comparisons as parts -/

theorem expect_none {first : Token} {expected rest : List Token} {token : Token}
    (different : first ≠ token) : expect (first :: expected) (token :: rest) = none := by
  simp [expect, different]

theorem readPresence_none {token : Token} (different : wordOf "exists" ≠ token)
    (rest : List Token) : readPresence (token :: rest) = none := by
  rw [readPresence, expect_none different]
  rfl

theorem readMembership_none {token : Token} (different : wordOf "contains" ≠ token)
    (rest : List Token) : readMembership (token :: rest) = none := by
  rw [readMembership, expect_none different]
  rfl

theorem readsPart_present (column : String) :
    ReadsPart (presenceTokens column) (.present column) := by
  apply ReadsPart.of_simple
  intro rest
  rw [readSimple, readPresence_append]
  rfl

theorem readsPart_member (column : String) {terms : List Term}
    (clear : ∀ term ∈ terms, term.isClear = true) :
    ReadsPart (membershipTokens column terms) (.member column terms) := by
  apply ReadsPart.of_simple
  intro rest
  have read := readMembership_append column clear rest
  have other : readPresence (membershipTokens column terms ++ rest) = none :=
    readPresence_none (by decide) _
  rw [readSimple, other, read]
  rfl

theorem readsPart_compare (column : String) {operator : Operator}
    (comparison : operator.isComparison = true) {term : Term} (clear : term.isClear = true) :
    ReadsPart (comparisonTokens column operator term) (.compare column operator term) := by
  apply ReadsPart.of_simple
  intro rest
  have read := readComparison_append column comparison clear rest
  obtain ⟨word, more, same⟩ : ∃ word more, comparisonTokens column operator term ++ rest =
      .word ('r' :: word) :: more := by
    unfold comparisonTokens cellTokens
    split
    · exact ⟨_, _, rfl⟩
    · exact ⟨_, _, rfl⟩
  have first : Token.word ("exists".toList) ≠ .word ('r' :: word) := by simp
  have second : Token.word ("contains".toList) ≠ .word ('r' :: word) := by simp
  rw [readSimple, read, same, readPresence_none first, readMembership_none second]
  rfl

theorem readsPart_always : ReadsPart [wordOf "true"] .always :=
  ReadsPart.of_simple fun _ => rfl

end SeriesQuery.Flux
