import SeriesQuery.Proofs.Language.Conditions

/-!
Readers of clauses take the written forms of clauses. A clause that is absent is passed over: what
follows is the end or the word of a later clause.
-/

set_option autoImplicit false

namespace SeriesQuery.Language

open Grammar

variable {α : Type}

/-! ## Where a clause ends -/

def Ended (words : List String) (text : List Char) : Prop :=
  text = [] ∨ ∃ word ∈ words, ∃ form, text ∈ space * (spelled word * form)

theorem Ended.mono {words more : List String} {text : List Char} (ended : Ended words text)
    (subset : words ⊆ more) : Ended more text := by
  rcases ended with nil | ⟨word, member, form, written⟩
  · exact .inl nil
  · exact .inr ⟨word, subset member, form, written⟩

theorem opens_spelled_of_starts {word : String} {heads : List Char}
    (starts : Starts heads word.toList) : Opens (spelled word) heads := by
  obtain ⟨c, rest, same, found⟩ := starts
  intro text written
  have lower : word.toList.map Char.toLower = c.toLower :: rest.map Char.toLower := by
    rw [same, List.map_cons]
  exact (opens_spelled lower text written).mono (by simpa using found)

theorem mem_blanks_mul {form : Form} {text : List Char} (written : text ∈ space * form) :
    text ∈ blanks * form := by
  obtain ⟨gaps, gapsWritten, found, foundWritten, rfl⟩ := Language.mem_mul.1 written
  exact Language.mem_mul.2 ⟨gaps, gapsWritten.2, found, foundWritten, rfl⟩

theorem Ended.follows {words : List String} {text heads : List Char} (ended : Ended words text)
    (starts : ∀ word ∈ words, Starts heads word.toList)
    (noGap : ∀ c ∈ heads, Text.isGap c = false) : Follows heads text := by
  rcases ended with rfl | ⟨word, member, form, written⟩
  · exact .inl rfl
  · have opens := (opens_spelled_of_starts (starts word member)).mul form
    simpa using follows_mem opens noGap (List.Subset.refl _) (mem_blanks_mul written) []

def clauseWords : List String :=
  ["FROM", "WHERE", "GROUP", "HAVING", "FILL", "ORDER", "LIMIT", "OFFSET"]

theorem starts_of_mem_clauseWords {word : String} (known : word ∈ clauseWords) :
    Starts listEnds word.toList := by
  simp only [clauseWords, List.mem_cons, List.not_mem_nil, or_false] at known
  rcases known with rfl | rfl | rfl | rfl | rfl | rfl | rfl | rfl
  all_goals exact ⟨_, _, rfl, by decide⟩

theorem Ended.follows_listEnds {words : List String} {text : List Char} (ended : Ended words text)
    (known : words ⊆ clauseWords) : Follows listEnds text :=
  ended.follows (fun _ member => starts_of_mem_clauseWords (known member)) (by decide)

theorem Ended.gap_bind_eq_none {words : List String} {rest : List Char} (ended : Ended words rest)
    (known : words ⊆ clauseWords) {reader : Reader α}
    (fails : ∀ word ∈ words, ∀ first ∈ spelled word, ∀ after, reader (first ++ after) = none) :
    (gap rest).bind reader = none := by
  rcases ended with rfl | ⟨word, member, form, written⟩
  · rfl
  · have opens := (opens_spelled_of_starts (starts_of_mem_clauseWords (known member))).mul form
    obtain ⟨found, foundWritten, read⟩ := gap_mem opens (by decide) written []
    obtain ⟨first, firstWritten, after, -, rfl⟩ := Language.mem_mul.1 foundWritten
    simp only [List.append_nil] at read
    rw [read, Option.bind_some]
    exact fails word member first firstWritten after

/-! ## Clauses that may be absent -/

theorem clause_absent {reader : Reader α} {word : String} {words : List String} {rest : List Char}
    (ended : Ended words rest) (known : words ⊆ clauseWords)
    (needs : ∀ text, keyword word.toList text = none → reader text = none)
    (clashes : ∀ other ∈ words, clash word.toList other.toList = true) :
    clause reader rest = (none, rest) := by
  have absent : (gap rest).bind reader = none := by
    apply ended.gap_bind_eq_none known
    intro other member first written after
    exact needs _ (keyword_eq_none_of_clash after written (clashes other member))
  simp only [clause, Grammar.optional, absent]

theorem clause_present {reader : Reader α} {form : Form} {word : String} {value : α}
    {follow : List Char → Prop} (reads : Reads reader (spelled word * form) value follow)
    (known : word ∈ clauseWords) {text : List Char} (written : text ∈ space * spelled word * form)
    {rest : List Char} (follows : follow rest) :
    clause reader (text ++ rest) = (some value, rest) := by
  rw [mul_assoc] at written
  have opens := (opens_spelled_of_starts (starts_of_mem_clauseWords known)).mul form
  obtain ⟨found, written, gapRead⟩ := gap_mem opens (by decide) written rest
  simp only [clause, Grammar.optional, gapRead, Option.bind_some, reads found written rest follows]

theorem clause_mem {reader : Reader α} {form : α → Form} {word : String} {words : List String}
    {next : Form} (reads : ∀ value, Reads reader (spelled word * form value) value (Ended words))
    (needs : ∀ text, keyword word.toList text = none → reader text = none)
    (known : word :: words ⊆ clauseWords)
    (clashes : ∀ other ∈ words, clash word.toList other.toList = true)
    (ended : ∀ rest ∈ next, Ended words rest) {value? : Option α} {text : List Char}
    (written : text ∈ clauseForm word form value? * next) :
    ∃ rest ∈ next, clause reader text = (value?, rest) := by
  obtain ⟨first, firstWritten, rest, restWritten, rfl⟩ := Language.mem_mul.1 written
  have wordsKnown : words ⊆ clauseWords := List.Subset.trans (List.subset_cons_self _ _) known
  refine ⟨rest, restWritten, ?_⟩
  cases value? with
  | none =>
    rw [show first = [] from firstWritten, List.nil_append]
    exact clause_absent (ended rest restWritten) wordsKnown needs clashes
  | some value =>
    exact clause_present (reads value) (known List.mem_cons_self) firstWritten
      (ended rest restWritten)

theorem ended_clauseForm {form : α → Form} {word : String} {words : List String} {next : Form}
    (ended : ∀ rest ∈ next, Ended words rest) {value? : Option α} {text : List Char}
    (written : text ∈ clauseForm word form value? * next) : Ended (word :: words) text := by
  cases value? with
  | none =>
    rw [clauseForm, one_mul] at written
    exact (ended text written).mono (List.subset_cons_self _ _)
  | some value =>
    rw [clauseForm, mul_assoc, mul_assoc] at written
    exact .inr ⟨word, List.mem_cons_self, _, written⟩

/-! ## The WHERE clause -/

def joinedItem : Reader (Connective × WhereItem) := fun text => do
  let (connective, rest) ← connective text
  let (item, rest) ← whereItem rest
  return ((connective, item), rest)

theorem opens_itemForm (item : WhereItem) : Opens (itemForm item) ['t', '"'] := by
  intro text written
  cases item with
  | latest value =>
    simp only [itemForm, mul_assoc] at written
    exact ((opens_spelled rfl).mul _ text written).mono (by decide)
  | timeBound operator instant =>
    simp only [itemForm, mul_assoc] at written
    exact ((opens_spelled rfl).mul _ text written).mono (by decide)
  | condition field operator value =>
    simp only [itemForm, mul_assoc] at written
    exact ((opens_nameForm field).mul _ text written).mono (by decide)

theorem reads_connective (joint : Connective) {next : Form} {heads : List Char}
    (opens : Opens next heads) (noGap : ∀ c ∈ heads, Text.isGap c = false) {text : List Char}
    (written : text ∈ space * (connectiveForm joint * (space * next))) (rest : List Char) :
    ∃ found ∈ next, connective (text ++ rest) = some (joint, found ++ rest) := by
  cases joint with
  | and =>
    have opensWord : Opens (spelled "AND") ['a'] := opens_spelled rfl
    obtain ⟨_, written, firstRead⟩ := gap_mem (opensWord.mul _) (by decide) written rest
    obtain ⟨_, written, wordRead⟩ := keyword_mem written rest
    obtain ⟨found, written, secondRead⟩ := gap_mem opens noGap written rest
    refine ⟨found, written, ?_⟩
    simp only [connective, firstRead, wordRead, secondRead, Option.bind_eq_bind, Option.bind_some]
    rfl
  | or =>
    have opensWord : Opens (spelled "OR") ['o'] := opens_spelled rfl
    obtain ⟨word, written, firstRead⟩ := gap_mem (opensWord.mul _) (by decide) written rest
    have notAnd : keyword "AND".toList (word ++ rest) = none :=
      keyword_eq_none_of_starts ((opensWord.mul _ word written).append rest) (by decide)
    obtain ⟨_, written, wordRead⟩ := keyword_mem written rest
    obtain ⟨found, written, secondRead⟩ := gap_mem opens noGap written rest
    refine ⟨found, written, ?_⟩
    simp only [connective, firstRead, notAnd, wordRead, secondRead, Option.bind_eq_bind,
      Option.bind_some, Option.map_some]
    rfl

theorem reads_joinedItem (item : Connective × WhereItem) :
    Reads joinedItem (joinedForm item) item EndsNumber := by
  intro text written rest ends
  simp only [joinedForm, mul_assoc] at written
  obtain ⟨_, written, jointRead⟩ :=
    reads_connective item.1 (opens_itemForm item.2) (by decide) written rest
  simp only [joinedItem, jointRead, reads_whereItem item.2 _ written rest ends,
    Option.bind_eq_bind, Option.bind_some]
  rfl

/-- The words of the clauses that may follow the conditions. -/
def wordsAfterWhere : List String := ["GROUP", "HAVING", "FILL", "ORDER", "LIMIT", "OFFSET"]

/-- What `connective` reads after its first gap. -/
def joint : Reader Connective := fun text => do
  let (connective, rest) ← match keyword "AND".toList text with
    | some rest => some (Connective.and, rest)
    | none => (keyword "OR".toList text).map fun rest => (Connective.or, rest)
  return (connective, ← gap rest)

theorem connective_eq_bind (text : List Char) : connective text = (gap text).bind joint := rfl

/-- The word ORDER starts with OR, but no gap follows those two letters. -/
theorem joint_order {first : List Char} (written : first ∈ spelled "ORDER") (after : List Char) :
    joint (first ++ after) = none := by
  have written : first.map Char.toLower = ['o', 'r', 'd', 'e', 'r'] := written
  obtain ⟨o, first, rfl, sameO, written⟩ := List.map_eq_cons_iff.1 written
  obtain ⟨r, first, rfl, sameR, written⟩ := List.map_eq_cons_iff.1 written
  obtain ⟨d, first, rfl, sameD, written⟩ := List.map_eq_cons_iff.1 written
  have noGap : Text.isGap d = false := by
    rw [← caseFree_isGap, sameD]
    decide
  have notAnd : keyword "AND".toList (o :: r :: d :: (first ++ after)) = none := by
    simp [keyword, sameO]
  have isOr : keyword "OR".toList (o :: r :: d :: (first ++ after)) =
      some (d :: (first ++ after)) := by
    simp [keyword, sameO, sameR]
  simp only [joint, List.cons_append, notAnd, isOr]
  simp [gap, noGap]

theorem joinedItem_eq_none {rest : List Char} (ended : Ended wordsAfterWhere rest) :
    joinedItem rest = none := by
  have absent : (gap rest).bind joint = none := by
    apply ended.gap_bind_eq_none (by decide)
    intro word member first written after
    -- ORDER is the one word that starts like a joint, so its first letters do not tell it apart.
    by_cases order : word = "ORDER"
    · subst order
      exact joint_order written after
    · have clashes : clash "AND".toList word.toList = true ∧
          clash "OR".toList word.toList = true := by
        simp only [wordsAfterWhere, List.mem_cons, List.not_mem_nil, or_false] at member
        rcases member with rfl | rfl | rfl | rfl | rfl | rfl
        · decide
        · decide
        · decide
        · exact absurd rfl order
        · decide
        · decide
      have notAnd := keyword_eq_none_of_clash after written clashes.1
      have notOr := keyword_eq_none_of_clash after written clashes.2
      simp only [joint, notAnd, notOr]
      rfl
  simp only [joinedItem, connective_eq_bind, absent]
  rfl

theorem Ended.endsNumber {words : List String} {rest : List Char} (ended : Ended words rest) :
    EndsNumber rest := by
  rcases ended with rfl | ⟨word, -, form, written⟩
  · exact stops_nil _
  · simpa using space_endsNumber written []

theorem joinedForm_eq (item : Connective × WhereItem) :
    joinedForm item = space * (connectiveForm item.1 * (space * itemForm item.2)) := by
  simp only [joinedForm, mul_assoc]

theorem nil_notMem_joinedForm (item : Connective × WhereItem) : [] ∉ joinedForm item := by
  intro written
  rw [joinedForm_eq] at written
  obtain ⟨c, rest, same, -⟩ := opens_space.mul _ [] written
  cases same

theorem whereClause_eq_bind (text : List Char) :
    whereClause text = (keyword "WHERE".toList text).bind fun rest =>
      (gap rest).bind fun rest => (whereItem rest).bind fun found =>
        let others := repeated joinedItem found.2
        some ((.and, found.1) :: others.1, others.2) := rfl

theorem reads_whereClause (items : List (Connective × WhereItem)) :
    Reads whereClause (spelled "WHERE" * whereForm items) items (Ended wordsAfterWhere) := by
  intro text written rest ended
  obtain ⟨_, written, wordRead⟩ := keyword_mem written rest
  unfold whereForm at written
  split at written
  · next first others _ =>
    rw [mul_assoc] at written
    obtain ⟨_, written, gapRead⟩ :=
      gap_mem ((opens_itemForm first).mul _) (by decide) written rest
    have between : ∀ item, ∀ text ∈ joinedForm item, ∀ rest, EndsNumber (text ++ rest) := by
      intro item text written rest
      rw [joinedForm_eq] at written
      exact space_endsNumber written rest
    have ends : ∀ rest, Ended wordsAfterWhere rest → EndsNumber rest :=
      fun _ ended => Ended.endsNumber ended
    obtain ⟨_, othersWritten, firstRead⟩ := (reads_whereItem first).mem written rest
      fun _ written => next_append ends between written ended
    have othersRead := repeated_append (fun item _ => reads_joinedItem item)
      (fun _ => joinedItem_eq_none) ends between nil_notMem_joinedForm othersWritten ended
    simp only [whereClause_eq_bind, wordRead, gapRead, firstRead, othersRead, Option.bind_some]
  · exact absurd written (Language.notMem_zero _)

end SeriesQuery.Language
