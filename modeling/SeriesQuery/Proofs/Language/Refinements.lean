import SeriesQuery.Proofs.Language.Clauses
import SeriesQuery.Proofs.Language.Trimming

/-!
Readers of the clauses after the conditions: grouping, limits on aggregated values, filling of empty
buckets, order and counts.
-/

set_option autoImplicit false

namespace SeriesQuery.Language

open Grammar

/-! ## Two words -/

theorem keywordPair_mem {next : Form} {heads : List Char} (opens : Opens next heads)
    (noGap : ∀ c ∈ heads, Text.isGap c = false) {first second : String} {c : Char}
    {letters : List Char} (same : second.toList.map Char.toLower = c :: letters)
    (letter : Text.isGap c = false) {text : List Char}
    (written : text ∈ spelled first * (space * (spelled second * (space * next))))
    (rest : List Char) : ∃ found ∈ next,
      keywordPair first.toList second.toList (text ++ rest) = some (found ++ rest) := by
  have opensWord : Opens (spelled second) [c] := opens_spelled same
  obtain ⟨_, written, firstRead⟩ := keyword_mem written rest
  obtain ⟨_, written, gapRead⟩ := gap_mem (opensWord.mul _) (by simpa using letter) written rest
  obtain ⟨_, written, secondRead⟩ := keyword_mem written rest
  obtain ⟨found, written, lastRead⟩ := gap_mem opens noGap written rest
  refine ⟨found, written, ?_⟩
  simp only [keywordPair, firstRead, gapRead, secondRead, lastRead, Option.bind_eq_bind,
    Option.bind_some]

theorem keywordPair_eq_none {first second text : List Char} (absent : keyword first text = none) :
    keywordPair first second text = none := by
  simp only [keywordPair, absent]
  rfl

/-! ## GROUP BY -/

def bucketItem : Reader GroupItem := fun text => do
  let rest ← char '(' (← keyword "time".toList text)
  let (interval, rest) ← durationText rest
  return (GroupItem.interval (String.ofList interval), ← char ')' rest)

theorem groupItem_eq (text : List Char) : groupItem text =
    (bucketItem text).or ((name text).map fun (tag, rest) => (.tag tag, rest)) := rfl

theorem opens_groupForm (item : GroupItem) : Opens (groupForm item) ['"', 't'] := by
  intro text written
  cases item with
  | tag tag => exact (opens_nameForm tag text written).mono (by decide)
  | interval interval =>
    simp only [groupForm, mul_assoc] at written
    exact ((opens_spelled rfl).mul _ text written).mono (by decide)

theorem reads_durationText (interval : String) :
    Reads durationText (intervalForm interval) interval.toList Anything := by
  rintro text ⟨rfl, digits, unit, same⟩ rest -
  rw [same]
  exact durationText_append digits unit rest

theorem reads_bucketItem (interval : String) :
    Reads bucketItem (groupForm (.interval interval)) (.interval interval) Anything := by
  intro text written rest _
  simp only [groupForm, mul_assoc] at written
  obtain ⟨_, written, wordRead⟩ := keyword_mem written rest
  obtain ⟨_, written, openRead⟩ := char_mem (c := '(') rfl written rest
  obtain ⟨_, written, intervalRead⟩ :=
    (reads_durationText interval).mem written rest fun _ _ => trivial
  have closeRead : char ')' (_ ++ rest) = some rest := char_append rfl written rest
  simp only [bucketItem, wordRead, openRead, intervalRead, closeRead, Option.bind_eq_bind,
    Option.bind_some, String.ofList_toList]
  rfl

theorem reads_groupItem (item : GroupItem) :
    Reads groupItem (groupForm item) item Anything := by
  intro text written rest _
  cases item with
  | tag tag =>
    have starts := (opens_nameForm tag text written).append rest
    have absent : keyword "time".toList (text ++ rest) = none :=
      keyword_eq_none_of_starts starts (by decide)
    have noBucket : bucketItem (text ++ rest) = none := by
      simp only [bucketItem, absent]
      rfl
    rw [groupItem_eq, noBucket, reads_name tag text written rest trivial]
    rfl
  | interval interval =>
    rw [groupItem_eq, reads_bucketItem interval text written rest trivial, Option.some_or]

theorem reads_groupClause {words : List String} (known : words ⊆ clauseWords)
    (items : List GroupItem) :
    Reads groupClause (spelled "GROUP" * groupingForm items) items (Ended words) := by
  intro text written rest ended
  simp only [groupingForm, mul_assoc] at written
  have opens := opens_listed opens_groupForm items
  obtain ⟨_, written, wordsRead⟩ :=
    keywordPair_mem opens (by decide) rfl (by decide) written rest
  have reads : Reads (commaList groupItem) (listed groupForm items) items (Follows listEnds) :=
    reads_commaList (fun item _ text written rest _ => reads_groupItem item text written rest trivial)
      opens_groupForm (by decide)
  simp only [groupClause, wordsRead, Option.bind_eq_bind, Option.bind_some]
  exact reads _ written rest (ended.follows_listEnds known)

theorem groupClause_eq_none {text : List Char} (absent : keyword "GROUP".toList text = none) :
    groupClause text = none := by
  simp only [groupClause, keywordPair_eq_none absent]
  rfl

/-! ## HAVING -/

theorem reads_havingClause (words : List String) (having : String × Operator × Scalar) :
    Reads havingClause (spelled "HAVING" * havingForm having) having (Ended words) := by
  intro text written rest ended
  obtain ⟨field, operator, value⟩ := having
  simp only [havingForm, mul_assoc] at written
  have opensValue := opens_numberForm value
  obtain ⟨_, written, wordRead⟩ := keyword_mem written rest
  obtain ⟨_, written, gapRead⟩ := gap_mem ((opens_nameForm field).mul _) (by decide) written rest
  obtain ⟨_, written, nameRead⟩ := (reads_name field).mem written rest fun _ _ => trivial
  obtain ⟨_, written, beforeRead⟩ :=
    skipGap_mem ((opens_operatorForm operator).mul _) (by decide) written rest
  obtain ⟨_, written, operatorRead⟩ := (reads_comparison operator).mem written rest
    fun _ written => stops_isOperatorEnd opensValue (by decide) written rest
  obtain ⟨_, written, afterRead⟩ := skipGap_mem opensValue (by decide) written rest
  simp only [havingClause, wordRead, gapRead, nameRead, beforeRead, operatorRead, afterRead,
    reads_number value _ written rest ended.endsNumber, Option.bind_eq_bind, Option.bind_some]
  rfl

theorem havingClause_eq_none {text : List Char} (absent : keyword "HAVING".toList text = none) :
    havingClause text = none := by
  simp only [havingClause, absent]
  rfl

/-! ## FILL -/

theorem Numeral.text_ne (numeral : Numeral) {word : String}
    (starts : Starts ['n', 'p', 'l'] word.toList) : String.ofList numeral.text ≠ word := by
  rintro rfl
  obtain ⟨c, rest, same, letter⟩ := starts
  obtain ⟨d, others, text, digit⟩ := numeral.starts
  rw [String.toList_ofList, text] at same
  cases same
  have apart : ∀ c ∈ ['n', 'p', 'l'], c ∉ '-' :: digitHeads := by decide
  exact apart _ letter digit

theorem read?_of_mem_fillForm {policy : FillPolicy} {text : List Char}
    (written : text ∈ fillForm policy) :
    FillPolicy.read? (String.ofList text) = some policy := by
  cases policy with
  | null => rw [FillPolicy.read?, toSmall_of_spelled written rfl (by decide)]; rfl
  | none => rw [FillPolicy.read?, toSmall_of_spelled written rfl (by decide)]; rfl
  | previous => rw [FillPolicy.read?, toSmall_of_spelled written rfl (by decide)]; rfl
  | linear => rw [FillPolicy.read?, toSmall_of_spelled written rfl (by decide)]; rfl
  | value number =>
    obtain ⟨numeral, rfl, rfl⟩ := written
    rw [FillPolicy.read?, numeral.solid.toSmall_trim, numeral.map_toLower_text]
    split
    · next same => exact absurd same (numeral.text_ne ⟨_, _, rfl, by decide⟩)
    · next same => exact absurd same (numeral.text_ne ⟨_, _, rfl, by decide⟩)
    · next same => exact absurd same (numeral.text_ne ⟨_, _, rfl, by decide⟩)
    · next same => exact absurd same (numeral.text_ne ⟨_, _, rfl, by decide⟩)
    · rw [numeral.readFloat?_text, Option.map_some]

theorem notMem_fillForm {policy : FillPolicy} {text : List Char} (written : text ∈ fillForm policy) :
    ')' ∉ text := by
  have lower {word : String} (written : text ∈ spelled word)
      (missing : ')' ∉ word.toList.map Char.toLower) : ')' ∉ text := by
    intro member
    have found : ')'.toLower ∈ text.map Char.toLower := List.mem_map_of_mem member
    rw [show text.map Char.toLower = _ from written] at found
    exact missing found
  cases policy with
  | null | none | previous | linear => exact lower written (by decide)
  | value number =>
    obtain ⟨numeral, -, rfl⟩ := written
    intro member
    rcases numeral.mem_text member with same | same | digit
    · cases same
    · cases same
    · cases digit

theorem opens_fillForm (policy : FillPolicy) :
    Opens (fillForm policy) ('n' :: 'p' :: 'l' :: '-' :: digitHeads) := by
  intro text written
  cases policy with
  | null | none | previous | linear => exact (opens_spelled rfl text written).mono (by decide)
  | value number =>
    obtain ⟨numeral, -, rfl⟩ := written
    exact numeral.starts.mono (by decide)

theorem reads_fillClause (words : List String) (policy : FillPolicy) :
    Reads fillClause (spelled "FILL" * fillingForm policy) policy (Ended words) := by
  intro text written rest _
  simp only [fillingForm, mul_assoc] at written
  obtain ⟨_, written, wordRead⟩ := keyword_mem written rest
  obtain ⟨_, written, gapRead⟩ := skipGap_mem (opens_open.mul _) (by decide) written rest
  obtain ⟨_, written, openRead⟩ := char_mem (c := '(') rfl written rest
  obtain ⟨found, foundWritten, close, closeWritten, rfl⟩ := Language.mem_mul.1 written
  have nonempty : found ≠ [] := by
    obtain ⟨c, others, rfl, -⟩ := opens_fillForm policy found foundWritten
    exact List.cons_ne_nil _ _
  have closes : Stops (· != ')') (close ++ rest) := by
    rw [show close = [')'] from closeWritten]
    exact stops_cons rfl rest
  have policyRead :=
    stretch_append nonempty (ne_of_notMem (notMem_fillForm foundWritten)) closes
  have closeRead : char ')' (close ++ rest) = some rest := char_append rfl closeWritten rest
  rw [List.append_assoc] at openRead
  simp only [fillClause, wordRead, gapRead, openRead, policyRead, closeRead,
    read?_of_mem_fillForm foundWritten, Option.bind_eq_bind, Option.bind_some]
  rfl

theorem fillClause_eq_none {text : List Char} (absent : keyword "FILL".toList text = none) :
    fillClause text = none := by
  simp only [fillClause, absent]
  rfl

/-! ## ORDER BY -/

theorem opens_orderForm (order : String × SortDirection) : Opens (orderForm order) ['"'] :=
  (opens_nameForm order.1).mul _

def directionWord : Reader SortDirection := fun text =>
  match keyword "ASC".toList text with
  | some rest => some (.ascending, rest)
  | none => (keyword "DESC".toList text).map fun rest => (.descending, rest)

theorem direction_eq_bind (text : List Char) : direction text = (gap text).bind directionWord := rfl

theorem direction_eq_none {rest : List Char} (follows : Follows itemEnds rest) :
    direction rest = none := by
  have notAscending : keyword "ASC".toList (skipGap rest) = none :=
    follows.keyword_eq_none (by decide)
  have notDescending : keyword "DESC".toList (skipGap rest) = none :=
    follows.keyword_eq_none (by decide)
  rw [direction_eq_bind]
  apply gap_bind_eq_none
  simp only [directionWord, notAscending, notDescending, Option.map_none]

theorem reads_direction (direction : SortDirection) {text : List Char}
    (written : text ∈ directionForm direction) {rest : List Char}
    (follows : Follows itemEnds rest) :
    ∃ direction?, Grammar.optional Language.direction (text ++ rest) = (direction?, rest) ∧
      direction?.getD .ascending = direction := by
  cases direction with
  | ascending =>
    rcases (Language.mem_add _ _ _).1 written with nothing | written
    · rw [show text = [] from nothing, List.nil_append]
      exact ⟨none, by simp only [Grammar.optional, direction_eq_none follows], rfl⟩
    · obtain ⟨_, written, gapRead⟩ := gap_mem (opens_spelled rfl) (by decide) written rest
      refine ⟨some .ascending, ?_, rfl⟩
      simp only [Grammar.optional, direction_eq_bind, gapRead, Option.bind_some, directionWord,
        keyword_append written]
  | descending =>
    have opens : Opens (spelled "DESC") ['d'] := opens_spelled rfl
    obtain ⟨word, written, gapRead⟩ := gap_mem opens (by decide) written rest
    have notAscending : keyword "ASC".toList (word ++ rest) = none :=
      keyword_eq_none_of_starts ((opens word written).append rest) (by decide)
    refine ⟨some .descending, ?_, rfl⟩
    simp only [Grammar.optional, direction_eq_bind, gapRead, Option.bind_some, directionWord,
      notAscending, keyword_append written, Option.map_some]

theorem reads_orderItem (order : String × SortDirection) :
    Reads orderItem (orderForm order) order (Follows itemEnds) := by
  intro text written rest follows
  obtain ⟨field, direction⟩ := order
  obtain ⟨quoted, quotedWritten, last, lastWritten, rfl⟩ := Language.mem_mul.1 written
  have nameRead := reads_name field quoted quotedWritten (last ++ rest) trivial
  obtain ⟨direction?, directionRead, same⟩ := reads_direction direction lastWritten follows
  rw [List.append_assoc]
  simp only [orderItem, nameRead, directionRead, same, Option.bind_eq_bind, Option.bind_some]
  rfl

theorem reads_orderClause {words : List String} (known : words ⊆ clauseWords)
    (items : List (String × SortDirection)) :
    Reads orderClause (spelled "ORDER" * orderingForm items) items (Ended words) := by
  intro text written rest ended
  simp only [orderingForm, mul_assoc] at written
  have opens := opens_listed opens_orderForm items
  obtain ⟨_, written, wordsRead⟩ :=
    keywordPair_mem opens (by decide) rfl (by decide) written rest
  have reads : Reads (commaList orderItem) (listed orderForm items) items (Follows listEnds) :=
    reads_commaList (fun item _ => reads_orderItem item) opens_orderForm (by decide)
  simp only [orderClause, wordsRead, Option.bind_eq_bind, Option.bind_some]
  exact reads _ written rest (ended.follows_listEnds known)

theorem orderClause_eq_none {text : List Char} (absent : keyword "ORDER".toList text = none) :
    orderClause text = none := by
  simp only [orderClause, keywordPair_eq_none absent]
  rfl

/-! ## LIMIT and OFFSET -/

theorem reads_countClause (words : List String) (word : String) (count : UInt64) :
    Reads (countClause word.toList) (spelled word * countingForm count) count (Ended words) := by
  intro text written rest ended
  have opens : Opens (countForm count) digitHeads := by
    rintro text ⟨digits, -, rfl⟩
    exact digits.starts
  obtain ⟨_, written, wordRead⟩ := keyword_mem written rest
  obtain ⟨_, ⟨digits, same, rfl⟩, gapRead⟩ := gap_mem opens (by decide) written rest
  have small : Decimal.digitsValue digits.text < UInt64.size := by
    have value : Decimal.digitsValue digits.text = count.toNat := same
    rw [value]
    exact count.toNat_lt_size
  have read : UInt64.ofNat (Decimal.digitsValue digits.text) = count := by
    have value : Decimal.digitsValue digits.text = count.toNat := same
    rw [value, UInt64.ofNat_toNat]
  simp only [countClause, wordRead, gapRead, digits.stretch_append ended.endsNumber.stops,
    if_pos small, read, Option.bind_eq_bind, Option.bind_some]
  rfl

theorem countClause_eq_none {word text : List Char} (absent : keyword word text = none) :
    countClause word text = none := by
  simp only [countClause, absent]
  rfl

end SeriesQuery.Language
