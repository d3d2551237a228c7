import SeriesQuery.Proofs.Language.Words

/-!
Written forms have no white space around them, so that trimming leaves them as they are.
-/

set_option autoImplicit false

namespace SeriesQuery.Language

/-! ## White space -/

theorem toNat_of_isBlank {c : Char} (blank : Text.isBlank c = true) :
    c.toNat < 65 ∨ 122 < c.toNat := by
  simp only [Text.isBlank, Bool.or_eq_true, Bool.and_eq_true, decide_eq_true_eq, beq_iff_eq]
    at blank
  omega

theorem caseFree_isBlank : CaseFree Text.isBlank :=
  caseFree_of_no_letter fun _ blank => by have := toNat_of_isBlank blank; omega

def EndsSolid (text : List Char) : Prop := Stops Text.isBlank text.reverse

theorem trimChars_eq {text : List Char} (starts : Stops Text.isBlank text)
    (ends : EndsSolid text) : Text.trimChars text = text := by
  rw [Text.trimChars, dropWhile_of_stops starts, Text.dropEndWhile, dropWhile_of_stops ends,
    List.reverse_reverse]

def Solid (text : List Char) : Prop := ∀ c ∈ text, Text.isBlank c = false

instance (text : List Char) : Decidable (Solid text) :=
  inferInstanceAs (Decidable (∀ c ∈ text, Text.isBlank c = false))

theorem Solid.stops {text : List Char} (solid : Solid text) : Stops Text.isBlank text := by
  rintro c rest rfl
  exact solid c List.mem_cons_self

theorem Solid.append {first last : List Char} (left : Solid first) (right : Solid last) :
    Solid (first ++ last) :=
  List.forall_mem_append.2 ⟨left, right⟩

theorem Solid.endsSolid {text : List Char} (solid : Solid text) : EndsSolid text := by
  intro c rest same
  exact solid c (List.mem_reverse.1 (same ▸ List.mem_cons_self))

theorem Solid.stops_gap {text : List Char} (solid : Solid text) : Stops Text.isGap text :=
  solid.stops.mono fun _ => Text.isBlank_of_isGap

theorem Solid.eq_nil_of_blank {text : List Char} (solid : Solid text)
    (blank : ∀ c ∈ text, Text.isBlank c = true) : text = [] := by
  apply List.eq_nil_iff_forall_not_mem.2
  intro c member
  exact absurd (blank c member) (by simp [solid c member])

theorem Solid.trimChars_eq {text : List Char} (solid : Solid text) : Text.trimChars text = text :=
  SeriesQuery.Language.trimChars_eq solid.stops solid.endsSolid

/-! ## Letter case -/

theorem Solid.of_lower {text lower : List Char} (same : text.map Char.toLower = lower)
    (solid : Solid lower) : Solid text := by
  intro c member
  rw [← caseFree_isBlank]
  exact solid _ (same ▸ List.mem_map_of_mem member)

theorem Solid.toSmall_trim {text : List Char} (solid : Solid text) :
    Text.toSmall (Text.trim (String.ofList text)) = String.ofList (text.map Char.toLower) := by
  apply String.toList_injective
  simp only [Text.toSmall, Text.trim, String.toList_map, String.toList_ofList,
    solid.trimChars_eq]

theorem toSmall_of_spelled {word : String} {text lower : List Char} (written : text ∈ spelled word)
    (same : word.toList.map Char.toLower = lower) (solid : Solid lower) :
    Text.toSmall (Text.trim (String.ofList text)) = String.ofList lower := by
  have written : text.map Char.toLower = lower := Eq.trans written same
  rw [(Solid.of_lower written solid).toSmall_trim, written]

/-! ## Numbers -/

theorem isBlank_of_isDigit {c : Char} (digit : c.isDigit = true) : Text.isBlank c = false := by
  cases blank : Text.isBlank c with
  | false => rfl
  | true =>
    have bounds := toNat_of_isDigit digit
    simp only [Text.isBlank, Bool.or_eq_true, Bool.and_eq_true, decide_eq_true_eq, beq_iff_eq]
      at blank
    omega

theorem map_toLower_of_digits {text : List Char} (digits : ∀ c ∈ text, c.isDigit = true) :
    text.map Char.toLower = text := by
  conv_rhs => rw [← List.map_id text]
  exact List.map_congr_left fun c member => Decimal.toLower_of_isDigit (digits c member)

theorem Numeral.mem_text {numeral : Numeral} {c : Char} (member : c ∈ numeral.text) :
    c = '-' ∨ c = '.' ∨ c.isDigit = true := by
  obtain ⟨negative, whole, fraction?⟩ := numeral
  simp only [Numeral.text, Numeral.signText, List.mem_append] at member
  rcases member with (sign | digit) | fraction
  · cases negative with
    | true => exact .inl (List.mem_singleton.1 sign)
    | false => cases sign
  · exact .inr (.inr (whole.digits c digit))
  · cases fraction? with
    | none => cases fraction
    | some digits =>
      rcases List.mem_cons.1 fraction with same | digit
      · exact .inr (.inl same)
      · exact .inr (.inr (digits.digits c digit))

theorem Numeral.solid (numeral : Numeral) : Solid numeral.text := by
  intro c member
  rcases mem_text member with rfl | rfl | digit
  · decide
  · decide
  · exact isBlank_of_isDigit digit

theorem Numeral.map_toLower_text (numeral : Numeral) :
    numeral.text.map Char.toLower = numeral.text := by
  conv_rhs => rw [← List.map_id numeral.text]
  apply List.map_congr_left
  intro c member
  rcases mem_text member with rfl | rfl | digit
  · decide
  · decide
  · exact Decimal.toLower_of_isDigit digit

/-! ## Ends of forms -/

/-- No text of the form ends with white space. -/
def Ends (form : Form) : Prop := ∀ text ∈ form, EndsSolid text

/-- Every text of the form ends, and not with white space. -/
def Closed (form : Form) : Prop := ∀ text ∈ form, text ≠ [] ∧ EndsSolid text

theorem EndsSolid.append {first last : List Char} (left : EndsSolid first)
    (right : EndsSolid last) : EndsSolid (first ++ last) := by
  intro c rest same
  rw [List.reverse_append] at same
  cases found : last.reverse with
  | nil =>
    rw [found, List.nil_append] at same
    exact left c rest same
  | cons d others =>
    rw [found, List.cons_append] at same
    cases same
    exact right c others found

theorem endsSolid_append {first last : List Char} (nonempty : last ≠ [])
    (ends : EndsSolid last) : EndsSolid (first ++ last) := by
  intro c rest same
  rw [List.reverse_append] at same
  cases found : last.reverse with
  | nil => exact absurd (List.reverse_eq_nil_iff.1 found) nonempty
  | cons d others =>
    rw [found, List.cons_append] at same
    cases same
    exact ends c others found

theorem Closed.ends {form : Form} (closed : Closed form) : Ends form :=
  fun text written => (closed text written).2

theorem ends_one : Ends 1 := by
  intro text written
  rw [show text = [] from written]
  exact stops_nil _

theorem Ends.mul {first last : Form} (left : Ends first) (right : Ends last) :
    Ends (first * last) := by
  intro text written
  obtain ⟨found, foundWritten, rest, restWritten, rfl⟩ := Language.mem_mul.1 written
  exact (left found foundWritten).append (right rest restWritten)

theorem Closed.mul {first last : Form} (left : Closed first) (right : Ends last) :
    Closed (first * last) := by
  intro text written
  obtain ⟨found, foundWritten, rest, restWritten, rfl⟩ := Language.mem_mul.1 written
  obtain ⟨nonempty, ends⟩ := left found foundWritten
  exact ⟨List.append_ne_nil_of_left_ne_nil nonempty rest, ends.append (right rest restWritten)⟩

theorem Closed.of_mul {last : Form} (closed : Closed last) (first : Form) :
    Closed (first * last) := by
  intro text written
  obtain ⟨found, -, rest, restWritten, rfl⟩ := Language.mem_mul.1 written
  obtain ⟨nonempty, ends⟩ := closed rest restWritten
  exact ⟨List.append_ne_nil_of_right_ne_nil found nonempty, endsSolid_append nonempty ends⟩

theorem Closed.add {first second : Form} (left : Closed first) (right : Closed second) :
    Closed (first + second) := by
  intro text written
  exact ((Language.mem_add _ _ _).1 written).elim (left text) (right text)

theorem closed_zero : Closed 0 := fun text written => absurd written (Language.notMem_zero text)

theorem Closed.prod {α : Type} {form : α → Form} (closed : ∀ a, Closed (form a)) (items : List α) :
    Ends (items.map form).prod := by
  induction items with
  | nil => exact ends_one
  | cons first others ih =>
    rw [List.map_cons, List.prod_cons]
    exact (closed first).ends.mul ih

theorem Closed.listed {α : Type} {form : α → Form} (closed : ∀ a, Closed (form a))
    (items : List α) : Closed (listed form items) := by
  cases items with
  | nil => exact closed_zero
  | cons first others =>
    exact (closed first).mul (Closed.prod (fun a => (closed a).of_mul _) others)

theorem ends_clauseForm {α : Type} {form : α → Form} (closed : ∀ a, Closed (form a))
    (word : String) (value? : Option α) : Ends (clauseForm word form value?) := by
  cases value? with
  | none => exact ends_one
  | some value => exact ((closed value).of_mul _).ends

theorem closed_of_last {text : List Char} {c : Char} (solid : Text.isBlank c = false) :
    text ++ [c] ≠ [] ∧ EndsSolid (text ++ [c]) := by
  refine ⟨by simp, ?_⟩
  intro d rest same
  rw [List.reverse_append, List.reverse_singleton, List.singleton_append] at same
  cases same
  exact solid

theorem closed_nameForm (name : String) : Closed (nameForm name) := by
  rintro text ⟨-, -, rfl⟩
  exact closed_of_last (by decide)

theorem closed_quotedForm (content : String) : Closed (quotedForm content) := by
  rintro text ⟨-, rfl⟩
  exact closed_of_last (by decide)

theorem closed_patternForm (pattern : String) : Closed (patternForm pattern) := by
  rintro text ⟨-, rfl⟩
  exact closed_of_last (by decide)

theorem closed_close : Closed (exactly ")") := by
  intro text written
  rw [show text = [] ++ [')'] from written]
  exact closed_of_last (by decide)

theorem Solid.closed {text : List Char} (solid : Solid text) (nonempty : text ≠ []) :
    text ≠ [] ∧ EndsSolid text := ⟨nonempty, solid.endsSolid⟩

theorem closed_spelled {word : String} {c : Char} {letters : List Char}
    (same : word.toList.map Char.toLower = c :: letters) (solid : Solid (c :: letters)) :
    Closed (spelled word) := by
  intro text written
  have written : text.map Char.toLower = c :: letters := Eq.trans written same
  refine (Solid.of_lower written solid).closed ?_
  rintro rfl
  cases written

theorem Digits.solid (digits : Digits) : Solid digits.text :=
  fun c member => isBlank_of_isDigit (digits.digits c member)

theorem closed_numberForm (value : Scalar) : Closed (numberForm value) := by
  rintro text ⟨numeral, -, rfl⟩
  obtain ⟨c, rest, same, -⟩ := numeral.starts
  exact numeral.solid.closed (same ▸ List.cons_ne_nil c rest)

theorem closed_countForm (count : UInt64) : Closed (countForm count) := by
  rintro text ⟨digits, -, rfl⟩
  exact digits.solid.closed digits.nonempty

theorem closed_durationForm (duration : Duration) : Closed (durationForm duration) := by
  rintro text ⟨digits, -, rfl⟩
  exact closed_of_last (by cases duration.unit <;> decide)

theorem closed_literalForm (value : Scalar) : Closed (literalForm value) := by
  cases value with
  | null => exact closed_spelled rfl (by decide)
  | bool value =>
    cases value with
    | true => exact closed_spelled rfl (by decide)
    | false => exact closed_spelled rfl (by decide)
  | integer value => exact closed_numberForm _
  | float value => exact closed_numberForm _
  | timestamp value => exact closed_zero
  | string value => exact closed_quotedForm _

theorem closed_tailForm (operator : Operator) (value : ConditionValue) :
    Closed (tailForm operator value) := by
  have closedValues (values : List Scalar) : Closed (valuesForm values) := closed_close.of_mul _
  unfold tailForm
  split
  · exact (closedValues _).of_mul _
  · exact (closedValues _).of_mul _
  · exact (closed_literalForm _).of_mul _
  · exact (closed_patternForm _).of_mul _
  · exact (closed_patternForm _).of_mul _
  · exact (closed_literalForm _).of_mul _
  · exact closed_zero

theorem closed_itemForm (item : WhereItem) : Closed (itemForm item) := by
  cases item with
  | latest duration => exact (closed_durationForm duration).of_mul _
  | timeBound operator instant =>
    have closedDate : Closed (dateForm instant) := by
      rintro text ⟨date, -, written⟩
      exact closed_quotedForm date text written
    exact closedDate.of_mul _
  | condition field operator value => exact (closed_tailForm operator value).of_mul _

theorem closed_whereForm (items : List (Connective × WhereItem)) : Closed (whereForm items) := by
  unfold whereForm
  split
  · exact ((closed_itemForm _).of_mul _).mul
      (Closed.prod (fun item : Connective × WhereItem => (closed_itemForm item.2).of_mul _) _)
  · exact closed_zero

theorem closed_groupForm (item : GroupItem) : Closed (groupForm item) := by
  cases item with
  | tag tag => exact closed_nameForm tag
  | interval interval => exact closed_close.of_mul _

theorem closed_orderForm (order : String × SortDirection) : Closed (orderForm order) := by
  have ends : Ends (directionForm order.2) := by
    cases order.2 with
    | ascending =>
      have closed : Closed (spelled "ASC") := closed_spelled rfl (by decide)
      intro text written
      exact ((Language.mem_add _ _ _).1 written).elim (ends_one text) ((closed.of_mul _).ends text)
    | descending =>
      have closed : Closed (spelled "DESC") := closed_spelled rfl (by decide)
      exact (closed.of_mul _).ends
  exact (closed_nameForm order.1).mul ends

theorem ends_restForm (clauses : Clauses) : Ends clauses.restForm := by
  have grouping (items : List GroupItem) : Closed (groupingForm items) :=
    (Closed.listed closed_groupForm items).of_mul _
  have having (having : String × Operator × Scalar) : Closed (havingForm having) :=
    (closed_numberForm _).of_mul _
  have filling (policy : FillPolicy) : Closed (fillingForm policy) := closed_close.of_mul _
  have ordering (items : List (String × SortDirection)) : Closed (orderingForm items) :=
    (Closed.listed closed_orderForm items).of_mul _
  have counting (count : UInt64) : Closed (countingForm count) := (closed_countForm count).of_mul _
  exact (ends_clauseForm closed_whereForm _ _).mul ((ends_clauseForm grouping _ _).mul
    ((ends_clauseForm having _ _).mul ((ends_clauseForm filling _ _).mul
      ((ends_clauseForm ordering _ _).mul ((ends_clauseForm counting _ _).mul
        (ends_clauseForm counting _ _))))))

theorem closed_form (clauses : Clauses) : Closed clauses.form := by
  have last := (closed_nameForm clauses.measurement).mul (ends_restForm clauses)
  exact (((last.of_mul _).of_mul _).of_mul _).of_mul _

end SeriesQuery.Language
