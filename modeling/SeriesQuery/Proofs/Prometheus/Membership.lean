import SeriesQuery.Proofs.Text.Literals
import SeriesQuery.Proofs.Text.Patterns
import SeriesQuery.Prometheus.Compiler

/-!
Conditions on the membership in a list select labels by a pattern that is written as a quoted text.
Read as a server reads it, the pattern matches the members of the list and no other label value. A
list without members is the exception: its pattern matches the empty value, which is also the value
of a label that is absent.
-/

set_option autoImplicit false

namespace SeriesQuery.Prometheus

/-! ## Matching labels -/

/-- The relation at the start of a text between a label and a pattern, as whether it is negated. -/
def relation? : List Char → Option (Bool × List Char)
  | '=' :: '~' :: rest => some (false, rest)
  | '!' :: '~' :: rest => some (true, rest)
  | _ => none

/-- Whether a value of the label passes a matcher as it is written; none if the text is not a
matcher of this label by a pattern. -/
def passes? (label written value : String) : Option Bool := do
  let afterLabel ← Text.dropStart? label.toList written.toList
  let (negated, afterRelation) ← relation? afterLabel
  let (content, rest) ← Text.readQuoted .onLine afterRelation
  if rest.isEmpty then
    let pattern ← Text.pattern? (String.ofList content)
    return pattern.accepts value != negated
  else none

theorem passes?_text {label relation value : String} {pattern : Text.Pattern} (negated : Bool)
    (relates : ∀ rest, relation? (relation.toList ++ rest) = some (negated, rest))
    (read : Text.pattern? value = some pattern) (candidate : String) :
    passes? label (Matcher.mk label relation value).text candidate =
      some (pattern.accepts candidate != negated) := by
  have literal :
      Text.readQuoted .onLine (Text.quotedLine value).toList = some (value.toList, []) := by
    have whole := Text.readQuoted_quotedBy Text.legible_escapeQuoteAndLine value []
    rwa [List.append_nil] at whole
  rw [passes?, Matcher.text, String.toList_append, String.toList_append, List.append_assoc,
    Text.dropStart?_append, Option.bind_eq_bind, Option.bind_some, relates]
  simp only [Option.bind_eq_bind, Option.bind_some, literal, String.ofList_toList, read]
  rfl

/-! ## Lists -/

/-- What a list of values stands for: their plain forms, or the empty text if there are none. -/
def membersOf (values : List Scalar) : List String :=
  if values.isEmpty then [""] else values.map Scalar.plain

theorem alternation_eq (values : List Scalar) :
    alternation values =
      "^(?:" ++ "|".intercalate ((membersOf values).map Text.literalPattern) ++ ")$" := by
  cases values with
  | nil => rfl
  | cons first others =>
    simp only [alternation, membersOf, List.isEmpty_cons, Bool.false_eq_true, if_false,
      List.map_map]
    rfl

theorem pattern?_alternation (values : List Scalar) :
    ∃ pattern, Text.pattern? (alternation values) = some pattern ∧
      ∀ value, pattern.accepts value = decide (value ∈ membersOf values) := by
  obtain ⟨first, others, members⟩ : ∃ first others, membersOf values = first :: others := by
    cases values with
    | nil => exact ⟨"", [], rfl⟩
    | cons first others => exact ⟨first.plain, others.map Scalar.plain, rfl⟩
  rw [alternation_eq, members]
  refine ⟨(Text.oneOf first others).anchored, ?_, fun value => ?_⟩
  · have anchors (body : String) : ("^(?:" ++ body ++ ")$").toList =
        '^' :: ("(?:".toList ++ (body.toList ++ ')' :: ['$'])) := by
      rw [String.toList_append, String.toList_append, List.append_assoc]
      rfl
    rw [Text.pattern?, anchors, Text.readPattern, Text.readPattern_group]
    rfl
  · rw [Bool.eq_iff_iff, Text.Pattern.accepts_anchored, Text.leaves_oneOf, decide_eq_true_iff]
    simp only [String.toList_inj, exists_eq_right']

/-- Of the label values, a condition on a list selects exactly those that the list stands for. -/
theorem selects_members {field : String} (label : field ≠ "time") (values : List Scalar)
    (connective : Connective) :
    ∃ included excluded,
      matcher? ⟨field, .isIn, .list values, connective⟩ = some included ∧
      matcher? ⟨field, .notIn, .list values, connective⟩ = some excluded ∧
      ∀ value,
        passes? field included.text value = some (decide (value ∈ membersOf values)) ∧
        passes? field excluded.text value = some (!decide (value ∈ membersOf values)) := by
  have noTime (condition : Condition) (same : condition.field = field) : condition.isTime = false :=
    beq_eq_false_iff_ne.2 (same ▸ label)
  obtain ⟨pattern, read, accepts⟩ := pattern?_alternation values
  refine ⟨⟨field, "=~", alternation values⟩, ⟨field, "!~", alternation values⟩, ?_, ?_, ?_⟩
  · rw [matcher?, noTime _ rfl, if_neg Bool.false_ne_true]
  · rw [matcher?, noTime _ rfl, if_neg Bool.false_ne_true]
  · intro value
    rw [passes?_text false (fun _ => rfl) read, passes?_text true (fun _ => rfl) read, accepts]
    exact ⟨congrArg some (Bool.bne_false _), congrArg some (Bool.bne_true _)⟩

theorem selects_members_signs :
    "host" ≠ "time" ∧ ∃ included excluded,
      matcher? ⟨"host", .isIn, .list [.string "a.b|\"c\n", .null], .and⟩ = some included ∧
      matcher? ⟨"host", .notIn, .list [.string "a.b|\"c\n", .null], .and⟩ = some excluded ∧
      ∀ value,
        passes? "host" included.text value =
          some (decide (value ∈ membersOf [.string "a.b|\"c\n", .null])) ∧
        passes? "host" excluded.text value =
          some (!decide (value ∈ membersOf [.string "a.b|\"c\n", .null])) :=
  ⟨by decide, selects_members (by decide) [.string "a.b|\"c\n", .null] .and⟩

/-- A list without members lets an absent label pass. -/
example : passes? "host" "host=~\"^(?:)$\"" "" = some true := by decide

end SeriesQuery.Prometheus
