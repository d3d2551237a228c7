import SeriesQuery.Proofs.Language.Refinements

/-!
What readers take from a text, whatever the text is: comparisons where comparisons stand, values of
the shape that their operators ask for, and intervals of digits and a unit.
-/

set_option autoImplicit false

namespace SeriesQuery.Language

open Grammar

/-! ## Readers -/

def Takes {α : Type} (P : α → Prop) (taken : Option (α × List Char)) : Prop :=
  ∀ value rest, taken = some (value, rest) → P value

section
variable {α β : Type} {P : α → Prop} {Q : β → Prop}

namespace Takes

theorem nothing : Takes P none := nofun

theorem found {value : α} {rest : List Char} (holds : P value) : Takes P (some (value, rest)) := by
  rintro _ _ ⟨⟩
  exact holds

theorem anything {taken : Option (α × List Char)} : Takes (fun _ => True) taken :=
  fun _ _ _ => trivial

theorem after {step : Option β} {next : β → Option (α × List Char)}
    (each : ∀ b, Takes P (next b)) : Takes P (step >>= next) := by
  cases step with
  | none => exact nothing
  | some b => exact each b

theorem next {first : Option (β × List Char)} {others : β × List Char → Option (α × List Char)}
    (takes : Takes Q first) (each : ∀ b rest, Q b → Takes P (others (b, rest))) :
    Takes P (first >>= others) := by
  cases first with
  | none => exact nothing
  | some pair => exact each pair.1 pair.2 (takes _ _ rfl)

theorem map {first : Option (β × List Char)} {f : β × List Char → α × List Char}
    (takes : Takes Q first) (each : ∀ b rest, Q b → P (f (b, rest)).1) : Takes P (first.map f) := by
  cases first with
  | none => exact nothing
  | some pair => exact found (each pair.1 pair.2 (takes _ _ rfl))

theorem or {first second : Option (α × List Char)} (left : Takes P first)
    (right : Takes P second) : Takes P (first.or second) := by
  cases first with
  | none => exact right
  | some pair => exact left

end Takes

variable {reader : Reader α}

theorem takes_stretch (p : Char → Bool) (text : List Char) :
    Takes (fun content => content ≠ [] ∧ ∀ c ∈ content, p c = true) (stretch p text) := by
  intro content rest read
  unfold stretch at read
  split at read
  · cases read
  · next nonempty =>
    have same : text.span p = (content, rest) := Option.some.inj read
    refine ⟨?_, ?_⟩
    · rintro rfl
      exact nonempty rest same
    · rw [List.span_eq_takeWhile_dropWhile] at same
      cases same
      exact fun c => List.mem_takeWhile_imp

theorem forall_mem_repeated (takes : ∀ text, Takes P (reader text)) (text : List Char) :
    ∀ item ∈ (repeated reader text).1, P item := by
  fun_induction repeated reader text with
  | case1 text absent => exact List.forall_mem_nil _
  | case2 text value rest read shorter others last more ih =>
    -- the others are those of the shorter text, which the induction knows
    rw [more] at ih
    exact List.forall_mem_cons.2 ⟨takes text value rest read, ih⟩
  | case3 text value rest read longer => exact List.forall_mem_nil _

theorem takes_commaList (takes : ∀ text, Takes P (reader text)) (text : List Char) :
    Takes (fun items => items ≠ [] ∧ ∀ item ∈ items, P item) (commaList reader text) :=
  .next (takes text) fun _ rest holds => .found ⟨List.cons_ne_nil _ _,
    List.forall_mem_cons.2 ⟨holds, forall_mem_repeated (fun _ => .after fun _ => takes _) rest⟩⟩

theorem clause_eq_some (takes : ∀ text, Takes P (reader text)) {text : List Char} {value : α}
    (read : (clause reader text).1 = some value) : P value := by
  unfold clause Grammar.optional at read
  split at read
  · next found rest present =>
    cases read
    obtain ⟨after, -, present⟩ := Option.bind_eq_some_iff.1 present
    exact takes after _ rest present
  · cases read

end

/-! ## Operators and values -/

theorem takes_comparison (text : List Char) :
    Takes (fun operator => operator.isComparison = true) (comparison text) := by
  unfold comparison
  split
  case h_9 => exact .nothing
  all_goals exact .found rfl

/-- The value has the shape that the operator asks for, and a list is not empty. -/
inductive Fits : Operator → ConditionValue → Prop where
  | compared {operator : Operator} (comparison : operator.isComparison = true) (value : Scalar) :
    Fits operator (.scalar value)
  | isIn {values : List Scalar} (nonempty : values ≠ []) : Fits .isIn (.list values)
  | notIn {values : List Scalar} (nonempty : values ≠ []) : Fits .notIn (.list values)
  | between (low high : Scalar) : Fits .between (.list [low, high])
  | regex (pattern : String) : Fits .regex (.scalar (.string pattern))
  | notRegex (pattern : String) : Fits .notRegex (.scalar (.string pattern))

def Fitting (tail : Operator × ConditionValue) : Prop := Fits tail.1 tail.2

theorem takes_listTail (text : List Char) : Takes Fitting (listTail text) := by
  -- either operator is followed by a list in the same way
  have listed (operator : Operator) (fits : ∀ {values}, values ≠ [] → Fits operator (.list values))
      (rest : List Char) : Takes Fitting ((char '(' (skipGap rest)).bind fun rest =>
        (commaList literal (skipGap rest)).bind fun items =>
          (char ')' (skipGap items.2)).bind fun rest => some ((operator, .list items.1), rest)) :=
    .after fun _ => .next (takes_commaList (fun _ => .anything) _) fun _ _ items =>
      .after fun _ => .found (fits items.1)
  unfold listTail
  dsimp only
  split
  · exact listed .notIn .notIn _
  · cases keyword "IN".toList text with
    | none => exact .nothing
    | some rest => exact listed .isIn .isIn rest

theorem takes_betweenTail (text : List Char) : Takes Fitting (betweenTail text) :=
  .after fun _ => .after fun _ => .after fun low => .after fun _ => .after fun _ =>
    .after fun _ => .after fun high => .found (.between low.1 high.1)

theorem takes_regexTail (text : List Char) : Takes Fitting (regexTail text) := by
  have patterned (operator : Operator)
      (fits : ∀ pattern, Fits operator (.scalar (.string pattern))) (rest : List Char) :
      Takes Fitting (((enclosed '/' '/' (skipGap rest)).or (enclosed '\'' '\'' (skipGap rest))).bind
        fun pattern =>
          some ((operator, .scalar (.string (String.ofList pattern.1))), pattern.2)) :=
    .after fun pattern => .found (fits (String.ofList pattern.1))
  unfold regexTail
  split
  · exact patterned .regex .regex _
  · exact patterned .notRegex .notRegex _
  · exact .nothing

theorem takes_comparisonTail (text : List Char) : Takes Fitting (comparisonTail text) :=
  .next (takes_comparison text) fun _ _ comparison => .after fun value =>
    .found (.compared comparison value.1)

theorem takes_fieldCondition (text : List Char) :
    Takes (fun condition => Fitting condition.2) (fieldCondition text) :=
  .after fun _ => .next
    (((takes_listTail _).or (takes_betweenTail _)).or (takes_regexTail _) |>.or
      (takes_comparisonTail _))
    fun _ _ fits => .found fits

/-! ## Conditions -/

def WhereItem.Fits : WhereItem → Prop
  | .latest _ => True
  | .timeBound operator _ => operator.isComparison = true
  | .condition _ operator value => Language.Fits operator value

theorem takes_boundItem (text : List Char) :
    Takes (fun bound => bound.1.isComparison = true) (boundItem text) :=
  .after fun _ => .next (takes_comparison _) fun _ _ comparison => .after fun _ => .after fun _ =>
    .found comparison

theorem takes_whereItem (text : List Char) : Takes WhereItem.Fits (whereItem text) := by
  unfold whereItem
  split
  · exact .found trivial
  · split
    · next operator instant rest read => exact .found (takes_boundItem text _ rest read)
    · exact (takes_fieldCondition text).map fun _ _ fits => fits

theorem takes_joinedItem (text : List Char) :
    Takes (fun item => item.2.Fits) (joinedItem text) :=
  .after fun _ => .next (takes_whereItem _) fun _ _ fits => .found fits

theorem takes_whereClause (text : List Char) :
    Takes (fun items => ∀ item ∈ items, item.2.Fits) (whereClause text) :=
  .after fun _ => .after fun _ => .next (takes_whereItem _) fun _ rest fits =>
    .found (List.forall_mem_cons.2 ⟨fits, forall_mem_repeated takes_joinedItem rest⟩)

/-! ## Groups and filters on aggregated values -/

theorem takes_durationText (text : List Char) :
    Takes (fun found => found ∈ intervalForm (String.ofList found)) (durationText text) := by
  refine .next (takes_stretch Char.isDigit text) fun content rest all => ?_
  cases rest with
  | nil => exact .nothing
  | cons symbol others =>
    dsimp only
    split
    · next known =>
      obtain ⟨unit, isUnit⟩ := Option.isSome_iff_exists.1 known
      refine .found ⟨String.toList_ofList.symm, ⟨content, all.1, all.2⟩, unit, ?_⟩
      rw [DurationUnit.eq_symbol_of_ofSymbol? isUnit]
    · exact .nothing

def GroupItem.Fits : GroupItem → Prop
  | .tag _ => True
  | .interval text => text.toList ∈ intervalForm text

theorem takes_groupItem (text : List Char) : Takes GroupItem.Fits (groupItem text) := by
  refine .or ?_ (Takes.anything.map fun _ _ _ => trivial)
  exact .after fun _ => .after fun _ => .next (takes_durationText _) fun found _ written =>
    .after fun _ => .found (by rwa [GroupItem.Fits, String.toList_ofList])

theorem takes_groupClause (text : List Char) :
    Takes (fun items => ∀ item ∈ items, item.Fits) (groupClause text) :=
  .after fun _ => fun items rest read => (takes_commaList takes_groupItem _ items rest read).2

theorem takes_havingClause (text : List Char) :
    Takes (fun having => having.2.1.isComparison = true) (havingClause text) :=
  .after fun _ => .after fun _ => .after fun _ => .next (takes_comparison _) fun _ _ comparison =>
    .after fun _ => .found comparison

/-! ## Queries -/

structure Clauses.Fit (clauses : Clauses) : Prop where
  conditions : ∀ item ∈ clauses.conditions, item.2.Fits
  grouping : ∀ item ∈ clauses.grouping, item.Fits
  having : ∀ having, clauses.having? = some having → having.2.1.isComparison = true

theorem forall_mem_clause {α : Type} {P : α → Prop} {reader : Reader (List α)}
    (takes : ∀ text, Takes (fun items => ∀ item ∈ items, P item) (reader text)) (text : List Char) :
    ∀ item ∈ (clause reader text).1.getD [], P item := by
  cases found : (clause reader text).1 with
  | none => exact List.forall_mem_nil _
  | some items => exact clause_eq_some takes found

theorem takes_clauses (text : List Char) : Takes Clauses.Fit (clauses text) :=
  .after fun _ => .after fun _ => .after fun _ => .after fun _ => .after fun _ => .found {
    conditions := forall_mem_clause takes_whereClause _
    grouping := forall_mem_clause takes_groupClause _
    having := fun _ found => clause_eq_some takes_havingClause found }

end SeriesQuery.Language
