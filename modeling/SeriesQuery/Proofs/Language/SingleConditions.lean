import SeriesQuery.Proofs.Language.Taken
import SeriesQuery.Proofs.Language.Windows

/-!
One condition, read by itself and as all that a query asks for. The two readers take a condition on
a field alike: only a field with the name of the time is taken for something else, and whatever else
a query is written with leaves a mark on it.
-/

set_option autoImplicit false

namespace SeriesQuery.Language

open Grammar

/-! ## Items -/

theorem exists_of_keyword {word text rest : List Char} (read : keyword word text = some rest) :
    ∃ taken, text = taken ++ rest ∧ taken.map Char.toLower = word.map Char.toLower := by
  induction word generalizing text with
  | nil =>
    cases read
    exact ⟨[], rfl, rfl⟩
  | cons c word ih =>
    cases text with
    | nil => cases read
    | cons d text =>
      simp only [keyword] at read
      split at read
      · next same =>
        obtain ⟨taken, rfl, lower⟩ := ih read
        exact ⟨d :: taken, rfl, by rw [List.map_cons, List.map_cons, same, lower]⟩
      · cases read

theorem starts_of_comparison {text : List Char} {found : Operator × List Char}
    (read : comparison text = some found) : Starts operatorHeads text := by
  unfold comparison at read
  split at read
  case h_9 => cases read
  all_goals exact ⟨_, _, rfl, by decide⟩

theorem eq_cons_of_char {c : Char} {text rest : List Char} (read : char c text = some rest) :
    text = c :: rest := by
  cases text with
  | nil => cases read
  | cons d others =>
    simp only [char] at read
    split at read
    · next same =>
      cases read
      rw [same]
    · cases read

theorem name_of_time {text rest : List Char} (word : keyword "time".toList text = some rest)
    (starts : Starts operatorHeads (skipGap rest)) :
    ∃ field, name text = some (field, rest) ∧ Text.toSmall field = "time" := by
  obtain ⟨taken, rfl, lower⟩ := exists_of_keyword word
  have bare : BareName taken := bareName_of_lower lower ⟨'t', _, rfl, by decide⟩ (by decide)
  have stops : Stops continuesName rest :=
    Follows.stops (.inr starts) caseFree_continuesName (by decide)
  refine ⟨String.ofList taken, bare.name_append stops, ?_⟩
  rw [← String.toList_inj, Text.toSmall, String.toList_map, String.toList_ofList, lower]
  rfl

theorem starts_of_latestItem {text : List Char} {found : Duration × List Char}
    (read : latestItem text = some found) :
    ∃ rest, keyword "time".toList text = some rest ∧ Starts operatorHeads (skipGap rest) := by
  obtain ⟨rest, word, read⟩ := Option.bind_eq_some_iff.1 read
  obtain ⟨after, mark, -⟩ := Option.bind_eq_some_iff.1 read
  exact ⟨rest, word, '>', after, eq_cons_of_char mark, by decide⟩

theorem starts_of_boundItem {text : List Char} {found : (Operator × Time.Instant) × List Char}
    (read : boundItem text = some found) :
    ∃ rest, keyword "time".toList text = some rest ∧ Starts operatorHeads (skipGap rest) := by
  obtain ⟨rest, word, read⟩ := Option.bind_eq_some_iff.1 read
  obtain ⟨compared, operator, -⟩ := Option.bind_eq_some_iff.1 read
  exact ⟨rest, word, starts_of_comparison operator⟩

theorem whereItem_of_fieldCondition {text rest : List Char} {field : String} {operator : Operator}
    {value : ConditionValue} (read : fieldCondition text = some ((field, operator, value), rest))
    (other : Text.toSmall field ≠ "time") :
    whereItem text = some (.condition field operator value, rest) := by
  obtain ⟨⟨called, after⟩, named, tail⟩ := Option.bind_eq_some_iff.1 read
  obtain ⟨⟨⟨_, _⟩, _⟩, -, same⟩ := Option.bind_eq_some_iff.1 tail
  cases same
  have noTime {rest : List Char} (word : keyword "time".toList text = some rest) :
      ¬Starts operatorHeads (skipGap rest) := by
    intro starts
    obtain ⟨same, read, isTime⟩ := name_of_time word starts
    rw [named] at read
    cases read
    exact other isTime
  have noLatest : latestItem text = none := by
    refine Option.eq_none_iff_forall_ne_some.2 fun found read => ?_
    obtain ⟨rest, word, starts⟩ := starts_of_latestItem read
    exact noTime word starts
  have noBound : boundItem text = none := by
    refine Option.eq_none_iff_forall_ne_some.2 fun found read => ?_
    obtain ⟨rest, word, starts⟩ := starts_of_boundItem read
    exact noTime word starts
  rw [whereItem, noLatest, noBound, read]
  rfl

theorem fieldCondition_of_whereItem {text rest : List Char} {field : String} {operator : Operator}
    {value : ConditionValue}
    (read : whereItem text = some (.condition field operator value, rest)) :
    fieldCondition text = some ((field, operator, value), rest) := by
  unfold whereItem at read
  split at read
  · cases read
  · split at read
    · cases read
    · obtain ⟨found, present, same⟩ := Option.map_eq_some_iff.1 read
      cases same
      exact present

/-! ## The end of the text -/

theorem keyword_eq_none_of_blank {c : Char} (solid : Text.isBlank c = false) {word text : List Char}
    (blank : ∀ d ∈ text, Text.isBlank d = true) : keyword (c :: word) text = none := by
  cases text with
  | nil => rfl
  | cons d rest =>
    have differ : d.toLower ≠ c.toLower := by
      intro same
      have first := blank d List.mem_cons_self
      rw [← caseFree_isBlank, same, caseFree_isBlank, solid] at first
      cases first
    simp [keyword, differ]

theorem blank_skipGap {text : List Char} (blank : ∀ c ∈ text, Text.isBlank c = true) :
    ∀ c ∈ skipGap text, Text.isBlank c = true :=
  fun c member => blank c ((List.dropWhile_sublist _).subset member)

theorem blank_of_skipGap {text : List Char} (blank : ∀ c ∈ skipGap text, Text.isBlank c = true) :
    ∀ c ∈ text, Text.isBlank c = true := by
  rw [← List.takeWhile_append_dropWhile (p := Text.isGap) (l := text), List.forall_mem_append]
  exact ⟨fun c member => Text.isBlank_of_isGap (List.mem_takeWhile_imp member), blank⟩

def NoClause (rest : List Char) : Prop :=
  ∀ word ∈ wordsAfterWhere, (gap rest).bind (keyword word.toList) = none

theorem noClause_of_blank {rest : List Char} (blank : ∀ c ∈ rest, Text.isBlank c = true) :
    NoClause rest := by
  intro word member
  obtain ⟨c, others, same, solid⟩ : ∃ c others, word.toList = c :: others ∧
      Text.isBlank c = false := by
    simp only [wordsAfterWhere, List.mem_cons, List.not_mem_nil, or_false] at member
    rcases member with rfl | rfl | rfl | rfl | rfl | rfl
    all_goals exact ⟨_, _, rfl, by decide⟩
  have missing : keyword (c :: others) (skipGap rest) = none :=
    keyword_eq_none_of_blank solid (blank_skipGap blank)
  rw [same]
  exact gap_bind_eq_none missing

theorem NoClause.clause_eq {rest : List Char} (absent : NoClause rest) {α : Type}
    {reader : Reader α} (word : String) (known : word ∈ wordsAfterWhere)
    (needs : ∀ text, keyword word.toList text = none → reader text = none) :
    clause reader rest = (none, rest) := by
  have absent := absent word known
  have nothing : (gap rest).bind reader = none := by
    cases read : gap rest with
    | none => rfl
    | some after =>
      rw [read, Option.bind_some] at absent
      exact needs after absent
  simp only [clause, Grammar.optional, nothing]

theorem joinedItem_of_blank {rest : List Char} (blank : ∀ c ∈ rest, Text.isBlank c = true) :
    joinedItem rest = none := by
  have blank := blank_skipGap blank
  have noAnd : keyword "AND".toList (skipGap rest) = none :=
    keyword_eq_none_of_blank (by decide) blank
  have noOr : keyword "OR".toList (skipGap rest) = none :=
    keyword_eq_none_of_blank (by decide) blank
  have absent : (gap rest).bind joint = none := by
    refine gap_bind_eq_none ?_
    simp only [joint, noAnd, noOr]
    rfl
  simp only [joinedItem, connective_eq_bind, absent]
  rfl

/-! ## Clauses that are absent -/

section
variable {α : Type} {reader : Reader α} {text rest : List Char}

theorem eq_of_clause_none (read : clause reader text = (none, rest)) : rest = text := by
  unfold clause Grammar.optional at read
  split at read
  · cases read
  · exact (Prod.mk.inj read).2.symm

theorem eq_of_repeated_nil (read : repeated reader text = ([], rest)) : rest = text := by
  rw [repeated] at read
  split at read
  · exact (Prod.mk.inj read).2.symm
  · split at read
    · cases read
    · exact (Prod.mk.inj read).2.symm

theorem eq_of_clause_nil {reader : Reader (List α)}
    (nonempty : ∀ text, Takes (· ≠ []) (reader text)) {items? : Option (List α)}
    (read : clause reader text = (items?, rest)) (nil : items?.getD [] = []) : rest = text := by
  cases items? with
  | none => exact eq_of_clause_none read
  | some items =>
    have first := congrArg Prod.fst read
    exact absurd nil (clause_eq_some nonempty first)

end

theorem takes_nonempty {α : Type} (item : Reader α) (text : List Char) :
    Takes (· ≠ []) (commaList item text) :=
  fun items rest read => (takes_commaList (fun _ => Takes.anything) text items rest read).1

/-- Nothing but fields and conditions is asked for. -/
structure Unrefined (query : Query) : Prop where
  groupBy : query.groupBy = []
  interval : query.interval? = none
  having : query.having = []
  fill : query.fill? = none
  orderBy : query.orderBy = []
  limit : query.limit? = none
  offset : query.offset? = none

section
variable {α : Type} {step : Query → α → Query} {query : Query}

theorem eq_none_of_unrefined {item? : Option α}
    (unrefined : Unrefined ((item?.map (step query)).getD query))
    (marks : ∀ item, ¬Unrefined (step query item)) : item? = none ∧ Unrefined query := by
  cases item? with
  | none => exact ⟨rfl, unrefined⟩
  | some item => exact absurd unrefined (marks item)

theorem eq_nil_of_unrefined {items : List α} (unrefined : Unrefined (items.foldl step query))
    (marks : ∀ query item, ¬Unrefined (step query item)) : items = [] ∧ Unrefined query := by
  rcases List.eq_nil_or_concat items with rfl | ⟨before, last, rfl⟩
  · exact ⟨rfl, unrefined⟩
  · rw [List.concat_eq_append, List.foldl_append] at unrefined
    exact absurd unrefined (marks _ last)

end

/-- The clauses behind the conditions are absent. -/
structure Clauses.Plain (clauses : Clauses) : Prop where
  grouping : clauses.grouping = []
  having : clauses.having? = none
  fill : clauses.fill? = none
  ordering : clauses.ordering = []
  limit : clauses.limit? = none
  offset : clauses.offset? = none

theorem setEntry_ne_nil {Value : Type} (key : String) (value : Value)
    (entries : List (String × Value)) : setEntry key value entries ≠ [] := by
  cases entries with
  | nil => exact List.cons_ne_nil _ _
  | cons entry others =>
    unfold setEntry
    split <;> exact List.cons_ne_nil _ _

theorem not_unrefined_addTo (query : Query) (item : GroupItem) : ¬Unrefined (item.addTo query) := by
  intro unrefined
  cases item with
  | tag tag =>
    have none : (query.groupByTag tag).groupBy = [] := unrefined.groupBy
    unfold Query.groupByTag at none
    dsimp only at none
    split at none
    · next member => exact absurd (none ▸ member) List.not_mem_nil
    · simp at none
  | interval text => exact absurd unrefined.interval (Option.some_ne_none text)

theorem plain_of_unrefined {clauses : Clauses} {query : Query}
    (unrefined : Unrefined (clauses.refine query)) : clauses.Plain := by
  unfold Clauses.refine at unrefined
  dsimp only at unrefined
  -- from the last step back to the first one
  obtain ⟨offset, unrefined⟩ := eq_none_of_unrefined unrefined
    fun count unrefined => absurd unrefined.offset (Option.some_ne_none count)
  obtain ⟨limit, unrefined⟩ := eq_none_of_unrefined unrefined
    fun count unrefined => absurd unrefined.limit (Option.some_ne_none count)
  obtain ⟨ordering, unrefined⟩ := eq_nil_of_unrefined unrefined
    fun query item unrefined => setEntry_ne_nil _ _ _ unrefined.orderBy
  obtain ⟨fill, unrefined⟩ := eq_none_of_unrefined unrefined
    fun policy unrefined => absurd unrefined.fill (Option.some_ne_none policy)
  cases having : clauses.having? with
  | some found =>
    rw [having] at unrefined
    have none := unrefined.having
    simp [Query.havingOperator] at none
  | none =>
    rw [having] at unrefined
    obtain ⟨grouping, -⟩ := eq_nil_of_unrefined unrefined not_unrefined_addTo
    exact ⟨grouping, having, fill, ordering, limit, offset⟩

/-! ## Queries of one condition -/

theorem condition?_cases (item : Connective × WhereItem) :
    (∃ field operator value, item.2 = .condition field operator value ∧
        WhereItem.condition? item = some ⟨field, operator, value, item.1⟩) ∨
      (∃ condition, WhereItem.condition? item = some condition ∧ condition.field = "time") ∨
      item.2.latest?.isSome = true ∨ item.2.lowerBound?.isSome = true ∨
        item.2.upperBound?.isSome = true := by
  obtain ⟨connective, item⟩ := item
  cases item with
  | condition field operator value => exact .inl ⟨field, operator, value, rfl, rfl⟩
  | latest duration => exact .inr (.inr (.inl rfl))
  | timeBound operator instant =>
    cases operator with
    | greater | greaterOrEqual => exact .inr (.inr (.inr (.inl rfl)))
    | less | lessOrEqual => exact .inr (.inr (.inr (.inr rfl)))
    | _ => exact .inr (.inl ⟨_, rfl, rfl⟩)

/-- No item says anything about the time. -/
structure Clauses.Untimed (clauses : Clauses) : Prop where
  latests : clauses.latests = []
  lowerBounds : clauses.lowerBounds = []
  upperBounds : clauses.upperBounds = []

section
variable {clauses : Clauses} {now : Time.Instant}

theorem eq_nil_of_window (unset : clauses.window now = .unset) :
    clauses.latests = [] ∧ clauses.lowerBounds = [] := by
  have lower : clauses.lowerBounds.getLast? = none := by
    cases found : clauses.lowerBounds.getLast? with
    | none => rfl
    | some start =>
      rw [Clauses.window, found] at unset
      cases unset
  have latest : clauses.latests.getLast? = none := by
    cases found : clauses.latests.getLast? with
    | none => rfl
    | some duration =>
      rw [Clauses.window, lower, found] at unset
      cases unset
  exact ⟨List.getLast?_eq_none_iff.1 latest, List.getLast?_eq_none_iff.1 lower⟩

/-- A bound below goes to the window or, by itself, becomes a condition on the time. -/
theorem untimed_of_query (time : (clauses.query now).time = .unset)
    (others : ∀ kept ∈ (clauses.query now).conditions, kept.field ≠ "time") :
    clauses.Untimed := by
  obtain ⟨latests, lowerBounds⟩ := eq_nil_of_window (clauses.time_query now ▸ time)
  refine ⟨latests, lowerBounds, ?_⟩
  cases upper : clauses.upperBounds.getLast? with
  | none => exact List.getLast?_eq_none_iff.1 upper
  | some finish =>
    have lone : clauses.loneBound? = some finish := by
      rw [Clauses.loneBound?, if_pos lowerBounds, upper]
    exact absurd rfl (others _ (Clauses.mem_conditions_query.2 (.inr ⟨_, _, lone, rfl⟩)))

namespace Clauses.Untimed

theorem conditions_query (untimed : clauses.Untimed) (now : Time.Instant) :
    (clauses.query now).conditions = clauses.conditions.filterMap WhereItem.condition? := by
  have lone : clauses.loneBound? = none := by
    rw [Clauses.loneBound?, if_pos untimed.lowerBounds, untimed.upperBounds]
    rfl
  have kept : (clauses.query now).conditions = _ := congrArg Prod.snd (clauses.timing_query now)
  rw [kept, lone, Option.map_none, Option.toList_none, List.append_nil]

theorem eq_condition (untimed : clauses.Untimed) {item : Connective × WhereItem}
    (member : item ∈ clauses.conditions)
    (others : ∀ kept, WhereItem.condition? item = some kept → kept.field ≠ "time") :
    ∃ field operator value, item.2 = .condition field operator value ∧
      WhereItem.condition? item = some ⟨field, operator, value, item.1⟩ := by
  have inside : item.2 ∈ clauses.items := List.mem_map_of_mem member
  rcases condition?_cases item with own | ⟨kept, own, isTime⟩ | latest | lower | upper
  · exact own
  · exact absurd isTime (others kept own)
  · rw [List.filterMap_eq_nil_iff.1 untimed.latests _ inside] at latest
    cases latest
  · rw [List.filterMap_eq_nil_iff.1 untimed.lowerBounds _ inside] at lower
    cases lower
  · rw [List.filterMap_eq_nil_iff.1 untimed.upperBounds _ inside] at upper
    cases upper

end Clauses.Untimed

theorem conditions_of_query {condition : Condition} (time : (clauses.query now).time = .unset)
    (conditions : (clauses.query now).conditions = [condition])
    (other : condition.field ≠ "time") :
    clauses.conditions = [(condition.connective,
      .condition condition.field condition.operator condition.value)] := by
  have known : ∀ kept ∈ (clauses.query now).conditions, kept = condition := by
    rw [conditions]
    exact fun kept member => List.mem_singleton.1 member
  have untimed : clauses.Untimed :=
    untimed_of_query time fun kept member => known kept member ▸ other
  have kept := untimed.conditions_query now
  -- All items are this one, and each of them gives a condition: so there is only one.
  have single : ∀ item ∈ clauses.conditions, item = (condition.connective,
      .condition condition.field condition.operator condition.value) := by
    rintro ⟨connective, item⟩ member
    have own {found : Condition} (asks : WhereItem.condition? (connective, item) = some found) :
        found = condition :=
      known found (kept ▸ List.mem_filterMap.2 ⟨_, member, asks⟩)
    obtain ⟨field, operator, value, same, asks⟩ :=
      untimed.eq_condition member fun found asks => own asks ▸ other
    rw [← own asks, show item = _ from same]
  obtain ⟨count, all⟩ : ∃ count, clauses.conditions = List.replicate count (condition.connective,
      .condition condition.field condition.operator condition.value) :=
    ⟨_, List.eq_replicate_of_mem single⟩
  have asks : WhereItem.condition? (condition.connective,
      .condition condition.field condition.operator condition.value) = some condition := rfl
  rw [conditions, all, List.filterMap_replicate_of_some asks] at kept
  have one := congrArg List.length kept
  rw [List.length_singleton, List.length_replicate] at one
  rw [all, ← one]
  rfl

end

theorem restClauses_of_plain {distinct : Bool} {selection : List SelectItem} {measurement : String}
    {text rest : List Char} {found : Clauses}
    (read : restClauses distinct selection measurement text = some (found, rest))
    (plain : found.Plain) :
    found.conditions = (clause whereClause text).1.getD [] ∧
      rest = skipGap (clause whereClause text).2 := by
  unfold restClauses at read
  cases whereRead : clause whereClause text with | mk conditions? afterWhere =>
  cases groupRead : clause groupClause afterWhere with | mk grouping? afterGroup =>
  cases havingRead : clause havingClause afterGroup with | mk having? afterHaving =>
  cases fillRead : clause fillClause afterHaving with | mk fill? afterFill =>
  cases orderRead : clause orderClause afterFill with | mk ordering? afterOrder =>
  cases limitRead : clause (countClause "LIMIT".toList) afterOrder with | mk limit? afterLimit =>
  cases offsetRead : clause (countClause "OFFSET".toList) afterLimit with | mk offset? afterOffset =>
  simp only [whereRead, groupRead, havingRead, fillRead, orderRead, limitRead, offsetRead] at read
  cases read
  -- A clause that leaves no mark on the query was not there, so each reader starts where the one
  -- before it did.
  obtain ⟨grouping, rfl, rfl, ordering, rfl, rfl⟩ := plain
  have group := eq_of_clause_nil (fun _ => .after fun _ => takes_nonempty _ _) groupRead grouping
  have order := eq_of_clause_nil (fun _ => .after fun _ => takes_nonempty _ _) orderRead ordering
  have having := eq_of_clause_none havingRead
  have fill := eq_of_clause_none fillRead
  have limit := eq_of_clause_none limitRead
  have offset := eq_of_clause_none offsetRead
  refine ⟨rfl, ?_⟩
  rw [offset, limit, order, fill, having, group]

theorem restClauses_of_noClause {distinct : Bool} {selection : List SelectItem}
    {measurement : String} {text rest : List Char}
    {conditions? : Option (List (Connective × WhereItem))}
    (read : clause whereClause text = (conditions?, rest)) (absent : NoClause rest) :
    restClauses distinct selection measurement text =
      some (⟨distinct, selection, measurement, conditions?.getD [], [], none, none, [], none, none⟩,
        skipGap rest) := by
  have groupRead : clause groupClause rest = (none, rest) :=
    absent.clause_eq "GROUP" (by decide) fun _ => groupClause_eq_none
  have havingRead : clause havingClause rest = (none, rest) :=
    absent.clause_eq "HAVING" (by decide) fun _ => havingClause_eq_none
  have fillRead : clause fillClause rest = (none, rest) :=
    absent.clause_eq "FILL" (by decide) fun _ => fillClause_eq_none
  have orderRead : clause orderClause rest = (none, rest) :=
    absent.clause_eq "ORDER" (by decide) fun _ => orderClause_eq_none
  have limitRead : clause (countClause "LIMIT".toList) rest = (none, rest) :=
    absent.clause_eq "LIMIT" (by decide) fun _ => countClause_eq_none
  have offsetRead : clause (countClause "OFFSET".toList) rest = (none, rest) :=
    absent.clause_eq "OFFSET" (by decide) fun _ => countClause_eq_none
  simp only [restClauses, read, groupRead, havingRead, fillRead, orderRead, limitRead, offsetRead]
  rfl

/-! ## The text of a query -/

theorem BareName.stops_gap {text : List Char} (bare : BareName text) (rest : List Char) :
    Stops Text.isGap (text ++ rest) := by
  obtain ⟨c, others, rfl, first⟩ := bare.starts
  apply stops_cons
  rw [Bool.eq_false_iff]
  intro gap
  simp only [Text.isGap, Bool.or_eq_true, beq_iff_eq] at gap
  rcases gap with ((rfl | rfl) | rfl) | rfl <;> exact absurd first (by decide)

theorem wildcard_mem_selectionForm :
    "SELECT * FROM ".toList ∈ selectionForm false [.all] := by
  have all : "*".toList ∈ listed selectForm [.all] := by
    rw [listed, List.map_nil, List.prod_nil, mul_one]
    rfl
  have chosen : "SELECT".toList ++ (" ".toList ++ ([] ++ "*".toList)) ∈
      spelled "SELECT" * (space * (distinctForm false * listed selectForm [.all])) :=
    Language.append_mem_mul rfl (Language.append_mem_mul blank_mem_space
      (Language.append_mem_mul rfl all))
  have behind : " ".toList ++ ("FROM".toList ++ " ".toList) ∈ space * (spelled "FROM" * space) :=
    Language.append_mem_mul blank_mem_space (Language.append_mem_mul rfl blank_mem_space)
  exact Language.append_mem_mul chosen behind

theorem clauses_wildcard {measurement : List Char} (bare : BareName measurement) {rest : List Char}
    (stops : Stops continuesName rest) :
    clauses ("SELECT * FROM ".toList ++ (measurement ++ rest)) =
      restClauses false [.all] (String.ofList measurement) rest :=
  clauses_append wildcard_mem_selectionForm (bare.stops_gap rest) (bare.name_append stops)

/-- The word before conditions, with its gaps. -/
def whereLead : Form := space * (spelled "WHERE" * space)

theorem where_mem_whereLead : " WHERE ".toList ∈ whereLead :=
  Language.append_mem_mul blank_mem_space
    (Language.append_mem_mul (show "WHERE".toList ∈ spelled "WHERE" from rfl) blank_mem_space)

theorem clause_whereClause {lead text : List Char} (written : lead ∈ whereLead)
    (stops : Stops Text.isGap text) :
    clause whereClause (lead ++ text) = match whereItem text with
      | none => (none, lead ++ text)
      | some (item, rest) => (some ((.and, item) :: (repeated joinedItem rest).1),
          (repeated joinedItem rest).2) := by
  have opensWord : Opens (spelled "WHERE") ['w'] := opens_spelled rfl
  obtain ⟨_, written, firstRead⟩ := gap_mem (opensWord.mul _) (by decide) written text
  obtain ⟨_, written, wordRead⟩ := keyword_mem written text
  have secondRead := gap_append written stops
  unfold clause Grammar.optional
  simp only [firstRead, whereClause_eq_bind, wordRead, secondRead, Option.bind_some]
  cases whereItem text <;> rfl

theorem fieldCondition_of_clause {text : List Char} (stops : Stops Text.isGap text)
    {connective : Connective} {field : String} {operator : Operator} {value : ConditionValue}
    (single : (clause whereClause (" WHERE ".toList ++ text)).1.getD [] =
      [(connective, .condition field operator value)]) :
    connective = .and ∧ fieldCondition text = some ((field, operator, value),
      (clause whereClause (" WHERE ".toList ++ text)).2) := by
  rw [clause_whereClause where_mem_whereLead stops] at single ⊢
  cases read : whereItem text with
  | none =>
    rw [read] at single
    cases single
  | some pair =>
    obtain ⟨item, rest⟩ := pair
    rw [read] at single
    obtain ⟨first, others⟩ := List.cons.inj single
    cases first
    have left : (repeated joinedItem rest).2 = rest := eq_of_repeated_nil (Prod.ext others rfl)
    refine ⟨rfl, ?_⟩
    dsimp only
    rw [left]
    exact fieldCondition_of_whereItem read

theorem endsSolid_trimChars (text : List Char) : EndsSolid (Text.trimChars text) := by
  rw [EndsSolid, Text.trimChars, Text.dropEndWhile, List.reverse_reverse]
  exact stops_dropWhile _ _

theorem noGap_trimChars (text : List Char) : Stops Text.isGap (Text.trimChars text) := by
  have ended : Text.trimChars text ++ ((text.dropWhile Text.isBlank).reverse.takeWhile
      Text.isBlank).reverse = text.dropWhile Text.isBlank := by
    rw [Text.trimChars, Text.dropEndWhile, ← List.reverse_append, List.takeWhile_append_dropWhile,
      List.reverse_reverse]
  have stops := stops_dropWhile Text.isBlank text
  rw [← ended] at stops
  exact stops.of_append.mono fun _ => Text.isBlank_of_isGap

/-- A text is accepted where its clauses are read and white space is left. -/
theorem readQuery_eq_ok_iff {now : Time.Instant} {text : String} {query : Query} :
    readQuery now text = .ok query ↔ ∃ found rest,
      clauses (Text.trimChars text.toList) = some (found, rest) ∧
        (∀ c ∈ rest, Text.isBlank c = true) ∧ found.query now = query := by
  unfold readQuery
  constructor
  · intro read
    split at read
    · cases read
    · next found rest parsed =>
      split at read
      · next blank => exact ⟨found, rest, parsed, List.all_eq_true.1 blank, Except.ok.inj read⟩
      · cases read
  · rintro ⟨found, rest, parsed, blank, rfl⟩
    rw [parsed]
    exact if_pos (List.all_eq_true.2 blank)

theorem readCondition_eq_ok {text : String} {condition : Condition} :
    readCondition text = .ok condition ↔ ∃ field operator value rest,
      fieldCondition (Text.trimChars text.toList) = some ((field, operator, value), rest) ∧
        (∀ c ∈ rest, Text.isBlank c = true) ∧ ⟨field, operator, value, .and⟩ = condition := by
  unfold readCondition
  constructor
  · intro read
    split at read
    · cases read
    · next field operator value rest parsed =>
      split at read
      · next blank =>
        exact ⟨field, operator, value, rest, parsed, List.all_eq_true.1 blank, Except.ok.inj read⟩
      · cases read
  · rintro ⟨field, operator, value, rest, parsed, blank, rfl⟩
    rw [parsed]
    exact if_pos (List.all_eq_true.2 blank)

/-- The text that asks for everything that fits a condition. -/
def wildcardText (measurement condition : String) : String :=
  "SELECT * FROM " ++ measurement ++ " WHERE " ++ condition

theorem stops_select (rest : List Char) : Stops Text.isBlank ("SELECT * FROM ".toList ++ rest) :=
  stops_cons (by decide : Text.isBlank 'S' = false) _

section
variable {measurement : String} (bare : BareName measurement.toList)
include bare

theorem clauses_wildcardText {text : String} (nonempty : Text.trimChars text.toList ≠ []) :
    clauses (Text.trimChars (wildcardText measurement (Text.trim text)).toList) =
      restClauses false [.all] measurement (" WHERE ".toList ++ Text.trimChars text.toList) := by
  have written : (wildcardText measurement (Text.trim text)).toList = "SELECT * FROM ".toList ++
      (measurement.toList ++ (" WHERE ".toList ++ Text.trimChars text.toList)) := by
    unfold wildcardText Text.trim
    simp only [String.toList_append, String.toList_ofList, List.append_assoc]
  have ends : EndsSolid ("SELECT * FROM ".toList ++
      (measurement.toList ++ (" WHERE ".toList ++ Text.trimChars text.toList))) := by
    have last := endsSolid_trimChars text.toList
    have some := List.append_ne_nil_of_right_ne_nil " WHERE ".toList nonempty
    exact endsSolid_append (List.append_ne_nil_of_right_ne_nil _ some)
      (endsSolid_append some (endsSolid_append nonempty last))
  have noName : Stops continuesName (" WHERE ".toList ++ Text.trimChars text.toList) :=
    stops_cons (by decide : continuesName ' ' = false) _
  rw [written, trimChars_eq (stops_select _) ends, clauses_wildcard bare noName,
    String.ofList_toList]

theorem clauses_wildcardText_of_blank {text : String} (empty : Text.trimChars text.toList = []) :
    clauses (Text.trimChars (wildcardText measurement (Text.trim text)).toList) =
      restClauses false [.all] measurement " WHERE".toList := by
  have written : (wildcardText measurement (Text.trim text)).toList = "SELECT * FROM ".toList ++
      (measurement.toList ++ " WHERE ".toList) := by
    unfold wildcardText Text.trim
    simp only [String.toList_append, String.toList_ofList, empty, List.append_nil,
      List.append_assoc]
  have last : "SELECT * FROM ".toList ++ (measurement.toList ++ " WHERE ".toList) =
      "SELECT * FROM ".toList ++ (measurement.toList ++ " WHERE".toList) ++ [' '] := by
    simp
  have ends : EndsSolid ("SELECT * FROM ".toList ++ (measurement.toList ++ " WHERE".toList)) := by
    have word : EndsSolid " WHERE".toList :=
      (by decide : Stops Text.isBlank " WHERE".toList.reverse)
    have some : measurement.toList ++ " WHERE".toList ≠ [] :=
      List.append_ne_nil_of_right_ne_nil _ (by decide)
    exact endsSolid_append some (endsSolid_append (by decide) word)
  have trimmed :
      Text.trimChars ("SELECT * FROM ".toList ++ (measurement.toList ++ " WHERE ".toList)) =
        "SELECT * FROM ".toList ++ (measurement.toList ++ " WHERE".toList) := by
    rw [Text.trimChars, dropWhile_of_stops (stops_select _), last, Text.dropEndWhile,
      List.reverse_append, List.dropWhile_append_of_pos (by decide), dropWhile_of_stops ends,
      List.reverse_reverse]
  have noName : Stops continuesName " WHERE".toList :=
    stops_cons (by decide : continuesName ' ' = false) _
  rw [written, trimmed, clauses_wildcard bare noName, String.ofList_toList]

end

section
variable {measurement : String} (bare : BareName measurement.toList) {now : Time.Instant}
  {text : String} {condition : Condition} (other : Text.toSmall condition.field ≠ "time")
include bare other

theorem readQuery_of_readCondition (read : readCondition text = .ok condition) :
    readQuery now (wildcardText measurement (Text.trim text)) =
      .ok { Query.ofMeasurement measurement with conditions := [condition] } := by
  obtain ⟨field, operator, value, rest, parsed, blank, rfl⟩ := readCondition_eq_ok.1 read
  have nonempty : Text.trimChars text.toList ≠ [] := by
    intro empty
    rw [empty] at parsed
    cases parsed
  have whereRead : clause whereClause (" WHERE ".toList ++ Text.trimChars text.toList) =
      (some [(.and, .condition field operator value)], rest) := by
    have noMore : repeated joinedItem rest = ([], rest) := by
      rw [repeated, joinedItem_of_blank blank]
    rw [clause_whereClause where_mem_whereLead (noGap_trimChars _),
      whereItem_of_fieldCondition parsed other]
    dsimp only
    rw [noMore]
  have parsed : clauses (Text.trimChars (wildcardText measurement (Text.trim text)).toList) = _ :=
    (clauses_wildcardText bare nonempty).trans
      (restClauses_of_noClause whereRead (noClause_of_blank blank))
  exact readQuery_eq_ok_iff.2 ⟨_, _, parsed, blank_skipGap blank, rfl⟩

theorem readCondition_of_readQuery
    (read : readQuery now (wildcardText measurement (Text.trim text)) =
      .ok { Query.ofMeasurement measurement with conditions := [condition] }) :
    readCondition text = .ok condition := by
  obtain ⟨found, rest, parsed, blank, built⟩ := readQuery_eq_ok_iff.1 read
  have plain : found.Plain := by
    have unrefined : Unrefined (found.query now) := by
      rw [built]
      exact ⟨rfl, rfl, rfl, rfl, rfl, rfl, rfl⟩
    exact plain_of_unrefined unrefined
  have notTime : condition.field ≠ "time" := by
    intro isTime
    rw [isTime] at other
    exact other (by decide +kernel)
  have conditions : found.conditions = _ :=
    conditions_of_query (by rw [built]; rfl) (by rw [built]) notTime
  by_cases empty : Text.trimChars text.toList = []
  · rw [clauses_wildcardText_of_blank bare empty] at parsed
    rw [(restClauses_of_plain parsed plain).1] at conditions
    cases conditions
  · rw [clauses_wildcardText bare empty] at parsed
    obtain ⟨same, rfl⟩ := restClauses_of_plain parsed plain
    rw [conditions] at same
    obtain ⟨isAnd, present⟩ := fieldCondition_of_clause (noGap_trimChars _) same.symm
    refine readCondition_eq_ok.2 ⟨_, _, _, _, present, blank_of_skipGap blank, ?_⟩
    rw [← isAnd]

end

/-- A text is read as a condition exactly when a query that asks for everything with this condition
is read as the query that has the condition and nothing else. -/
theorem readCondition_eq_ok_iff {measurement : String} (bare : BareName measurement.toList)
    (now : Time.Instant) (text : String) {condition : Condition}
    (other : Text.toSmall condition.field ≠ "time") :
    readCondition text = .ok condition ↔
      readQuery now ("SELECT * FROM " ++ measurement ++ " WHERE " ++ Text.trim text) =
        .ok { Query.ofMeasurement measurement with conditions := [condition] } :=
  ⟨readQuery_of_readCondition bare other, readCondition_of_readQuery bare other⟩

theorem readCondition_eq_ok_iff_load :
    BareName "m".toList ∧ Text.toSmall "timeout" ≠ "time" ∧
      readCondition "  timeout >= 2.5 " =
        .ok ⟨"timeout", .greaterOrEqual, .scalar (.float 2.5), .and⟩ ∧
      readQuery .earliest ("SELECT * FROM " ++ "m" ++ " WHERE " ++ Text.trim "  timeout >= 2.5 ") =
        .ok { Query.ofMeasurement "m" with
          conditions := [⟨"timeout", .greaterOrEqual, .scalar (.float 2.5), .and⟩] } := by
  have bare : BareName "m".toList := ⟨⟨'m', [], rfl, by decide⟩, by decide⟩
  have other : Text.toSmall "timeout" ≠ "time" := by decide +kernel
  have read : readCondition "  timeout >= 2.5 " =
      .ok ⟨"timeout", .greaterOrEqual, .scalar (.float 2.5), .and⟩ := by
    decide +kernel
  exact ⟨bare, other, read, (readCondition_eq_ok_iff bare .earliest _ other).1 read⟩

end SeriesQuery.Language
