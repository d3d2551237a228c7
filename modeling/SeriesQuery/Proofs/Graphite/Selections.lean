import SeriesQuery.Graphite.Compiler
import SeriesQuery.Proofs.Query.Checks
import SeriesQuery.Proofs.Text.Stretches

/-!
Targets of queries that only select. Equalities take the places of wildcards from left to right, and
each inequality or pattern encloses the series in a function. Neither is misled by what its values
look like: a value that was put into a path is passed over by the next ones, and the place for the
series is found before any text of the query.
-/

set_option autoImplicit false

namespace SeriesQuery.Graphite

/-! ## Wildcards -/

/-- A path with its wildcards replaced from left to right, as long as there are any, and values. -/
def substituted : List Char → List (List Char) → List Char
  | path, [] => path
  | [], _ => []
  | c :: path, value :: values =>
    if c = '*' then value ++ substituted path values else c :: substituted path (value :: values)

theorem narrow_wildcard {before : List Char} (plain : '*' ∉ before) (after value : List Char) :
    narrow (before ++ '*' :: after) value = before ++ value ++ after := by
  rw [narrow, Text.splitFirst?_append plain]

theorem narrow_of_notMem {path : List Char} (plain : '*' ∉ path) (value : List Char) :
    narrow path value = path := by
  rw [narrow, Text.splitFirst?_eq_none plain]

theorem foldl_narrow_of_notMem {path : List Char} (plain : '*' ∉ path) (values : List (List Char)) :
    values.foldl narrow path = path := by
  induction values with
  | nil => rfl
  | cons value values ih => rw [List.foldl_cons, narrow_of_notMem plain, ih]

/-- What has been put in place of wildcards is behind the next wildcard when it has none itself. -/
theorem foldl_narrow_append {before path : List Char} {values : List (List Char)}
    (passed : '*' ∉ before) (whole : ∀ value ∈ values, '*' ∉ value) :
    values.foldl narrow (before ++ path) = before ++ substituted path values := by
  -- the part before grows by each value, which no later one looks into
  fun_induction substituted path values generalizing before with
  | case1 path => rfl
  | case2 values => rw [List.append_nil, foldl_narrow_of_notMem passed]
  | case3 path value values ih =>
    obtain ⟨plain, whole⟩ := List.forall_mem_cons.1 whole
    rw [List.foldl_cons, narrow_wildcard passed, ih (by simp [passed, plain]) whole,
      List.append_assoc]
  | case4 c path value values other ih =>
    rw [List.append_cons, ih (by simp [passed, Ne.symm other]) whole, ← List.append_cons]

theorem foldl_narrow {path : List Char} {values : List (List Char)}
    (whole : ∀ value ∈ values, '*' ∉ value) : values.foldl narrow path = substituted path values := by
  have passed : '*' ∉ ([] : List Char) := List.not_mem_nil
  exact foldl_narrow_append passed whole

/-- The path of a field of a measurement below an optional root; an empty root is none. -/
def pathOf (root? : Option String) (measurement field : String) : String :=
  ".".intercalate ((root?.filter (· != "")).toList ++ [measurement, field])

theorem pathOf_eq (root? : Option String) (measurement field : String) :
    pathOf root? measurement field = basePath root? measurement ++ "." ++ field := by
  cases root? with
  | none => simp [pathOf, basePath]
  | some root =>
    by_cases empty : root = ""
    · simp [pathOf, basePath, Option.filter, empty]
    · simp [pathOf, basePath, Option.filter, empty, String.append_assoc]

/-! ## Templates -/

/-- A function around a placeholder for its series. -/
def template (function value : String) : String :=
  function ++ "(\x7b\x7d," ++ Text.quoted value ++ ")"

/-- Puts a text in place of the first placeholder. -/
def fillFirst (inner : List Char) : List Char → List Char
  | '\x7b' :: '\x7d' :: rest => inner ++ rest
  | c :: rest => c :: fillFirst inner rest
  | [] => []

def filledIn (inner template : String) : String :=
  String.ofList (fillFirst inner.toList template.toList)

theorem fillFirst_append (inner : List Char) {before : List Char} (plain : '\x7b' ∉ before)
    (rest : List Char) :
    fillFirst inner (before ++ '\x7b' :: '\x7d' :: rest) = before ++ inner ++ rest := by
  induction before with
  | nil => rfl
  | cons c before ih =>
    obtain ⟨other, plain⟩ := not_or.1 (mt List.mem_cons.2 plain)
    rw [List.cons_append, fillFirst, ih plain]
    · rfl
    · exact fun _ same _ => other same.symm

theorem filledIn_template {function : String} (plain : '\x7b' ∉ function.toList)
    (value inner : String) :
    filledIn inner (template function value) =
      function ++ "(" ++ inner ++ "," ++ Text.quoted value ++ ")" := by
  have written : (template function value).toList =
      (function.toList ++ ['(']) ++
        '\x7b' :: '\x7d' :: ("," ++ Text.quoted value ++ ")").toList := by
    simp [template]
  rw [filledIn, written, fillFirst_append _ (by simp [plain])]
  simp [String.ofList_append, String.append_assoc]

/-! ## Conditions -/

/-- The values of the equalities on other fields than the time. -/
def equalities (conditions : List Condition) : List String :=
  conditions.flatMap fun condition =>
    if condition.operator = .equal ∧ condition.field ≠ "time" then
      condition.value.scalars.map Scalar.plain
    else []

/-- A text in the function that a condition stands for, if there is one. -/
def enclosed (inner : String) (condition : Condition) : String :=
  if condition.field = "time" then inner
  else match condition.operator, condition.value with
    | .notEqual, .scalar value => "exclude(" ++ inner ++ "," ++ Text.quoted value.plain ++ ")"
    | .regex, .scalar value => "grep(" ++ inner ++ "," ++ Text.quoted value.plain ++ ")"
    | _, _ => inner

theorem filterMap_narrowing? {conditions : List Condition}
    (shaped : ∀ condition ∈ conditions, condition.shapeProblem? = none) :
    conditions.filterMap narrowing? = equalities conditions := by
  rw [List.filterMap_eq_flatMap_toList, equalities]
  refine List.flatMap_congr fun condition member => ?_
  have shaped := Condition.shapeProblem?_eq_none_iff.1 (shaped condition member)
  unfold narrowing? conditionScalar? Condition.isTime
  split
  · next equal =>
    rw [Condition.Shaped, equal] at shaped
    obtain ⟨value, isValue⟩ := shaped
    by_cases time : condition.field = "time"
    · simp [time]
    · simp [time, equal, isValue, ConditionValue.scalar?, ConditionValue.scalars]
  · next other =>
    rw [if_neg fun both => other both.1]
    rfl

theorem enclosed_eq (inner : String) (condition : Condition) : enclosed inner condition =
    ((wrapping? condition).map fun (function, value) =>
      function ++ "(" ++ inner ++ "," ++ Text.quoted value ++ ")").getD inner := by
  unfold enclosed wrapping? conditionScalar? Condition.isTime
  obtain ⟨field, operator, value, connective⟩ := condition
  by_cases time : field = "time"
  · cases operator <;> simp [time]
  · cases operator <;> cases value <;> simp [time, ConditionValue.scalar?]

theorem filtered_cons (condition : Condition) (rest : List Condition) (target : Target) :
    filtered (condition :: rest) target = filtered rest (((wrapping? condition).map
      fun (function, value) => Target.call function target [.quoted value]).getD target) := by
  unfold filtered
  rw [List.filterMap_cons]
  cases wrapping? condition <;> rfl

theorem text_call_quoted (function value : String) (inner : Target) :
    (Target.call function inner [.quoted value]).text =
      function ++ "(" ++ inner.text ++ "," ++ Text.quoted value ++ ")" := by
  simp [Target.text, Extra.text, String.append_assoc]

theorem text_filtered (conditions : List Condition) (target : Target) :
    (filtered conditions target).text = conditions.foldl enclosed target.text := by
  induction conditions generalizing target with
  | nil => rfl
  | cons condition rest ih =>
    rw [filtered_cons, ih, List.foldl_cons, enclosed_eq]
    cases wrapping? condition with
    | none => rfl
    | some wrapping => exact congrArg (rest.foldl enclosed) (text_call_quoted _ _ _)

theorem function_of_wrapping? {condition : Condition} {function value : String}
    (wraps : wrapping? condition = some (function, value)) :
    function = "exclude" ∨ function = "grep" := by
  unfold wrapping? at wraps
  split at wraps
  · obtain ⟨_, -, same⟩ := Option.map_eq_some_iff.1 wraps
    cases same
    exact .inl rfl
  · obtain ⟨_, -, same⟩ := Option.map_eq_some_iff.1 wraps
    cases same
    exact .inr rfl
  · cases wraps

def templates (conditions : List Condition) : List String :=
  (conditions.filterMap wrapping?).map fun (function, value) => template function value

theorem text_filtered_templates (conditions : List Condition) (target : Target) :
    (filtered conditions target).text = (templates conditions).foldl filledIn target.text := by
  induction conditions generalizing target with
  | nil => rfl
  | cons condition rest ih =>
    rw [filtered_cons, ih, templates, templates, List.filterMap_cons]
    cases wraps : wrapping? condition with
    | none => rfl
    | some wrapping =>
      obtain ⟨function, value⟩ := wrapping
      have plain : '\x7b' ∉ function.toList := by
        rcases function_of_wrapping? wraps with rfl | rfl <;> decide
      have filled := filledIn_template plain value target.text
      simp only [Option.map_some, Option.getD_some, List.map_cons, List.foldl_cons,
        text_call_quoted, filled]

/-! ## Targets -/

def together : List String → String
  | [path] => path
  | paths => "group(" ++ ",".intercalate paths ++ ")"

/-- The paths of the named fields, or of all fields, with the values of the equalities in place of
wildcards. -/
def selectedPaths (root? : Option String) (query : Query) : String :=
  let named := query.fields.filter (· != "*")
  together <| (if named.isEmpty then ["*"] else named).map fun field =>
    String.ofList (substituted (pathOf root? query.measurement field).toList
      ((equalities query.conditions).map String.toList))

theorem texts_eq_map (targets : List Target) : Target.texts targets = targets.map Target.text := by
  induction targets with
  | nil => rfl
  | cons target rest ih => rw [Target.texts, ih, List.map_cons]

theorem text_groupOf (targets : List Target) :
    (groupOf targets).text = together (targets.map Target.text) := by
  match targets with
  | [] => rfl
  | [single] => rfl
  | first :: second :: rest =>
    exact congrArg (fun texts => "group(" ++ ",".intercalate texts ++ ")") (texts_eq_map _)

theorem text_fieldPath {query : Query} {values : List String}
    (whole : ∀ value ∈ values, '*' ∉ value.toList) (root? : Option String) (field : String) :
    (fieldPath root? query values field).text =
      String.ofList (substituted (pathOf root? query.measurement field).toList
        (values.map String.toList)) := by
  rw [← foldl_narrow (List.forall_mem_map.2 whole), List.foldl_map, pathOf_eq]
  rfl

theorem selection_eq {root? : Option String} {query : Query}
    (shaped : ∀ condition ∈ query.conditions, condition.shapeProblem? = none)
    (whole : ∀ value ∈ equalities query.conditions, '*' ∉ value.toList) :
    ∃ paths, paths.text = selectedPaths root? query ∧
      selection root? query = filtered query.conditions paths := by
  have narrowed : (fun field => (fieldPath root? query (equalities query.conditions) field).text) =
      fun field => String.ofList (substituted (pathOf root? query.measurement field).toList
        ((equalities query.conditions).map String.toList)) :=
    funext (text_fieldPath whole root?)
  refine ⟨_, ?_, rfl⟩
  rw [text_groupOf, List.map_map, filterMap_narrowing? shaped]
  exact congrArg (fun text => together (List.map text _)) narrowed

/-! ## Queries -/

/-- At most so many series of a target. -/
def limited (limit? : Option UInt64) (target : Target) : Target :=
  match limit? with
  | some count => .call "limit" target [.plain (toString count.toNat)]
  | none => target

theorem compile_eq_ok_iff {root? : Option String} {query : Query} {compiled : Compiled} :
    compile root? query = .ok compiled ↔ query.checkCompilable = .ok () ∧
      ∃ interval? series whole, query.bucket = .ok interval? ∧
        source root? query interval? = .ok series ∧
        query.having.foldlM (withHaving query) (filled series query.fill?) = .ok whole ∧
        compiled = { target := (limited query.limit? whole).text
                     start := (bounds query.time).1
                     finish := (bounds query.time).2
                     timezone? := query.timezone? } := by
  constructor
  · intro compiles
    obtain ⟨made, makes, compiles⟩ := exists_of_bind compiles
    obtain ⟨_, checked, makes⟩ := exists_of_bind makes
    obtain ⟨interval?, read, makes⟩ := exists_of_bind makes
    obtain ⟨series, sourced, makes⟩ := exists_of_bind makes
    obtain ⟨whole, kept, makes⟩ := exists_of_bind makes
    cases makes
    cases compiles
    exact ⟨checked, interval?, series, whole, read, sourced, kept, rfl⟩
  · rintro ⟨checked, interval?, series, whole, read, sourced, kept, rfl⟩
    rw [compile, target, checked, ok_bind, read, ok_bind, sourced, ok_bind, kept]
    rfl

/-- A query that asks for series as they are. -/
structure Bare (query : Query) : Prop where
  aggregations : query.aggregations = []
  interval : query.interval? = none
  fill : query.fill? = none
  having : query.having = []
  limit : query.limit? = none

theorem target_of_bare {root? : Option String} {query : Query} {compiled : Compiled}
    (bare : Bare query) (compiles : compile root? query = .ok compiled) :
    query.checkCompilable = .ok () ∧ compiled.target = (selection root? query).text := by
  obtain ⟨checked, interval?, series, whole, read, sourced, kept, rfl⟩ :=
    compile_eq_ok_iff.1 compiles
  refine ⟨checked, ?_⟩
  unfold Query.bucket at read
  rw [bare.interval] at read
  cases read
  unfold source at sourced
  rw [bare.aggregations] at sourced
  cases sourced
  rw [bare.having, bare.fill] at kept
  cases kept
  rw [bare.limit]
  rfl

/-- A query that only selects, none of whose equalities has a value with a wildcard, reads its paths
inside the functions of its other conditions, the last one outermost. The same comes of filling in
the templates of these functions one after the other. -/
theorem target_of_selecting {root? : Option String} {query : Query} {compiled : Compiled}
    (bare : Bare query) (whole : ∀ value ∈ equalities query.conditions, '*' ∉ value.toList)
    (compiles : compile root? query = .ok compiled) :
    compiled.target = query.conditions.foldl enclosed (selectedPaths root? query) ∧
      compiled.target =
        (templates query.conditions).foldl filledIn (selectedPaths root? query) := by
  obtain ⟨checked, same⟩ := target_of_bare bare compiles
  obtain ⟨paths, written, selects⟩ := selection_eq (Query.shaped_of_checked checked) whole
  rw [same, selects, ← written]
  exact ⟨text_filtered _ paths, text_filtered_templates _ paths⟩

/-- Values and a field that look like places for a series, and more values than wildcards. -/
def bracedQuery : Query :=
  { Query.ofMeasurement "*.\x7b\x7d" with
    fields := ["cpu.*", "\x7b\x7d"]
    conditions := [⟨"host", .equal, .scalar (.string "web\x7b\x7d"), .and⟩,
      ⟨"host", .notEqual, .scalar (.string "\x7b\x7d"), .or⟩,
      ⟨"core", .equal, .scalar (.integer 3), .and⟩,
      ⟨"time", .equal, .scalar .null, .and⟩,
      ⟨"zone", .equal, .scalar (.bool true), .and⟩,
      ⟨"host", .regex, .scalar (.string "\x7b\x7d\""), .and⟩] }

theorem target_of_selecting_braces :
    Bare bracedQuery ∧ (∀ value ∈ equalities bracedQuery.conditions, '*' ∉ value.toList) ∧
      ∃ compiled, compile (some "stats") bracedQuery = .ok compiled ∧ compiled.target =
        "grep(exclude(group(stats.web\x7b\x7d.\x7b\x7d.cpu.3,stats.web\x7b\x7d.\x7b\x7d.\x7b\x7d)," ++
          "\"\x7b\x7d\"),\"\x7b\x7d\\\"\")" := by
  have bare : Bare bracedQuery := ⟨rfl, rfl, rfl, rfl, rfl⟩
  have whole : ∀ value ∈ equalities bracedQuery.conditions, '*' ∉ value.toList := by decide +kernel
  obtain ⟨compiled, compiles⟩ : ∃ compiled, compile (some "stats") bracedQuery = .ok compiled :=
    ⟨_, rfl⟩
  refine ⟨bare, whole, compiled, compiles, ?_⟩
  rw [(target_of_selecting bare whole compiles).1]
  decide +kernel

end SeriesQuery.Graphite
