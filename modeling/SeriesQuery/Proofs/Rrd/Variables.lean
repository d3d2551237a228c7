import Mathlib.Data.List.Nodup
import SeriesQuery.Proofs.Decimal.Numerals
import SeriesQuery.Proofs.Outcomes
import SeriesQuery.Proofs.Rrd.Sources
import SeriesQuery.Rrd.Compiler
import Std.Data.String.ToNat

/-!
Variables of an export. A data source is read into a variable of its own name, and a computed series
stands in a variable with a number. Names that repeat the name before them are left out, but no
other repeated names, so a field that is asked for twice with another one in between is defined
twice.
-/

set_option autoImplicit false

namespace SeriesQuery.Rrd

/-! ## Definitions -/

/-- The variable that a statement defines, up to the first equals sign. -/
def defined? (statement : String) : Option String :=
  ((Text.dropStart? "DEF:".toList statement.toList).or
    (Text.dropStart? "CDEF:".toList statement.toList)).map fun definition =>
      String.ofList (definition.takeWhile (· != '='))

def Command.variables : Command → List String
  | .xport _ _ _ _ statements => statements.filterMap defined?
  | _ => []

/-- A name that no equals sign ends early. -/
def Assignable (name : String) : Prop := ∀ c ∈ name.toList, (c != '=') = true

instance (name : String) : Decidable (Assignable name) :=
  inferInstanceAs (Decidable (∀ c ∈ name.toList, (c != '=') = true))

theorem takeWhile_assignable {name : String} (assignable : Assignable name) (rest : List Char) :
    String.ofList ((name.toList ++ '=' :: rest).takeWhile (· != '=')) = name := by
  rw [List.takeWhile_append_of_pos assignable, List.takeWhile_cons]
  simp

theorem defined?_definition {name : String} (assignable : Assignable name) (path source : String)
    (function : Consolidation) : defined? (definition name path source function) = some name := by
  have written : (definition name path source function).toList = "DEF:".toList ++ (name.toList ++
      '=' :: (escapeColons path ++ ":" ++ source ++ ":" ++ function.name).toList) := by
    simp [definition]
  rw [defined?, written, Text.dropStart?_append]
  exact congrArg some (takeWhile_assignable assignable _)

theorem Clean.avoids {name : String} (clean : Clean name) {sign : Char}
    (outside : isNameChar sign = false) : ∀ c ∈ name.toList, (c != sign) = true := by
  intro c member
  refine bne_iff_ne.2 ?_
  rintro rfl
  rw [clean _ member] at outside
  cases outside

theorem Clean.assignable {name : String} (clean : Clean name) : Assignable name :=
  clean.avoids (by decide)

theorem clean_computedVariable (index : Nat) : Clean (computedVariable index) := by
  intro c member
  rw [computedVariable, String.toList_append, List.mem_append] at member
  rcases member with letter | digit
  · revert letter c
    decide
  · rw [Decimal.toList_toString_nat] at digit
    simp [isNameChar, Char.isAlphanum, Decimal.isDigit_of_mem_toDigits digit]

theorem defined?_computed (index : Nat) (expression : String) :
    defined? ("CDEF:" ++ computedVariable index ++ "=" ++ expression) =
      some (computedVariable index) := by
  have written : ("CDEF:" ++ computedVariable index ++ "=" ++ expression).toList =
      "CDEF:".toList ++ ((computedVariable index).toList ++ '=' :: expression.toList) := by
    simp
  have other (rest : List Char) :
      Text.dropStart? "DEF:".toList ("CDEF:".toList ++ rest) = none := rfl
  rw [defined?, written, other, Text.dropStart?_append]
  exact congrArg some (takeWhile_assignable (clean_computedVariable index).assignable _)

theorem defined?_export (variableName legend : String) :
    defined? ("XPORT:" ++ variableName ++ ":" ++ legend) = none := by
  rw [defined?, String.append_assoc, String.append_assoc, String.toList_append]
  rfl

namespace Compiled

/-- Definitions of data sources and of computed series, which all stand before the exports. -/
def definitions (compiled : Compiled) : List String :=
  compiled.fields.map (fun field => definition field compiled.path field compiled.function) ++
    compiled.math.zipIdx.map fun numbered =>
      "CDEF:" ++ computedVariable numbered.2 ++ "=" ++ numbered.1.expression

def exports (compiled : Compiled) : List (String × String) :=
  compiled.fields.map (fun field => (field, field)) ++
    compiled.math.zipIdx.map fun numbered => (computedVariable numbered.2, numbered.1.name)

theorem statements_eq (compiled : Compiled) :
    compiled.statements = compiled.definitions ++
      compiled.exports.map fun column => "XPORT:" ++ column.1 ++ ":" ++ column.2 := by
  simp [statements, definitions, exports, Function.comp_def]

end Compiled

theorem variables_command {compiled : Compiled} (exports : compiled.mode = .xport)
    (assignable : ∀ field ∈ compiled.fields, Assignable field) :
    compiled.command.variables =
      compiled.fields ++ (List.range compiled.math.length).map computedVariable := by
  have sources : (compiled.fields.map fun field =>
      definition field compiled.path field compiled.function).filterMap defined? =
        compiled.fields := by
    rw [List.filterMap_map]
    refine (List.filterMap_eq_map_iff_forall_eq_some.2 fun field member => ?_).trans (List.map_id _)
    exact defined?_definition (assignable field member) _ _ _
  have computed : (compiled.math.zipIdx.map fun numbered =>
      "CDEF:" ++ computedVariable numbered.2 ++ "=" ++ numbered.1.expression).filterMap defined? =
        (List.range compiled.math.length).map computedVariable := by
    rw [List.filterMap_map, List.range_eq_range', ← List.zipIdx_map_snd, List.map_map]
    exact List.filterMap_eq_map_iff_forall_eq_some.2 fun _ _ => defined?_computed _ _
  have exported : (compiled.exports.map fun column =>
      "XPORT:" ++ column.1 ++ ":" ++ column.2).filterMap defined? = [] := by
    rw [List.filterMap_map]
    exact List.filterMap_eq_nil_iff.2 fun _ _ => defined?_export _ _
  unfold Compiled.command
  rw [exports]
  dsimp only [Command.variables]
  rw [Compiled.statements_eq, List.filterMap_append, exported, Compiled.definitions,
    List.filterMap_append, sources, computed, List.append_nil]

theorem computedVariable_ne_placeholderField (index : Nat) :
    computedVariable index ≠ placeholderField := by
  intro same
  have starts := congrArg (·.toList.head?) same
  simp [computedVariable, placeholderField] at starts

theorem computedVariable_injective : Function.Injective computedVariable := by
  intro first second same
  exact Nat.repr_inj.1 ((String.append_right_inj "cdef").1 same)

theorem nodup_variables_iff {compiled : Compiled} (exports : compiled.mode = .xport)
    (assignable : ∀ field ∈ compiled.fields, Assignable field) :
    compiled.command.variables.Nodup ↔ compiled.fields.Nodup ∧
      ∀ index < compiled.math.length, computedVariable index ∉ compiled.fields := by
  have numbered : ((List.range compiled.math.length).map computedVariable).Nodup :=
    (List.nodup_map_iff computedVariable_injective).2 List.nodup_range
  rw [variables_command exports assignable, List.nodup_append, and_iff_right numbered]
  refine and_congr_right fun _ => ⟨?_, ?_⟩
  · intro apart index bound member
    exact apart _ member _ (List.mem_map_of_mem (List.mem_range.2 bound)) rfl
  · intro free field member other isComputed same
    obtain ⟨index, bound, rfl⟩ := List.mem_map.1 isComputed
    exact free index (List.mem_range.1 bound) (same ▸ member)

/-! ## Repeated names -/

/-- A name does not come back after another one. -/
def Together (names : List String) : Prop :=
  ∀ name other, [name, other, name].Sublist names → other = name

theorem Together.of_sublist {names fewer : List String} (together : Together names)
    (within : fewer.Sublist names) : Together fewer :=
  fun name other found => together name other (found.trans within)

theorem together_cons_self_iff {name : String} {names : List String} :
    Together (name :: name :: names) ↔ Together (name :: names) := by
  refine ⟨fun together => together.of_sublist (List.sublist_cons_self _ _), ?_⟩
  intro together first second found
  rcases List.sublist_cons_iff.1 found with found | ⟨rest, same, found⟩
  · exact together first second found
  · cases same
    rcases List.sublist_cons_iff.1 found with found | ⟨rest, same, found⟩
    · exact together name second (found.cons_cons name)
    · cases same
      rfl

theorem together_cons_cons_iff {first second : String} (other : first ≠ second)
    {names : List String} :
    Together (first :: second :: names) ↔
      first ∉ second :: names ∧ Together (second :: names) := by
  -- a name that is left behind must not come back
  constructor
  · intro together
    refine ⟨fun member => ?_, together.of_sublist (List.sublist_cons_self _ _)⟩
    have later := (List.mem_cons.1 member).resolve_left other
    have found := (List.singleton_sublist.2 later).cons_cons second |>.cons_cons first
    exact other (together first second found).symm
  · rintro ⟨absent, together⟩ name between found
    rcases List.sublist_cons_iff.1 found with found | ⟨rest, same, found⟩
    · exact together name between found
    · cases same
      exact absurd (found.subset (List.mem_cons_of_mem _ List.mem_cons_self)) absent

theorem mem_dropRepeats {name : String} {names : List String} :
    name ∈ dropRepeats names ↔ name ∈ names := by
  fun_induction dropRepeats names with
  | case1 => rfl
  | case2 single => rfl
  | case3 first rest ih => rw [ih]; simp
  | case4 first second rest other ih => rw [List.mem_cons, ih, ← List.mem_cons]

theorem dropRepeats_eq_nil_iff {names : List String} : dropRepeats names = [] ↔ names = [] := by
  simp only [List.eq_nil_iff_forall_not_mem, mem_dropRepeats]

theorem together_of_length_le {names : List String} (short : names.length ≤ 1) :
    Together names := by
  intro name other found
  have length := found.length_le
  simp only [List.length_cons, List.length_nil] at length
  omega

theorem nodup_dropRepeats_iff {names : List String} :
    (dropRepeats names).Nodup ↔ Together names := by
  fun_induction dropRepeats names with
  | case1 => exact iff_of_true List.nodup_nil (together_of_length_le (Nat.zero_le 1))
  | case2 single => exact iff_of_true (List.nodup_singleton _) (together_of_length_le le_rfl)
  | case3 first rest ih => rw [ih, together_cons_self_iff]
  | case4 first second rest other ih =>
    rw [List.nodup_cons, mem_dropRepeats, ih, together_cons_cons_iff other]

/-! ## Queries -/

/-- The data sources of the fields that a query names, or else of those that it aggregates, as often
as it does. -/
def requested (query : Query) : List String :=
  (if query.explicitFields.isEmpty then
      (query.aggregations.map (·.field)).filter fun field => !field.isEmpty && field != wildcard
    else query.explicitFields).map sourceName

theorem fieldsOf_eq (query : Query) : fieldsOf query = dropRepeats (requested query) := by
  unfold fieldsOf requested
  cases named : query.explicitFields with
  | nil => simp [List.filter_map, Function.comp_def]
  | cons first others => rfl

theorem exports_of_compile {layout : Layout} {base : String} {mode : Mode} {query : Query}
    {compiled : Compiled} (compiles : compile layout base mode query = .ok compiled) :
    compiled.mode = mode ∧ compiled.math = query.math ∧
      compiled.fields = if requested query = [] then [placeholderField]
        else dropRepeats (requested query) := by
  obtain ⟨-, -, made⟩ := exists_of_bind compiles
  obtain ⟨interval?, -, made⟩ := exists_of_bind made
  cases made
  refine ⟨rfl, rfl, ?_⟩
  simp only [fieldsOf_eq, List.isEmpty_iff, dropRepeats_eq_nil_iff]

theorem fitsSource_of_compile {layout : Layout} {base : String} {mode : Mode} {query : Query}
    {compiled : Compiled} (compiles : compile layout base mode query = .ok compiled) :
    ∀ field ∈ compiled.fields, FitsSource field := by
  obtain ⟨-, -, fields⟩ := exports_of_compile compiles
  rw [fields]
  split
  · exact List.forall_mem_singleton.2 ⟨by decide, by decide, by decide⟩
  · intro name member
    obtain ⟨field, -, rfl⟩ := List.mem_map.1 (mem_dropRepeats.1 member)
    exact fitsSource_sourceName field

theorem clean_fields_of_compile {layout : Layout} {base : String} {mode : Mode} {query : Query}
    {compiled : Compiled} (compiles : compile layout base mode query = .ok compiled) :
    ∀ field ∈ compiled.fields, Clean field :=
  fun field member => (fitsSource_of_compile compiles field member).clean

/-- The variables of an export are distinct exactly when the names of the data sources that the
query asks for stand together, and none of them is the variable of a computed series. -/
theorem variables_nodup_iff {layout : Layout} {base : String} {query : Query} {compiled : Compiled}
    (compiles : compile layout base .xport query = .ok compiled) :
    compiled.command.variables.Nodup ↔ Together (requested query) ∧
      ∀ index < query.math.length, computedVariable index ∉ requested query := by
  obtain ⟨exports, math, fields⟩ := exports_of_compile compiles
  have assignable : ∀ name ∈ compiled.fields, Assignable name :=
    fun name member => (clean_fields_of_compile compiles name member).assignable
  rw [nodup_variables_iff exports assignable, math, fields]
  split
  · next none =>
    rw [none]
    refine iff_of_true ⟨List.nodup_singleton _, fun index _ member => ?_⟩
      ⟨together_of_length_le (Nat.zero_le 1), fun _ _ => List.not_mem_nil⟩
    exact computedVariable_ne_placeholderField index (List.mem_singleton.1 member)
  · simp only [nodup_dropRepeats_iff, mem_dropRepeats]

/-- A field that is asked for again after another one. -/
def returningQuery : Query := (Query.ofMeasurement "cpu").select ["usage", "idle", "usage"]

theorem variables_nodup_iff_returning :
    ∃ compiled, compile .flat "/data" .xport returningQuery = .ok compiled ∧
      (compiled.command.variables.Nodup ↔ Together (requested returningQuery) ∧
        ∀ index < returningQuery.math.length, computedVariable index ∉ requested returningQuery) ∧
      ¬ compiled.command.variables.Nodup := by
  have asked : requested returningQuery = ["usage", "idle", "usage"] := by decide +kernel
  obtain ⟨compiled, compiles⟩ : ∃ compiled,
      compile .flat "/data" .xport returningQuery = .ok compiled := ⟨_, rfl⟩
  have distinct := variables_nodup_iff compiles
  refine ⟨compiled, compiles, distinct, fun nodup => ?_⟩
  have together := (distinct.1 nodup).1
  rw [asked] at together
  exact absurd (together "usage" "idle" (List.Sublist.refl _)) (by decide)

end SeriesQuery.Rrd
