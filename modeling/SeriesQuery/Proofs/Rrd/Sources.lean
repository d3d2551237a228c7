import Mathlib.Data.List.Forall2
import Mathlib.Data.List.Nodup
import SeriesQuery.Proofs.Dictionaries
import SeriesQuery.Proofs.Rrd.Writes

/-!
Data sources of fields. The name of a data source has room for nineteen letters, digits and
underscores; every other character is spelled as an underscore. Two fields of a point have one data
source exactly when this hides all that tells their names apart.
-/

set_option autoImplicit false

namespace SeriesQuery.Rrd

/-! ## Spelling -/

/-- Characters that the name of a data source does not tell apart. -/
def Blurred (c d : Char) : Prop := c = d ∨ c.isAlphanum = false ∧ d.isAlphanum = false

instance (c d : Char) : Decidable (Blurred c d) :=
  inferInstanceAs (Decidable (c = d ∨ c.isAlphanum = false ∧ d.isAlphanum = false))

/-- A character as the name of a data source has it. -/
def spelled (c : Char) : Char := if isNameChar c then c else '_'

theorem isNameChar_spelled (c : Char) : isNameChar (spelled c) = true := by
  unfold spelled
  split
  · assumption
  · decide

theorem spelled_of_isAlphanum {c : Char} (letter : c.isAlphanum = true) : spelled c = c :=
  if_pos (by simp [isNameChar, letter])

theorem spelled_of_not_isAlphanum {c : Char} (other : c.isAlphanum = false) : spelled c = '_' := by
  unfold spelled
  split
  · next nameChar => simpa [isNameChar, other] using nameChar
  · rfl

theorem spelled_eq_iff {c d : Char} : spelled c = spelled d ↔ Blurred c d := by
  unfold Blurred
  cases first : c.isAlphanum with
  | true =>
    rw [spelled_of_isAlphanum first]
    cases second : d.isAlphanum with
    | true => simp [spelled_of_isAlphanum second]
    | false =>
      -- A letter is neither an underscore nor a character that is no letter.
      rw [spelled_of_not_isAlphanum second]
      refine iff_of_false (fun same => ?_) (fun blurred => ?_)
      · rw [same] at first
        cases first
      · have same := blurred.resolve_right fun both => Bool.noConfusion both.1
        rw [same, second] at first
        cases first
  | false =>
    rw [spelled_of_not_isAlphanum first]
    cases second : d.isAlphanum with
    | true =>
      rw [spelled_of_isAlphanum second]
      refine iff_of_false (fun same => ?_) (fun blurred => ?_)
      · rw [← same] at second
        cases second
      · have same := blurred.resolve_right fun both => Bool.noConfusion both.2
        rw [← same, first] at second
        cases second
    | false => simp [spelled_of_not_isAlphanum second]

/-! ## Names -/

def calledName (field : String) : String := if field = "" then "value" else field

/-- Field names that are told apart neither by their first nineteen characters nor by letters and
digits. -/
def Alike (first second : String) : Prop :=
  List.Forall₂ Blurred ((calledName first).toList.take 19) ((calledName second).toList.take 19)

instance (first second : String) : Decidable (Alike first second) :=
  inferInstanceAs (Decidable (List.Forall₂ Blurred _ _))

theorem toList_sourceName (field : String) :
    (sourceName field).toList = ((calledName field).toList.take 19).map spelled := by
  unfold sourceName calledName
  by_cases empty : field = ""
  · subst empty
    decide
  · have nonempty : ((field.toList.map spelled).take 19).isEmpty = false := by
      simpa [List.take_eq_nil_iff] using empty
    have same : (field.toList.map fun c => if isNameChar c then c else '_') =
        field.toList.map spelled := rfl
    rw [if_neg empty, same]
    dsimp only
    rw [nonempty, if_neg Bool.false_ne_true, String.toList_ofList, List.map_take]

theorem sourceName_eq_iff {first second : String} :
    sourceName first = sourceName second ↔ Alike first second := by
  rw [← String.toList_inj, toList_sourceName, toList_sourceName, ← List.forall₂_eq_eq_eq,
    List.forall₂_map_left_iff, List.forall₂_map_right_iff]
  simp only [spelled_eq_iff]
  rfl

/-- A name of letters, digits and underscores. -/
def Clean (name : String) : Prop := ∀ c ∈ name.toList, isNameChar c = true

instance (name : String) : Decidable (Clean name) :=
  inferInstanceAs (Decidable (∀ c ∈ name.toList, isNameChar c = true))

theorem clean_sourceName (field : String) : Clean (sourceName field) := by
  intro c member
  rw [toList_sourceName] at member
  obtain ⟨d, -, rfl⟩ := List.mem_map.1 member
  exact isNameChar_spelled d

/-- A name that its data source has too. -/
structure FitsSource (field : String) : Prop where
  nonempty : field ≠ ""
  short : field.length ≤ 19
  clean : Clean field

theorem FitsSource.sourceName_eq {field : String} (fits : FitsSource field) :
    sourceName field = field := by
  rw [← String.toList_inj, toList_sourceName, calledName, if_neg fits.nonempty,
    List.take_of_length_le fits.short]
  refine (List.map_congr_left fun c member => ?_).trans (List.map_id _)
  exact if_pos (fits.clean c member)

theorem fitsSource_sourceName (field : String) : FitsSource (sourceName field) := by
  have called : calledName field ≠ "" := by
    unfold calledName
    split
    · decide
    · assumption
  refine ⟨fun empty => ?_, ?_, clean_sourceName field⟩
  · have none := toList_sourceName field
    rw [empty] at none
    have none := List.map_eq_nil_iff.1 none.symm
    simp [called] at none
  · rw [← String.length_toList, toList_sourceName, List.length_map]
    exact List.length_take_le _ _

theorem FitsSource.eq_of_alike {first second : String} (fits : FitsSource first)
    (other : FitsSource second) (alike : Alike first second) : first = second := by
  have same := sourceName_eq_iff.2 alike
  rwa [fits.sourceName_eq, other.sourceName_eq] at same

/-! ## Points -/

/-- The fields that have a data source in a new file. -/
def Store.declaredFields (store : Store) (point : Point) : List String :=
  match store.schemas.get? point.measurement with
  | some schema => schema.fields.keys
  | none => point.fields.keys

theorem sourceNames_eq (store : Store) (point : Point) :
    store.sourceNames point = (store.declaredFields point).map sourceName := by
  unfold Store.sourceNames Store.declaredFields
  cases store.schemas.get? point.measurement <;> rfl

theorem nodup_declaredFields (store : Store) (point : Point) :
    (store.declaredFields point).Nodup := by
  unfold Store.declaredFields
  cases store.schemas.get? point.measurement with
  | none => exact point.fields.nodup_keys
  | some schema => exact schema.fields.nodup_keys

theorem mem_declaredFields {store : Store} {point : Point}
    (passes : store.schemas.problem? point = none) {field : String}
    (known : field ∈ point.fields.keys) : field ∈ store.declaredFields point := by
  unfold Store.declaredFields
  cases found : store.schemas.get? point.measurement with
  | none => exact known
  | some schema =>
    obtain ⟨⟨field, value⟩, member, rfl⟩ := List.mem_map.1 known
    have passes : schema.problem? point = none := by
      simpa [SchemaRegistry.problem?, found] using passes
    have fits := List.findSome?_eq_none_iff.1 (Option.or_eq_none_iff.1 passes).1 _ member
    cases declared : schema.fields.get? field with
    | none => simp [Schema.fieldProblem?, declared] at fits
    | some kind => exact Dictionary.mem_keys_of_get? declared

theorem declared?_createCommand (store : Store) (point : Point) :
    (store.createCommand point).declared? = some (store.sourceNames point) := by
  rw [Store.createCommand, Command.declared?, List.map_map]
  exact congrArg some (List.map_id (store.sourceNames point))

/-- The data sources that a command writes to, in the order of the values. -/
def Command.template? : Command → Option (List String)
  | .update _ template _ => some template
  | _ => none

theorem nodup_map_sourceName_iff {fields : List String} :
    (fields.map sourceName).Nodup ↔ fields.Pairwise fun first second => ¬ Alike first second := by
  simp only [List.Nodup, List.pairwise_map, Ne, sourceName_eq_iff]

theorem nodup_sourceNames_of_fitsSource {store : Store} {point : Point}
    (fits : ∀ field ∈ store.declaredFields point, FitsSource field) :
    (store.sourceNames point).Nodup := by
  rw [sourceNames_eq, nodup_map_sourceName_iff]
  refine (nodup_declaredFields store point).imp_of_mem fun first second different alike => ?_
  exact different ((fits _ first).eq_of_alike (fits _ second) alike)

/-- The fields of a point are among those of its file, so they share no data source where those do
not. -/
theorem nodup_template_of_sourceNames {store : Store} {point : Point}
    (passes : store.schemas.problem? point = none) (distinct : (store.sourceNames point).Nodup) :
    (point.fields.keys.map sourceName).Nodup := by
  rw [sourceNames_eq] at distinct
  have apart := List.inj_on_of_nodup_map distinct
  refine List.Nodup.map_on (fun field known other otherKnown same => ?_) point.fields.nodup_keys
  exact apart (mem_declaredFields passes known) (mem_declaredFields passes otherKnown) same

/-- The data sources of a new file, and those that a point is written to, are distinct exactly when
no two of the fields are alike, which fields with names that fit never are. Where those of the file
are distinct, so are those of every point that may be written to it. -/
theorem sources_nodup_iff (store : Store) {point : Point}
    (passes : store.schemas.problem? point = none) :
    ∃ declared template, (store.createCommand point).declared? = some declared ∧
      (store.updateCommand point).template? = some template ∧
      (declared.Nodup ↔
        (store.declaredFields point).Pairwise fun first second => ¬ Alike first second) ∧
      (template.Nodup ↔ point.fields.keys.Pairwise fun first second => ¬ Alike first second) ∧
      ((∀ field ∈ store.declaredFields point, FitsSource field) → declared.Nodup) ∧
      (declared.Nodup → template.Nodup) := by
  refine ⟨_, _, declared?_createCommand store point, rfl, ?declared, nodup_map_sourceName_iff,
    nodup_sourceNames_of_fitsSource, nodup_template_of_sourceNames passes⟩
  case declared =>
    rw [sourceNames_eq]
    exact nodup_map_sourceName_iff

/-- A schema with two fields of which only the ends differ. -/
def requestStore : Store where
  settings := { dataDirectory := "/data" }
  schemas := .ofList [("http", ⟨.ofList [("requests_per_second_get", .integer),
    ("requests_per_second_put", .integer), ("bytes.read", .integer)], .empty⟩)]

def requestPoint : Point where
  measurement := "http"
  fields := .ofList [("bytes.read", .integer 512), ("requests_per_second_get", .integer 3)]
  tags := .empty
  timestamp := ⟨1698408060, 0, by decide⟩

theorem sources_nodup_iff_requests :
    requestStore.schemas.problem? requestPoint = none ∧
      ∃ declared template, (requestStore.createCommand requestPoint).declared? = some declared ∧
        (requestStore.updateCommand requestPoint).template? = some template ∧
        ¬ declared.Nodup ∧ template.Nodup := by
  have passes : requestStore.schemas.problem? requestPoint = none := by decide
  obtain ⟨declared, template, isDeclared, isTemplate, whole, part, -, -⟩ :=
    sources_nodup_iff requestStore passes
  refine ⟨passes, declared, template, isDeclared, isTemplate, fun distinct => ?_, part.2 ?_⟩
  · exact absurd (whole.1 distinct) (by decide)
  · decide

/-- Two fields that differ in a character that data sources do not have. -/
def diskPoint : Point where
  measurement := "disk"
  fields := .ofList [("read.bytes", .integer 1), ("read_bytes", .integer 2)]
  tags := .empty
  timestamp := ⟨1698408060, 0, by decide⟩

/-- Fields of one point can share a data source, in the file and in the update. -/
theorem sources_shared :
    requestStore.schemas.problem? diskPoint = none ∧
      (∃ declared, (requestStore.createCommand diskPoint).declared? = some declared ∧
        ¬ declared.Nodup) ∧
      ∃ template, (requestStore.updateCommand diskPoint).template? = some template ∧
        ¬ template.Nodup := by
  refine ⟨by decide, ⟨["read_bytes", "read_bytes"], by decide, by decide⟩, ?_⟩
  exact ⟨["read_bytes", "read_bytes"], by decide, by decide⟩

end SeriesQuery.Rrd
