import SeriesQuery.Proofs.Decimal.Numerals
import SeriesQuery.Proofs.Driver.Batches
import SeriesQuery.Proofs.Graphite.Reads
import SeriesQuery.Proofs.Journal
import SeriesQuery.Proofs.Language.Trimming

/-!
Lines on their way to carbon. The daemon parts a line at its spaces and what it is sent at its line
ends, so that a name with either would make other lines of it. None gets there: a line has the two
spaces of its form and no other white space, whatever stands in the names of its point.
-/

set_option autoImplicit false

namespace SeriesQuery.Graphite

open SeriesQuery.Language (Solid)

/-! ## Parts of lines -/

theorem solid_component (text : String) : Solid (component text).toList :=
  fun c member => (single_component text c member).2

theorem solid_tagPart (text : String) : Solid (tagPart text).toList := by
  intro c member
  rw [tagPart, String.toList_map, List.mem_map] at member
  obtain ⟨d, -, rfl⟩ := member
  split
  · decide
  · next other =>
    simp only [Bool.or_eq_true, not_or, Bool.not_eq_true] at other
    exact other.2

theorem solid_tagText (key value : String) : Solid (tagText key value).toList := by
  unfold tagText
  split
  · exact List.forall_mem_nil _
  · simp only [String.toList_append]
    apply Solid.append
    · exact Solid.append (Solid.append (by decide) (solid_tagPart key)) (by decide)
    · exact solid_tagPart value

theorem solid_tagSuffix (point : Point) : Solid (tagSuffix point).toList := by
  unfold tagSuffix
  induction point.tags.entries with
  | nil => exact List.forall_mem_nil _
  | cons tag tags ih =>
    rw [List.map_cons, String.join_cons, String.toList_append]
    exact (solid_tagText tag.1 tag.2).append ih

def SolidRoot (root? : Option String) : Prop := ∀ root ∈ root?, Solid root.toList

theorem solid_writtenBase {root? : Option String} (solid : SolidRoot root?) (measurement : String) :
    Solid (writtenBase root? measurement).toList := by
  unfold writtenBase
  cases root? with
  | none => exact solid_component measurement
  | some root =>
    dsimp only
    split
    · exact solid_component measurement
    · simp only [String.toList_append]
      apply Solid.append
      · exact (solid root rfl).append (by decide)
      · exact solid_component measurement

theorem solid_writtenName {root? : Option String} (solid : SolidRoot root?)
    (measurement field : String) : Solid (writtenName root? measurement field).toList := by
  unfold writtenName
  simp only [String.toList_append]
  apply Solid.append
  · exact (solid_writtenBase solid measurement).append (by decide)
  · exact solid_component field

theorem solid_of_numeric {text : List Char} (numeric : Decimal.Numeric text) : Solid text := by
  intro c member
  have numeral := numeric.numerals c member
  simp only [Decimal.isNumeral, Bool.or_eq_true, beq_iff_eq] at numeral
  rcases numeral with (digit | rfl) | rfl
  · exact Language.isBlank_of_isDigit digit
  · decide
  · decide

theorem numeric_valueText {field text : String} {value : FieldValue}
    (printed : valueText field value = .ok text) : Decimal.Numeric text.toList := by
  cases value with
  | integer value =>
    cases printed
    exact Decimal.numeric_toString_int value.toInt
  | float value =>
    simp only [valueText] at printed
    split at printed
    · next finite =>
      cases printed
      exact Decimal.numeric_plain finite
    · cases printed

/-! ## Lines -/

/-- What stands before the first space of a line. -/
def linePath (root? : Option String) (point : Point) (field : String) : String :=
  writtenName root? point.measurement field ++ tagSuffix point

/-- A line about a field: a path, the value and the second, with one space between each two of them
and no other white space. -/
structure Framed (root? : Option String) (point : Point) (field : String × FieldValue)
    (text : String) : Prop where
  path : linePath root? point field.1 ≠ ""
  parts : ∃ value, valueText field.1 field.2 = .ok value ∧ value ≠ "" ∧
    Text.splitAt ' ' text =
      [linePath root? point field.1, value, toString point.timestamp.seconds]
  blanks : text.toList.filter Text.isBlank = [' ', ' ']

theorem linePath_ne_empty (root? : Option String) (point : Point) (field : String) :
    linePath root? point field ≠ "" := by
  -- The point between the measurement and the field is always there.
  intro empty
  have none := congrArg String.toList empty
  simp [linePath, writtenName] at none

theorem filter_isBlank_of_solid {text : List Char} (solid : Solid text) :
    text.filter Text.isBlank = [] :=
  List.filter_eq_nil_iff.2 fun c member => by simp [solid c member]

theorem not_space_of_solid {text : List Char} (solid : Solid text) : ' ' ∉ text := by
  intro member
  have blank := solid ' ' member
  cases blank

theorem framed_of_parts {root? : Option String} {point : Point} {field : String × FieldValue}
    {value : String} (solid : SolidRoot root?) (printed : valueText field.1 field.2 = .ok value) :
    Framed root? point field (linePath root? point field.1 ++ " " ++ value ++ " " ++
      toString point.timestamp.seconds) := by
  have path : Solid (linePath root? point field.1).toList := by
    rw [linePath, String.toList_append]
    exact (solid_writtenName solid _ _).append (solid_tagSuffix point)
  have number := numeric_valueText printed
  have second := solid_of_numeric (Decimal.numeric_toString_int point.timestamp.seconds)
  have middle := solid_of_numeric number
  constructor
  · exact linePath_ne_empty root? point field.1
  · refine ⟨value, printed, fun empty => number.nonempty (by rw [empty]; rfl), ?_⟩
    -- None of the parts has a space in it, so cutting at the spaces gives back these three.
    have apart : ∀ part ∈ [linePath root? point field.1, value,
        toString point.timestamp.seconds], ' ' ∉ part.toList := by
      simp only [List.forall_mem_cons]
      exact ⟨not_space_of_solid path, not_space_of_solid middle, not_space_of_solid second,
        List.forall_mem_nil _⟩
    have marks : " ".toList = [' '] := rfl
    rw [← Text.splitAt_intercalate marks (List.cons_ne_nil _ _) apart]
    rfl
  · simp only [String.toList_append, List.filter_append, filter_isBlank_of_solid path,
      filter_isBlank_of_solid middle, filter_isBlank_of_solid second]
    rfl

theorem framed_of_lines {root? : Option String} (solid : SolidRoot root?) {point : Point}
    {written : List String} (accepted : lines root? point = .ok written) :
    List.Forall₂ (Framed root? point) point.fields.entries written := by
  refine (lines_eq accepted).2.imp fun field text each => ?_
  obtain ⟨value, printed, rfl⟩ := each
  exact framed_of_parts solid printed

theorem Framed.unbroken {root? : Option String} {point : Point} {field : String × FieldValue}
    {text : String} (framed : Framed root? point field text) : '\n' ∉ text.toList := by
  intro member
  have blank : '\n' ∈ text.toList.filter Text.isBlank := List.mem_filter.2 ⟨member, rfl⟩
  rw [framed.blanks] at blank
  revert blank
  decide

/-! ## Payloads -/

theorem splitAt_payload {blocks : List (List String)}
    (unbroken : ∀ line ∈ blocks.flatten, '\n' ∉ line.toList) :
    Text.splitAt '\n' (Service.payload blocks) = blocks.flatten ++ [""] := by
  have ended : (Service.payload blocks).toList =
      (blocks.flatten.map String.toList).flatMap (· ++ ['\n']) ++ [] := by
    simp [Service.payload, String.toList_join, List.flatMap_def, Function.comp_def]
  have apart : ∀ part ∈ blocks.flatten.map String.toList, '\n' ∉ part := by
    simpa only [List.forall_mem_map] using unbroken
  rw [Text.splitAt, ended, splitOn_ended apart, List.map_append, List.map_map]
  simp [Function.comp_def]

variable {World : Type}

/-- The same daemon, and a journal of what it was sent. -/
def Carbon.noted (carbon : Carbon (StateM World)) : Carbon (StateM (World × List Delivery)) :=
  fun delivery => noting (fun _ => delivery) (carbon delivery)

/-- All that is sent when points are written together. -/
def Service.deliveries (service : Service) (carbon : Carbon (StateM World)) (points : List Point)
    (world : World) : List Delivery :=
  ((service.writeBatch carbon.noted points).run.run (world, [])).2.2

theorem Service.deliveries_eq (service : Service) (carbon : Carbon (StateM World))
    (points : List Point) (world : World) :
    service.deliveries carbon points world =
      if (Batch.contentsOf (lines service.root?) points).isEmpty then []
      else [service.delivery (Batch.contentsOf (lines service.root?) points)] := by
  unfold deliveries writeBatch
  rw [Batch.run_writeTogether, StateT.run_map]
  unfold Batch.verdictOn
  split
  · rfl
  · rfl

/-- What is sent for a batch whose points that can be written down have these lines. -/
structure Delivered (service : Service) (points : List Point) (blocks : List (List String))
    (sent : List Delivery) : Prop where
  framed : List.Forall₂
    (fun point block => lines service.root? point = .ok block ∧
      KeysIncrease point.fields.entries ∧
      List.Forall₂ (Framed service.root? point) point.fields.entries block)
    (points.filter fun point => (lines service.root? point).isOk) blocks
  sent : sent = if blocks.isEmpty then [] else [service.delivery blocks]
  split : Text.splitAt '\n' (Service.payload blocks) = blocks.flatten ++ [""]

theorem forall₂_contentsOf {α : Type} {R : Point → α → Prop}
    {writeDown : Point → Except WriteProblem α}
    (each : ∀ point content, writeDown point = .ok content → R point content)
    (points : List Point) :
    List.Forall₂ R (points.filter fun point => (writeDown point).isOk)
      (Batch.contentsOf writeDown points) := by
  induction points with
  | nil => exact .nil
  | cons point points ih =>
    unfold Batch.contentsOf at ih ⊢
    rw [List.filter_cons, List.filterMap_cons]
    cases made : writeDown point with
    | error problem => exact ih
    | ok content => exact .cons (each point content made) ih

theorem Delivered.lengths {service : Service} {points : List Point} {blocks : List (List String)}
    {sent : List Delivery} (delivered : Delivered service points blocks sent) :
    blocks.map List.length =
      (points.filter fun point => (lines service.root? point).isOk).map
        fun point => point.fields.entries.length := by
  have each := delivered.framed
  generalize (points.filter fun point => (lines service.root? point).isOk) = kept at each ⊢
  clear delivered
  induction each with
  | nil => rfl
  | cons first _ ih => rw [List.map_cons, List.map_cons, ih, first.2.2.length_eq]

/-- Carbon reads a line for each field of each point that can be written down, in the order of the
points and of their fields, and nothing else. -/
theorem deliveries_framed :
    (∀ root? : Option String, SolidRoot root? → ∀ point written, lines root? point = .ok written →
      KeysIncrease point.fields.entries ∧
        List.Forall₂ (Framed root? point) point.fields.entries written) ∧
    ∀ service : Service, Solid service.settings.root.toList →
      ∀ (carbon : Carbon (StateM World)) (points : List Point) (world : World),
        ∃ blocks, Delivered service points blocks (service.deliveries carbon points world) := by
  have each : ∀ root? : Option String, SolidRoot root? → ∀ point written,
      lines root? point = .ok written → KeysIncrease point.fields.entries ∧
        List.Forall₂ (Framed root? point) point.fields.entries written :=
    fun _ solid point _ accepted => ⟨point.fields.increase, framed_of_lines solid accepted⟩
  refine ⟨each, fun service solid carbon points world => ?_⟩
  have solidRoot : SolidRoot service.root? := by
    rintro root ⟨⟩
    exact solid
  have framed := forall₂_contentsOf (fun point block accepted =>
    And.intro accepted (each service.root? solidRoot point block accepted)) points
  refine ⟨_, framed, service.deliveries_eq carbon points world, splitAt_payload ?_⟩
  intro line member
  obtain ⟨block, isBlock, inBlock⟩ := List.mem_flatten.1 member
  obtain ⟨point, -, -, -, ofPoint⟩ := exists_of_mem_right framed isBlock
  obtain ⟨field, -, ofField⟩ := exists_of_mem_right ofPoint inBlock
  exact ofField.unbroken

/-- A point with white space in every name. -/
def brokenPoint : Point :=
  let point := Point.ofMeasurement "disk\nio" ⟨-1, 999999999, by decide⟩
  ((point.addTag "mo\r\nunt" "/var\u2028lib").addField "util\n1 2" (.integer 3)).addField
    "read.bytes" (.integer 7)

def brokenPoints : List Point :=
  let bare := Point.ofMeasurement " " brokenPoint.timestamp
  [brokenPoint, bare, bare.addField "\n" (.integer (-1))]

/-- A daemon that takes everything. -/
def acceptingCarbon : Carbon (StateM Unit) := fun _ => pure (.ok ())

theorem deliveries_framed_broken :
    let service : Service := ⟨{ root := "stats" }⟩
    let written := ["stats.disk_io.read_bytes;mo__unt=/var_lib 7 -1",
      "stats.disk_io.util_1_2;mo__unt=/var_lib 3 -1"]
    Solid service.settings.root.toList ∧ lines service.root? brokenPoint = .ok written ∧
      List.Forall₂ (Framed service.root? brokenPoint) brokenPoint.fields.entries written ∧
      ∃ blocks, blocks.map List.length = [2, 1] ∧ Delivered service brokenPoints blocks
        (service.deliveries acceptingCarbon brokenPoints ()) := by
  intro service written
  have solid : Solid service.settings.root.toList := by decide
  have accepted : lines service.root? brokenPoint = .ok written := by decide +kernel
  obtain ⟨each, sent⟩ := @deliveries_framed Unit
  have kept : (brokenPoints.filter fun point => (lines service.root? point).isOk).map
      (fun point => point.fields.entries.length) = [2, 1] := by
    decide +kernel
  obtain ⟨blocks, delivered⟩ := sent service solid acceptingCarbon brokenPoints ()
  have framed := (each service.root? (by rintro root ⟨⟩; exact solid) _ _ accepted).2
  exact ⟨solid, accepted, framed, blocks, delivered.lengths.trans kept, delivered⟩

end SeriesQuery.Graphite
