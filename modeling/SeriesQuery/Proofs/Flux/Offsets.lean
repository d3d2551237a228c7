import SeriesQuery.Proofs.Flux.Acceptance
import SeriesQuery.Proofs.Flux.Filters
import SeriesQuery.Proofs.Language.Selection
import SeriesQuery.Proofs.Text.Padding

/-!
Time zones at a fixed distance from universal time. A query in such a zone is shifted by a duration
of hours and minutes, which is exactly the distance, and needs no list of zones.
-/

set_option autoImplicit false

namespace SeriesQuery.Flux

open SeriesQuery.Language (Digits)

/-! ## Written distances -/

/-- A distance as it is written: a sign with hours, perhaps with minutes behind a colon, and perhaps
with the letters `UTC` before all of it. -/
structure WrittenOffset where
  universal : Bool
  negative : Bool
  hours : Digits
  minutes? : Option Digits

namespace WrittenOffset

def minutesText (written : WrittenOffset) : List Char :=
  (written.minutes?.map fun minutes => ':' :: minutes.text).getD []

def text (written : WrittenOffset) : List Char :=
  (if written.universal then "UTC".toList else []) ++
    (if written.negative then '-' else '+') :: (written.hours.text ++ written.minutesText)

def minutes (written : WrittenOffset) : Nat := (written.minutes?.map Digits.value).getD 0

/-- The distance in minutes; to the west it is negative. -/
def distance (written : WrittenOffset) : Int :=
  (if written.negative then -1 else 1) * (60 * written.hours.value + written.minutes)

/-- Both numbers fit 32 bits. -/
structure Fits (written : WrittenOffset) : Prop where
  hours : written.hours.value < UInt32.size
  minutes : written.minutes < UInt32.size

instance (written : WrittenOffset) : Decidable written.Fits :=
  decidable_of_iff (written.hours.value < UInt32.size ∧ written.minutes < UInt32.size)
    ⟨fun ⟨hours, minutes⟩ => ⟨hours, minutes⟩, fun fits => ⟨fits.hours, fits.minutes⟩⟩

def offset (written : WrittenOffset) : Offset :=
  ⟨written.negative, written.hours.value, written.minutes⟩

variable {written : WrittenOffset}

/-- The letters are dropped where they stand, and a sign is no letter. -/
theorem dropUniversal (written : WrittenOffset) :
    (Text.dropStart? "UTC".toList written.text).getD written.text =
      (if written.negative then '-' else '+') :: (written.hours.text ++ written.minutesText) := by
  unfold text
  cases written.universal with
  | true => rw [if_pos rfl, Text.dropStart?_append, Option.getD_some]
  | false => cases written.negative <;> rfl

theorem colon_notMem_digits (digits : Digits) : ':' ∉ digits.text := by
  intro member
  exact absurd (digits.digits _ member) (by decide)

theorem splitFirst?_text (written : WrittenOffset) :
    (Text.splitFirst? ':' (written.hours.text ++ written.minutesText)).getD
        (written.hours.text ++ written.minutesText, ['0']) =
      (written.hours.text, (written.minutes?.map Digits.text).getD ['0']) := by
  have noColon := colon_notMem_digits written.hours
  unfold minutesText
  cases written.minutes? with
  | none =>
    rw [Option.map_none, Option.getD_none, List.append_nil, Text.splitFirst?_eq_none noColon]
    rfl
  | some minutes =>
    rw [Option.map_some, Option.getD_some, Text.splitFirst?_append noColon]
    rfl

theorem readNat?_minutes (fits : written.Fits) :
    Decimal.readNat? UInt32.size
        (String.ofList ((written.minutes?.map Digits.text).getD ['0'])) = some written.minutes := by
  obtain ⟨universal, negative, hours, minutes?⟩ := written
  cases minutes? with
  | none =>
    show Decimal.readNat? UInt32.size (String.ofList ['0']) = some 0
    decide
  | some minutes => exact Language.readNat?_digits fits.minutes

theorem solid_text (written : WrittenOffset) : Language.Solid written.text := by
  have sign : Text.isBlank (if written.negative then '-' else '+') = false := by
    cases written.negative <;> rfl
  have minutes : Language.Solid written.minutesText := by
    unfold minutesText
    cases written.minutes? with
    | none => exact List.forall_mem_nil _
    | some minutes => exact List.forall_mem_cons.2 ⟨by decide, minutes.solid⟩
  apply Language.Solid.append
  · cases written.universal <;> decide
  · exact List.forall_mem_cons.2 ⟨sign, written.hours.solid.append minutes⟩

theorem text_ne_nil (written : WrittenOffset) : written.text ≠ [] :=
  List.append_ne_nil_of_right_ne_nil _ (List.cons_ne_nil _ _)

/-- A written distance is read with any white space around it. -/
theorem read?_padded {zone : String} (padded : Text.Padded written.text zone.toList)
    (fits : written.Fits) : Offset.read? zone = some written.offset := by
  have trimmed : Text.trimChars zone.toList = written.text :=
    padded.trimChars_eq written.text_ne_nil written.solid_text.stops written.solid_text.endsSolid
  have split := written.splitFirst?_text
  have hours := Language.readNat?_digits fits.hours
  have minutes := readNat?_minutes fits
  unfold Offset.read?
  simp only [trimmed, dropUniversal]
  cases sign : written.negative with
  | true =>
    simp [split, hours, minutes, offset, sign]
  | false =>
    simp [split, hours, minutes, offset, sign]

end WrittenOffset

/-! ## Duration literals -/

/-- A number with its unit at the start of a text, and what follows them. -/
def part? (unit : Char) (text : List Char) : Option (Nat × List Char) :=
  match text.span Char.isDigit with
  | (_, []) => none
  | (digits, c :: rest) =>
    if c = unit then (Decimal.readDigits? digits).map fun number => (number, rest) else none

def minutesOf? (text : List Char) : Option Nat :=
  match part? 'h' text with
  | some (hours, []) => some (60 * hours)
  | some (hours, rest) =>
    match part? 'm' rest with
    | some (minutes, []) => some (60 * hours + minutes)
    | _ => none
  | none =>
    match part? 'm' text with
    | some (minutes, []) => some minutes
    | _ => none

/-- The minutes that a duration literal stands for. A minus sign goes for all of it. -/
def literalMinutes? : List Char → Option Int
  | '-' :: rest => (minutesOf? rest).map fun minutes : Nat => -(minutes : Int)
  | text => (minutesOf? text).map fun minutes : Nat => (minutes : Int)

theorem part?_append {unit mark : Char} (noDigit : mark.isDigit = false) (digits : Digits)
    (rest : List Char) :
    part? unit (digits.text ++ mark :: rest) =
      if mark = unit then some (digits.value, rest) else none := by
  have split : (digits.text ++ mark :: rest).span Char.isDigit = (digits.text, mark :: rest) :=
    span_append digits.digits (stops_cons noDigit rest)
  rw [part?, split]
  simp only [digits.readDigits?, Option.map_some]

theorem minutesOf?_hours (hours : Digits) :
    minutesOf? (hours.text ++ ['h']) = some (60 * hours.value) := by
  have first : part? 'h' (hours.text ++ ['h']) = some (hours.value, []) :=
    part?_append (by decide) hours []
  simp only [minutesOf?, first]

theorem minutesOf?_minutes (minutes : Digits) :
    minutesOf? (minutes.text ++ ['m']) = some minutes.value := by
  have noHours : part? 'h' (minutes.text ++ ['m']) = none := part?_append (by decide) minutes []
  have last : part? 'm' (minutes.text ++ ['m']) = some (minutes.value, []) :=
    part?_append (by decide) minutes []
  simp only [minutesOf?, noHours, last]

theorem minutesOf?_both (hours minutes : Digits) :
    minutesOf? (hours.text ++ 'h' :: (minutes.text ++ ['m'])) =
      some (60 * hours.value + minutes.value) := by
  have first : part? 'h' (hours.text ++ 'h' :: (minutes.text ++ ['m'])) =
      some (hours.value, minutes.text ++ ['m']) := part?_append (by decide) hours _
  have last : part? 'm' (minutes.text ++ ['m']) = some (minutes.value, []) :=
    part?_append (by decide) minutes []
  obtain ⟨c, others, same⟩ : ∃ c others, minutes.text ++ ['m'] = c :: others :=
    List.exists_cons_of_ne_nil (List.append_ne_nil_of_left_ne_nil minutes.nonempty _)
  rw [same] at first last ⊢
  simp only [minutesOf?, first, last]

def Offset.unsignedText (offset : Offset) : String :=
  (if 0 < offset.hours ∨ offset.minutes = 0 then toString offset.hours ++ "h" else "") ++
    (if 0 < offset.minutes then toString offset.minutes ++ "m" else "")

theorem Offset.text_eq (offset : Offset) :
    offset.text = (if offset.negative then "-" else "") ++ offset.unsignedText :=
  String.append_assoc

theorem minutesOf?_unsignedText (offset : Offset) :
    minutesOf? offset.unsignedText.toList = some (60 * offset.hours + offset.minutes) := by
  obtain ⟨negative, hours, minutes⟩ := offset
  have hoursText : (toString hours ++ "h").toList = (Digits.ofNat hours).text ++ ['h'] := by
    rw [String.toList_append, Digits.toList_toString]
    rfl
  have minutesText : (toString minutes ++ "m").toList = (Digits.ofNat minutes).text ++ ['m'] := by
    rw [String.toList_append, Digits.toList_toString]
    rfl
  unfold Offset.unsignedText
  dsimp only
  rw [String.toList_append]
  by_cases noMinutes : minutes = 0
  · subst noMinutes
    have read := minutesOf?_hours (.ofNat hours)
    rw [if_pos (.inr rfl), if_neg (Nat.lt_irrefl 0), hoursText, String.toList_empty,
      List.append_nil, read, Digits.value_ofNat, Nat.add_zero]
  · have someMinutes : 0 < minutes := Nat.pos_of_ne_zero noMinutes
    by_cases noHours : hours = 0
    · subst noHours
      have read := minutesOf?_minutes (.ofNat minutes)
      rw [if_neg (by omega), if_pos someMinutes, minutesText, String.toList_empty,
        List.nil_append, read, Digits.value_ofNat, Nat.mul_zero, Nat.zero_add]
    · have read := minutesOf?_both (.ofNat hours) (.ofNat minutes)
      rw [if_pos (.inl (Nat.pos_of_ne_zero noHours)), if_pos someMinutes, hoursText, minutesText,
        List.append_assoc, List.singleton_append, read, Digits.value_ofNat, Digits.value_ofNat]

theorem minutesOf?_sign (rest : List Char) : minutesOf? ('-' :: rest) = none := by
  have noPart (unit : Char) (other : '-' ≠ unit) : part? unit ('-' :: rest) = none := by
    have split : ([] ++ '-' :: rest).span Char.isDigit = ([], '-' :: rest) :=
      span_append (List.forall_mem_nil _) (stops_cons (by decide) rest)
    rw [List.nil_append] at split
    rw [part?, split]
    exact if_neg other
  simp only [minutesOf?, noPart 'h' (by decide), noPart 'm' (by decide)]

theorem literalMinutes?_of_unsigned {text : List Char} {minutes : Nat}
    (read : minutesOf? text = some minutes) : literalMinutes? text = some (minutes : Int) := by
  unfold literalMinutes?
  split
  · next rest =>
    rw [minutesOf?_sign] at read
    cases read
  · rw [read, Option.map_some]

/-- The distance in minutes that an offset goes to the east. -/
def Offset.distance (offset : Offset) : Int :=
  (if offset.negative then -1 else 1) * (60 * offset.hours + offset.minutes)

theorem literalMinutes?_text (offset : Offset) :
    literalMinutes? offset.text.toList = some offset.distance := by
  obtain ⟨negative, hours, minutes⟩ := offset
  have read : minutesOf? (Offset.unsignedText ⟨negative, hours, minutes⟩).toList =
      some (60 * hours + minutes) := minutesOf?_unsignedText _
  rw [Offset.text_eq, String.toList_append]
  cases negative with
  | true =>
    have signed : literalMinutes? ("-".toList ++ (Offset.unsignedText ⟨true, hours, minutes⟩).toList) =
        (minutesOf? (Offset.unsignedText ⟨true, hours, minutes⟩).toList).map
          fun minutes : Nat => -(minutes : Int) := rfl
    rw [if_pos rfl, signed, read, Option.map_some, Offset.distance, if_pos rfl]
    dsimp only
    exact congrArg some (by omega)
  | false =>
    rw [if_neg Bool.false_ne_true, String.toList_empty, List.nil_append,
      literalMinutes?_of_unsigned read, Offset.distance, if_neg Bool.false_ne_true]
    dsimp only
    exact congrArg some (by omega)

/-! ## Scripts -/

def withoutZone (query : Query) : Query := { query with timezone? := none }

theorem Parts.madeFor_withoutZone_iff {parts : Parts} {query : Query} :
    parts.MadeFor (withoutZone query) ↔ parts.MadeFor query := by
  constructor
  · intro made
    exact ⟨made.checked, made.groups, made.interval, made.having, made.fill⟩
  · intro made
    exact ⟨made.checked, made.groups, made.interval, made.having, made.fill⟩

def rangeText (bucket : String) (window : TimeWindow) : String :=
  "from(bucket: " ++ Text.quoted bucket ++ ")" ++ "\n  |> " ++ (rangeStage window).text

def otherStages (query : Query) (parts : Parts) : List Stage :=
  .measurement query.measurement :: (parts.groups.map Stage.filter ++ stagesAfter query parts)

theorem script_shifted {query : Query} {offset : Offset} (shift : zoneShift? query = some offset)
    (parts : Parts) : (parts.plan query).script =
      ⟨none, rangeStage query.time :: .timeShift offset :: otherStages query parts⟩ := by
  simp [Parts.plan, namedZone?, stagesBefore, shift, otherStages]

theorem script_withoutZone (query : Query) (parts : Parts) :
    (parts.plan (withoutZone query)).script =
      ⟨none, rangeStage query.time :: otherStages query parts⟩ := by
  rfl

/-- The imports of a script in which no zone is named. -/
def importText (stages : List Stage) : String :=
  if stages.any Stage.interpolates then "import \"interpolate\"\n\n" else ""

theorem openingText_unnamed (stages : List Stage) (bucket : String) :
    openingText ⟨none, stages⟩ bucket =
      importText stages ++ "from(bucket: " ++ Text.quoted bucket ++ ")" := by
  unfold openingText Script.header Script.imports importText
  dsimp only
  cases stages.any Stage.interpolates <;> rfl

theorem stagesText_cons (stage : Stage) (others : List Stage) :
    stagesText (stage :: others) = "\n  |> " ++ stage.text ++ stagesText others :=
  String.join_cons

theorem text_unnamed (window : TimeWindow) (others : List Stage) (bucket : String) :
    Script.text ⟨none, rangeStage window :: others⟩ bucket =
      importText others ++ rangeText bucket window ++ stagesText others := by
  have noPackage : importText (rangeStage window :: others) = importText others := by
    cases window <;> rfl
  rw [text_eq_openingText_append, openingText_unnamed, noPackage, stagesText_cons]
  unfold rangeText
  simp only [String.append_assoc]

theorem text_shifted (window : TimeWindow) (offset : Offset) (others : List Stage)
    (bucket : String) :
    Script.text ⟨none, rangeStage window :: .timeShift offset :: others⟩ bucket =
      importText others ++ rangeText bucket window ++
        "\n  |> timeShift(duration: " ++ offset.text ++ ")" ++ stagesText others := by
  have noPackage : importText (.timeShift offset :: others) = importText others := rfl
  have shift : stagesText (.timeShift offset :: others) =
      "\n  |> " ++ ("timeShift(duration: " ++ offset.text ++ ")") ++ stagesText others :=
    stagesText_cons _ others
  have joined : "\n  |> timeShift(duration: " = "\n  |> " ++ "timeShift(duration: " := rfl
  rw [text_unnamed, noPackage, shift]
  simp only [joined, String.append_assoc]

/-- A query in a zone at a fixed distance, written with any white space around it, has a script
exactly when it has one without the zone. The script is the same but for one more stage, a shift by
a literal that stands for the distance, and no package for time zones is imported. -/
theorem compile_shifts {written : WrittenOffset} {zone : String} {query : Query}
    (padded : Text.Padded written.text zone.toList) (fits : written.Fits)
    (zoned : query.timezone? = some zone) (bucket : String) :
    ∃ literal : String, literal ≠ "" ∧ literalMinutes? literal.toList = some written.distance ∧
      ((∃ compiled, compile bucket query = .ok compiled) ↔
        ∃ compiled, compile bucket (withoutZone query) = .ok compiled) ∧
      ∀ compiled, compile bucket query = .ok compiled → ∃ imports rest : String,
        (imports = "" ∨ imports = "import \"interpolate\"\n\n") ∧
        compiled.text = imports ++ rangeText bucket query.time ++
          "\n  |> timeShift(duration: " ++ literal ++ ")" ++ rest ∧
        compile bucket (withoutZone query) =
          .ok { compiled with text := imports ++ rangeText bucket query.time ++ rest } := by
  have shift : zoneShift? query = some written.offset := by
    rw [zoneShift?, zoned]
    exact WrittenOffset.read?_padded padded fits
  have read : literalMinutes? written.offset.text.toList = some written.distance :=
    literalMinutes?_text written.offset
  refine ⟨written.offset.text, ?_, read, ?_, ?_⟩
  · intro empty
    have nothing : literalMinutes? "".toList = none := by decide
    rw [empty, nothing] at read
    cases read
  · rw [exists_compile_iff, exists_compile_iff]
    exact exists_congr fun parts => Parts.madeFor_withoutZone_iff.symm
  · intro compiled compiles
    obtain ⟨parts, made, rfl⟩ := compile_eq_ok_iff.1 compiles
    refine ⟨importText (otherStages query parts), stagesText (otherStages query parts), ?_, ?_, ?_⟩
    · unfold importText
      split
      · exact .inr rfl
      · exact .inl rfl
    · exact (congrArg (Script.text · bucket) (script_shifted shift parts)).trans
        (text_shifted query.time written.offset (otherStages query parts) bucket)
    · have text : (parts.plan (withoutZone query)).script.text bucket = _ :=
        (congrArg (Script.text · bucket) (script_withoutZone query parts)).trans
          (text_unnamed query.time (otherStages query parts) bucket)
      refine compile_eq_ok_iff.2 ⟨parts, Parts.madeFor_withoutZone_iff.2 made, ?_⟩
      exact congrArg (Compiled.mk · .data (aggregationStages query.aggregations).2) text

/-- Half an hour to the west: the sign is not lost with hours that are zero. -/
def halfHourWest : WrittenOffset where
  universal := true
  negative := true
  hours := ⟨['0', '0'], by decide, by decide⟩
  minutes? := some ⟨['3', '0'], by decide, by decide⟩

def westQuery : Query :=
  { Query.ofMeasurement "cpu" with timezone? := some " UTC-00:30\n" }

theorem compile_shifts_half_hour :
    Text.Padded halfHourWest.text " UTC-00:30\n".toList ∧ halfHourWest.Fits ∧
      ∃ literal, literal ≠ "" ∧ literalMinutes? literal.toList = some (-30) ∧
        ∃ compiled imports rest, compile "metrics" westQuery = .ok compiled ∧
          (imports = "" ∨ imports = "import \"interpolate\"\n\n") ∧
          compiled.text = imports ++ rangeText "metrics" westQuery.time ++
            "\n  |> timeShift(duration: " ++ literal ++ ")" ++ rest := by
  have padded : Text.Padded halfHourWest.text " UTC-00:30\n".toList :=
    ⟨[' '], ['\n'], by decide, by decide, rfl⟩
  have fits : halfHourWest.Fits := by decide
  have zoned : westQuery.timezone? = some " UTC-00:30\n" := rfl
  have accepted : ∃ compiled, compile "metrics" westQuery = .ok compiled :=
    (exists_compile_iff _ _).2 (exists_madeFor_iff.2
      ⟨by decide, List.forall_mem_nil _, List.forall_mem_nil _, fun _ given => nomatch given⟩)
  obtain ⟨literal, nonempty, read, -, texts⟩ := compile_shifts padded fits zoned "metrics"
  obtain ⟨compiled, compiles⟩ := accepted
  obtain ⟨imports, rest, named, text, -⟩ := texts compiled compiles
  exact ⟨padded, fits, literal, nonempty, read, compiled, imports, rest, compiles, named, text⟩

end SeriesQuery.Flux
