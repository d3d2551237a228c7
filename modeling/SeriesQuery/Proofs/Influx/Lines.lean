import SeriesQuery.Influx.Service
import SeriesQuery.Proofs.Batches
import SeriesQuery.Proofs.Decimal.Numerals
import SeriesQuery.Proofs.Outcomes
import SeriesQuery.Proofs.Points
import SeriesQuery.Proofs.Text.Escapes
import Std.Data.String.ToInt

/-!
Lines of points. A line is two lists of names with a timestamp: the measurement with its tags, and
the fields. Commas stand between the names of a list, and an equals sign between the two parts of a
tag or a field. Lines tell points apart whose names do not end in backslashes.
-/

set_option autoImplicit false

namespace SeriesQuery.Influx

/-! ## Lists of names -/

def endsName (c : Char) : Bool := c == ',' || c == ' '

def listedTail (names : List (List Char)) : List Char :=
  names.flatMap fun name => ',' :: escaped endsName name

theorem listedTail_cons (name : List Char) (names : List (List Char)) :
    listedTail (name :: names) = ',' :: (escaped endsName name ++ listedTail names) :=
  List.flatMap_cons

def listed : List (List Char) → List Char
  | [] => []
  | name :: names => escaped endsName name ++ listedTail names

def Told (name : List Char) : Prop := name.getLast? ≠ some '\\'

instance (name : List Char) : Decidable (Told name) :=
  inferInstanceAs (Decidable (name.getLast? ≠ some '\\'))

theorem exists_ending (names : List (List Char)) (rest : List Char) :
    ∃ c more, listedTail names ++ ' ' :: rest = c :: more ∧ endsName c = true := by
  cases names with
  | nil => exact ⟨' ', rest, rfl, rfl⟩
  | cons name names => exact ⟨',', _, rfl, rfl⟩

theorem listedName_injective {name other : List Char} (told : Told name) (otherTold : Told other)
    {names others : List (List Char)} {rest more : List Char}
    (same : escaped endsName name ++ (listedTail names ++ ' ' :: rest) =
      escaped endsName other ++ (listedTail others ++ ' ' :: more)) :
    name = other ∧ listedTail names ++ ' ' :: rest = listedTail others ++ ' ' :: more := by
  obtain ⟨c, after, written, ends⟩ := exists_ending names rest
  obtain ⟨d, afterOther, writtenOther, endsOther⟩ := exists_ending others more
  rw [written, writtenOther] at same ⊢
  have read : readEscaped endsName (escaped endsName name ++ c :: after) = (name, c :: after) :=
    readEscaped_escaped rfl ends told
  rw [same, readEscaped_escaped rfl endsOther otherTold] at read
  exact ⟨congrArg Prod.fst read.symm, congrArg Prod.snd read.symm⟩

theorem listedTail_injective {names others : List (List Char)} {rest more : List Char}
    (told : ∀ name ∈ names, Told name) (othersTold : ∀ name ∈ others, Told name)
    (same : listedTail names ++ ' ' :: rest = listedTail others ++ ' ' :: more) :
    names = others ∧ rest = more := by
  -- Names go on where a comma stands and are over where the space does, on both sides alike.
  induction names generalizing others with
  | nil =>
    cases others with
    | nil => exact ⟨rfl, (List.cons.inj same).2⟩
    | cons other others => exact absurd (List.cons.inj same).1 (by decide)
  | cons name names ih =>
    cases others with
    | nil => exact absurd (List.cons.inj same).1 (by decide)
    | cons other others =>
      rw [List.forall_mem_cons] at told othersTold
      rw [listedTail_cons, listedTail_cons, List.cons_append, List.cons_append, List.cons_inj_right,
        List.append_assoc, List.append_assoc] at same
      obtain ⟨rfl, tails⟩ := listedName_injective told.1 othersTold.1 same
      obtain ⟨rfl, rfl⟩ := ih told.2 othersTold.2 tails
      exact ⟨rfl, rfl⟩

theorem listed_injective {names others : List (List Char)} {rest more : List Char}
    (nonempty : names ≠ []) (othersNonempty : others ≠ [])
    (told : ∀ name ∈ names, Told name) (othersTold : ∀ name ∈ others, Told name)
    (same : listed names ++ ' ' :: rest = listed others ++ ' ' :: more) :
    names = others ∧ rest = more := by
  cases names with
  | nil => exact (nonempty rfl).elim
  | cons name names =>
    cases others with
    | nil => exact (othersNonempty rfl).elim
    | cons other others =>
      rw [List.forall_mem_cons] at told othersTold
      rw [listed, listed, List.append_assoc, List.append_assoc] at same
      obtain ⟨rfl, tails⟩ := listedName_injective told.1 othersTold.1 same
      obtain ⟨rfl, rfl⟩ := listedTail_injective told.2 othersTold.2 tails
      exact ⟨rfl, rfl⟩

theorem lineFeed_mem_listed {names : List (List Char)} (member : '\n' ∈ listed names) :
    ∃ name ∈ names, '\n' ∈ name := by
  have kept {name : List Char} : '\n' ∈ escaped endsName name ↔ '\n' ∈ name :=
    mem_escaped (by decide)
  cases names with
  | nil => cases member
  | cons name names =>
    rw [listed, listedTail, List.mem_append, kept, List.mem_flatMap] at member
    rcases member with member | ⟨other, known, member⟩
    · exact ⟨name, List.mem_cons_self, member⟩
    · have member := (List.mem_cons.1 member).resolve_left (by decide)
      exact ⟨other, List.mem_cons_of_mem _ known, kept.1 member⟩

/-! ## Tags and fields -/

def isSign (c : Char) : Bool := c == '='

def pairName (key value : List Char) : List Char := escaped isSign key ++ '=' :: value

def tagName (tag : String × String) : List Char :=
  pairName tag.1.toList (escaped isSign tag.2.toList)

/-- The tags in a line, which has none without a value. -/
def writtenTags (point : Point) : List (String × String) :=
  point.tags.entries.filter fun tag => !tag.2.isEmpty

def FieldSpelled (field : String × FieldValue) (name : List Char) : Prop :=
  ∃ value, fieldText field.1 field.2 = .ok value ∧ name = pairName field.1.toList value.toList

theorem toList_escapeMeasurement (name : String) :
    (escapeMeasurement name).toList = escaped endsName name.toList := by
  have each (c : Char) : escapeNameChar c = if endsName c then ['\\', c] else [c] := by
    simp [escapeNameChar, endsName]
  rw [escapeMeasurement, Text.toList_replaceEach, escaped]
  exact List.flatMap_congr fun c _ => each c

theorem toList_escapeKey (name : String) :
    (escapeKey name).toList = escaped endsName (escaped isSign name.toList) := by
  have each (c : Char) : escapeKeyChar c =
      escaped endsName (if isSign c then ['\\', c] else [c]) := by
    by_cases sign : c = '='
    · subst sign
      rfl
    · simp [escapeKeyChar, escaped, endsName, isSign, sign]
  rw [escapeKey, Text.toList_replaceEach, escaped, escaped, List.flatMap_assoc]
  exact List.flatMap_congr fun c _ => each c

theorem toList_tagText {key value : String} (nonempty : value ≠ "") :
    (tagText key value).toList = ',' :: escaped endsName (tagName (key, value)) := by
  rw [tagText, if_neg (by simpa using nonempty), tagName, pairName, escaped_append,
    escaped_cons rfl]
  simp [toList_escapeKey]

theorem toList_tagTexts (point : Point) :
    (String.join (point.tags.entries.map fun (key, value) => tagText key value)).toList =
      listedTail ((writtenTags point).map tagName) := by
  unfold writtenTags
  induction point.tags.entries with
  | nil => simp [listedTail]
  | cons tag rest ih =>
    obtain ⟨key, value⟩ := tag
    rw [List.map_cons, String.join_cons, String.toList_append, ih]
    by_cases empty : value = ""
    · subst empty
      simp [tagText]
    · rw [toList_tagText empty, List.filter_cons_of_pos (by simpa using empty), List.map_cons,
        listedTail_cons]
      rfl

/-! ## Numbers -/

theorem isNumeral_or_of_fieldText {key value : String} {field : FieldValue}
    (made : fieldText key field = .ok value) :
    ∀ c ∈ value.toList, Decimal.isNumeral c = true ∨ c = 'i' := by
  intro c member
  cases field with
  | integer number =>
    cases made
    rw [String.toList_append, List.mem_append] at member
    rcases member with digit | letter
    · exact .inl ((Decimal.numeric_toString_int _).numerals c digit)
    · exact .inr (List.mem_singleton.1 letter)
  | float number =>
    unfold fieldText at made
    dsimp only at made
    split at made
    · next finite =>
      cases made
      exact .inl ((Decimal.numeric_fixed finite 6).numerals c member)
    · cases made

theorem not_mem_of_fieldText {key value : String} {field : FieldValue}
    (made : fieldText key field = .ok value) {c : Char} (other : Decimal.isNumeral c = false)
    (noLetter : c ≠ 'i') : c ∉ value.toList := by
  intro member
  rcases isNumeral_or_of_fieldText made c member with numeral | letter
  · rw [other] at numeral
    cases numeral
  · exact noLetter letter

theorem toList_field {key value : String} {field : FieldValue}
    (made : fieldText key field = .ok value) :
    (escapeKey key ++ "=" ++ value).toList =
      escaped endsName (pairName key.toList value.toList) := by
  have plain : escaped endsName value.toList = value.toList := by
    refine escaped_eq_self fun c member => ?_
    cases ends : endsName c with
    | false => rfl
    | true =>
      simp only [endsName, Bool.or_eq_true, beq_iff_eq] at ends
      rcases ends with rfl | rfl
      · exact (not_mem_of_fieldText made rfl (by decide) member).elim
      · exact (not_mem_of_fieldText made rfl (by decide) member).elim
  rw [pairName, escaped_append, escaped_cons rfl, plain]
  simp [toList_escapeKey]

/-! ## Lines -/

theorem toList_intercalate_listed {texts : List String} {names : List (List Char)}
    (same : texts.map String.toList = names.map (escaped endsName)) :
    (",".intercalate texts).toList = listed names := by
  cases texts with
  | nil =>
    rw [List.map_nil, List.nil_eq, List.map_eq_nil_iff] at same
    rw [same]
    rfl
  | cons text texts =>
    cases names with
    | nil => cases same
    | cons name names =>
      have ⟨first, rest⟩ := List.cons.inj same
      have tail : (texts.map String.toList).flatMap (',' :: ·) = listedTail names := by
        rw [rest, List.flatMap_map]
        rfl
      rw [toList_intercalate_cons, listed, first, ← tail, List.flatMap_map]
      rfl

theorem exists_fields {fields : List (String × FieldValue)} {texts : List String}
    (made : (fields.mapM fun (key, value) => do
      return escapeKey key ++ "=" ++ (← fieldText key value)) = .ok texts) :
    ∃ names, List.Forall₂ FieldSpelled fields names ∧
      texts.map String.toList = names.map (escaped endsName) := by
  have each := forall₂_of_mapM made
  clear made
  induction each with
  | nil => exact ⟨[], .nil, rfl⟩
  | @cons field _ _ _ first _ ih =>
    obtain ⟨value, written, same⟩ := exists_of_bind first
    cases same
    obtain ⟨names, spelled, same⟩ := ih
    refine ⟨pairName field.1.toList value.toList :: names, .cons ⟨value, written, rfl⟩ spelled, ?_⟩
    rw [List.map_cons, List.map_cons, same, toList_field written]

structure Spelled (precision : Precision) (point : Point) (text : String)
    (names : List (List Char)) (timestamp : Int) : Prop where
  fields : List.Forall₂ FieldSpelled point.fields.entries names
  nonempty : names ≠ []
  stamped : precision.timestamp? point.timestamp = some timestamp
  text : text.toList =
    listed (point.measurement.toList :: (writtenTags point).map tagName) ++
      ' ' :: (listed names ++ ' ' :: (toString timestamp).toList)

theorem exists_spelled {precision : Precision} {point : Point} {text : String}
    (accepted : line precision point = .ok text) :
    ∃ names timestamp, Spelled precision point text names timestamp := by
  unfold line at accepted
  obtain ⟨_, checked, accepted⟩ := exists_of_bind accepted
  obtain ⟨texts, made, accepted⟩ := exists_of_bind accepted
  obtain ⟨names, fields, same⟩ := exists_fields made
  have nonempty : names ≠ [] := by
    rintro rfl
    rw [List.forall₂_nil_right_iff] at fields
    exact (Point.checkContent_eq_ok_iff.1 checked).2 fields
  split at accepted
  · cases accepted
  · next timestamp stamped =>
    cases accepted
    refine ⟨names, timestamp, fields, nonempty, stamped, ?_⟩
    simp only [String.toList_append, toList_escapeMeasurement, toList_tagTexts,
      toList_intercalate_listed same, listed, List.append_assoc]
    rfl

/-! ## Lines of a batch -/

/-- The names that a line of the point holds have no line feeds. -/
structure Unbroken (point : Point) : Prop where
  measurement : '\n' ∉ point.measurement.toList
  tags : ∀ tag ∈ writtenTags point, '\n' ∉ tag.1.toList ∧ '\n' ∉ tag.2.toList
  fields : ∀ field ∈ point.fields.entries, '\n' ∉ field.1.toList

instance (point : Point) : Decidable (Unbroken point) :=
  decidable_of_iff ('\n' ∉ point.measurement.toList ∧
      (∀ tag ∈ writtenTags point, '\n' ∉ tag.1.toList ∧ '\n' ∉ tag.2.toList) ∧
      ∀ field ∈ point.fields.entries, '\n' ∉ field.1.toList)
    ⟨fun ⟨measurement, tags, fields⟩ => ⟨measurement, tags, fields⟩,
      fun unbroken => ⟨unbroken.measurement, unbroken.tags, unbroken.fields⟩⟩

theorem lineFeed_mem_pairName {key value : List Char} (member : '\n' ∈ pairName key value) :
    '\n' ∈ key ∨ '\n' ∈ value := by
  rw [pairName, List.mem_append, mem_escaped (by decide)] at member
  exact member.imp_right fun member => (List.mem_cons.1 member).resolve_left (by decide)

theorem lineFeed_mem_tagName {tag : String × String} (member : '\n' ∈ tagName tag) :
    '\n' ∈ tag.1.toList ∨ '\n' ∈ tag.2.toList :=
  (lineFeed_mem_pairName member).imp_right (mem_escaped (by decide)).1

theorem lineFeed_mem_fieldName {field : String × FieldValue} {name : List Char}
    (spelled : FieldSpelled field name) (member : '\n' ∈ name) : '\n' ∈ field.1.toList := by
  obtain ⟨value, written, rfl⟩ := spelled
  rcases lineFeed_mem_pairName member with key | inValue
  · exact key
  · exact (not_mem_of_fieldText written rfl (by decide) inValue).elim

theorem Unbroken.noLineFeed {point : Point} (unbroken : Unbroken point) {precision : Precision}
    {text : String} (accepted : line precision point = .ok text) : '\n' ∉ text.toList := by
  obtain ⟨names, timestamp, spelled⟩ := exists_spelled accepted
  have noName : ∀ name ∈ names, '\n' ∉ name := by
    intro name known member
    obtain ⟨field, isField, written⟩ := exists_of_mem_right spelled.fields known
    exact unbroken.fields field isField (lineFeed_mem_fieldName written member)
  have noTag : ∀ name ∈ (writtenTags point).map tagName, '\n' ∉ name := by
    rintro _ known member
    obtain ⟨tag, isTag, rfl⟩ := List.mem_map.1 known
    exact (lineFeed_mem_tagName member).elim (unbroken.tags tag isTag).1 (unbroken.tags tag isTag).2
  rw [spelled.text]
  intro member
  -- A line feed in the line would be in the series, in the fields or in the timestamp.
  rcases List.mem_append.1 member with series | rest
  · obtain ⟨name, known, member⟩ := lineFeed_mem_listed series
    rcases List.mem_cons.1 known with rfl | known
    · exact unbroken.measurement member
    · exact noTag name known member
  · have rest := (List.mem_cons.1 rest).resolve_left (by decide)
    rcases List.mem_append.1 rest with fields | stamp
    · obtain ⟨name, known, member⟩ := lineFeed_mem_listed fields
      exact noName name known member
    · have digit := (List.mem_cons.1 stamp).resolve_left (by decide)
      exact absurd ((Decimal.numeric_toString_int _).numerals _ digit) (by decide)

theorem splitAt_writeRequest (service : Service) {lines : List String} (nonempty : lines ≠ [])
    (unbroken : ∀ text ∈ lines, '\n' ∉ text.toList) :
    Text.splitAt '\n' (service.writeRequest lines).body = lines :=
  Text.splitAt_intercalate rfl nonempty unbroken

/-! ## Points of lines -/

/-- The measurement and the tags in a line are told from what follows them. -/
structure Apart (point : Point) : Prop where
  measurement : Told point.measurement.toList
  tags : ∀ tag ∈ writtenTags point, Told tag.1.toList ∧ Told tag.2.toList

instance (point : Point) : Decidable (Apart point) :=
  decidable_of_iff (Told point.measurement.toList ∧
      ∀ tag ∈ writtenTags point, Told tag.1.toList ∧ Told tag.2.toList)
    ⟨fun ⟨measurement, tags⟩ => ⟨measurement, tags⟩,
      fun apart => ⟨apart.measurement, apart.tags⟩⟩

def IntegersOnly (point : Point) : Prop :=
  ∀ field ∈ point.fields.entries, field.2.isInteger = true

instance (point : Point) : Decidable (IntegersOnly point) :=
  inferInstanceAs (Decidable (∀ field ∈ point.fields.entries, field.2.isInteger = true))

theorem told_tagName {tag : String × String} (nonempty : tag.2 ≠ "") (told : Told tag.2.toList) :
    Told (tagName tag) := by
  have some : escaped isSign tag.2.toList ≠ [] := by
    rw [Ne, ← List.getLast?_eq_none_iff, getLast?_escaped, List.getLast?_eq_none_iff]
    exact fun none => nonempty (String.toList_eq_nil_iff.1 none)
  have last : (tagName tag).getLast? = tag.2.toList.getLast? := by
    rw [tagName, pairName, List.getLast?_append_of_ne_nil _ (List.cons_ne_nil _ _),
      List.getLast?_cons_of_ne_nil some, getLast?_escaped]
  rw [Told, last]
  exact told

theorem readEscaped_tagName {tag : String × String} (told : Told tag.1.toList) :
    readEscaped isSign (tagName tag) = (tag.1.toList, '=' :: escaped isSign tag.2.toList) :=
  readEscaped_escaped rfl rfl told

theorem tagName_injective {tag other : String × String} (told : Told tag.1.toList)
    (otherTold : Told other.1.toList) (same : tagName tag = tagName other) : tag = other := by
  have read := readEscaped_tagName told
  rw [same, readEscaped_tagName otherTold] at read
  obtain ⟨keys, values⟩ := Prod.mk.inj read
  have values := escaped_injective (List.cons.inj values).2
  exact Prod.ext (String.toList_inj.1 keys.symm) (String.toList_inj.1 values.symm)

theorem map_tagName_injective {tags others : List (String × String)}
    (told : ∀ tag ∈ tags, Told tag.1.toList) (othersTold : ∀ tag ∈ others, Told tag.1.toList)
    (same : tags.map tagName = others.map tagName) : tags = others := by
  induction tags generalizing others with
  | nil => exact (List.map_eq_nil_iff.1 same.symm).symm
  | cons tag tags ih =>
    cases others with
    | nil => cases same
    | cons other others =>
      rw [List.forall_mem_cons] at told othersTold
      obtain ⟨first, rest⟩ := List.cons.inj same
      rw [tagName_injective told.1 othersTold.1 first, ih told.2 othersTold.2 rest]

/-- The value of a field starts behind its last equals sign. -/
theorem pairName_injective {key value other otherValue : List Char} (noSign : '=' ∉ value)
    (otherNoSign : '=' ∉ otherValue) (same : pairName key value = pairName other otherValue) :
    key = other ∧ value = otherValue := by
  -- The key may end in a backslash, so that the sign is looked for from the end.
  have read {key value : List Char} (noSign : '=' ∉ value) :
      (pairName key value).reverse.span (!isSign ·) =
        (value.reverse, '=' :: (escaped isSign key).reverse) := by
    rw [pairName, List.reverse_append, List.reverse_cons, List.append_assoc]
    refine span_append (fun c member => ?_) (stops_cons rfl _)
    have other : c ≠ '=' := fun same => noSign (same ▸ List.mem_reverse.1 member)
    simpa [isSign] using other
  have split : (pairName key value).reverse.span (!isSign ·) = _ := read noSign
  rw [same, read otherNoSign] at split
  obtain ⟨values, keys⟩ := Prod.mk.inj split
  have keys := List.reverse_injective (List.cons.inj keys).2
  exact ⟨escaped_injective keys.symm, List.reverse_injective values.symm⟩

theorem integerText_injective {number other : Int64}
    (same : toString number.toInt ++ "i" = toString other.toInt ++ "i") : number = other :=
  Int64.toInt_inj.1 (Int.repr_inj.1 ((String.append_left_inj "i").1 same))

theorem leftUnique_fieldSpelled : Relator.LeftUnique fun field name =>
    field.2.isInteger = true ∧ FieldSpelled field name := by
  rintro ⟨key, value⟩ ⟨other, otherValue⟩ name ⟨isInteger, text, written, rfl⟩
    ⟨otherIsInteger, otherText, otherWritten, same⟩
  obtain ⟨keys, texts⟩ := pairName_injective (not_mem_of_fieldText written rfl (by decide))
    (not_mem_of_fieldText otherWritten rfl (by decide)) same
  cases value with
  | float value => cases isInteger
  | integer value =>
    cases otherValue with
    | float value => cases otherIsInteger
    | integer otherValue =>
      cases written
      cases otherWritten
      exact Prod.ext (String.toList_inj.1 keys)
        (congrArg FieldValue.integer (integerText_injective (String.toList_inj.1 texts)))

theorem told_pairName_integer {key : String} {number : Int64} {name : List Char}
    (spelled : FieldSpelled (key, .integer number) name) : Told name := by
  obtain ⟨value, written, rfl⟩ := spelled
  cases written
  have last : (pairName key.toList (toString number.toInt ++ "i").toList).getLast? = some 'i' := by
    rw [pairName, String.toList_append, ← List.cons_append, ← List.append_assoc]
    exact List.getLast?_concat
  rw [Told, last]
  decide

theorem told_names {point : Point} (integers : IntegersOnly point) {names : List (List Char)}
    (fields : List.Forall₂ FieldSpelled point.fields.entries names) :
    ∀ name ∈ names, Told name := by
  intro name member
  obtain ⟨⟨key, value⟩, known, spelled⟩ := exists_of_mem_right fields member
  cases value with
  | float value => cases integers _ known
  | integer value => exact told_pairName_integer spelled

theorem Apart.told {point : Point} (apart : Apart point) :
    ∀ name ∈ point.measurement.toList :: (writtenTags point).map tagName, Told name := by
  refine List.forall_mem_cons.2 ⟨apart.measurement, List.forall_mem_map.2 fun tag member => ?_⟩
  have nonempty : tag.2 ≠ "" := by
    simpa using (List.mem_filter.1 member).2
  exact told_tagName nonempty (apart.tags tag member).2

theorem rightUnique_fieldSpelled : Relator.RightUnique FieldSpelled := by
  rintro field name other ⟨value, written, rfl⟩ ⟨otherValue, otherWritten, rfl⟩
  rw [Except.ok.inj (written.symm.trans otherWritten)]

theorem line_congr {precision : Precision} {first second : Point} {text other : String}
    (accepted : line precision first = .ok text) (otherAccepted : line precision second = .ok other)
    (measurement : first.measurement = second.measurement)
    (tags : writtenTags first = writtenTags second) (fields : first.fields = second.fields)
    (timestamp : precision.timestamp? first.timestamp = precision.timestamp? second.timestamp) :
    text = other := by
  obtain ⟨names, stamp, spelled⟩ := exists_spelled accepted
  obtain ⟨otherNames, otherStamp, otherSpelled⟩ := exists_spelled otherAccepted
  have sameNames : names = otherNames :=
    rightUnique_fieldSpelled.forall₂ (fields ▸ spelled.fields) otherSpelled.fields
  have sameStamp : stamp = otherStamp :=
    Option.some.inj (spelled.stamped.symm.trans (timestamp.trans otherSpelled.stamped))
  apply String.toList_inj.1
  rw [spelled.text, otherSpelled.text, measurement, tags, sameNames, sameStamp]

theorem Spelled.tells {precision : Precision} {first second : Point} {text : String}
    {names otherNames : List (List Char)} {timestamp otherTimestamp : Int}
    (spelled : Spelled precision first text names timestamp)
    (otherSpelled : Spelled precision second text otherNames otherTimestamp)
    (apart : Apart first) (otherApart : Apart second)
    (integers : IntegersOnly first) (otherIntegers : IntegersOnly second) :
    first.measurement = second.measurement ∧ writtenTags first = writtenTags second ∧
      first.fields = second.fields ∧ timestamp = otherTimestamp := by
  obtain ⟨series, rest⟩ := listed_injective (List.cons_ne_nil _ _) (List.cons_ne_nil _ _)
    apart.told otherApart.told (spelled.text.symm.trans otherSpelled.text)
  obtain ⟨rfl, stamp⟩ := listed_injective spelled.nonempty otherSpelled.nonempty
    (told_names integers spelled.fields) (told_names otherIntegers otherSpelled.fields) rest
  obtain ⟨measurement, tagNames⟩ := List.cons.inj series
  have tags := map_tagName_injective (fun tag member => (apart.tags tag member).1)
    (fun tag member => (otherApart.tags tag member).1) tagNames
  have fields := leftUnique_fieldSpelled.forall₂
    ((List.forall₂_and_left _ _).2 ⟨integers, spelled.fields⟩)
    ((List.forall₂_and_left _ _).2 ⟨otherIntegers, otherSpelled.fields⟩)
  exact ⟨String.toList_inj.1 measurement, tags, Dictionary.eq_of_entries fields,
    Int.repr_inj.1 (String.toList_inj.1 stamp)⟩

theorem exists_of_mem_contents {precision : Precision} {points : List Point} {text : String}
    (member : text ∈ Batch.contentsOf (line precision) points) :
    ∃ point ∈ points, line precision point = .ok text := by
  obtain ⟨point, isPoint, written⟩ := List.mem_filterMap.1 member
  cases accepted : line precision point with
  | error problem => rw [accepted] at written; cases written
  | ok made =>
    rw [accepted] at written
    cases written
    exact ⟨point, isPoint, accepted⟩

/-- Lines without line feeds in their names come back one by one from the body of a request, and
lines of integers tell all that they hold of points whose measurements and tags do not end in
backslashes. -/
theorem lines_unambiguous :
    (∀ (service : Service) (points : List Point),
      (∀ point ∈ points, (line service.settings.precision point).isOk → Unbroken point) →
        let lines := Batch.contentsOf (line service.settings.precision) points
        (∀ text ∈ lines, '\n' ∉ text.toList) ∧
          (lines ≠ [] → Text.splitAt '\n' (service.writeRequest lines).body = lines)) ∧
    ∀ (precision : Precision) (first second : Point) (text other : String),
      Apart first → Apart second → IntegersOnly first → IntegersOnly second →
        line precision first = .ok text → line precision second = .ok other →
          (text = other ↔ first.measurement = second.measurement ∧
            writtenTags first = writtenTags second ∧ first.fields = second.fields ∧
            precision.timestamp? first.timestamp = precision.timestamp? second.timestamp) := by
  constructor
  · intro service points unbroken lines
    have noLineFeed : ∀ text ∈ lines, '\n' ∉ text.toList := by
      intro text member
      obtain ⟨point, isPoint, accepted⟩ := exists_of_mem_contents member
      exact (unbroken point isPoint (by rw [accepted]; rfl)).noLineFeed accepted
    exact ⟨noLineFeed, fun nonempty => splitAt_writeRequest service nonempty noLineFeed⟩
  · intro precision first second text other apart otherApart integers otherIntegers accepted
      otherAccepted
    constructor
    · rintro rfl
      obtain ⟨names, timestamp, spelled⟩ := exists_spelled accepted
      obtain ⟨otherNames, otherTimestamp, otherSpelled⟩ := exists_spelled otherAccepted
      obtain ⟨measurement, tags, fields, stamp⟩ :=
        spelled.tells otherSpelled apart otherApart integers otherIntegers
      exact ⟨measurement, tags, fields, by rw [spelled.stamped, otherSpelled.stamped, stamp]⟩
    · rintro ⟨measurement, tags, fields, timestamp⟩
      exact line_congr accepted otherAccepted measurement tags fields timestamp

def epochPoint (measurement : String) (tags : List (String × String))
    (fields : List (String × FieldValue)) : Point :=
  ⟨measurement, .ofList fields, .ofList tags, ⟨0, 0, by decide⟩⟩

/-- A backslash inside of a tag and at the end of a field, next to a point that is left out for its
lack of fields. -/
theorem lines_unambiguous_disks :
    let data := epochPoint "disk, used" [("path", "C:\\data files")] [("free\\", .integer 7)]
    let bare := epochPoint "two\nlines" [] []
    let root := epochPoint "disk, used" [("path", "C:\\=root")] [("free\\", .integer 7)]
    let lines := Batch.contentsOf (line .seconds) [data, bare, root]
    (line .seconds data).isOk ∧ (line .seconds root).isOk ∧ lines.length = 2 ∧
      Text.splitAt '\n' (Service.writeRequest ⟨{}⟩ lines).body = lines ∧
      ∀ first second, line .seconds data = .ok first → line .seconds root = .ok second →
        first ≠ second := by
  intro data bare root lines
  refine ⟨by decide +kernel, by decide +kernel, by decide +kernel, ?_,
    fun first second accepted acceptedRoot same => ?_⟩
  · exact (lines_unambiguous.1 ⟨{}⟩ [data, bare, root] (by decide +kernel)).2 (by decide +kernel)
  · have told := (lines_unambiguous.2 .seconds data root first second (by decide +kernel)
      (by decide +kernel) (by decide +kernel) (by decide +kernel) accepted acceptedRoot).1 same
    exact absurd told.2.1 (by decide +kernel)

/-- A measurement with a line feed; and a measurement, a key of a tag and a value of one that end in
a backslash, each with a point from which its line does not tell it. -/
theorem lines_ambiguous :
    let one : List (String × FieldValue) := [("f", .integer 1)]
    line .seconds (epochPoint "a\nb" [] one) = .ok "a\nb f=1i 0" ∧
      (line .seconds (epochPoint "a\\" [("k", "v")] one) = .ok "a\\,k=v f=1i 0" ∧
        line .seconds (epochPoint "a,k=v" [] one) = .ok "a\\,k=v f=1i 0") ∧
      (line .seconds (epochPoint "m" [("k\\", "x=y")] one) = .ok "m,k\\=x\\=y f=1i 0" ∧
        line .seconds (epochPoint "m" [("k=x\\", "y")] one) = .ok "m,k\\=x\\=y f=1i 0") ∧
      line .seconds (epochPoint "m" [("a", "x\\")] [("f g", .integer 1)]) =
          .ok "m,a=x\\ f\\ g=1i 0" ∧
        line .seconds (epochPoint "m" [("a", "x f\\")] [("g", .integer 1)]) =
          .ok "m,a=x\\ f\\ g=1i 0" := by
  decide +kernel

end SeriesQuery.Influx
