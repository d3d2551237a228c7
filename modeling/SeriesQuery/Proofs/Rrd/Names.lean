import Mathlib.Data.List.Infix
import SeriesQuery.Proofs.Dictionaries
import SeriesQuery.Proofs.Files.Places
import SeriesQuery.Proofs.Text.Escapes
import SeriesQuery.Rrd.Layout

/-!
The names in the path of a series. A tag is written as a pair around an equals sign, and a flat file
joins its pairs with double underscores. Nothing is escaped, so that a name must not look like a
joint of its layout.
-/

set_option autoImplicit false

namespace SeriesQuery.Rrd

/-- Text that a component of a path holds as it is. -/
def Carried (text : String) : Prop := ∀ c ∈ text.toList, c ≠ '/' ∧ c ≠ '\\' ∧ c ≠ '\x00'

instance (text : String) : Decidable (Carried text) :=
  inferInstanceAs (Decidable (∀ c ∈ text.toList, c ≠ '/' ∧ c ≠ '\\' ∧ c ≠ '\x00'))

def joint : List Char := ['_', '_']

structure Clear (text : List Char) : Prop where
  noJoint : ¬ joint <:+: text
  noTail : text.getLast? ≠ some '_'

instance (text : List Char) : Decidable (Clear text) :=
  decidable_of_iff (¬ joint <:+: text ∧ text.getLast? ≠ some '_')
    ⟨fun ⟨noJoint, noTail⟩ => ⟨noJoint, noTail⟩, fun clear => ⟨clear.noJoint, clear.noTail⟩⟩

/-! ## Components -/

theorem component_eq {text : String} (carried : Carried text) : component text = text := by
  apply String.toList_inj.1
  rw [component, String.toList_map]
  refine (List.map_congr_left fun c member => ?_).trans (List.map_id _)
  have ⟨noSlash, noBackslash, noNull⟩ := carried c member
  rw [if_neg (by simp [noSlash, noBackslash, noNull]), id]

theorem carried_component (text : String) : Carried (component text) := by
  intro c member
  rw [component, String.toList_map] at member
  obtain ⟨d, -, rfl⟩ := List.mem_map.1 member
  split
  · decide
  · next other =>
    simp only [not_or] at other
    exact other

theorem Carried.append {first last : String} (left : Carried first) (right : Carried last) :
    Carried (first ++ last) := by
  intro c member
  rw [String.toList_append, List.mem_append] at member
  exact member.elim (left c) (right c)

theorem Carried.isName {text : String} (carried : Carried text) (nonempty : text ≠ "") :
    Files.IsName text where
  nonempty := nonempty
  noSlash member := (carried '/' member).1 rfl
  noNull member := (carried '\x00' member).2.2 rfl

theorem component_ne_empty {text : String} (nonempty : text ≠ "") : component text ≠ "" := by
  intro empty
  have none := congrArg String.toList empty
  rw [component, String.toList_map] at none
  exact nonempty (String.toList_inj.1 (List.map_eq_nil_iff.1 none))

theorem carried_fileName {stem : String} (carried : Carried stem) : Carried (fileName stem) :=
  carried.append (by decide)

theorem carried_pairText (key value : String) : Carried (pairText key value) :=
  ((carried_component key).append (by decide)).append (carried_component value)

/-- A component that ends with the letter of the extension is no way to another directory. -/
theorem isOwnName_fileName {stem : String} (carried : Carried stem) :
    Files.IsOwnName (fileName stem) := by
  have last : (fileName stem).toList.getLast? = some 'd' := by
    rw [fileName, String.toList_append, List.getLast?_append_of_ne_nil _ (by decide)]
    rfl
  have other (text : String) (ends : text.toList.getLast? ≠ some 'd') : fileName stem ≠ text :=
    fun same => ends (same ▸ last)
  have isName := (carried_fileName carried).isName (other "" (by decide))
  exact { isName with notHere := other "." (by decide), notAbove := other ".." (by decide) }

theorem isOwnName_pairText (key value : String) : Files.IsOwnName (pairText key value) := by
  have sign : '=' ∈ (pairText key value).toList := by simp [pairText]
  have other (text : String) (none : '=' ∉ text.toList) : pairText key value ≠ text :=
    fun same => none (same ▸ sign)
  have isName := (carried_pairText key value).isName (other "" (by decide))
  exact { isName with notHere := other "." (by decide), notAbove := other ".." (by decide) }

/-! ## Pairs -/

theorem toList_pairText {key value : String} (carried : Carried key ∧ Carried value) :
    (pairText key value).toList = key.toList ++ '=' :: value.toList := by
  rw [pairText, component_eq carried.1, component_eq carried.2]
  simp

theorem readPair?_pairText {key value : String} (carried : Carried key ∧ Carried value)
    (noSign : '=' ∉ key.toList) : readPair? (pairText key value).toList = some (key, value) := by
  rw [readPair?, toList_pairText carried, Text.splitFirst?_append noSign]
  simp

/-- The tags of a series as its path writes them. -/
def pairTexts (tags : Tags) : List String :=
  tags.entries.map fun (key, value) => pairText key value

def Legible (tags : Tags) : Prop :=
  ∀ entry ∈ tags.entries, (Carried entry.1 ∧ Carried entry.2) ∧ '=' ∉ entry.1.toList

instance (tags : Tags) : Decidable (Legible tags) :=
  inferInstanceAs (Decidable (∀ entry ∈ tags.entries,
    (Carried entry.1 ∧ Carried entry.2) ∧ '=' ∉ entry.1.toList))

theorem Legible.filterMap_readPair? {tags : Tags} (legible : Legible tags) :
    (pairTexts tags).filterMap (fun pair => readPair? pair.toList) = tags.entries := by
  rw [pairTexts, List.filterMap_map]
  refine (List.filterMap_congr fun entry member => ?_).trans List.filterMap_some
  have ⟨carried, noSign⟩ := legible entry member
  exact readPair?_pairText carried noSign

theorem Legible.eq_of_pairTexts {first second : Tags} (legible : Legible first)
    (other : Legible second) (same : pairTexts first = pairTexts second) : first = second := by
  apply Dictionary.eq_of_entries
  rw [← legible.filterMap_readPair?, ← other.filterMap_readPair?, same]

/-! ## Stems -/

/-- The name of a flat file, without its extension. -/
def stemText (measurement : String) (tags : Tags) : String :=
  "__".intercalate (component measurement :: pairTexts tags)

theorem toList_intercalate_joint (first : String) (others : List String) :
    ("__".intercalate (first :: others)).toList =
      first.toList ++ others.flatMap fun other => joint ++ other.toList :=
  toList_intercalate_cons "__" first others

theorem joint_infix_pair {key value : List Char} (inside : joint <:+: key ++ '=' :: value) :
    joint <:+: key ∨ joint <:+: value := by
  obtain ⟨before, after, same⟩ := inside
  rw [List.append_assoc] at same
  -- The joint starts in the key or at the sign or later; one that reaches the sign would hold it.
  rcases List.append_eq_append_iff.1 same with ⟨more, split, rest⟩ | ⟨more, split, rest⟩
  · rw [split]
    match more with
    | [] => exact absurd (List.cons.inj rest).1 (by decide)
    | [_] => exact absurd (List.cons.inj (List.cons.inj rest).2).1 (by decide)
    | c :: d :: others =>
      obtain ⟨rfl, tail⟩ := List.cons.inj rest
      obtain ⟨rfl, -⟩ := List.cons.inj tail
      exact .inl ⟨before, others, List.append_assoc _ _ _⟩
  · match more with
    | [] => exact absurd (List.cons.inj rest).1 (by decide)
    | _ :: others =>
      rw [(List.cons.inj rest).2]
      exact .inr (List.infix_append' others joint after)

theorem Clear.tail {c : Char} {rest : List Char} (clear : Clear (c :: rest)) : Clear rest where
  noJoint inside := clear.noJoint (inside.trans (List.suffix_cons c rest).isInfix)
  noTail last := clear.noTail (by
    cases rest with
    | nil => cases last
    | cons d others => exact last)

theorem splitStem_ne_nil (text : List Char) : splitStem text ≠ [] := by
  fun_induction splitStem text <;> simp_all

theorem splitStem_cons {c : Char} {rest : List Char} (apart : c = '_' → rest.head? ≠ some '_') :
    splitStem (c :: rest) = (splitStem rest).modifyHead (c :: ·) := by
  rw [splitStem.eq_def]
  split
  · next same => cases same
  · next same =>
    cases same
    exact absurd rfl (apart rfl)
  · next same =>
    cases same
    split
    · next none => exact absurd none (splitStem_ne_nil rest)
    · next part parts found => rw [found, List.modifyHead_cons]

theorem splitStem_append {text : List Char} (clear : Clear text) (rest : List Char) :
    splitStem (text ++ (joint ++ rest)) = text :: splitStem rest := by
  induction text with
  | nil => rfl
  | cons c others ih =>
    rw [List.cons_append, splitStem_cons, ih clear.tail, List.modifyHead_cons]
    -- An underscore is followed by no other: not inside the text, and it does not end the text.
    rintro rfl next
    cases others with
    | nil => exact clear.noTail rfl
    | cons d more =>
      obtain rfl : d = '_' := Option.some.inj next
      exact clear.noJoint ⟨[], more, rfl⟩

theorem splitStem_eq {text : List Char} (noJoint : ¬ joint <:+: text) :
    splitStem text = [text] := by
  induction text with
  | nil => rfl
  | cons c others ih =>
    have fewer : ¬ joint <:+: others :=
      fun inside => noJoint (inside.trans (List.suffix_cons c others).isInfix)
    rw [splitStem_cons, ih fewer, List.modifyHead_cons]
    rintro rfl next
    cases others with
    | nil => cases next
    | cons d more =>
      obtain rfl : d = '_' := Option.some.inj next
      exact noJoint ⟨[], more, rfl⟩

/-! ## Series -/

/-- The names of a series, none of which looks like a joint of the layout. -/
structure Separable (layout : Layout) (measurement : String) (tags : Tags) : Prop where
  nonempty : measurement ≠ ""
  carried : Carried measurement
  legible : Legible tags
  clear : layout = .flat →
    Clear measurement.toList ∧ ∀ entry ∈ tags.entries, Clear entry.2.toList

namespace Layout

theorem components_folder (measurement : String) (tags : Tags) :
    Layout.folder.components measurement tags =
      component measurement :: (pairTexts tags ++ [fileName (component measurement)]) := rfl

end Layout

theorem carried_stemText (measurement : String) (tags : Tags) :
    Carried (stemText measurement tags) := by
  intro c member
  rw [stemText, toList_intercalate_joint, List.mem_append, List.mem_flatMap] at member
  rcases member with member | ⟨pair, known, member⟩
  · exact carried_component measurement c member
  · obtain ⟨entry, -, rfl⟩ := List.mem_map.1 known
    rcases List.mem_append.1 member with member | member
    · exact (by decide : ∀ c ∈ joint, c ≠ '/' ∧ c ≠ '\\' ∧ c ≠ '\x00') c member
    · exact carried_pairText entry.1 entry.2 c member

end SeriesQuery.Rrd
