import SeriesQuery.Proofs.Flux.Erasure
import SeriesQuery.Proofs.Graphite.Selections

/-!
The calls in a target, read from its parentheses and commas outside of texts. Each function puts the
same signs around two targets, so what has the same calls inside has the same calls as a whole.
-/

set_option autoImplicit false

namespace SeriesQuery.Graphite

open Flux (placeAfter eraseFrom)

/-! ## Signs -/

/-- What calls and their arguments are read from. -/
inductive Sign where
  | opening (function : String)
  | comma
  | closing
  deriving Repr, DecidableEq

def isSign (c : Char) : Bool := c == '(' || c == ',' || c == ')'

/-- The signs of a text, which starts with the last part of a name. -/
def signsFrom (name : List Char) : List Char → List Sign
  | [] => []
  | c :: rest =>
    if c = '(' then .opening (String.ofList name) :: signsFrom [] rest
    else if c = ',' then .comma :: signsFrom [] rest
    else if c = ')' then .closing :: signsFrom [] rest
    else signsFrom (name ++ [c]) rest

/-- The calls of a target, nested as they are and with all their arguments: its parentheses and
commas outside of texts. -/
def outline (target : String) : List Sign := signsFrom [] (Flux.erased target).toList

def nameAfter (name text : List Char) : List Char :=
  text.foldl (fun name c => if isSign c then [] else name ++ [c]) name

theorem signsFrom_append (name first last : List Char) :
    signsFrom name (first ++ last) =
      signsFrom name first ++ signsFrom (nameAfter name first) last := by
  induction first generalizing name with
  | nil => rfl
  | cons c rest ih =>
    have after : nameAfter name (c :: rest) =
        nameAfter (if isSign c then [] else name ++ [c]) rest := rfl
    rw [after, List.cons_append, signsFrom, signsFrom]
    split
    · next opening => subst opening; rw [ih]; rfl
    · split
      · next comma => subst comma; rw [ih]; rfl
      · split
        · next closing => subst closing; rw [ih]; rfl
        · next noOpening noComma noClosing =>
          rw [ih, if_neg (by simp [isSign, noOpening, noComma, noClosing])]

/-- Commas and closing parentheses, for texts that open nothing. -/
def marks (text : List Char) : List Sign :=
  text.flatMap fun c => if c = ',' then [.comma] else if c = ')' then [.closing] else []

theorem marks_append (first last : List Char) : marks (first ++ last) = marks first ++ marks last :=
  List.flatMap_append

theorem signsFrom_of_uncalled {text : List Char} (uncalled : '(' ∉ text) (name : List Char) :
    signsFrom name text = marks text := by
  induction text generalizing name with
  | nil => rfl
  | cons c rest ih =>
    obtain ⟨other, uncalled⟩ := not_or.1 (mt List.mem_cons.2 uncalled)
    rw [signsFrom, if_neg (Ne.symm other), marks, List.flatMap_cons]
    split
    · exact congrArg (_ :: ·) (ih uncalled [])
    · split
      · exact congrArg (_ :: ·) (ih uncalled [])
      · exact ih uncalled _

theorem signsFrom_eq_nil_iff {name text : List Char} :
    signsFrom name text = [] ↔ ∀ c ∈ text, isSign c = false := by
  induction text generalizing name with
  | nil => exact iff_of_true rfl (List.forall_mem_nil _)
  | cons c rest ih =>
    rw [signsFrom, List.forall_mem_cons, isSign]
    split
    · next opening => exact iff_of_false (List.cons_ne_nil _ _) (by simp [opening])
    · split
      · next comma => exact iff_of_false (List.cons_ne_nil _ _) (by simp [comma])
      · split
        · next closing => exact iff_of_false (List.cons_ne_nil _ _) (by simp [closing])
        · next noOpening noComma noClosing => rw [ih]; simp [noOpening, noComma, noClosing]

theorem nameAfter_of_noSign {text : List Char} (noSign : ∀ c ∈ text, isSign c = false) :
    nameAfter [] text = text := by
  have grown (name : List Char) : nameAfter name text = name ++ text := by
    induction text generalizing name with
    | nil => exact (List.append_nil name).symm
    | cons c rest ih =>
      obtain ⟨other, noSign⟩ := List.forall_mem_cons.1 noSign
      rw [nameAfter, List.foldl_cons, other]
      exact (ih noSign _).trans (List.append_cons name c rest).symm
  exact grown []

def Plain (text : String) : Prop := ∀ c ∈ text.toList, c ≠ '"' ∧ isSign c = false

instance (text : String) : Decidable (Plain text) :=
  inferInstanceAs (Decidable (∀ c ∈ text.toList, c ≠ '"' ∧ isSign c = false))

/-! ## Texts with signs -/

structure Spells (text : List Char) (signs : List Sign) : Prop where
  ends : placeAfter .outside text = .outside
  read : signsFrom [] (eraseFrom .outside text) = signs

theorem Spells.outline {text : String} {signs : List Sign} (spells : Spells text.toList signs) :
    outline text = signs := by
  rw [Graphite.outline, Flux.erased, String.toList_ofList, spells.read]

theorem outside_of_noQuote {text : List Char} (noQuote : '"' ∉ text) :
    placeAfter .outside text = .outside ∧ eraseFrom .outside text = text := by
  induction text with
  | nil => exact ⟨rfl, rfl⟩
  | cons c rest ih =>
    obtain ⟨other, noQuote⟩ := not_or.1 (mt List.mem_cons.2 noQuote)
    have next : Flux.Place.next .outside c = .outside := if_neg (Ne.symm other)
    obtain ⟨ends, erased⟩ := ih noQuote
    refine ⟨?_, ?_⟩
    · rw [placeAfter, List.foldl_cons, next]
      exact ends
    · rw [eraseFrom, next, erased]
      rfl

section

variable {first last text : List Char} {signs others : List Sign}

theorem Spells.comma (before : Spells first signs) (after : Spells last others) :
    Spells (first ++ ',' :: last) (signs ++ .comma :: others) where
  ends := by
    rw [Flux.placeAfter_append, before.ends]
    exact after.ends
  read := by
    rw [Flux.eraseFrom_append, before.ends, signsFrom_append, before.read]
    exact congrArg (signs ++ .comma :: ·) after.read

theorem Spells.call {function : List Char} (noQuote : '"' ∉ function)
    (noSign : ∀ c ∈ function, isSign c = false) (inner : Spells text signs) :
    Spells (function ++ '(' :: (text ++ [')']))
      (.opening (String.ofList function) :: (signs ++ [.closing])) := by
  obtain ⟨ends, erased⟩ := outside_of_noQuote noQuote
  constructor
  · rw [Flux.placeAfter_append, ends]
    change placeAfter .outside (text ++ [')']) = .outside
    rw [Flux.placeAfter_append, inner.ends]
    rfl
  · have opened (rest : List Char) : signsFrom function ('(' :: rest) =
        .opening (String.ofList function) :: signsFrom [] rest := rfl
    have left : eraseFrom .outside ('(' :: (text ++ [')'])) =
        '(' :: (eraseFrom .outside text ++ [')']) := by
      change '(' :: eraseFrom .outside (text ++ [')']) = _
      rw [Flux.eraseFrom_append, inner.ends]
      rfl
    rw [Flux.eraseFrom_append, ends, erased, left, signsFrom_append,
      signsFrom_eq_nil_iff.2 noSign, nameAfter_of_noSign noSign, opened, signsFrom_append,
      inner.read]
    rfl

end

/-! ## Texts with the same calls -/

/-- The same signs are read from both texts. -/
def SameCalls (first second : String) : Prop :=
  ∃ signs, Spells first.toList signs ∧ Spells second.toList signs

namespace SameCalls

theorem outline {first second : String} (same : SameCalls first second) :
    outline first = outline second := by
  obtain ⟨signs, left, right⟩ := same
  rw [left.outline, right.outline]

theorem comma {first second last other : String} (before : SameCalls first second)
    (after : SameCalls last other) : SameCalls (first ++ "," ++ last) (second ++ "," ++ other) := by
  obtain ⟨signs, left, right⟩ := before
  obtain ⟨others, leftAfter, rightAfter⟩ := after
  have written (before after : String) :
      (before ++ "," ++ after).toList = before.toList ++ ',' :: after.toList := by simp
  exact ⟨_, written first last ▸ left.comma leftAfter,
    written second other ▸ right.comma rightAfter⟩

theorem call {function first second : String} (plain : Plain function)
    (inner : SameCalls first second) :
    SameCalls (function ++ "(" ++ first ++ ")") (function ++ "(" ++ second ++ ")") := by
  obtain ⟨signs, left, right⟩ := inner
  have written (inner : String) : (function ++ "(" ++ inner ++ ")").toList =
      function.toList ++ '(' :: (inner.toList ++ [')']) := by simp
  have noQuote : '"' ∉ function.toList := fun member => (plain _ member).1 rfl
  have noSign : ∀ c ∈ function.toList, isSign c = false := fun c member => (plain c member).2
  exact ⟨_, written first ▸ left.call noQuote noSign, written second ▸ right.call noQuote noSign⟩

theorem intercalate {texts others : List String} (each : List.Forall₂ SameCalls texts others) :
    SameCalls (",".intercalate texts) (",".intercalate others) := by
  induction each with
  | nil => exact ⟨[], ⟨rfl, rfl⟩, ⟨rfl, rfl⟩⟩
  | cons first rest ih =>
    cases rest with
    | nil => simpa using first
    | cons second more =>
      rw [String.intercalate_cons_cons, String.intercalate_cons_cons]
      exact first.comma ih

theorem extras {first second : String} (inner : SameCalls first second) {extras : List Extra}
    (each : ∀ extra ∈ extras, SameCalls extra.text extra.text) :
    SameCalls (first ++ String.join (extras.map fun extra => "," ++ extra.text))
      (second ++ String.join (extras.map fun extra => "," ++ extra.text)) := by
  induction extras generalizing first second with
  | nil => simpa using inner
  | cons extra rest ih =>
    obtain ⟨whole, each⟩ := List.forall_mem_cons.1 each
    rw [List.map_cons, String.join_cons, ← String.append_assoc, ← String.append_assoc,
      ← String.append_assoc, ← String.append_assoc]
    exact ih (inner.comma whole) each

theorem of_plain {text : String} (plain : Plain text) : SameCalls text text := by
  obtain ⟨ends, erased⟩ := outside_of_noQuote fun quote => (plain _ quote).1 rfl
  have spells : Spells text.toList [] :=
    ⟨ends, erased.symm ▸ signsFrom_eq_nil_iff.2 fun c member => (plain c member).2⟩
  exact ⟨[], spells, spells⟩

theorem quoted (text : String) : SameCalls (Text.quoted text) (Text.quoted text) := by
  have alike := Flux.Alike.quoted text ""
  have read : signsFrom [] (eraseFrom .outside (Text.quoted text).toList) = [] := by
    rw [alike.erased_eq]
    decide +kernel
  exact ⟨[], ⟨alike.ends, read⟩, ⟨alike.ends, read⟩⟩

end SameCalls

/-! ## Numbers -/

theorem plain_of_isNumeral {text : String}
    (numerals : ∀ c ∈ text.toList, Decimal.isNumeral c = true) : Plain text := by
  intro c member
  have numeral := numerals c member
  have other (d : Char) (notNumeral : Decimal.isNumeral d = false) : c ≠ d := by
    rintro rfl
    rw [numeral] at notNumeral
    cases notNumeral
  refine ⟨other '"' rfl, ?_⟩
  simp [isSign, other '(' rfl, other ',' rfl, other ')' rfl]

theorem plain_toString_nat (value : Nat) : Plain (toString value) :=
  plain_of_isNumeral (Decimal.numeric_toString_nat value).numerals

theorem plain_plain (value : Float) : Plain (Decimal.plain value) := by
  cases finite : Decimal.isFinite value with
  | true => exact plain_of_isNumeral (Decimal.numeric_plain finite).numerals
  | false =>
    unfold Decimal.isFinite at finite
    unfold Decimal.plain Decimal.FloatStyle.write
    split
    · decide
    · split
      · decide
      · decide
    · next same => rw [same] at finite; cases finite

/-! ## Functions -/

theorem sameCalls_call {function : String} (plain : Plain function) {first second : Target}
    (inner : SameCalls first.text second.text) {extras : List Extra}
    (each : ∀ extra ∈ extras, SameCalls extra.text extra.text) :
    SameCalls (Target.call function first extras).text
      (Target.call function second extras).text := by
  have written (target : Target) : (Target.call function target extras).text =
      function ++ "(" ++ (target.text ++ String.join (extras.map fun extra => "," ++ extra.text)) ++
        ")" := by
    simp [Target.text, String.append_assoc]
  rw [written, written]
  exact .call plain (inner.extras each)

theorem sameCalls_group {targets others : List Target}
    (each : List.Forall₂ (fun first second => SameCalls first.text second.text) targets others) :
    SameCalls (Target.group targets).text (Target.group others).text := by
  have opened : "group(" = "group" ++ "(" := rfl
  have plain : Plain "group" := by decide
  rw [Target.text, Target.text, texts_eq_map, texts_eq_map, opened]
  refine SameCalls.call plain (.intercalate ?_)
  rwa [List.forall₂_map_left_iff, List.forall₂_map_right_iff]

theorem sameCalls_groupOf {targets others : List Target}
    (each : List.Forall₂ (fun first second => SameCalls first.text second.text) targets others) :
    SameCalls (groupOf targets).text (groupOf others).text := by
  cases each with
  | nil => exact sameCalls_group .nil
  | cons first rest =>
    cases rest with
    | nil => exact first
    | cons second more => exact sameCalls_group (.cons first (.cons second more))

theorem sameCalls_filtered {conditions others : List Condition}
    (wrapping : others.filterMap wrapping? = conditions.filterMap wrapping?) {first second : Target}
    (inner : SameCalls first.text second.text) :
    SameCalls (filtered conditions first).text (filtered others second).text := by
  have plain : ∀ wrapping ∈ conditions.filterMap wrapping?, Plain wrapping.1 := by
    intro wrapping member
    obtain ⟨condition, -, wraps⟩ := List.mem_filterMap.1 member
    rcases function_of_wrapping? wraps with same | same
    · rw [same]
      decide
    · rw [same]
      decide
  unfold filtered
  rw [wrapping]
  generalize conditions.filterMap wrapping? = wrappings at plain
  induction wrappings generalizing first second with
  | nil => exact inner
  | cons wrapping rest ih =>
    obtain ⟨plainFirst, plain⟩ := List.forall_mem_cons.1 plain
    exact ih (sameCalls_call plainFirst inner (List.forall_mem_singleton.2 (.quoted _))) plain

theorem sameCalls_combined {first second : Target} (inner : SameCalls first.text second.text)
    (function : AggregateFunction) :
    SameCalls (combined first function).text (combined second function).text := by
  have none : ∀ extra ∈ ([] : List Extra), SameCalls extra.text extra.text := List.forall_mem_nil _
  have quoted (text : String) : ∀ extra ∈ [Extra.quoted text], SameCalls extra.text extra.text :=
    List.forall_mem_singleton.2 (.quoted text)
  cases function with
  | percentile percent =>
    exact sameCalls_call (by decide) inner
      (List.forall_mem_singleton.2 (.of_plain (plain_toString_nat _)))
  | median | first | last => exact sameCalls_call (by decide) inner (quoted _)
  | _ => exact sameCalls_call (by decide) inner none

theorem sameCalls_aggregated {first second made otherMade : Target}
    (inner : SameCalls first.text second.text) {function : AggregateFunction}
    {interval? : Option Duration} (makes : aggregated first function interval? = .ok made)
    (otherMakes : aggregated second function interval? = .ok otherMade) :
    SameCalls made.text otherMade.text := by
  unfold aggregated at makes otherMakes
  cases interval? with
  | none =>
    cases makes
    cases otherMakes
    exact sameCalls_combined inner function
  | some interval =>
    cases summary : summaryName? function with
    | error percent =>
      simp only [summary] at makes
      cases makes
    | ok name =>
      simp only [summary] at makes otherMakes
      cases makes
      cases otherMakes
      exact sameCalls_call (by decide) inner
        (List.forall_mem_cons.2 ⟨.quoted _, List.forall_mem_singleton.2 (.quoted _)⟩)

theorem sameCalls_named {first second : Target} (inner : SameCalls first.text second.text)
    (name : String) : SameCalls (named first name).text (named second name).text :=
  sameCalls_call (by decide) inner (List.forall_mem_singleton.2 (.quoted name))

theorem sameCalls_filled {first second : Target} (inner : SameCalls first.text second.text)
    (fill? : Option FillPolicy) :
    SameCalls (filled first fill?).text (filled second fill?).text := by
  unfold filled
  split
  · exact sameCalls_call (by decide) inner
      (List.forall_mem_singleton.2 (.of_plain (plain_plain _)))
  · exact sameCalls_call (by decide) inner (List.forall_mem_nil _)
  · exact sameCalls_call (by decide) inner (List.forall_mem_nil _)
  · exact inner

theorem sameCalls_withHaving {query : Query} {having : Having}
    {first second made otherMade : Target} (inner : SameCalls first.text second.text)
    (makes : withHaving query first having = .ok made)
    (otherMakes : withHaving query second having = .ok otherMade) :
    SameCalls made.text otherMade.text := by
  have limit (threshold : Float) : ∀ extra ∈ [Extra.plain (Decimal.plain threshold)],
      SameCalls extra.text extra.text :=
    List.forall_mem_singleton.2 (.of_plain (plain_plain threshold))
  unfold withHaving at makes otherMakes
  cases value : having.value with
  | integer value | float value =>
    rw [value] at makes otherMakes
    cases operator : having.operator with
    | greater | greaterOrEqual | less | lessOrEqual =>
      rw [operator] at makes otherMakes
      cases makes
      cases otherMakes
      exact sameCalls_call (by decide) inner (limit _)
    | _ =>
      rw [operator] at makes otherMakes
      cases makes
      cases otherMakes
      exact inner
  | _ =>
    rw [value] at makes
    cases makes

end SeriesQuery.Graphite
