import Mathlib.Data.List.Forall2
import SeriesQuery.Text.Quoted
import SeriesQuery.Proofs.Text.Unquoted

/-!
What is left of a script without the contents of its texts. Two scripts are alike when the same is
left of both, and neither ends within a text.
-/

set_option autoImplicit false

namespace SeriesQuery.Flux

/-- Where a reader of a script is. -/
inductive Place where
  | outside
  | inside
  /-- Behind a backslash within a text. -/
  | escaped
  deriving Repr, DecidableEq

def Place.next : Place → Char → Place
  | .outside, c => if c = '"' then .inside else .outside
  | .inside, c => if c = '"' then .outside else if c = '\\' then .escaped else .inside
  | .escaped, _ => .inside

def Place.keeps : Place → Char → Bool
  | .outside, _ => true
  | .inside, c => c == '"'
  | .escaped, _ => false

def placeAfter (place : Place) (text : List Char) : Place := text.foldl Place.next place

def eraseFrom (place : Place) : List Char → List Char
  | [] => []
  | c :: rest => (if place.keeps c then [c] else []) ++ eraseFrom (place.next c) rest

def erased (script : String) : String := String.ofList (eraseFrom .outside script.toList)

theorem placeAfter_append (place : Place) (first last : List Char) :
    placeAfter place (first ++ last) = placeAfter (placeAfter place first) last :=
  List.foldl_append

theorem eraseFrom_append (place : Place) (first last : List Char) :
    eraseFrom place (first ++ last) =
      eraseFrom place first ++ eraseFrom (placeAfter place first) last := by
  induction first generalizing place with
  | nil => rfl
  | cons c rest ih =>
    rw [List.cons_append, eraseFrom, ih, eraseFrom, List.append_assoc]
    rfl

/-- The reader stays within a text, of which nothing is left. -/
def Hidden (text : List Char) : Prop :=
  placeAfter .inside text = .inside ∧ eraseFrom .inside text = []

theorem hidden_flatMap {escape : Char → List Char} (each : ∀ c, Hidden (escape c))
    (content : List Char) : Hidden (content.flatMap escape) := by
  induction content with
  | nil => exact ⟨rfl, rfl⟩
  | cons c others ih =>
    rw [Hidden, List.flatMap_cons, placeAfter_append, eraseFrom_append, (each c).1, (each c).2]
    exact ih

theorem hidden_escapeQuote (c : Char) : Hidden (Text.escapeQuote c) := by
  by_cases special : c = '\\' ∨ c = '"'
  · simp [Hidden, Text.escapeQuote, special, placeAfter, eraseFrom, Place.next, Place.keeps]
  · obtain ⟨notSlash, notQuote⟩ := not_or.1 special
    simp [Hidden, Text.escapeQuote, notSlash, notQuote, placeAfter, eraseFrom, Place.next,
      Place.keeps]

theorem hidden_escapeQuoteAndLine (c : Char) : Hidden (Text.escapeQuoteAndLine c) := by
  unfold Text.escapeQuoteAndLine
  split
  · exact ⟨rfl, rfl⟩
  · exact hidden_escapeQuote c

/-! ## Texts that are alike -/

/-- The same is left of both texts, and neither ends within a text of its own. -/
structure Alike (first second : String) : Prop where
  ends : placeAfter .outside first.toList = .outside
  otherEnds : placeAfter .outside second.toList = .outside
  erased_eq : eraseFrom .outside first.toList = eraseFrom .outside second.toList

namespace Alike

theorem erased {first second : String} (alike : Alike first second) :
    erased first = erased second := by
  rw [Flux.erased, Flux.erased, alike.erased_eq]

theorem append {first second last other : String} (alike : Alike first second)
    (others : Alike last other) : Alike (first ++ last) (second ++ other) where
  ends := by rw [String.toList_append, placeAfter_append, alike.ends, others.ends]
  otherEnds := by rw [String.toList_append, placeAfter_append, alike.otherEnds, others.otherEnds]
  erased_eq := by
    rw [String.toList_append, String.toList_append, eraseFrom_append, eraseFrom_append, alike.ends,
      alike.otherEnds, alike.erased_eq, others.erased_eq]

theorem quotedBy {escape : Char → List Char} (each : ∀ c, Hidden (escape c))
    (first second : String) : Alike (Text.quotedBy escape first) (Text.quotedBy escape second) := by
  have scan (content : String) :
      placeAfter .outside (Text.quotedBy escape content).toList = .outside ∧
        eraseFrom .outside (Text.quotedBy escape content).toList = ['"', '"'] := by
    obtain ⟨place, left⟩ := hidden_flatMap each content.toList
    have opening : placeAfter .outside ['"'] = .inside := rfl
    rw [Text.toList_quotedBy, ← List.singleton_append, placeAfter_append, placeAfter_append,
      eraseFrom_append, eraseFrom_append, placeAfter_append, opening, place, left]
    exact ⟨rfl, rfl⟩
  exact ⟨(scan first).1, (scan second).1, (scan first).2.trans (scan second).2.symm⟩

theorem quoted (first second : String) : Alike (Text.quoted first) (Text.quoted second) :=
  quotedBy hidden_escapeQuote first second

theorem quotedLine (first second : String) :
    Alike (Text.quotedLine first) (Text.quotedLine second) :=
  quotedBy hidden_escapeQuoteAndLine first second

theorem of_ends {text : String} (ends : placeAfter .outside text.toList = .outside) :
    Alike text text :=
  ⟨ends, ends, rfl⟩

theorem of_noQuote {text : String} (noQuote : '"' ∉ text.toList) : Alike text text := by
  have outside : ∀ characters : List Char, '"' ∉ characters →
      placeAfter .outside characters = .outside := by
    intro characters
    induction characters with
    | nil => exact fun _ => rfl
    | cons c rest ih =>
      intro absent
      obtain ⟨other, absent⟩ := List.ne_and_not_mem_of_not_mem_cons absent
      have next : Place.next .outside c = .outside := if_neg (Ne.symm other)
      have after := ih absent
      rw [placeAfter, List.foldl_cons, next]
      exact after
  exact of_ends (outside text.toList noQuote)

theorem of_unquoted {text : String} (unquoted : Unquoted text) : Alike text text :=
  of_noQuote fun quote => (unquoted _ quote).1 rfl

theorem call {name first second : String} (unquoted : Unquoted name) (inner : Alike first second) :
    Alike (name ++ first ++ ")") (name ++ second ++ ")") :=
  ((of_unquoted unquoted).append inner).append (of_unquoted (by decide))

theorem intercalate {α : Type} {glue : String} (between : Alike glue glue) {text : α → String}
    {items others : List α} (each : List.Forall₂ (fun a b => Alike (text a) (text b)) items others) :
    Alike (glue.intercalate (items.map text)) (glue.intercalate (others.map text)) := by
  induction each with
  | nil => exact of_ends rfl
  | cons first rest ih =>
    cases rest with
    | nil => simpa using first
    | cons second more =>
      simp only [List.map_cons, String.intercalate_cons_cons]
      exact (first.append between).append ih

theorem join {α : Type} {text : α → String} {items others : List α}
    (each : List.Forall₂ (fun a b => Alike (text a) (text b)) items others) :
    Alike (String.join (items.map text)) (String.join (others.map text)) := by
  induction each with
  | nil => exact of_ends rfl
  | cons first _ ih =>
    rw [List.map_cons, List.map_cons, String.join_cons, String.join_cons]
    exact first.append ih

end Alike

end SeriesQuery.Flux
