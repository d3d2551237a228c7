import SeriesQuery.Proofs.Dictionaries
import SeriesQuery.Proofs.Json.Records

/-!
Records that others have written. An object may have its members in any order and more of them than
anyone asks for, and an array gives the parts by their places.
-/

set_option autoImplicit false

namespace SeriesQuery.Json

/-- The parts with the given names in a record: the members of an object that have such names, no
two of them the same one, or the items of an array in the order of the names. -/
inductive Tree.Gives (names : List String) : Tree → List (String × Tree) → Prop where
  | object {members : List (String × Tree)}
      (once : ((members.filter fun member => names.contains member.1).map (·.1)).Nodup) :
      Gives names (.object (members.map fun member => (some member.1, member.2)))
        (members.filter fun member => names.contains member.1)
  | array {items : List Tree} (short : items.length ≤ names.length) :
      Gives names (.array items) (names.zip items)

theorem gives_object {names : List String} {members : List (String × Value)}
    (once : ((members.filter fun member => names.contains member.1).map (·.1)).Nodup) :
    (Value.object members).tree.Gives names
      ((parts members).filter fun part => names.contains part.1) := by
  rw [Value.tree, memberTrees_eq]
  apply Tree.Gives.object
  rw [parts, List.filter_map, List.map_map]
  exact once

theorem Tree.Gives.members? {names : List String} {tree : Tree} {parts : List (String × Tree)}
    (gives : tree.Gives names parts) : ∃ named, tree.members? names = some ⟨named, parts⟩ := by
  cases gives with
  | object once => exact ⟨true, members?_named once⟩
  | array short => exact ⟨false, if_pos short⟩

theorem Tree.Gives.nodup {names : List String} (distinct : names.Nodup) {tree : Tree}
    {parts : List (String × Tree)} (gives : tree.Gives names parts) :
    (parts.map (·.1)).Nodup := by
  cases gives with
  | object once => exact once
  | array short =>
    rw [List.zip_eq_zip_take_min, min_eq_right short, List.map_fst_zip (by simp)]
    exact distinct.sublist (List.take_sublist _ _)

section
variable {α : Type} {parts : List (String × Tree)} {name : String} {read : Tree → Option α}
  {value : α}

def Given (parts : List (String × Tree)) (name : String) (read : Tree → Option α) (value : α) :
    Prop :=
  ∃ tree, (name, tree) ∈ parts ∧ read tree = some value

def GivenOr (absent : α) (parts : List (String × Tree)) (name : String) (read : Tree → Option α)
    (value : α) : Prop :=
  Given parts name read value ∨ name ∉ parts.map (·.1) ∧ value = absent

theorem required_of_mem (distinct : (parts.map (·.1)).Nodup) {tree : Tree}
    (member : (name, tree) ∈ parts) (named : Bool) (read : Tree → Option α) :
    (⟨named, parts⟩ : Members).required name read = read tree := by
  rw [Members.required, lookup_of_mem distinct member, Option.bind_some]

theorem defaulted_of_mem (distinct : (parts.map (·.1)).Nodup) {tree : Tree}
    (member : (name, tree) ∈ parts) (named : Bool) (absent : α) (read : Tree → Option α) :
    (⟨named, parts⟩ : Members).defaulted name absent read = read tree := by
  rw [Members.defaulted, lookup_of_mem distinct member]

theorem Given.required (distinct : (parts.map (·.1)).Nodup) (given : Given parts name read value)
    (named : Bool) : (⟨named, parts⟩ : Members).required name read = some value := by
  obtain ⟨tree, member, reads⟩ := given
  rw [required_of_mem distinct member, reads]

theorem GivenOr.defaulted (distinct : (parts.map (·.1)).Nodup) {absent : α}
    (given : GivenOr absent parts name read value) (named : Bool) :
    (⟨named, parts⟩ : Members).defaulted name absent read = some value := by
  rcases given with ⟨tree, member, reads⟩ | ⟨missing, rfl⟩
  · rw [defaulted_of_mem distinct member, reads]
  · have none : parts.lookup name = none := by
      refine List.lookup_eq_none_iff.2 fun part member => bne_iff_ne.2 fun same => missing ?_
      exact List.mem_map.2 ⟨part, member, same.symm⟩
    rw [Members.defaulted, none]

end

end SeriesQuery.Json
