import Mathlib.Data.List.Forall2
import Mathlib.Data.List.SplitBy
import Mathlib.Data.List.TakeWhile
import SeriesQuery.Query.Condition

/-!
Groups of conditions are the stretches of a sequence of conditions that each AND cuts.
-/

set_option autoImplicit false

namespace SeriesQuery

def Condition.isAlternative (condition : Condition) : Bool := condition.connective == .or

theorem conditionGroups_eq_splitBy (conditions : List Condition) :
    conditionGroups conditions = conditions.splitBy fun _ next => next.isAlternative := by
  fun_induction conditionGroups conditions with
  | case1 => rfl
  | case2 condition rest alternatives ih =>
    have parts : alternatives ++ rest.drop alternatives.length = rest :=
      List.prefix_iff_eq_append.1 (List.takeWhile_prefix _)
    have dropped : rest.drop alternatives.length = rest.dropWhile Condition.isAlternative := by
      exact List.append_cancel_left (parts.trans List.takeWhile_append_dropWhile.symm)
    have joined : ∀ other ∈ alternatives, other.isAlternative = true :=
      fun other member => List.mem_takeWhile_imp member
    -- A group is a run of alternatives behind its first condition, and what follows it is none.
    have chain : (condition :: alternatives).IsChain fun _ next => next.isAlternative = true := by
      apply List.Pairwise.isChain
      rw [List.pairwise_cons]
      exact ⟨joined, List.pairwise_of_forall_mem_list fun _ _ other member => joined other member⟩
    have apart : ∀ last ∈ (condition :: alternatives).getLast?,
        ∀ next ∈ (rest.drop alternatives.length).head?, next.isAlternative = false := by
      intro last _ next found
      have ends := List.head?_dropWhile_not Condition.isAlternative rest
      rw [dropped] at found
      rwa [Option.mem_def.1 found] at ends
    rw [ih]
    calc (condition :: alternatives) :: (rest.drop alternatives.length).splitBy _
      _ = (condition :: alternatives).splitBy (fun _ next => next.isAlternative) ++
          (rest.drop alternatives.length).splitBy _ := by
        rw [List.splitBy_of_isChain (List.cons_ne_nil _ _) chain]
        rfl
      _ = (condition :: alternatives ++ rest.drop alternatives.length).splitBy _ :=
        (List.splitBy_append apart).symm
      _ = (condition :: rest).splitBy _ := by rw [List.cons_append, parts]

theorem flatten_conditionGroups (conditions : List Condition) :
    (conditionGroups conditions).flatten = conditions := by
  rw [conditionGroups_eq_splitBy, List.flatten_splitBy]

theorem mem_of_mem_conditionGroups {conditions group : List Condition} {condition : Condition}
    (known : group ∈ conditionGroups conditions) (member : condition ∈ group) :
    condition ∈ conditions := by
  rw [← flatten_conditionGroups conditions]
  exact List.mem_flatten_of_mem known member

theorem ne_nil_of_mem_conditionGroups {conditions group : List Condition}
    (member : group ∈ conditionGroups conditions) : group ≠ [] := by
  rw [conditionGroups_eq_splitBy] at member
  exact List.ne_nil_of_mem_splitBy member

/-! ## Related sequences -/

theorem forall₂_takeWhile {α : Type} {R : α → α → Prop} {p : α → Bool}
    (same : ∀ a b, R a b → p a = p b) {first second : List α} (each : List.Forall₂ R first second) :
    List.Forall₂ R (first.takeWhile p) (second.takeWhile p) := by
  induction each with
  | nil => exact .nil
  | @cons a b _ _ related _ ih =>
    rw [List.takeWhile_cons, List.takeWhile_cons, same a b related]
    split
    · exact .cons related ih
    · exact .nil

theorem forall₂_conditionGroups {R : Condition → Condition → Prop}
    (joined : ∀ a b, R a b → a.connective = b.connective) {first second : List Condition}
    (each : List.Forall₂ R first second) :
    List.Forall₂ (List.Forall₂ R) (conditionGroups first) (conditionGroups second) := by
  induction first using conditionGroups.induct generalizing second with
  | case1 =>
    cases each
    rw [conditionGroups]
    exact .nil
  | case2 condition rest alternatives =>
    rename_i ih
    cases each with
    | @cons _ other _ others related each =>
      have inGroup : List.Forall₂ R alternatives (others.takeWhile (·.connective == .or)) :=
        forall₂_takeWhile (fun a b related => by rw [joined a b related]) each
      rw [conditionGroups, conditionGroups, ← inGroup.length_eq]
      exact .cons (.cons related inGroup) (ih (List.forall₂_drop _ each))

end SeriesQuery
