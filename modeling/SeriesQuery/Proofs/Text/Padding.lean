import SeriesQuery.Proofs.Text.Stretches
import SeriesQuery.Text.Blank

/-!
Texts with white space around them. Trimming takes it away, and nothing else.
-/

set_option autoImplicit false

namespace SeriesQuery.Text

def Padded (text whole : List Char) : Prop :=
  ∃ before after, (∀ c ∈ before, isBlank c = true) ∧ (∀ c ∈ after, isBlank c = true) ∧
    whole = before ++ (text ++ after)

theorem padded_trimChars (whole : List Char) : Padded (trimChars whole) whole := by
  refine ⟨whole.takeWhile isBlank, ((whole.dropWhile isBlank).reverse.takeWhile isBlank).reverse,
    fun c member => List.mem_takeWhile_imp member, fun c member => ?_, ?_⟩
  · exact List.mem_takeWhile_imp (List.mem_reverse.1 member)
  · rw [trimChars, dropEndWhile, ← List.reverse_append, List.takeWhile_append_dropWhile,
      List.reverse_reverse, List.takeWhile_append_dropWhile]

variable {text whole : List Char}

/-- A text that is solid at both ends is what is left of it with white space around it. -/
theorem Padded.trimChars_eq (padded : Padded text whole) (nonempty : text ≠ [])
    (starts : Stops isBlank text) (ends : Stops isBlank text.reverse) : trimChars whole = text := by
  obtain ⟨before, after, blankBefore, blankAfter, rfl⟩ := padded
  have started : Stops isBlank (text ++ after) := by
    obtain ⟨c, others, rfl⟩ := List.exists_cons_of_ne_nil nonempty
    exact stops_cons (starts c others rfl) _
  have blankBehind : ∀ c ∈ after.reverse, isBlank c = true := fun c member =>
    blankAfter c (List.mem_reverse.1 member)
  rw [trimChars, List.dropWhile_append_of_pos blankBefore, dropWhile_of_stops started,
    dropEndWhile, List.reverse_append, List.dropWhile_append_of_pos blankBehind,
    dropWhile_of_stops ends, List.reverse_reverse]

theorem trimChars_eq_iff_padded (nonempty : text ≠ []) (starts : Stops isBlank text)
    (ends : Stops isBlank text.reverse) : trimChars whole = text ↔ Padded text whole := by
  constructor
  · intro trimmed
    rw [← trimmed]
    exact padded_trimChars whole
  · intro padded
    exact padded.trimChars_eq nonempty starts ends

end SeriesQuery.Text
