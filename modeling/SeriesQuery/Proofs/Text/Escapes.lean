import Mathlib.Data.List.Basic
import SeriesQuery.Proofs.Text.Stretches

/-!
Texts one after the other. Where they are joined by characters of a class, backslashes stand before
such characters in the texts, and none before other backslashes; a text is told from what follows it
unless it ends in a backslash.
-/

set_option autoImplicit false

namespace SeriesQuery

theorem toList_intercalate_cons (glue first : String) (others : List String) :
    (glue.intercalate (first :: others)).toList =
      first.toList ++ others.flatMap fun other => glue.toList ++ other.toList := by
  induction others generalizing first with
  | nil => simp
  | cons second rest ih =>
    rw [String.intercalate_cons_cons, String.toList_append, String.toList_append, ih,
      List.flatMap_cons, List.append_assoc, List.append_assoc]

/-! ## Escaped characters -/

/-- A backslash before each character of a class. -/
def escaped (special : Char → Bool) (text : List Char) : List Char :=
  text.flatMap fun c => if special c then ['\\', c] else [c]

/-- The text up to the first character of a class that has no backslash before it, and the rest. -/
def readEscaped (special : Char → Bool) : List Char → List Char × List Char
  | [] => ([], [])
  | '\\' :: c :: rest =>
    if special c then (readEscaped special rest).map (c :: ·) id
    else (readEscaped special (c :: rest)).map ('\\' :: ·) id
  | c :: rest =>
    if special c then ([], c :: rest) else (readEscaped special rest).map (c :: ·) id

variable {special : Char → Bool} {text rest : List Char}

theorem escaped_cons_of_special {c : Char} (isSpecial : special c = true) (text : List Char) :
    escaped special (c :: text) = '\\' :: c :: escaped special text := by
  simp [escaped, isSpecial]

theorem escaped_cons {c : Char} (other : special c = false) (text : List Char) :
    escaped special (c :: text) = c :: escaped special text := by
  simp [escaped, other]

theorem escaped_append (special : Char → Bool) (first last : List Char) :
    escaped special (first ++ last) = escaped special first ++ escaped special last :=
  List.flatMap_append

theorem escaped_eq_self (none : ∀ c ∈ text, special c = false) : escaped special text = text := by
  induction text with
  | nil => rfl
  | cons c text ih =>
    have ⟨other, none⟩ := List.forall_mem_cons.1 none
    rw [escaped_cons other, ih none]

theorem mem_escaped {c : Char} (other : c ≠ '\\') :
    c ∈ escaped special text ↔ c ∈ text := by
  rw [escaped, List.mem_flatMap]
  constructor
  · rintro ⟨d, member, written⟩
    split at written
    · have same : c = d := by simpa [other] using written
      rwa [same]
    · rwa [List.mem_singleton.1 written]
  · intro member
    exact ⟨c, member, by split <;> simp⟩

theorem getLast?_escaped : (escaped special text).getLast? = text.getLast? := by
  induction text with
  | nil => rfl
  | cons c text ih =>
    cases isSpecial : special c with
    | true => simp [escaped_cons_of_special isSpecial, List.getLast?_cons, ih]
    | false => simp [escaped_cons isSpecial, List.getLast?_cons, ih]

/-- No character of the class comes first. -/
theorem stops_escaped_append (backslash : special '\\' = false)
    (stops : text = [] → Stops special rest) : Stops special (escaped special text ++ rest) := by
  cases text with
  | nil => exact stops rfl
  | cons c text =>
    cases isSpecial : special c with
    | true =>
      rw [escaped_cons_of_special isSpecial]
      exact stops_cons backslash _
    | false =>
      rw [escaped_cons isSpecial]
      exact stops_cons isSpecial _

theorem readEscaped_cons {c : Char} (other : special c = false)
    (apart : c = '\\' → Stops special rest) :
    readEscaped special (c :: rest) = (readEscaped special rest).map (c :: ·) id := by
  by_cases backslash : c = '\\'
  · subst backslash
    cases rest with
    | nil => simp [readEscaped, other]
    | cons d rest => rw [readEscaped, if_neg (by simp [apart rfl d rest rfl])]
  · rw [readEscaped]
    · simp [other]
    · exact fun _ _ same => absurd same backslash

theorem readEscaped_append (apart : text.getLast? = some '\\' → Stops special rest) :
    readEscaped special (escaped special text ++ rest) =
      (readEscaped special rest).map (text ++ ·) id := by
  induction text with
  | nil => rfl
  | cons c text ih =>
    have apartRest : text.getLast? = some '\\' → Stops special rest := fun last => apart (by
      rw [List.getLast?_cons, last]
      rfl)
    have step : readEscaped special (escaped special (c :: text) ++ rest) =
        (readEscaped special (escaped special text ++ rest)).map (c :: ·) id := by
      cases isSpecial : special c with
      | true =>
        rw [escaped_cons_of_special isSpecial, List.cons_append, List.cons_append, readEscaped,
          if_pos isSpecial]
      | false =>
        rw [escaped_cons isSpecial, List.cons_append, readEscaped_cons isSpecial]
        rintro rfl
        exact stops_escaped_append isSpecial fun none => apart (by rw [none]; rfl)
    rw [step, ih apartRest]
    rfl

theorem readEscaped_escaped (backslash : special '\\' = false) {c : Char}
    (isSpecial : special c = true) (ends : text.getLast? ≠ some '\\') :
    readEscaped special (escaped special text ++ c :: rest) = (text, c :: rest) := by
  have other : c ≠ '\\' := by
    rintro rfl
    rw [backslash] at isSpecial
    cases isSpecial
  rw [readEscaped_append fun last => absurd last ends, readEscaped]
  · simp [isSpecial]
  · exact fun _ _ same => absurd same other

theorem escaped_injective : Function.Injective (escaped special) := by
  have whole (text : List Char) : readEscaped special (escaped special text) = (text, []) := by
    have read : readEscaped special (escaped special text ++ []) = _ :=
      readEscaped_append fun _ => stops_nil special
    simpa [readEscaped] using read
  intro first second same
  have read := (whole first).symm.trans ((congrArg _ same).trans (whole second))
  exact congrArg Prod.fst read

end SeriesQuery
