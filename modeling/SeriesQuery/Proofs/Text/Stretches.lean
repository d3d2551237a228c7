import Mathlib.Data.List.TakeDrop
import Mathlib.Data.List.TakeWhile
import SeriesQuery.Text.Split

/-!
Stretches of characters of one class. A stretch is over where a text stops, at its end or at a
character of another class.
-/

set_option autoImplicit false

namespace SeriesQuery

/-- A list of characters is gone through, and not the characters that there are. -/
instance decidableForallMem (p : Char → Prop) [DecidablePred p] (text : List Char) :
    Decidable (∀ c ∈ text, p c) :=
  List.decidableBAll p text

/-- The text does not start with a character of a class. -/
def Stops (p : Char → Bool) (text : List Char) : Prop := ∀ c rest, text = c :: rest → p c = false

instance (p : Char → Bool) : (text : List Char) → Decidable (Stops p text)
  | [] => isTrue fun _ _ same => by cases same
  | c :: rest =>
    if out : p c = false then isTrue fun _ _ same => by cases same; exact out
    else isFalse fun stops => out (stops c rest rfl)

theorem stops_nil (p : Char → Bool) : Stops p [] := fun _ _ same => by cases same

theorem stops_cons {p : Char → Bool} {c : Char} (out : p c = false) (rest : List Char) :
    Stops p (c :: rest) := by
  intro d others same
  cases same
  exact out

theorem stops_dropWhile (p : Char → Bool) (text : List Char) : Stops p (text.dropWhile p) := by
  intro c rest same
  have stops := List.head?_dropWhile_not p text
  rw [same] at stops
  simpa using stops

theorem takeWhile_of_stops {p : Char → Bool} {text : List Char} (stops : Stops p text) :
    text.takeWhile p = [] := by
  cases text with
  | nil => rfl
  | cons c rest => simp [stops c rest rfl]

theorem dropWhile_of_stops {p : Char → Bool} {text : List Char} (stops : Stops p text) :
    text.dropWhile p = text := by
  cases text with
  | nil => rfl
  | cons c rest => simp [stops c rest rfl]

theorem span_append {p : Char → Bool} {text rest : List Char} (all : ∀ c ∈ text, p c = true)
    (stops : Stops p rest) : (text ++ rest).span p = (text, rest) := by
  rw [List.span_eq_takeWhile_dropWhile, List.takeWhile_append_of_pos all,
    List.dropWhile_append_of_pos all, takeWhile_of_stops stops, dropWhile_of_stops stops,
    List.append_nil]

theorem Stops.mono {p q : Char → Bool} {text : List Char} (stops : Stops p text)
    (fewer : ∀ c, q c = true → p c = true) : Stops q text := by
  intro c rest same
  cases found : q c with
  | false => rfl
  | true => rw [← fewer c found, stops c rest same]

theorem Stops.of_append {p : Char → Bool} {text rest : List Char} (stops : Stops p (text ++ rest)) :
    Stops p text := by
  rintro c others rfl
  exact stops c (others ++ rest) rfl

theorem takeWhile_dropWhile_append {p : Char → Bool} {text more : List Char}
    (ended : text.dropWhile p ≠ [] ∨ Stops p more) :
    (text ++ more).takeWhile p = text.takeWhile p ∧
      (text ++ more).dropWhile p = text.dropWhile p ++ more := by
  induction text with
  | nil =>
    have stops := ended.resolve_left fun nonempty => nonempty rfl
    exact ⟨takeWhile_of_stops stops, dropWhile_of_stops stops⟩
  | cons c rest ih =>
    cases member : p c with
    | true =>
      have ended : rest.dropWhile p ≠ [] ∨ Stops p more := by
        simpa only [List.dropWhile_cons, member, if_true] using ended
      simp [member, ih ended]
    | false => simp [member]

theorem Text.splitFirst?_append {separator : Char} {before : List Char} (apart : separator ∉ before)
    (after : List Char) :
    Text.splitFirst? separator (before ++ separator :: after) = some (before, after) := by
  have split : (before ++ separator :: after).span (· != separator) = (before, separator :: after) :=
    span_append (fun c member => bne_iff_ne.2 fun same => apart (same ▸ member))
      (stops_cons (by simp) after)
  rw [Text.splitFirst?, split]

theorem Text.splitFirst?_eq_none {separator : Char} {text : List Char} (apart : separator ∉ text) :
    Text.splitFirst? separator text = none := by
  have split : (text ++ []).span (· != separator) = (text, []) :=
    span_append (fun c member => bne_iff_ne.2 fun same => apart (same ▸ member)) (stops_nil _)
  rw [List.append_nil] at split
  rw [Text.splitFirst?, split]

theorem splitOn_apart {separator : Char} {part : List Char} (apart : separator ∉ part) :
    part.splitOn separator = [part] := by
  have alone : ∀ text ∈ [part], separator ∉ text := by simpa using apart
  simpa using List.splitOn_intercalate separator alone (by simp)

/-- Parts that are ended, each by the same mark, are found again before the rest. -/
theorem splitOn_ended {separator : Char} {parts : List (List Char)}
    (apart : ∀ part ∈ parts, separator ∉ part) (rest : List Char) :
    (parts.flatMap (· ++ [separator]) ++ rest).splitOn separator =
      parts ++ rest.splitOn separator := by
  induction parts with
  | nil => rfl
  | cons part parts ih =>
    have ⟨first, others⟩ := List.forall_mem_cons.1 apart
    rw [List.flatMap_cons, List.append_assoc, List.append_assoc, List.singleton_append,
      List.splitOn_append_cons_self, splitOn_apart first, ih others]
    rfl

theorem Text.splitAt_intercalate {separator : Char} {mark : String}
    (marks : mark.toList = [separator]) {parts : List String} (nonempty : parts ≠ [])
    (apart : ∀ part ∈ parts, separator ∉ part.toList) :
    Text.splitAt separator (mark.intercalate parts) = parts := by
  have apart : ∀ part ∈ parts.map String.toList, separator ∉ part := by
    simpa only [List.forall_mem_map] using apart
  have split : (mark.intercalate parts).toList.splitOn separator = parts.map String.toList := by
    rw [String.toList_intercalate, marks]
    exact List.splitOn_intercalate separator apart (by simpa using nonempty)
  rw [Text.splitAt, split, List.map_map]
  exact List.map_id'' (fun _ => String.ofList_toList) _

end SeriesQuery
