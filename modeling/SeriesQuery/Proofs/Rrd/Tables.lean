import Mathlib.Data.List.Forall2
import SeriesQuery.Proofs.Json.Leaves
import SeriesQuery.Proofs.Language.Trimming
import SeriesQuery.Rrd.Response

/-!
Tables as text: a line of names and a line for each row, with any spacing between the words, any
spelling of the numbers and blank lines anywhere. They are read for what they say.
-/

set_option autoImplicit false

namespace SeriesQuery.Rrd

open SeriesQuery.Language (Solid Digits)

/-! ## Spacing -/

/-- The words in a text with a gap before each one, and perhaps white space behind the last one. -/
inductive Spaced (gap : Char → Bool) : List (List Char) → List Char → Prop where
  | nil {text : List Char} (blank : ∀ c ∈ text, Text.isBlank c = true) : Spaced gap [] text
  | cons {space word rest : List Char} {words : List (List Char)} (apart : space ≠ [])
      (gaps : ∀ c ∈ space, gap c = true) (nonempty : word ≠ []) (solid : Solid word)
      (others : Spaced gap words rest) : Spaced gap (word :: words) (space ++ (word ++ rest))

theorem isBlank_of_isSpacer {c : Char} (spacer : isSpacer c = true) : Text.isBlank c = true := by
  simp only [isSpacer, Bool.or_eq_true, beq_iff_eq] at spacer
  rcases spacer with rfl | rfl <;> decide

theorem dropEndWhile_append {p : Char → Bool} {text : List Char} (ends : Stops p text.reverse)
    (rest : List Char) :
    Text.dropEndWhile p (text ++ rest) = text ++ Text.dropEndWhile p rest := by
  rw [Text.dropEndWhile, Text.dropEndWhile, List.reverse_append, List.dropWhile_append]
  split
  · next none =>
    rw [List.isEmpty_iff.1 none, dropWhile_of_stops ends, List.reverse_reverse]
    exact (List.append_nil _).symm
  · rw [List.reverse_append, List.reverse_reverse]

namespace Spaced

variable {gap : Char → Bool} {words : List (List Char)} {text : List Char}

theorem stops (blanks : ∀ c, gap c = true → Text.isBlank c = true) (spaced : Spaced gap words text) :
    Stops (fun c => !Text.isBlank c) text := by
  cases spaced with
  | nil blank =>
    rintro c rest rfl
    simp [blank c List.mem_cons_self]
  | @cons space word rest words apart gaps =>
    obtain ⟨c, others, rfl⟩ := List.exists_cons_of_ne_nil apart
    rw [List.cons_append]
    exact stops_cons (by simp [blanks c (gaps c List.mem_cons_self)]) _

theorem dropEnd (spaced : Spaced gap words text) :
    Spaced gap words (Text.dropEndWhile Text.isBlank text) := by
  induction spaced with
  | nil blank =>
    rw [Text.dropEndWhile, List.dropWhile_eq_nil_iff.2 fun c member => blank c (by simpa using member)]
    exact .nil (List.forall_mem_nil _)
  | @cons space word rest words apart gaps nonempty solid others ih =>
    have ends : Language.EndsSolid (space ++ word) :=
      Language.endsSolid_append nonempty solid.endsSolid
    rw [← List.append_assoc, dropEndWhile_append ends, List.append_assoc]
    exact .cons apart gaps nonempty solid ih

end Spaced

def wordsOf (text : List Char) : List (List Char) :=
  (text.splitOnP Text.isBlank).filter (!·.isEmpty)

theorem wordsOf_append_of_blank {space : List Char} (blank : ∀ c ∈ space, Text.isBlank c = true)
    (text : List Char) : wordsOf (space ++ text) = wordsOf text := by
  induction space with
  | nil => rfl
  | cons c others ih =>
    have ⟨first, others⟩ := List.forall_mem_cons.1 blank
    rw [← ih others, wordsOf, List.cons_append, List.splitOnP_cons_eq_if_modifyHead, if_pos first]
    rfl

theorem wordsOf_append_of_solid {word text : List Char} (nonempty : word ≠ []) (solid : Solid word)
    (stops : Stops (fun c => !Text.isBlank c) text) :
    wordsOf (word ++ text) = word :: wordsOf text := by
  have kept (others : List (List Char)) : (word :: others).filter (fun word => !word.isEmpty) =
      word :: others.filter fun word => !word.isEmpty :=
    List.filter_cons_of_pos (by simpa using nonempty)
  cases text with
  | nil =>
    rw [List.append_nil, wordsOf, List.splitOnP_eq_singleton solid, kept]
    rfl
  | cons c rest =>
    have blank : Text.isBlank c = true := by simpa using stops c rest rfl
    have behind : wordsOf ([c] ++ rest) = wordsOf rest :=
      wordsOf_append_of_blank (by simpa using blank) rest
    rw [List.singleton_append] at behind
    rw [behind, wordsOf, List.splitOnP_append_cons_of_forall_mem solid c blank, kept]
    rfl

theorem Spaced.wordsOf_eq {words : List (List Char)} {text : List Char}
    (spaced : Spaced Text.isBlank words text) : wordsOf text = words := by
  induction spaced with
  | nil blank =>
    have none := wordsOf_append_of_blank blank []
    rwa [List.append_nil] at none
  | cons apart gaps nonempty solid others ih =>
    rw [wordsOf_append_of_blank gaps, wordsOf_append_of_solid nonempty solid
      (others.stops fun _ blank => blank), ih]

/-! ## Rows -/

inductive Spells : List Char → Option Float → Prop where
  | number {word : List Char} {value : Float}
      (reads : Decimal.readFloat? (String.ofList word) = some value)
      (finite : Decimal.isFinite value = true) : Spells word (some value)
  | gap {word : List Char} {value : Float}
      (reads : Decimal.readFloat? (String.ofList word) = some value)
      (infinite : Decimal.isFinite value = false) : Spells word none

/-- A line with the seconds of a row, a colon, and a word for each cell. -/
inductive PrintsRow (seconds : Nat) (cells : List (Option Float)) : List Char → Prop where
  | intro {lead rest : List Char} {digits : Digits} {words : List (List Char)}
      (leads : ∀ c ∈ lead, isSpacer c = true) (stamp : digits.value = seconds)
      (spaced : Spaced isSpacer words rest) (spells : List.Forall₂ Spells words cells) :
      PrintsRow seconds cells (lead ++ (digits.text ++ ':' :: rest))

theorem printsRow_single {seconds : Nat} {digits : Digits} (stamp : digits.value = seconds)
    {word : List Char} {cell : Option Float} (nonempty : word ≠ []) (solid : Solid word)
    (spells : Spells word cell) :
    PrintsRow seconds [cell] (digits.text ++ ':' :: ' ' :: word) := by
  have spaced : Spaced isSpacer [word] ([' '] ++ (word ++ [])) :=
    .cons (by decide) (by decide) nonempty solid (.nil (by decide))
  rw [List.append_nil, List.singleton_append] at spaced
  have prints : PrintsRow seconds [cell] ([] ++ (digits.text ++ ':' :: ' ' :: word)) :=
    .intro (by decide) stamp spaced (.cons spells .nil)
  exact prints

theorem fetchedValues?_of_spaced {words : List (List Char)} {text : List Char}
    (spaced : Spaced isSpacer words text) {cells : List (Option Float)}
    (spells : List.Forall₂ Spells words cells) : fetchedValues? text = some cells := by
  -- The reader takes a gap and a word at a time, as the words are laid out.
  induction spaced generalizing cells with
  | nil blank =>
    cases spells
    unfold fetchedValues?
    exact if_pos (List.all_eq_true.2 blank)
  | @cons space word rest words apart gaps nonempty solid others ih =>
    obtain ⟨cell, later, first, spellsLater, rfl⟩ := List.forall₂_cons_left_iff.1 spells
    obtain ⟨c, more, rfl⟩ := List.exists_cons_of_ne_nil nonempty
    have letter := solid c List.mem_cons_self
    have printed : ¬ (space ++ (c :: more ++ rest)).all Text.isBlank = true := by
      simp [letter]
    have noSpacer : isSpacer c = false := by
      rw [Bool.eq_false_iff]
      intro spacer
      rw [isBlank_of_isSpacer spacer] at letter
      cases letter
    have behind : (space ++ (c :: more ++ rest)).dropWhile isSpacer = c :: more ++ rest := by
      rw [List.dropWhile_append_of_pos gaps]
      exact dropWhile_of_stops (stops_cons noSpacer _)
    have shorter : (c :: more ++ rest).length < (space ++ (c :: more ++ rest)).length := by
      have positive := List.length_pos_of_ne_nil apart
      simp only [List.length_append]
      omega
    have word : (c :: more ++ rest).takeWhile (fun c => !Text.isBlank c) = c :: more := by
      rw [List.takeWhile_append_of_pos fun d member => by simp [solid d member],
        takeWhile_of_stops (others.stops fun _ => isBlank_of_isSpacer), List.append_nil]
    unfold fetchedValues?
    rw [if_neg printed]
    simp only [behind, word, List.drop_left]
    rw [dif_pos shorter, List.isEmpty_cons, if_neg Bool.false_ne_true, ih spellsLater]
    cases first with
    | number reads finite =>
      rw [reads]
      simp [finite]
    | gap reads infinite =>
      rw [reads]
      simp [infinite]

theorem fetchedRow?_of_prints {seconds : Nat} {cells : List (Option Float)} {line : List Char}
    (prints : PrintsRow seconds cells line) (fits : seconds < 2 ^ 63) :
    fetchedRow? (Text.dropEndWhile Text.isBlank line) = some (.ofNat seconds, cells) := by
  obtain ⟨leads, rfl, spaced, spells⟩ := prints
  next lead rest digits words =>
  -- White space behind the last word is dropped first, and the colon keeps what is before it.
  have ends : Language.EndsSolid (lead ++ (digits.text ++ [':'])) := by
    rw [← List.append_assoc]
    exact Language.endsSolid_append (by simp) (stops_cons (by decide) _)
  have line : lead ++ (digits.text ++ ':' :: rest) = lead ++ (digits.text ++ [':']) ++ rest := by
    simp
  have noLead : Stops isSpacer (digits.text ++ ':' :: Text.dropEndWhile Text.isBlank rest) := by
    obtain ⟨c, others, same, digit⟩ := digits.text_eq
    rw [same]
    refine stops_cons ?_ _
    rw [Bool.eq_false_iff]
    intro spacer
    rw [isSpacer, Bool.or_eq_true, beq_iff_eq, beq_iff_eq] at spacer
    rcases spacer with rfl | rfl <;> cases digit
  have stamp : Decimal.readInt64? (String.ofList digits.text) = some (.ofNat digits.value) := by
    have read := Language.Numeral.readInt64?_eq false digits (Int64.toInt_ofNat_of_lt fits)
    exact read
  have nonempty : ¬ digits.text.isEmpty = true := by simp [digits.isEmpty_eq_false]
  rw [line, dropEndWhile_append ends, List.append_assoc, List.append_assoc, List.singleton_append,
    fetchedRow?, List.dropWhile_append_of_pos leads, dropWhile_of_stops noLead,
    span_append digits.digits (stops_cons (by decide) _)]
  simp only [if_neg nonempty, stamp, fetchedValues?_of_spaced spaced.dropEnd spells]
  rfl

theorem fetchedRows_of_prints {rows : List (Nat × List (Option Float))} {lines : List (List Char)}
    (prints : List.Forall₂ (fun row line => PrintsRow row.1 row.2 line) rows lines)
    (fits : ∀ row ∈ rows, row.1 < 2 ^ 63) :
    fetchedRows lines = .ok (rows.map fun row => (.ofNat row.1, row.2)) := by
  induction prints with
  | nil => rfl
  | cons first _ ih =>
    have ⟨fits, others⟩ := List.forall_mem_cons.1 fits
    rw [fetchedRows, fetchedRow?_of_prints first fits, ih others]
    rfl

theorem words_of_spaced {names : List String} {header : List Char}
    (spaced : Spaced Text.isBlank (names.map String.toList) (' ' :: header)) :
    Text.words (String.ofList header) = names := by
  have found := spaced.wordsOf_eq
  rw [← List.singleton_append, wordsOf_append_of_blank (by decide)] at found
  have words : Text.words (String.ofList header) = (wordsOf header).map String.ofList := by
    rw [Text.words, String.toList_ofList]
    rfl
  rw [words, found, List.map_map]
  exact List.map_id'' (fun _ => String.ofList_toList) _

theorem readFetched_of_prints {text : String} {header : List Char} {lines : List (List Char)}
    (printed : (Text.lines text).filter (fun line => !line.all Text.isBlank) = header :: lines)
    {names : List String} (spaced : Spaced Text.isBlank (names.map String.toList) (' ' :: header))
    {rows : List (Nat × List (Option Float))}
    (prints : List.Forall₂ (fun row line => PrintsRow row.1 row.2 line) rows lines)
    (fits : ∀ row ∈ rows, row.1 < 2 ^ 63) :
    readFetched text = .ok ⟨names, rows.map fun row => (.ofNat row.1, row.2)⟩ := by
  rw [readFetched, printed]
  dsimp only
  rw [fetchedRows_of_prints prints fits, words_of_spaced spaced]
  rfl

/-! ## Tables -/

/-- A finite number, and a way in which JSON text can write it. -/
structure Figure where
  literal : Json.Literal
  value : Float
  reads : Decimal.readFloat? (String.ofList literal.text) = some value
  finite : Decimal.isFinite value = true

/-- Columns of numbers and gaps. The rows follow one another by the step, and the second of each
fits 64 bits. -/
structure Table where
  names : List String
  start : Nat
  step : Nat
  rows : List (List (Option Figure))
  fits : ∀ row < rows.length, start + row * step < 2 ^ 63

namespace Table

variable (table : Table)

def seconds (row : Nat) : Nat := table.start + row * table.step

/-- The seconds and the values of each row. -/
def stamped : List (Nat × List (Option Float)) :=
  table.rows.zipIdx.map fun numbered =>
    (table.seconds numbered.2, numbered.1.map (·.map Figure.value))

def fetched : Fetched := ⟨table.names, table.stamped.map fun row => (.ofNat row.1, row.2)⟩

theorem fits_of_mem_stamped {row : Nat × List (Option Float)} (member : row ∈ table.stamped) :
    row.1 < 2 ^ 63 := by
  obtain ⟨numbered, inside, rfl⟩ := List.mem_map.1 member
  exact table.fits _ (List.snd_lt_of_mem_zipIdx inside)

/-- The lines of a text that are not blank are those of the table. This takes names, at least one, of
which none is empty or has white space in it. -/
inductive PrintedAs (text : String) : Prop where
  | intro {header : List Char} {lines : List (List Char)}
      (printed : (Text.lines text).filter (fun line => !line.all Text.isBlank) = header :: lines)
      -- The first word may stand at the start of the line.
      (names : Spaced Text.isBlank (table.names.map String.toList) (' ' :: header))
      (rows : List.Forall₂ (fun row line => PrintsRow row.1 row.2 line) table.stamped lines)

theorem readFetched_of_printed {text : String} (printed : table.PrintedAs text) :
    readFetched text = .ok table.fetched := by
  obtain ⟨printed, names, rows⟩ := printed
  exact readFetched_of_prints printed names rows fun _ member => table.fits_of_mem_stamped member

end Table

end SeriesQuery.Rrd
