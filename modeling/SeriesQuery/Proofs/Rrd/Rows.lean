import SeriesQuery.Proofs.Rrd.Tables
import SeriesQuery.Proofs.Rrd.SoftFailures

/-!
Rows of fetched tables. A line is read exactly when it is laid out as a row, with a second that fits
64 bits, so a table is read whole, or refused for a line that is none.
-/

set_option autoImplicit false

namespace SeriesQuery.Rrd

open SeriesQuery.Language (Solid Digits)

/-! ## Lines -/

/-- The text of lines: a line feed is behind each of them, or a carriage return with a line feed, or
nothing behind the last one. -/
inductive Broken : List (List Char) → List Char → Prop where
  | none : Broken [] []
  | last {line : List Char} (nonempty : line ≠ []) (single : '\n' ∉ line) : Broken [line] line
  | ended {line rest : List Char} {lines : List (List Char)} (single : '\n' ∉ line)
      (plain : line.getLast? ≠ some '\r') (others : Broken lines rest) :
      Broken (line :: lines) (line ++ '\n' :: rest)
  | returned {line rest : List Char} {lines : List (List Char)} (single : '\n' ∉ line)
      (others : Broken lines rest) : Broken (line :: lines) (line ++ '\r' :: '\n' :: rest)

theorem dropReturn_concat (line : List Char) : Text.dropReturn (line ++ ['\r']) = line := by
  simp [Text.dropReturn]

theorem dropReturn_of_plain {line : List Char} (plain : line.getLast? ≠ some '\r') :
    Text.dropReturn line = line := by
  rcases dropReturn_eq line with same | same
  · exact same
  · rw [same] at plain
    exact absurd List.getLast?_concat plain

theorem lines_last {line : List Char} (single : '\n' ∉ line) :
    Text.lines (String.ofList line) = if line.isEmpty then [] else [line] := by
  have split : (String.ofList line).toList.splitOn '\n' = [] ++ [line] := by
    rw [String.toList_ofList, splitOn_apart single, List.nil_append]
  rw [lines_eq split, List.map_nil, List.nil_append]

theorem lines_ended {line : List Char} (single : '\n' ∉ line) (rest : List Char) :
    Text.lines (String.ofList (line ++ '\n' :: rest)) =
      Text.dropReturn line :: Text.lines (String.ofList rest) := by
  obtain ⟨others, last, split⟩ : ∃ others last,
      (String.ofList rest).toList.splitOn '\n' = others ++ [last] :=
    ⟨_, _, (List.dropLast_append_getLast (List.splitOn_ne_nil _ _)).symm⟩
  have all : (String.ofList (line ++ '\n' :: rest)).toList.splitOn '\n' =
      (line :: others) ++ [last] := by
    rw [String.toList_ofList] at split ⊢
    rw [List.splitOn_append_cons_self, splitOn_apart single, split]
    rfl
  rw [lines_eq all, lines_eq split, List.map_cons, List.cons_append]

theorem Broken.lines_eq {lines : List (List Char)} {text : List Char} (broken : Broken lines text) :
    Text.lines (String.ofList text) = lines := by
  induction broken with
  | none => rfl
  | last nonempty single => rw [lines_last single, if_neg (by simpa using nonempty)]
  | ended single plain others ih => rw [lines_ended single, dropReturn_of_plain plain, ih]
  | @returned line rest lines single others ih =>
    have inside : '\n' ∉ line ++ ['\r'] := by simp [single]
    have split : line ++ '\r' :: '\n' :: rest = (line ++ ['\r']) ++ '\n' :: rest := by simp
    rw [split, lines_ended inside, dropReturn_concat, ih]

theorem broken_lines_ended {line rest : List Char} (single : '\n' ∉ line)
    (others : Broken (Text.lines (String.ofList rest)) rest) :
    Broken (Text.lines (String.ofList (line ++ '\n' :: rest))) (line ++ '\n' :: rest) := by
  rw [lines_ended single]
  by_cases returned : line.getLast? = some '\r'
  · obtain ⟨start, rfl⟩ : ∃ start, line = start ++ ['\r'] :=
      ⟨_, (List.dropLast_append_getLast? '\r' returned).symm⟩
    rw [dropReturn_concat, List.append_assoc]
    exact .returned (fun member => single (List.mem_append_left _ member)) others
  · rw [dropReturn_of_plain returned]
    exact .ended single returned others

theorem broken_lines (text : List Char) : Broken (Text.lines (String.ofList text)) text := by
  -- The text is taken apart at its first line feed, and the rest is shorter.
  induction size : text.length using Nat.strong_induction_on generalizing text with
  | _ length ih =>
    subst size
    have single : '\n' ∉ text.takeWhile (· != '\n') := fun member => by
      simpa using List.mem_takeWhile_imp member
    have whole : text.takeWhile (· != '\n') ++ text.dropWhile (· != '\n') = text :=
      List.takeWhile_append_dropWhile
    cases rest : text.dropWhile (· != '\n') with
    | nil =>
      rw [rest, List.append_nil] at whole
      rw [whole] at single
      rw [lines_last single]
      cases text with
      | nil => exact .none
      | cons c others => exact .last (List.cons_ne_nil c others) single
    | cons c more =>
      have feed : c = '\n' := by
        simpa using stops_dropWhile (· != '\n') text c more rest
      rw [rest, feed] at whole
      have shorter : more.length < text.length := by
        rw [← whole, List.length_append, List.length_cons]
        omega
      rw [← whole]
      exact broken_lines_ended single (ih more.length shorter more rfl)

theorem broken_iff {lines : List (List Char)} {text : String} :
    Broken lines text.toList ↔ Text.lines text = lines := by
  constructor
  · intro broken
    rw [← broken.lines_eq, String.ofList_toList]
  · rintro rfl
    have broken := broken_lines text.toList
    rwa [String.ofList_toList] at broken

/-! ## Rows -/

theorem fits_of_readInt64? {digits : Digits} {value : Int64}
    (read : Decimal.readInt64? (String.ofList digits.text) = some value) :
    digits.value < 2 ^ 63 := by
  obtain ⟨c, others, split, digit⟩ := digits.text_eq
  have whole := digits.readDigits?
  rw [split] at whole
  simp only [Decimal.readInt64?, String.toList_ofList, split] at read
  split at read
  · next signed => cases signed; cases digit
  · next signed => cases signed; cases digit
  · simp only [whole, Option.bind_some, if_false, Bool.false_eq_true] at read
    split at read
    · next range =>
      have greatest : Int64.maxValue.toInt = 2 ^ 63 - 1 := by decide
      omega
    · cases read

theorem spells_of_readFloat? {word : List Char} {value : Float}
    (reads : Decimal.readFloat? (String.ofList word) = some value) :
    Spells word (if Decimal.isFinite value then some value else none) := by
  split
  · next finite => exact .number reads finite
  · next infinite => exact .gap reads (Bool.eq_false_iff.2 infinite)

theorem exists_spaced_of_fetchedValues? {text : List Char} {cells : List (Option Float)}
    (read : fetchedValues? text = some cells) :
    ∃ words, Spaced isSpacer words text ∧ List.Forall₂ Spells words cells := by
  -- By the steps of the reader, each of which takes a gap and the word behind it.
  fun_induction fetchedValues? text generalizing cells with
  | case1 text blank =>
    cases read
    exact ⟨[], .nil (List.all_eq_true.1 blank), .nil⟩
  | case2 => cases read
  | case3 text printed rest shorter word nonempty =>
    rename_i ih
    obtain ⟨value, reads, read⟩ := Option.bind_eq_some_iff.1 read
    obtain ⟨values, others, read⟩ := Option.bind_eq_some_iff.1 read
    cases read
    obtain ⟨words, spaced, spells⟩ := ih others
    have behind : word ++ rest.drop word.length = rest := by
      have starts : word <+: rest := List.takeWhile_prefix _
      exact List.prefix_iff_eq_append.1 starts
    have split : text.takeWhile isSpacer ++ (word ++ rest.drop word.length) = text := by
      rw [behind]
      exact List.takeWhile_append_dropWhile
    have apart : text.takeWhile isSpacer ≠ [] := by
      intro none
      rw [none, List.nil_append, behind] at split
      exact absurd (congrArg List.length split) shorter.ne
    refine ⟨word :: words, ?_, .cons (spells_of_readFloat? reads) spells⟩
    have whole := Spaced.cons apart (fun c => List.mem_takeWhile_imp) (by simpa using nonempty)
      (fun c member => by simpa using List.mem_takeWhile_imp member) spaced
    rwa [split] at whole
  | case4 => cases read

theorem prints_of_fetchedRow? {line : List Char} {stamp : Int64} {cells : List (Option Float)}
    (read : fetchedRow? line = some (stamp, cells)) :
    ∃ seconds < 2 ^ 63, PrintsRow seconds cells line := by
  have outer := List.takeWhile_append_dropWhile (p := isSpacer) (l := line)
  have inner := List.takeWhile_append_dropWhile (p := Char.isDigit) (l := line.dropWhile isSpacer)
  unfold fetchedRow? at read
  simp only [List.span_eq_takeWhile_dropWhile] at read
  split at read
  · next rest colon =>
    split at read
    · cases read
    · next some =>
      obtain ⟨value, stamped, read⟩ := Option.bind_eq_some_iff.1 read
      obtain ⟨values, others, read⟩ := Option.bind_eq_some_iff.1 read
      cases read
      obtain ⟨words, spaced, spells⟩ := exists_spaced_of_fetchedValues? others
      obtain ⟨digits, written⟩ : ∃ digits : Digits,
          digits.text = (line.dropWhile isSpacer).takeWhile Char.isDigit :=
        ⟨⟨_, by simpa using some, fun c => List.mem_takeWhile_imp⟩, rfl⟩
      rw [← written] at stamped inner
      -- The gap, the digits and what is behind the colon make up the line again.
      have prints : PrintsRow digits.value cells
          (line.takeWhile isSpacer ++ (digits.text ++ ':' :: rest)) :=
        .intro (fun c => List.mem_takeWhile_imp) rfl spaced spells
      rw [← colon, inner, outer] at prints
      exact ⟨_, fits_of_readInt64? stamped, prints⟩
  · cases read

/-- A line that is laid out as a row, with a second that fits 64 bits. -/
def IsRow (line : List Char) : Prop := ∃ seconds < 2 ^ 63, ∃ cells, PrintsRow seconds cells line

theorem isRow_of_fetchedRow? {line : List Char} {row : Int64 × List (Option Float)}
    (read : fetchedRow? line = some row) : IsRow line := by
  obtain ⟨seconds, fits, prints⟩ := prints_of_fetchedRow? read
  exact ⟨seconds, fits, _, prints⟩

theorem exists_fetchedRow?_of_isRow {line : List Char}
    (isRow : IsRow (Text.dropEndWhile Text.isBlank line)) :
    ∃ row, fetchedRow? (Text.dropEndWhile Text.isBlank line) = some row := by
  obtain ⟨seconds, fits, cells, prints⟩ := isRow
  have read := fetchedRow?_of_prints prints fits
  rw [Text.dropEndWhile, Text.dropEndWhile, List.reverse_reverse, List.dropWhile_idempotent] at read
  exact ⟨_, read⟩

theorem fetchedRows_of_not_isRow {lines : List (List Char)}
    (other : ∃ line ∈ lines, ¬IsRow (Text.dropEndWhile Text.isBlank line)) :
    ∃ line ∈ lines, ¬IsRow (Text.dropEndWhile Text.isBlank line) ∧
      fetchedRows lines = .error (.fetchRow (String.ofList (Text.trimChars line))) := by
  -- By the lines: the rows before the first other line are read, and lost with its error.
  induction lines with
  | nil =>
    obtain ⟨line, member, -⟩ := other
    cases member
  | cons first rest ih =>
    by_cases isRow : IsRow (Text.dropEndWhile Text.isBlank first)
    · have other : ∃ line ∈ rest, ¬IsRow (Text.dropEndWhile Text.isBlank line) := by
        obtain ⟨line, member, notRow⟩ := other
        refine ⟨line, (List.mem_cons.1 member).resolve_left ?_, notRow⟩
        rintro rfl
        exact notRow isRow
      obtain ⟨line, member, notRow, refused⟩ := ih other
      refine ⟨line, List.mem_cons_of_mem _ member, notRow, ?_⟩
      obtain ⟨row, read⟩ := exists_fetchedRow?_of_isRow isRow
      rw [fetchedRows, read, refused]
      rfl
    · refine ⟨first, List.mem_cons_self, isRow, ?_⟩
      rw [fetchedRows]
      cases read : fetchedRow? (Text.dropEndWhile Text.isBlank first) with
      | none => rfl
      | some row => exact absurd (isRow_of_fetchedRow? read) isRow

/-! ## Tables -/

/-- A text whose lines are a header and rows, with blank lines anywhere, is read for exactly its
names and rows; one with a line that is no row is refused for such a line. -/
theorem readFetched_exact {text : String} {all : List (List Char)} (broken : Broken all text.toList)
    {header : List Char} {lines : List (List Char)}
    (printed : all.filter (fun line => !line.all Text.isBlank) = header :: lines) :
    (∀ {names : List String} {rows : List (Nat × List (Option Float))},
        Spaced Text.isBlank (names.map String.toList) (' ' :: header) →
        List.Forall₂ (fun row line => PrintsRow row.1 row.2 line) rows lines →
        (∀ row ∈ rows, row.1 < 2 ^ 63) →
        readFetched text = .ok ⟨names, rows.map fun row => (.ofNat row.1, row.2)⟩) ∧
      ((∃ line ∈ lines, ¬IsRow (Text.dropEndWhile Text.isBlank line)) →
        ∃ line ∈ lines, ¬IsRow (Text.dropEndWhile Text.isBlank line) ∧
          readFetched text = .error (.fetchRow (String.ofList (Text.trimChars line)))) := by
  rw [← broken_iff.1 broken] at printed
  refine ⟨fun names prints fits => readFetched_of_prints printed names prints fits, ?_⟩
  intro other
  obtain ⟨line, member, notRow, refused⟩ := fetchedRows_of_not_isRow other
  refine ⟨line, member, notRow, ?_⟩
  rw [readFetched, printed]
  dsimp only
  rw [refused]
  rfl

/-- A number and a gap, with all kinds of line ends. -/
def mixedText : String := "  usage\n \n1698408000: 1.5\r\n\n1698408060: -nan"

/-- The second of the row is the first one that does not fit 64 bits. -/
def lateText : String := "usage\n9223372036854775808: 1.5\n"

theorem readFetched_exact_mixed :
    readFetched mixedText =
        .ok ⟨["usage"], [(1698408000, [some 1.5]), (1698408060, [none])]⟩ ∧
      readFetched lateText = .error (.fetchRow "9223372036854775808: 1.5") := by
  constructor
  · have broken : Broken (Text.lines mixedText) mixedText.toList := broken_iff.2 rfl
    let first : Digits := ⟨"1698408000".toList, by decide, by decide⟩
    let second : Digits := ⟨"1698408060".toList, by decide, by decide⟩
    have printed : (Text.lines mixedText).filter (fun line => !line.all Text.isBlank) =
        ["  usage".toList, first.text ++ ':' :: ' ' :: "1.5".toList,
          second.text ++ ':' :: ' ' :: "-nan".toList] := by
      decide +kernel
    -- The header is one name, and its rows are a number and a gap.
    have words : Spaced Text.isBlank ["usage".toList] ([' ', ' ', ' '] ++ ("usage".toList ++ [])) :=
      .cons (by decide) (by decide) (by decide) (by decide) (.nil (by decide))
    have names : Spaced Text.isBlank (["usage"].map String.toList) (' ' :: "  usage".toList) :=
      words
    have number : PrintsRow 1698408000 [some 1.5] (first.text ++ ':' :: ' ' :: "1.5".toList) :=
      printsRow_single (by decide) (by decide) (by decide)
        (.number (by decide +kernel) (by decide +kernel))
    have gap : PrintsRow 1698408060 [none] (second.text ++ ':' :: ' ' :: "-nan".toList) :=
      printsRow_single (by decide) (by decide) (by decide)
        (.gap (by decide +kernel : Decimal.readFloat? "-nan" = some Decimal.notANumber)
          (by decide +kernel))
    have rows : List.Forall₂ (fun row line => PrintsRow row.1 row.2 line)
        [(1698408000, [some 1.5]), (1698408060, [none])] _ := .cons number (.cons gap .nil)
    exact (readFetched_exact broken printed).1 names rows (by simp)
  · have broken : Broken (Text.lines lateText) lateText.toList := broken_iff.2 rfl
    have printed : (Text.lines lateText).filter (fun line => !line.all Text.isBlank) =
        ["usage".toList, "9223372036854775808: 1.5".toList] := by
      decide +kernel
    -- The stamp does not fit a word.
    have notRow : ¬IsRow (Text.dropEndWhile Text.isBlank "9223372036854775808: 1.5".toList) := by
      intro isRow
      obtain ⟨row, read⟩ := exists_fetchedRow?_of_isRow isRow
      have unread : fetchedRow?
          (Text.dropEndWhile Text.isBlank "9223372036854775808: 1.5".toList) = none := by
        decide +kernel
      rw [unread] at read
      cases read
    obtain ⟨line, member, -, refused⟩ := (readFetched_exact broken printed).2
      ⟨_, List.mem_singleton_self _, notRow⟩
    rw [List.mem_singleton.1 member] at refused
    rw [refused]
    decide +kernel

end SeriesQuery.Rrd
