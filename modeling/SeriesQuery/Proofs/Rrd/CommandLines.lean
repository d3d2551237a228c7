import Mathlib.Data.List.Basic
import SeriesQuery.Proofs.Text.Escapes
import SeriesQuery.Rrd.Command

/-!
Lines of commands read back. Single spaces divide the arguments; one that starts with a double quote
goes on to the next double quote without a backslash before it. A line gives the arguments that a
single run is called with, unless a backslash comes to stand before the quote that ends an argument,
or an argument that needs no quotes starts with one.
-/

set_option autoImplicit false

namespace SeriesQuery.Rrd

/-! ## Reading -/

/-- Where a reader stands in an argument. -/
inductive LinePlace where
  | start
  | plain
  | quoted
  /-- Behind the quote that ends an argument. -/
  | closed
  deriving Repr, DecidableEq

def grow (text : List Char) (arguments : List (List Char)) : List (List Char) :=
  arguments.modifyHead (text ++ ·)

def readArguments : LinePlace → List Char → Option (List (List Char))
  | .quoted, [] => none
  | .quoted, '\\' :: '"' :: rest => (readArguments .quoted rest).map (grow ['"'])
  | .quoted, '"' :: rest => readArguments .closed rest
  | .quoted, c :: rest => (readArguments .quoted rest).map (grow [c])
  | _, [] => some [[]]
  | _, ' ' :: rest => (readArguments .start rest).map ([] :: ·)
  | .start, '"' :: rest => readArguments .quoted rest
  | .closed, _ :: _ => none
  | _, c :: rest => (readArguments .plain rest).map (grow [c])

def readLine? (line : String) : Option (List String) :=
  (readArguments .start line.toList).map (·.map String.ofList)

theorem grow_nil : grow [] = id := by
  funext arguments
  cases arguments <;> rfl

theorem map_grow_grow (first last : List Char) (read : Option (List (List Char))) :
    (read.map (grow last)).map (grow first) = read.map (grow (first ++ last)) := by
  rw [Option.map_map]
  congr 1
  funext arguments
  cases arguments <;> simp [grow]

theorem map_grow_eq_some_iff {text argument : List Char} {others : List (List Char)}
    {read : Option (List (List Char))} :
    read.map (grow text) = some (argument :: others) ↔
      ∃ rest, read = some (rest :: others) ∧ text ++ rest = argument := by
  rcases read with - | - | ⟨rest, others'⟩
  · simp
  · simp [grow]
  · simp only [grow, Option.map_some, List.modifyHead_cons, Option.some.injEq, List.cons.injEq]
    constructor
    · rintro ⟨same, rfl⟩
      exact ⟨rest, ⟨rfl, rfl⟩, same⟩
    · rintro ⟨_, ⟨rfl, rfl⟩, same⟩
      exact ⟨same, rfl⟩

/-! ## Arguments -/

def NeedsQuotes (argument : String) : Prop :=
  argument = "" ∨ ∃ c ∈ argument.toList, Text.isBlank c = true

instance (argument : String) : Decidable (NeedsQuotes argument) :=
  decidable_of_iff (argument = "" ∨ argument.toList.any Text.isBlank = true)
    (or_congr_right List.any_eq_true)

/-- The argument is read back from its place in a line. -/
structure Restorable (argument : String) : Prop where
  noTail : NeedsQuotes argument → argument.toList.getLast? ≠ some '\\'
  noStart : ¬ NeedsQuotes argument → argument.toList.head? ≠ some '"'

theorem lineArgument_of_needsQuotes {argument : String} (needs : NeedsQuotes argument) :
    (lineArgument argument).toList = '"' :: (escaped (· == '"') argument.toList ++ ['"']) := by
  have test : (argument.isEmpty || argument.toList.any Text.isBlank) = true := by
    simpa [NeedsQuotes] using needs
  have each (c : Char) : (if c = '"' then ['\\', '"'] else [c]) =
      if c == '"' then ['\\', c] else [c] := by
    by_cases quote : c = '"' <;> simp [quote]
  rw [lineArgument, if_pos test]
  simp [escaped, each]

theorem lineArgument_of_not_needsQuotes {argument : String} (plain : ¬ NeedsQuotes argument) :
    lineArgument argument = argument := by
  have test : ¬ (argument.isEmpty || argument.toList.any Text.isBlank) = true := by
    simpa [NeedsQuotes] using plain
  rw [lineArgument, if_neg test]

theorem noSpace_of_not_needsQuotes {argument : String} (plain : ¬ NeedsQuotes argument) :
    ' ' ∉ argument.toList := fun member => plain (.inr ⟨' ', member, rfl⟩)

/-- What stands behind an argument: the end of the line, or a space. -/
inductive Ended : List Char → Prop where
  | line : Ended []
  | argument (rest : List Char) : Ended (' ' :: rest)

theorem Ended.stops {rest : List Char} (ended : Ended rest) : Stops (· == '"') rest := by
  cases ended with
  | line => exact stops_nil _
  | argument rest => exact stops_cons rfl rest

/-! ## Between quotes -/

theorem readArguments_quoted_cons {c : Char} {rest : List Char} (noQuote : c ≠ '"')
    (apart : c = '\\' → Stops (· == '"') rest) :
    readArguments .quoted (c :: rest) = (readArguments .quoted rest).map (grow [c]) := by
  rw [readArguments]
  · rintro others rfl rfl
    cases apart rfl '"' others rfl
  · exact noQuote

theorem readArguments_escaped {text rest : List Char}
    (apart : text.getLast? = some '\\' → Stops (· == '"') rest) :
    readArguments .quoted (escaped (· == '"') text ++ rest) =
      (readArguments .quoted rest).map (grow text) := by
  induction text with
  | nil => rw [grow_nil, Option.map_id]; rfl
  | cons c text ih =>
    have apartRest : text.getLast? = some '\\' → Stops (· == '"') rest := fun last => apart (by
      rw [List.getLast?_cons, last]
      rfl)
    have step : readArguments .quoted (escaped (· == '"') (c :: text) ++ rest) =
        (readArguments .quoted (escaped (· == '"') text ++ rest)).map (grow [c]) := by
      by_cases quote : c = '"'
      · subst quote
        rfl
      · rw [escaped_cons (by simpa using quote), List.cons_append, readArguments_quoted_cons quote]
        rintro rfl
        exact stops_escaped_append rfl fun none => apart (by rw [none]; rfl)
    rw [step, ih apartRest, map_grow_grow]
    rfl

/-- Behind a last backslash the quote that ends an argument is read as one of its characters. -/
theorem readArguments_escaped_ne {argument rest : List Char} {others : List (List Char)}
    (tail : argument.getLast? = some '\\') :
    readArguments .quoted (escaped (· == '"') argument ++ '"' :: rest) ≠
      some (argument :: others) := by
  obtain ⟨front, rfl⟩ := List.getLast?_eq_some_iff.1 tail
  have written : escaped (· == '"') (front ++ ['\\']) ++ '"' :: rest =
      escaped (· == '"') front ++ '\\' :: '"' :: rest := by simp [escaped]
  have step : readArguments .quoted ('\\' :: '"' :: rest) =
      (readArguments .quoted rest).map (grow ['"']) := rfl
  rw [written, readArguments_escaped fun _ => stops_cons rfl _, step, map_grow_grow]
  intro read
  obtain ⟨more, -, same⟩ := map_grow_eq_some_iff.1 read
  simp at same

theorem eq_nil_of_closed {text first : List Char} {others : List (List Char)}
    (read : readArguments .closed text = some (first :: others)) : first = [] := by
  cases text with
  | nil => cases read; rfl
  | cons c rest =>
    by_cases space : c = ' '
    · subst space
      obtain ⟨_, -, same⟩ := Option.map_eq_some_iff.1 read
      exact (List.cons.inj same).1.symm
    · rw [readArguments] at read
      · cases read
      · exact space

theorem length_le_or_mem_of_quoted {argument rest first : List Char} {others : List (List Char)}
    (noSpace : ' ' ∉ argument) (ended : Ended rest)
    (read : readArguments .quoted (argument ++ rest) = some (first :: others)) :
    first.length ≤ argument.length ∨ ' ' ∈ first := by
  -- One or two characters are read as one, so that the recursion is on the length and not on the
  -- argument itself.
  have step {c : Char} {text : List Char} (shorter : text.length < argument.length)
      (noSpace : ' ' ∉ text)
      (read : (readArguments .quoted (text ++ rest)).map (grow [c]) = some (first :: others)) :
      first.length ≤ argument.length ∨ ' ' ∈ first := by
    obtain ⟨more, readMore, rfl⟩ := map_grow_eq_some_iff.1 read
    rcases length_le_or_mem_of_quoted noSpace ended readMore with less | beyond
    · exact .inl (by simp only [List.length_append, List.length_singleton]; omega)
    · exact .inr (List.mem_append_right _ beyond)
  cases argument with
  | nil =>
    cases ended with
    | line => cases read
    | argument rest =>
      obtain ⟨more, -, rfl⟩ := map_grow_eq_some_iff.1 read
      exact .inr List.mem_cons_self
  | cons c argument =>
    rw [List.mem_cons, not_or] at noSpace
    by_cases quote : c = '"'
    · subst quote
      rw [eq_nil_of_closed read]
      exact .inl (Nat.zero_le _)
    · by_cases apart : c = '\\' → Stops (· == '"') (argument ++ rest)
      · rw [List.cons_append, readArguments_quoted_cons quote apart] at read
        exact step (Nat.lt_succ_self _) noSpace.2 read
      · obtain ⟨rfl, quoteNext⟩ := Classical.not_imp.1 apart
        cases argument with
        | nil => exact (quoteNext ended.stops).elim
        | cons d argument =>
          by_cases quote : d = '"'
          · subst quote
            rw [List.mem_cons, not_or] at noSpace
            exact step (by simp only [List.length_cons]; omega) noSpace.2.2 read
          · exact (quoteNext (stops_cons (by simpa using quote) _)).elim
termination_by argument.length

/-! ## One argument -/

theorem readArguments_open_cons {place : LinePlace} {c : Char} {rest : List Char}
    (isOpen : place = .start ∨ place = .plain) (noSpace : c ≠ ' ')
    (noStart : place = .start → c ≠ '"') :
    readArguments place (c :: rest) = (readArguments .plain rest).map (grow [c]) := by
  rcases isOpen with rfl | rfl
  · rw [readArguments]
    all_goals simp [noSpace, noStart rfl]
  · rw [readArguments]
    all_goals simp [noSpace]

theorem readArguments_plain {text rest : List Char} (noSpace : ' ' ∉ text) (ended : Ended rest) :
    readArguments .plain (text ++ rest) = (readArguments .closed rest).map (grow text) := by
  induction text with
  | nil =>
    rw [grow_nil, Option.map_id, List.nil_append, id]
    cases ended <;> rfl
  | cons c text ih =>
    rw [List.mem_cons, not_or] at noSpace
    rw [List.cons_append, readArguments_open_cons (.inr rfl) (Ne.symm noSpace.1) nofun, ih noSpace.2,
      map_grow_grow]
    rfl

theorem readArguments_start {argument : String} {rest : List Char}
    (restorable : Restorable argument) (ended : Ended rest) :
    readArguments .start ((lineArgument argument).toList ++ rest) =
      (readArguments .closed rest).map (grow argument.toList) := by
  by_cases needs : NeedsQuotes argument
  · rw [lineArgument_of_needsQuotes needs, List.cons_append, List.append_assoc]
    exact readArguments_escaped fun last => absurd last (restorable.noTail needs)
  · rw [lineArgument_of_not_needsQuotes needs]
    have noSpace := noSpace_of_not_needsQuotes needs
    cases written : argument.toList with
    | nil => exact (needs (.inl (String.toList_eq_nil_iff.1 written))).elim
    | cons c text =>
      have noStart : c ≠ '"' := by simpa [written] using restorable.noStart needs
      rw [written, List.mem_cons, not_or] at noSpace
      rw [List.cons_append, readArguments_open_cons (.inl rfl) (Ne.symm noSpace.1) fun _ => noStart,
        readArguments_plain noSpace.2 ended, map_grow_grow]
      rfl

theorem readArguments_start_ne {argument : String} {rest : List Char} {others : List (List Char)}
    (lost : ¬ Restorable argument) (ended : Ended rest) :
    readArguments .start ((lineArgument argument).toList ++ rest) ≠
      some (argument.toList :: others) := by
  by_cases needs : NeedsQuotes argument
  · have tail : argument.toList.getLast? = some '\\' :=
      by_contra fun other => lost ⟨fun _ => other, fun plain => absurd needs plain⟩
    rw [lineArgument_of_needsQuotes needs, List.cons_append, List.append_assoc]
    exact readArguments_escaped_ne tail
  · -- Read as quoted, the argument has lost its first character and has no other for it.
    have start : argument.toList.head? = some '"' :=
      by_contra fun other => lost ⟨fun quoted => absurd quoted needs, fun _ => other⟩
    rw [lineArgument_of_not_needsQuotes needs]
    have noSpace := noSpace_of_not_needsQuotes needs
    obtain ⟨text, written⟩ := List.head?_eq_some_iff.1 start
    rw [written, List.mem_cons, not_or] at noSpace
    rw [written, List.cons_append]
    intro read
    rcases length_le_or_mem_of_quoted noSpace.2 ended read with longer | beyond
    · exact absurd longer (Nat.not_succ_le_self _)
    · exact (List.mem_cons.1 beyond).elim noSpace.1 noSpace.2

theorem readArguments_start_iff {argument : String} {rest : List Char}
    {others : List (List Char)} (ended : Ended rest) :
    readArguments .start ((lineArgument argument).toList ++ rest) =
        some (argument.toList :: others) ↔
      Restorable argument ∧ readArguments .closed rest = some ([] :: others) := by
  by_cases restorable : Restorable argument
  · rw [readArguments_start restorable ended, map_grow_eq_some_iff]
    simp [restorable]
  · exact iff_of_false (readArguments_start_ne restorable ended)
      fun ⟨isRestorable, _⟩ => restorable isRestorable

/-! ## Lines -/

def lineTail (arguments : List String) : List Char :=
  arguments.flatMap fun argument => ' ' :: (lineArgument argument).toList

theorem ended_lineTail : (arguments : List String) → Ended (lineTail arguments)
  | [] => .line
  | _ :: _ => .argument _

theorem toList_line (first : String) (arguments : List String) :
    (" ".intercalate ((first :: arguments).map lineArgument)).toList =
      (lineArgument first).toList ++ lineTail arguments := by
  rw [List.map_cons, toList_intercalate_cons, List.flatMap_map]
  rfl

theorem readArguments_lineTail_iff (arguments : List String) :
    readArguments .closed (lineTail arguments) = some ([] :: arguments.map String.toList) ↔
      ∀ argument ∈ arguments, Restorable argument := by
  induction arguments with
  | nil => exact iff_of_true rfl (List.forall_mem_nil _)
  | cons argument arguments ih =>
    have step : readArguments .closed (lineTail (argument :: arguments)) =
        (readArguments .start ((lineArgument argument).toList ++ lineTail arguments)).map
          ([] :: ·) := rfl
    rw [step, List.forall_mem_cons, ← ih, ← readArguments_start_iff (ended_lineTail arguments)]
    simp

theorem readLine?_eq_some_iff {line : String} {arguments : List String} :
    readLine? line = some arguments ↔
      readArguments .start line.toList = some (arguments.map String.toList) := by
  have back (texts : List (List Char)) :
      texts.map String.ofList = arguments ↔ texts = arguments.map String.toList := by
    constructor
    · rintro rfl
      simp
    · rintro rfl
      simp
  simp only [readLine?, Option.map_eq_some_iff, back]
  exact ⟨fun ⟨_, read, same⟩ => same ▸ read, fun read => ⟨_, read, rfl⟩⟩

theorem lineFeed_mem_lineArgument {argument : String} :
    '\n' ∈ (lineArgument argument).toList ↔ '\n' ∈ argument.toList := by
  by_cases needs : NeedsQuotes argument
  · have kept : '\n' ∈ escaped (· == '"') argument.toList ↔ '\n' ∈ argument.toList :=
      mem_escaped (by decide)
    rw [lineArgument_of_needsQuotes needs]
    simp [kept]
  · rw [lineArgument_of_not_needsQuotes needs]

theorem lineFeed_mem_lineTail {arguments : List String} :
    '\n' ∈ lineTail arguments ↔ ∃ argument ∈ arguments, '\n' ∈ argument.toList := by
  simp [lineTail, List.mem_flatMap, lineFeed_mem_lineArgument]

namespace Command

/-- A line has a line feed where an argument has one, and is read as the arguments of a single run
where all of them are restorable. -/
theorem line_readable_iff (command : Command) (daemon? : Option String) :
    ('\n' ∈ (command.line daemon?).toList ↔
      ∃ argument ∈ command.arguments daemon?, '\n' ∈ argument.toList) ∧
    (readLine? (command.line daemon?) = some (command.arguments daemon?) ↔
      ∀ argument ∈ command.arguments daemon?, Restorable argument) := by
  have starts : ∃ others, command.arguments daemon? = command.name :: others := ⟨_, rfl⟩
  obtain ⟨others, written⟩ := starts
  rw [readLine?_eq_some_iff, Command.line, written, toList_line]
  constructor
  · rw [List.mem_append, lineFeed_mem_lineArgument, lineFeed_mem_lineTail,
      List.exists_mem_cons_iff]
  · rw [List.map_cons, readArguments_start_iff (ended_lineTail others),
      readArguments_lineTail_iff, List.forall_mem_cons]

/-- A path with a line feed, one with a backslash before the last quote, and one that starts with a
quote. -/
example :
    '\n' ∈ ((info "/data/cpu__host=a\nb.rrd").line none).toList ∧
      readLine? ((info "/my data\\").line none) = none ∧
      readLine? ((info "\"cpu\"").line none) = some ["info", "cpu"] := by
  decide +kernel

end Command

end SeriesQuery.Rrd
