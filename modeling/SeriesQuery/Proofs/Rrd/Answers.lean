import SeriesQuery.Rrd.Session

/-!
What a child prints about one line, and what its session makes of that. A child in order prints any
lines and then exactly one that ends the command, or breaks off. The main statement is that nothing
of such an answer is left for the next command to read.
-/

set_option autoImplicit false

namespace SeriesQuery.Rrd

/-! ## Lines -/

/-- A line that ends no command. -/
structure Plain (line : List Char) : Prop where
  unbroken : '\n' ∉ line
  noSuccess : ¬successMark <+: line
  noError : ¬errorMark <+: line

/-- A line that ends a command. -/
structure Sentinel (line : List Char) : Prop where
  unbroken : '\n' ∉ line
  marked : successMark <+: line ∨ errorMark <+: line

/-- Both marks are known by their first letters. -/
theorem plain_cons {c : Char} {line : List Char} (unbroken : '\n' ∉ c :: line)
    (noSuccess : c ≠ 'O') (noError : c ≠ 'E') : Plain (c :: line) := by
  refine ⟨unbroken, fun starts => ?_, fun starts => ?_⟩
  · have starts : 'O' :: "K u:".toList <+: c :: line := starts
    exact noSuccess (List.cons_prefix_cons.1 starts).1.symm
  · have starts : 'E' :: "RROR: ".toList <+: c :: line := starts
    exact noError (List.cons_prefix_cons.1 starts).1.symm

def ended (line : List Char) : List Char := line ++ ['\n']

def written (lines : List (List Char)) : List Char := lines.flatMap ended

@[simp] theorem written_nil : written [] = [] := rfl

@[simp] theorem written_cons (line : List Char) (lines : List (List Char)) :
    written (line :: lines) = ended line ++ written lines := rfl

@[simp] theorem written_append (lines more : List (List Char)) :
    written (lines ++ more) = written lines ++ written more := by
  simp [written]

theorem keptLines_ended (fails : Bool) {line : List Char} (unbroken : '\n' ∉ line)
    (rest : List Char) :
    keptLines fails (ended line ++ rest) = ended line :: keptLines fails rest := by
  induction line with
  | nil => rfl
  | cons c line ih =>
    have ⟨other, unbroken⟩ := List.ne_and_not_mem_of_not_mem_cons unbroken
    have rest := ih unbroken
    simp only [ended, List.cons_append] at rest ⊢
    rw [keptLines, rest]
    exact fun same => other same.symm

theorem keptLines_written (fails : Bool) {lines : List (List Char)}
    (plain : ∀ line ∈ lines, Plain line) (rest : List Char) :
    keptLines fails (written lines ++ rest) = lines.map ended ++ keptLines fails rest := by
  induction lines with
  | nil => rfl
  | cons line lines ih =>
    have ⟨first, others⟩ := List.forall_mem_cons.1 plain
    rw [written_cons, List.append_assoc, keptLines_ended fails first.unbroken, ih others]
    rfl

/-- What stands behind the last newline is a line too, unless it is empty. -/
theorem keptLines_unbroken {rest : List Char} (unbroken : '\n' ∉ rest) (printed : rest ≠ []) :
    keptLines false rest = [rest] := by
  induction rest with
  | nil => exact absurd rfl printed
  | cons c rest ih =>
    have ⟨other, unbroken⟩ := List.ne_and_not_mem_of_not_mem_cons unbroken
    rw [keptLines]
    · by_cases empty : rest = []
      · subst empty
        rfl
      · rw [ih unbroken empty]
    · exact fun same => other same.symm

/-- Where reading fails, nothing is made of what stands behind the last newline. -/
theorem keptLines_unbroken_fails {rest : List Char} (unbroken : '\n' ∉ rest) :
    keptLines true rest = [] := by
  induction rest with
  | nil => rfl
  | cons c rest ih =>
    have ⟨other, unbroken⟩ := List.ne_and_not_mem_of_not_mem_cons unbroken
    rw [keptLines, ih unbroken]
    · rfl
    · exact fun same => other same.symm

/-! ## Reading up to the line that ends a command -/

theorem prefix_of_prefix_ended {mark line : List Char} (unbroken : '\n' ∉ mark)
    (starts : mark <+: ended line) : mark <+: line := by
  rcases List.prefix_concat_iff.1 starts with same | starts
  · -- The mark would be the whole line, newline and all.
    exact absurd (same ▸ List.mem_append_right line List.mem_cons_self) unbroken
  · exact starts

theorem prefix_ended {mark line : List Char} (starts : mark <+: line) : mark <+: ended line :=
  starts.trans (List.prefix_append line ['\n'])

theorem Plain.noSuccess_ended {line : List Char} (plain : Plain line) :
    ¬successMark <+: ended line :=
  fun starts => plain.noSuccess (prefix_of_prefix_ended (by decide) starts)

theorem Plain.noError_ended {line : List Char} (plain : Plain line) : ¬errorMark <+: ended line :=
  fun starts => plain.noError (prefix_of_prefix_ended (by decide) starts)

/-- The lines before the one that ends a command are its output. -/
def Outcome.after (line : List Char) : Outcome → Outcome
  | .output text => .output (line ++ text)
  | other => other

@[simp] theorem Outcome.after_nil (outcome : Outcome) : outcome.after [] = outcome := by
  cases outcome <;> rfl

theorem Outcome.after_after (first second : List Char) (outcome : Outcome) :
    (outcome.after second).after first = outcome.after (first ++ second) := by
  cases outcome <;> simp [Outcome.after]

theorem exchange_other {line : List Char} (noSuccess : ¬successMark <+: line)
    (noError : ¬errorMark <+: line) (fault? : Option String) (rest : List (List Char)) :
    exchange fault? (line :: rest) =
      ((exchange fault? rest).1.after line, (exchange fault? rest).2) := by
  rw [exchange, if_neg (mt List.isPrefixOf_iff_prefix.1 noSuccess),
    if_neg (mt List.isPrefixOf_iff_prefix.1 noError)]
  obtain ⟨outcome, left⟩ := exchange fault? rest
  cases outcome <;> rfl

theorem exchange_plains {lines : List (List Char)} (plain : ∀ line ∈ lines, Plain line)
    (fault? : Option String) (rest : List (List Char)) :
    exchange fault? (lines.map ended ++ rest) =
      ((exchange fault? rest).1.after (written lines), (exchange fault? rest).2) := by
  induction lines with
  | nil => simp
  | cons line lines ih =>
    have ⟨first, others⟩ := List.forall_mem_cons.1 plain
    rw [List.map_cons, List.cons_append, exchange_other first.noSuccess_ended first.noError_ended,
      ih others, Outcome.after_after, written_cons]

theorem exchange_success {line : List Char} (success : successMark <+: line)
    (fault? : Option String) (rest : List (List Char)) :
    exchange fault? (line :: rest) = (.output [], rest) := by
  rw [exchange, if_pos (List.isPrefixOf_iff_prefix.2 success)]

theorem not_success_of_error {line : List Char} (error : errorMark <+: line) :
    ¬successMark <+: line := by
  rintro ⟨rest, same⟩
  obtain ⟨more, rfl⟩ := error
  have first : some 'O' = some 'E' := congrArg List.head? same
  exact absurd first (by decide)

theorem exchange_error {line : List Char} (error : errorMark <+: line) (fault? : Option String)
    (rest : List (List Char)) :
    exchange fault? (line :: rest) = (.refusal line, rest) := by
  rw [exchange, if_neg (mt List.isPrefixOf_iff_prefix.1 (not_success_of_error error)),
    if_pos (List.isPrefixOf_iff_prefix.2 error)]

/-! ## Answers -/

/-- The answer has these lines, none of which ends a command, and then the last one, which lacks its
newline where the child ended in it. -/
structure Answer.Shows (answer : Answer) (lines : List (List Char)) (last : List Char) : Prop where
  plain : ∀ line ∈ lines, Plain line
  unbroken : '\n' ∉ last
  text : answer.text = written (lines ++ [last]) ∨
    answer.fault? = none ∧ answer.text = written lines ++ last

/-- How a child in order answers one line. -/
inductive Answer.Orderly : Answer → Prop where
  | finished (lines : List (List Char)) (last : List Char) (fault? : Option String)
      (plain : ∀ line ∈ lines, Plain line) (sentinel : Sentinel last) :
      Orderly ⟨written (lines ++ [last]), fault?⟩
  /-- It exits, or reading fails, before a line that ends the command is complete. -/
  | brokenOff (lines : List (List Char)) (rest : List Char) (fault? : Option String)
      (plain : ∀ line ∈ lines, Plain line) (unbroken : '\n' ∉ rest) :
      Orderly ⟨written lines ++ rest, fault?⟩

/-- What a session that has nothing else to read makes of an answer. -/
def conclude (answer : Answer) : Except Failure String × Session :=
  match exchange answer.fault? (keptLines answer.fault?.isSome answer.text) with
  | (.output text, rest) => (.ok (String.ofList text), .holding rest.flatten)
  | (.refusal line, rest) =>
    (.error (.ofMessage (String.ofList line)), .holding rest.flatten)
  | (.exited, _) => (.error (.pipe .exited), ⟨.stopped, none⟩)
  | (.fault reason, _) => (.error (.system reason), ⟨.notStarted, none⟩)

/-- A marked last line stands alone behind the others, with its newline or without it. -/
theorem keptLines_of_shows {answer : Answer} {lines : List (List Char)} {last mark : List Char}
    (shows : answer.Shows lines last) (marked : mark <+: last) (visible : mark ≠ []) :
    ∃ kept, mark <+: kept ∧ (kept = last ∨ kept = ended last) ∧
      keptLines answer.fault?.isSome answer.text = lines.map ended ++ [kept] := by
  have printed : last ≠ [] := fun empty => visible (List.prefix_nil.1 (empty ▸ marked))
  rcases shows.text with whole | ⟨sound, cut⟩
  · refine ⟨ended last, prefix_ended marked, .inr rfl, ?_⟩
    have line := keptLines_ended answer.fault?.isSome shows.unbroken []
    rw [whole, written_append, keptLines_written _ shows.plain, written_cons, written_nil, line]
    rfl
  · refine ⟨last, marked, .inl rfl, ?_⟩
    rw [sound, cut, Option.isSome_none, keptLines_written _ shows.plain,
      keptLines_unbroken shows.unbroken printed]

theorem conclude_success {answer : Answer} {lines : List (List Char)} {last : List Char}
    (shows : answer.Shows lines last) (success : successMark <+: last) :
    conclude answer = (.ok (String.ofList (written lines)), .holding []) := by
  obtain ⟨kept, starts, -, lined⟩ := keptLines_of_shows shows success (by decide)
  rw [conclude, lined, exchange_plains shows.plain, exchange_success starts]
  simp [Outcome.after]

theorem trimChars_concat {c : Char} (blank : Text.isBlank c = true) (line : List Char) :
    Text.trimChars (line ++ [c]) = Text.trimChars line := by
  rw [Text.trimChars, Text.trimChars, List.dropWhile_append]
  by_cases empty : line.dropWhile Text.isBlank = []
  · simp [empty, blank]
  · simp [Text.dropEndWhile, empty, blank]

/-- White space at the end of a message, such as a newline, tells nothing. -/
theorem ofMessage_concat {c : Char} (blank : Text.isBlank c = true) (line : List Char) :
    Failure.ofMessage (String.ofList (line ++ [c])) = Failure.ofMessage (String.ofList line) := by
  simp only [Failure.ofMessage, String.toList_ofList, trimChars_concat blank]

theorem conclude_error {answer : Answer} {lines : List (List Char)} {last : List Char}
    (shows : answer.Shows lines last) (error : errorMark <+: last) :
    conclude answer = (.error (.ofMessage (String.ofList last)), .holding []) := by
  obtain ⟨kept, starts, form, lined⟩ := keptLines_of_shows shows error (by decide)
  have told : Failure.ofMessage (String.ofList kept) = Failure.ofMessage (String.ofList last) := by
    rcases form with rfl | rfl
    · rfl
    · exact ofMessage_concat (by decide) last
  rw [conclude, lined, exchange_plains shows.plain, exchange_error starts]
  simp [Outcome.after, told]

/-- What comes of a command and of the session after an answer. In no case is anything left to
read. -/
inductive Concluded (answer : Answer) : Except Failure String × Session → Prop where
  | output {lines : List (List Char)} {last : List Char} (shows : answer.Shows lines last)
      (success : successMark <+: last) :
      Concluded answer (.ok (String.ofList (written lines)), .holding [])
  | refusal {lines : List (List Char)} {last : List Char} (shows : answer.Shows lines last)
      (error : errorMark <+: last) :
      Concluded answer (.error (.ofMessage (String.ofList last)), .holding [])
  | exited : Concluded answer (.error (.pipe .exited), ⟨.stopped, none⟩)
  | fault (reason : String) : Concluded answer (.error (.system reason), ⟨.notStarted, none⟩)

theorem concluded_of_marked {answer : Answer} {lines : List (List Char)} {last : List Char}
    (shows : answer.Shows lines last) (marked : successMark <+: last ∨ errorMark <+: last) :
    Concluded answer (conclude answer) := by
  rcases marked with success | error
  · rw [conclude_success shows success]
    exact .output shows success
  · rw [conclude_error shows error]
    exact .refusal shows error

theorem after_exchange_nil (fault? : Option String) (text : List Char) :
    (exchange fault? []).1.after text = (exchange fault? []).1 := by
  cases fault? <;> rfl

theorem concluded_of_fault {lines : List (List Char)} (plain : ∀ line ∈ lines, Plain line)
    {rest : List Char} (unbroken : '\n' ∉ rest) (reason : String) :
    Concluded ⟨written lines ++ rest, some reason⟩ (conclude ⟨written lines ++ rest, some reason⟩) := by
  rw [conclude, Option.isSome_some, keptLines_written _ plain, keptLines_unbroken_fails unbroken,
    exchange_plains plain, after_exchange_nil]
  exact .fault reason

theorem concluded_of_plain {lines : List (List Char)} (plain : ∀ line ∈ lines, Plain line)
    {rest : List Char} (cut : Plain rest) :
    Concluded ⟨written lines ++ rest, none⟩ (conclude ⟨written lines ++ rest, none⟩) := by
  have rests : exchange none (keptLines false rest) = exchange none [] := by
    by_cases empty : rest = []
    · rw [empty, keptLines]
    · rw [keptLines_unbroken cut.unbroken empty, exchange_other cut.noSuccess cut.noError,
        after_exchange_nil]
  rw [conclude, Option.isSome_none, keptLines_written _ plain, exchange_plains plain, rests,
    after_exchange_nil]
  exact .exited

theorem Answer.Orderly.concluded {answer : Answer} (orderly : answer.Orderly) :
    Concluded answer (conclude answer) := by
  cases orderly with
  | finished lines last fault? plain sentinel =>
    exact concluded_of_marked ⟨plain, sentinel.unbroken, .inl rfl⟩ sentinel.marked
  | brokenOff lines rest fault? plain unbroken =>
    cases fault? with
    | some reason => exact concluded_of_fault plain unbroken reason
    | none =>
      -- A mark counts even where its line lacks the newline.
      by_cases marked : successMark <+: rest ∨ errorMark <+: rest
      · exact concluded_of_marked ⟨plain, unbroken, .inr ⟨rfl, rfl⟩⟩ marked
      · have ⟨noSuccess, noError⟩ := not_or.1 marked
        exact concluded_of_plain plain ⟨unbroken, noSuccess, noError⟩

end SeriesQuery.Rrd
