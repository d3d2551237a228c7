import SeriesQuery.Text.Quoted

/-!
Reading text between double quotes. A backslash takes the next character for what it means there;
the first quote without a backslash before it is the last character of the text.
-/

set_option autoImplicit false

namespace SeriesQuery.Text

/-- Which characters stand for themselves between quotes, and which for what behind a backslash. -/
structure Quoting where
  bare : Char → Bool
  meaning? : Char → Option Char

/-- Characters behind a backslash, and what they stand for there. -/
def lineEscapes : List (Char × Char) :=
  [('\\', '\\'), ('"', '"'), ('a', '\x07'), ('b', '\x08'), ('f', '\x0c'), ('n', '\n'), ('r', '\r'),
    ('t', '\t'), ('v', '\x0b')]

/-- Texts on one line, with letters for control characters. Characters written by their number are
not read. -/
def Quoting.onLine : Quoting where
  bare c := c != '\n'
  meaning? c := lineEscapes.lookup c

/-- Every character stands for itself, behind a backslash too. -/
def Quoting.verbatim : Quoting where
  bare _ := true
  meaning? c := some c

/-- Every character stands for itself, but an n behind a backslash for a line feed. -/
def Quoting.lineFeeds : Quoting where
  bare _ := true
  meaning? c := some (if c = 'n' then '\n' else c)

/-- What stands before the closing quote, and what follows it. -/
def readContent (quoting : Quoting) : List Char → Option (List Char × List Char)
  | [] => none
  | '"' :: rest => some ([], rest)
  | '\\' :: rest =>
    match rest with
    | [] => none
    | c :: rest => do
      let meaning ← quoting.meaning? c
      let (content, rest) ← readContent quoting rest
      return (meaning :: content, rest)
  | c :: rest =>
    if quoting.bare c then (readContent quoting rest).map (Prod.map (c :: ·) id) else none

/-- The content of a text in quotes at the start, and what follows it. -/
def readQuoted (quoting : Quoting) : List Char → Option (List Char × List Char)
  | '"' :: rest => readContent quoting rest
  | _ => none

/-- A character is written so that it is read back whatever follows. -/
def Legible (quoting : Quoting) (escape : Char → List Char) : Prop :=
  ∀ c rest, readContent quoting (escape c ++ rest) =
    (readContent quoting rest).map (Prod.map (c :: ·) id)

section

variable {quoting : Quoting} {c : Char} {rest : List Char}

theorem readContent_bare (noQuote : c ≠ '"') (noSlash : c ≠ '\\') (bare : quoting.bare c = true) :
    readContent quoting (c :: rest) = (readContent quoting rest).map (Prod.map (c :: ·) id) := by
  rw [readContent, if_pos bare]
  · exact noQuote
  · exact noSlash

theorem readContent_escaped {meaning : Char} (means : quoting.meaning? c = some meaning) :
    readContent quoting ('\\' :: c :: rest) =
      (readContent quoting rest).map (Prod.map (meaning :: ·) id) := by
  rw [readContent, means]
  cases readContent quoting rest <;> rfl

theorem readContent_escapeQuote (slash : quoting.meaning? '\\' = some '\\')
    (quote : quoting.meaning? '"' = some '"') (bare : quoting.bare c = true) :
    readContent quoting (escapeQuote c ++ rest) =
      (readContent quoting rest).map (Prod.map (c :: ·) id) := by
  unfold escapeQuote
  split
  · next special =>
    rcases special with rfl | rfl
    · exact readContent_escaped slash
    · exact readContent_escaped quote
  · next plain =>
    obtain ⟨noSlash, noQuote⟩ := not_or.1 plain
    exact readContent_bare noQuote noSlash bare

/-- Where the closing quote has been read, nothing that is added behind the text changes it. -/
theorem readContent_append {text content : List Char}
    (read : readContent quoting text = some (content, rest)) (more : List Char) :
    readContent quoting (text ++ more) = some (content, rest ++ more) := by
  fun_induction readContent quoting text generalizing content with
  | case1 => cases read
  | case2 others =>
    cases read
    rfl
  | case3 => cases read
  | case4 c others ih =>
    obtain ⟨meaning, means, read⟩ := Option.bind_eq_some_iff.1 read
    obtain ⟨⟨inner, after⟩, found, same⟩ := Option.bind_eq_some_iff.1 read
    cases same
    rw [List.cons_append, List.cons_append, readContent_escaped means, ih found]
    rfl
  | case5 c others noQuote noSlash bare ih =>
    obtain ⟨⟨inner, after⟩, found, same⟩ := Option.map_eq_some_iff.1 read
    cases same
    rw [List.cons_append, readContent_bare noQuote noSlash bare, ih found]
    rfl
  | case6 => cases read

theorem readQuoted_append {text content : List Char}
    (read : readQuoted quoting text = some (content, rest)) (more : List Char) :
    readQuoted quoting (text ++ more) = some (content, rest ++ more) := by
  unfold readQuoted at read
  split at read
  · exact readContent_append read more
  · cases read

end

theorem legible_escapeQuoteAndLine : Legible .onLine escapeQuoteAndLine := by
  intro c rest
  unfold escapeQuoteAndLine
  split
  · next lineFeed =>
    subst lineFeed
    exact readContent_escaped rfl
  · next other => exact readContent_escapeQuote rfl rfl (bne_iff_ne.2 other)

theorem readContent_flatMap {quoting : Quoting} {escape : Char → List Char}
    (legible : Legible quoting escape) (content rest : List Char) :
    readContent quoting (content.flatMap escape ++ '"' :: rest) = some (content, rest) := by
  induction content with
  | nil => rfl
  | cons c others ih =>
    rw [List.flatMap_cons, List.append_assoc, legible, ih]
    rfl

/-- What is quoted legibly is read back, and nothing of what follows is taken. -/
theorem readQuoted_quotedBy {quoting : Quoting} {escape : Char → List Char}
    (legible : Legible quoting escape) (text : String) (rest : List Char) :
    readQuoted quoting ((quotedBy escape text).toList ++ rest) = some (text.toList, rest) := by
  rw [toList_quotedBy, List.cons_append, List.cons_append, List.append_assoc,
    List.singleton_append]
  exact readContent_flatMap legible text.toList rest

/-! ## Unique reading -/

/-- Texts can be read back from what is written for them, wherever that stands: before any rest the
text is read and the rest left, different texts are written differently, and what is written is over
at its last character and not before. -/
structure ReadBack (quoting : Quoting) (write : String → String) : Prop where
  reads : ∀ (text : String) (rest : List Char),
    readQuoted quoting ((write text).toList ++ rest) = some (text.toList, rest)
  injective : Function.Injective write
  whole : ∀ (text : String) (front : List Char), front <+: (write text).toList →
    front ≠ (write text).toList → readQuoted quoting front = none

theorem ReadBack.of_reads {quoting : Quoting} {write : String → String}
    (reads : ∀ (text : String) (rest : List Char),
      readQuoted quoting ((write text).toList ++ rest) = some (text.toList, rest)) :
    ReadBack quoting write where
  reads := reads
  injective first second same := by
    have read := reads first []
    rw [same, reads second []] at read
    exact String.toList_injective (Prod.mk.inj (Option.some.inj read)).1.symm
  whole text front leads shorter := by
    obtain ⟨others, joined⟩ := leads
    cases read : readQuoted quoting front with
    | none => rfl
    | some found =>
      -- a reading of the front goes on to one of the whole, which leaves nothing
      have read := readQuoted_append read others
      have all := reads text []
      rw [List.append_nil, ← joined, read] at all
      obtain ⟨-, nothing⟩ := List.append_eq_nil_iff.1 (Prod.mk.inj (Option.some.inj all)).2
      rw [nothing, List.append_nil] at joined
      exact absurd joined shorter

theorem legible_escapeQuote : Legible .verbatim escapeQuote :=
  fun _ _ => readContent_escapeQuote rfl rfl rfl

theorem legible_lineFeeds : Legible .lineFeeds escapeQuoteAndLine := by
  intro c rest
  unfold escapeQuoteAndLine
  split
  · next lineFeed =>
    subst lineFeed
    exact readContent_escaped rfl
  · exact readContent_escapeQuote rfl rfl rfl

def escapeOnly (special c : Char) : List Char := if c = special then ['\\', c] else [c]

/-- Quotes may be escaped in a second pass over the text, when the backslashes have been doubled. -/
theorem quoted_eq_replaced (text : String) :
    quoted text =
      "\"" ++ replaceEach (escapeOnly '"') (replaceEach (escapeOnly '\\') text) ++ "\"" := by
  have each (c : Char) : escapeQuote c = (escapeOnly '\\' c).flatMap (escapeOnly '"') := by
    by_cases slash : c = '\\'
    · subst slash
      rfl
    · by_cases quote : c = '"'
      · subst quote
        rfl
      · simp [escapeQuote, escapeOnly, slash, quote]
  apply String.toList_injective
  simp [quoted, quotedBy, List.flatMap_assoc, ← each]

/-- Texts between double quotes are read back in any context: those with quotes and backslashes
escaped, in one pass or in two, and those with letters for line feeds. -/
theorem quoted_readBack :
    ReadBack .verbatim quoted ∧ ReadBack .lineFeeds quotedLine ∧
      ∀ text, quoted text =
        "\"" ++ replaceEach (escapeOnly '"') (replaceEach (escapeOnly '\\') text) ++ "\"" :=
  ⟨.of_reads (readQuoted_quotedBy legible_escapeQuote),
    .of_reads (readQuoted_quotedBy legible_lineFeeds), quoted_eq_replaced⟩

/-- The passes do not commute: with the quotes first, the backslash before a quote is doubled, and
the text is over at the quote. -/
example : readQuoted .verbatim ("\"" ++ replaceEach (escapeOnly '\\')
    (replaceEach (escapeOnly '"') "a\"b") ++ "\"").toList = some (['a', '\\'], ['b', '"']) := by
  decide

end SeriesQuery.Text
