import SeriesQuery.Flux.Script
import SeriesQuery.Proofs.Text.Literals
import SeriesQuery.Proofs.Text.Stretches
import SeriesQuery.Proofs.Text.Unquoted

/-!
Tokens of scripts. A text between double quotes is one token, in which a backslash takes the next
character as it stands; words and operators go on as long as they can.
-/

set_option autoImplicit false

namespace SeriesQuery.Flux

inductive Token where
  | and
  | or
  | not
  | word (text : List Char)
  | text (content : List Char)
  | operator (text : List Char)
  | symbol (c : Char)
  deriving Repr, DecidableEq

/-- Names with what they are read from, and numbers. -/
def isWord (c : Char) : Bool := c.isAlphanum || c == '_' || c == '.' || c == '-'

def isOperator (c : Char) : Bool := c == '=' || c == '!' || c == '<' || c == '>' || c == '~'

def wordToken (word : List Char) : Token :=
  if word = ['a', 'n', 'd'] then .and
  else if word = ['o', 'r'] then .or
  else if word = ['n', 'o', 't'] then .not
  else .word word

/-- What stands before the closing quote, and what follows it. -/
def closed : List Char → Option (List Char × List Char)
  | [] => none
  | '"' :: rest => some ([], rest)
  | '\\' :: rest =>
    match rest with
    | [] => none
    | c :: rest => (closed rest).map fun (content, rest) => (c :: content, rest)
  | c :: rest => (closed rest).map fun (content, rest) => (c :: content, rest)

theorem append_of_closed {text content rest : List Char}
    (found : closed text = some (content, rest)) : ∃ front, front ≠ [] ∧ text = front ++ rest := by
  fun_induction closed text generalizing content with
  | case1 => cases found
  | case2 others => cases found; exact ⟨['"'], List.cons_ne_nil _ _, rfl⟩
  | case3 => cases found
  | case4 c others ih =>
    obtain ⟨⟨inner, after⟩, read, same⟩ := Option.map_eq_some_iff.1 found
    cases same
    obtain ⟨front, -, rfl⟩ := ih read
    exact ⟨'\\' :: c :: front, List.cons_ne_nil _ _, rfl⟩
  | case5 c others _ _ ih =>
    obtain ⟨⟨inner, after⟩, read, same⟩ := Option.map_eq_some_iff.1 found
    cases same
    obtain ⟨front, -, rfl⟩ := ih read
    exact ⟨c :: front, List.cons_ne_nil _ _, rfl⟩

theorem closed_eq (text : List Char) : closed text = Text.readContent .verbatim text := by
  fun_induction closed text with
  | case1 => rfl
  | case2 others => rfl
  | case3 => rfl
  | case4 c others ih =>
    rw [Text.readContent_escaped rfl, ih]
    rfl
  | case5 c others notQuote notSlash ih =>
    rw [Text.readContent_bare notQuote notSlash rfl, ih]
    rfl

theorem closed_append {text content rest : List Char} (found : closed text = some (content, rest))
    (more : List Char) : closed (text ++ more) = some (content, rest ++ more) := by
  rw [closed_eq] at found ⊢
  exact Text.readContent_append found more

theorem closed_quoted (content : List Char) (rest : List Char) :
    closed (content.flatMap Text.escapeQuote ++ '"' :: rest) = some (content, rest) := by
  rw [closed_eq]
  exact Text.readContent_flatMap Text.legible_escapeQuote content rest

def lex (text : List Char) : Option (List Token) :=
  match text with
  | [] => some []
  | c :: rest =>
    if Text.isGap c then lex rest
    else if c = '"' then
      match _found : closed rest with
      | some (content, after) => (lex after).map (.text content :: ·)
      | none => none
    else if isWord c then
      (lex (rest.dropWhile isWord)).map (wordToken (c :: rest.takeWhile isWord) :: ·)
    else if isOperator c then
      (lex (rest.dropWhile isOperator)).map (.operator (c :: rest.takeWhile isOperator) :: ·)
    else (lex rest).map (.symbol c :: ·)
  termination_by text.length
  decreasing_by
    · exact Nat.lt_succ_self _
    · obtain ⟨front, nonempty, rfl⟩ := append_of_closed _found
      have := List.length_pos_iff.2 nonempty
      simp only [List.length_cons, List.length_append]
      omega
    · exact Nat.lt_succ_of_le (List.dropWhile_sublist isWord).length_le
    · exact Nat.lt_succ_of_le (List.dropWhile_sublist isOperator).length_le
    · exact Nat.lt_succ_self _

/-! ## Tokens of a text in parts -/

/-- A character that goes on with a word or an operator. -/
def joins (c : Char) : Bool := isWord c || isOperator c

/-- No token that ends here goes on in this text. -/
def StartsApart (text : List Char) : Prop := Stops joins text

def EndsApart (text : List Char) : Prop := Stops joins text.reverse

instance (text : List Char) : Decidable (StartsApart text) :=
  inferInstanceAs (Decidable (Stops joins text))

instance (text : List Char) : Decidable (EndsApart text) :=
  inferInstanceAs (Decidable (Stops joins text.reverse))

theorem lex_nil : lex [] = some [] := by rw [lex]

theorem lex_gap {c : Char} (gap : Text.isGap c = true) (rest : List Char) :
    lex (c :: rest) = lex rest := by
  rw [lex, if_pos gap]

theorem lex_quote {rest content after : List Char} (found : closed rest = some (content, after)) :
    lex ('"' :: rest) = (lex after).map (.text content :: ·) := by
  rw [lex, if_neg (by decide), if_pos rfl]
  split
  · next same =>
    rw [found] at same
    cases same
    rfl
  · next same =>
    rw [found] at same
    cases same

theorem EndsApart.of_append {first last : List Char} (apart : EndsApart (first ++ last)) :
    EndsApart last := by
  unfold EndsApart at apart
  rw [List.reverse_append] at apart
  exact apart.of_append

theorem EndsApart.tail {c : Char} {rest : List Char} (apart : EndsApart (c :: rest)) :
    EndsApart rest := by
  rw [← List.singleton_append] at apart
  exact apart.of_append

theorem EndsApart.dropWhile {text : List Char} (apart : EndsApart text) (p : Char → Bool) :
    EndsApart (text.dropWhile p) := by
  rw [← List.takeWhile_append_dropWhile (p := p) (l := text)] at apart
  exact apart.of_append

/-- A stretch of words or operators at the end of a text needs a text that starts apart. -/
theorem over_of_apart {p : Char → Bool} (joining : ∀ c, p c = true → joins c = true) {c : Char}
    (first : p c = true) {rest more : List Char} (apart : EndsApart (c :: rest) ∨ StartsApart more) :
    rest.dropWhile p ≠ [] ∨ Stops p more := by
  rcases apart with ends | starts
  · left
    intro empty
    have all : ∀ d ∈ c :: rest, joins d = true := by
      intro d member
      rcases List.mem_cons.1 member with rfl | member
      · exact joining _ first
      · exact joining _ (List.dropWhile_eq_nil_iff.1 empty d member)
    cases same : (c :: rest).reverse with
    | nil => exact absurd (List.reverse_eq_nil_iff.1 same) (List.cons_ne_nil _ _)
    | cons d others =>
      have member : d ∈ c :: rest := List.mem_reverse.1 (same ▸ List.mem_cons_self)
      have out := ends d others same
      rw [all d member] at out
      cases out
  · exact .inr (starts.mono joining)

theorem lex_word {c : Char} (word : isWord c = true) (rest : List Char) :
    lex (c :: rest) =
      (lex (rest.dropWhile isWord)).map (wordToken (c :: rest.takeWhile isWord) :: ·) := by
  have noGap : Text.isGap c = false := by
    cases gap : Text.isGap c with
    | false => rfl
    | true =>
      simp only [Text.isGap, Bool.or_eq_true, beq_iff_eq] at gap
      rcases gap with ((rfl | rfl) | rfl) | rfl <;> cases word
  have noQuote : c ≠ '"' := by
    rintro rfl
    cases word
  rw [lex, noGap, if_neg (by decide), if_neg noQuote, if_pos word]

theorem lex_operator {c : Char} (operator : isOperator c = true) (rest : List Char) :
    lex (c :: rest) =
      (lex (rest.dropWhile isOperator)).map (.operator (c :: rest.takeWhile isOperator) :: ·) := by
  simp only [isOperator, Bool.or_eq_true, beq_iff_eq] at operator
  rcases operator with (((rfl | rfl) | rfl) | rfl) | rfl
  all_goals rw [lex, if_neg (by decide), if_neg (by decide), if_neg (by decide), if_pos (by decide)]

theorem lex_symbol {c : Char} (noGap : Text.isGap c = false) (noQuote : c ≠ '"')
    (apart : joins c = false) (rest : List Char) :
    lex (c :: rest) = (lex rest).map (.symbol c :: ·) := by
  simp only [joins, Bool.or_eq_false_iff] at apart
  rw [lex, noGap, if_neg (by decide), if_neg noQuote, apart.1, if_neg (by decide), apart.2,
    if_neg (by decide)]

theorem lex_append {text more : List Char} {tokens : List Token} (read : lex text = some tokens)
    (apart : EndsApart text ∨ StartsApart more) :
    lex (text ++ more) = (lex more).map (tokens ++ ·) := by
  have behind {first : Token} {others : List Token} :
      ((lex more).map (others ++ ·)).map (first :: ·) = (lex more).map (first :: others ++ ·) := by
    rw [Option.map_map]
    rfl
  -- By the tokens of the first part. Only its last token could go on in the second one, and `apart`
  -- is handed down to it.
  fun_induction lex text generalizing tokens with
  | case1 =>
    cases read
    simp
  | case2 c rest gap ih =>
    rw [List.cons_append, lex_gap gap]
    exact ih read (apart.imp_left EndsApart.tail)
  | case3 rest content after found _ ih =>
    obtain ⟨others, othersRead, rfl⟩ := Option.map_eq_some_iff.1 read
    have apart : EndsApart after ∨ StartsApart more := apart.imp_left fun ends => by
      obtain ⟨front, -, rfl⟩ := append_of_closed found
      exact ends.tail.of_append
    rw [List.cons_append, lex_quote (closed_append found more), ih othersRead apart, behind]
  | case4 => cases read
  | case5 c rest _ _ word ih =>
    obtain ⟨others, othersRead, rfl⟩ := Option.map_eq_some_iff.1 read
    have ended := over_of_apart (fun d found => by simp [joins, found]) word apart
    obtain ⟨taken, dropped⟩ := takeWhile_dropWhile_append ended
    rw [List.cons_append, lex_word word, taken, dropped,
      ih othersRead (apart.imp_left fun ends => ends.tail.dropWhile isWord), behind]
  | case6 c rest _ _ _ operator ih =>
    obtain ⟨others, othersRead, rfl⟩ := Option.map_eq_some_iff.1 read
    have ended := over_of_apart (fun d found => by simp [joins, found]) operator apart
    obtain ⟨taken, dropped⟩ := takeWhile_dropWhile_append ended
    rw [List.cons_append, lex_operator operator, taken, dropped,
      ih othersRead (apart.imp_left fun ends => ends.tail.dropWhile isOperator), behind]
  | case7 c rest gap quote word operator ih =>
    obtain ⟨others, othersRead, rfl⟩ := Option.map_eq_some_iff.1 read
    rw [List.cons_append, lex_symbol (by simpa using gap) quote (by simp [joins, word, operator]),
      ih othersRead (apart.imp_left EndsApart.tail), behind]

/-! ## Tokens of written texts -/

def Lexes (text : String) (tokens : List Token) : Prop := lex text.toList = some tokens

theorem Lexes.append {first last : String} {tokens others : List Token} (left : Lexes first tokens)
    (right : Lexes last others) (apart : EndsApart first.toList ∨ StartsApart last.toList) :
    Lexes (first ++ last) (tokens ++ others) := by
  unfold Lexes at left right ⊢
  rw [String.toList_append, lex_append left apart, right, Option.map_some]

structure Opening (text : String) (tokens : List Token) : Prop where
  ends : EndsApart text.toList
  lexes : Lexes text tokens

structure Closing (text : String) (tokens : List Token) : Prop where
  starts : StartsApart text.toList
  lexes : Lexes text tokens

/-- A text that holds other texts apart. -/
structure Glue (text : String) (tokens : List Token) : Prop
    extends Opening text tokens, Closing text tokens where
  nonempty : text.toList ≠ []

theorem Opening.append {first last : String} {tokens others : List Token}
    (opening : Opening first tokens) (right : Lexes last others) :
    Lexes (first ++ last) (tokens ++ others) :=
  opening.lexes.append right (.inl opening.ends)

theorem Lexes.close {first last : String} {tokens others : List Token} (left : Lexes first tokens)
    (closing : Closing last others) : Lexes (first ++ last) (tokens ++ others) :=
  left.append closing.lexes (.inr closing.starts)

theorem Glue.opening_append {text glue : String} {tokens gluing : List Token}
    (apart : Glue glue gluing) (left : Lexes text tokens) :
    Opening (text ++ glue) (tokens ++ gluing) where
  ends := by
    intro c rest same
    rw [String.toList_append, List.reverse_append] at same
    -- The last character is one of the glue, which is not empty.
    cases found : glue.toList.reverse with
    | nil => exact absurd (List.reverse_eq_nil_iff.1 found) apart.nonempty
    | cons d others =>
      rw [found, List.cons_append] at same
      cases same
      exact apart.ends c others found
  lexes := left.close apart.toClosing

theorem Lexes.glue {first between last : String} {tokens gluing others : List Token}
    (left : Lexes first tokens) (apart : Glue between gluing) (right : Lexes last others) :
    Lexes (first ++ between ++ last) (tokens ++ gluing ++ others) :=
  (apart.opening_append left).append right

theorem lexes_word {text : String} (nonempty : text.toList ≠ [])
    (all : ∀ c ∈ text.toList, isWord c = true) : Lexes text [wordToken text.toList] := by
  unfold Lexes
  cases same : text.toList with
  | nil => exact absurd same nonempty
  | cons c rest =>
    rw [same] at all
    have first := all c List.mem_cons_self
    have others : ∀ d ∈ rest, isWord d = true := fun d member => all d (List.mem_cons_of_mem c member)
    have taken : rest.takeWhile isWord = rest := List.takeWhile_eq_self_iff.2 others
    have dropped : rest.dropWhile isWord = [] := List.dropWhile_eq_nil_iff.2 others
    rw [lex_word first, taken, dropped, lex_nil, Option.map_some]

theorem lexes_quoted (text : String) : Lexes (Text.quoted text) [.text text.toList] := by
  unfold Lexes Text.quoted
  rw [Text.toList_quotedBy, List.cons_append, lex_quote (closed_quoted text.toList []), lex_nil,
    Option.map_some]

theorem lexes_intercalate {α : Type} {glue : String} {gluing : List Token} (apart : Glue glue gluing)
    {text : α → String} {tokens : α → List Token} {items : List α}
    (each : ∀ a ∈ items, Lexes (text a) (tokens a)) :
    Lexes (glue.intercalate (items.map text)) (gluing.intercalate (items.map tokens)) := by
  induction items with
  | nil => exact lex_nil
  | cons first others ih =>
    have head := each first List.mem_cons_self
    have tail := ih fun a member => each a (List.mem_cons_of_mem first member)
    cases others with
    | nil => simpa using head
    | cons second rest =>
      simp only [List.map_cons, String.intercalate_cons_cons, List.intercalate_cons_cons]
      exact head.glue apart tail

end SeriesQuery.Flux
