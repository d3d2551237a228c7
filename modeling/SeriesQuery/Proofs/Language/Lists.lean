import SeriesQuery.Proofs.Language.Words

/-!
Readers of lists take the written forms of lists. What may follow an item, and a list, is told by
the first character after any gap.
-/

set_option autoImplicit false

namespace SeriesQuery.Language

open Grammar

variable {α : Type}

/-! ## What follows -/

/-- After any gap the text is at its end or starts with one of some characters. -/
def Follows (heads : List Char) (text : List Char) : Prop :=
  skipGap text = [] ∨ Starts heads (skipGap text)

theorem follows_mem {form : Form} {heads ends : List Char} (opens : Opens form heads)
    (noGap : ∀ c ∈ heads, Text.isGap c = false) (subset : heads ⊆ ends) {text : List Char}
    (written : text ∈ blanks * form) (rest : List Char) : Follows ends (text ++ rest) := by
  obtain ⟨found, foundWritten, read⟩ := skipGap_mem opens noGap written rest
  right
  rw [read]
  exact ((opens found foundWritten).append rest).mono subset

theorem Follows.mono {heads more text : List Char} (follows : Follows heads text)
    (subset : heads ⊆ more) : Follows more text :=
  follows.imp_right fun starts => starts.mono subset

theorem Follows.stops {heads text : List Char} {p : Char → Bool} (follows : Follows heads text)
    (free : CaseFree p) (none : ∀ c ∈ gapHeads ++ heads, p c = false) : Stops p text := by
  cases text with
  | nil => exact stops_nil p
  | cons c rest =>
    cases gap : Text.isGap c with
    | true =>
      apply stops_cons
      rw [← free]
      exact none _ (List.mem_append_left _ (toLower_mem_gapHeads gap))
    | false =>
      have same : skipGap (c :: rest) = c :: rest := skipGap_of_stops (stops_cons gap rest)
      rcases follows with ended | starts
      · rw [same] at ended
        cases ended
      · rw [same] at starts
        exact starts.stops free fun d member => none d (List.mem_append_right _ member)

theorem Follows.keyword_eq_none {c : Char} {word heads text : List Char}
    (follows : Follows heads text) (missing : c.toLower ∉ heads) :
    keyword (c :: word) (skipGap text) = none := by
  rcases follows with ended | starts
  · rw [ended]
    rfl
  · exact keyword_eq_none_of_starts starts missing

theorem Follows.char_eq_none {c : Char} {heads text : List Char} (follows : Follows heads text)
    (missing : c.toLower ∉ heads) : char c (skipGap text) = none := by
  rcases follows with ended | starts
  · rw [ended]
    rfl
  · exact char_eq_none_of_starts starts missing

theorem gap_bind_eq_none {β : Type} {reader : List Char → Option β} {text : List Char}
    (absent : reader (skipGap text) = none) : (gap text).bind reader = none := by
  cases text with
  | nil => rfl
  | cons c rest =>
    simp only [gap]
    split
    · next isGap =>
      have same : skipGap (c :: rest) = skipGap rest := by simp [skipGap, isGap]
      rw [same] at absent
      exact absent
    · rfl

/-! ## Repetition -/

section
variable {form : α → Form} {follow next : List Char → Prop}

theorem next_append (ended : ∀ rest, follow rest → next rest)
    (between : ∀ item, ∀ text ∈ form item, ∀ rest, next (text ++ rest)) {items : List α}
    {text : List Char} (written : text ∈ (items.map form).prod) {rest : List Char}
    (follows : follow rest) : next (text ++ rest) := by
  cases items with
  | nil =>
    rw [show text = [] from written]
    exact ended rest follows
  | cons item others =>
    rw [List.map_cons, List.prod_cons] at written
    obtain ⟨found, foundWritten, more, -, rfl⟩ := Language.mem_mul.1 written
    rw [List.append_assoc]
    exact between item found foundWritten (more ++ rest)

theorem repeated_append {reader : Reader α} {items : List α}
    (reads : ∀ item ∈ items, Reads reader (form item) item next)
    (final : ∀ rest, follow rest → reader rest = none) (ended : ∀ rest, follow rest → next rest)
    (between : ∀ item, ∀ text ∈ form item, ∀ rest, next (text ++ rest))
    (nonempty : ∀ item, [] ∉ form item) {text : List Char} (written : text ∈ (items.map form).prod)
    {rest : List Char} (follows : follow rest) : repeated reader (text ++ rest) = (items, rest) := by
  induction items generalizing text with
  | nil =>
    rw [show text = [] from written, List.nil_append, repeated, final rest follows]
  | cons item others ih =>
    rw [List.map_cons, List.prod_cons] at written
    obtain ⟨first, firstWritten, remaining, remainingWritten, rfl⟩ := Language.mem_mul.1 written
    have read := reads item List.mem_cons_self first firstWritten _
      (next_append ended between remainingWritten follows)
    have othersRead := ih (fun other member => reads other (List.mem_cons_of_mem _ member))
      remainingWritten
    -- The loop goes on only where something was taken.
    have shorter : (remaining ++ rest).length < (first ++ (remaining ++ rest)).length := by
      cases first with
      | nil => exact absurd firstWritten (nonempty item)
      | cons c tail =>
        simp only [List.length_append, List.length_cons]
        omega
    rw [List.append_assoc, repeated, read]
    simp only [if_pos shorter, othersRead]

end

/-! ## Commas -/

/-- What ends a list: a parenthesis or the first letter of a clause. -/
def listEnds : List Char := [')', 'f', 'w', 'g', 'h', 'o', 'l']

def itemEnds : List Char := ',' :: listEnds

theorem Follows.endsNumber {rest : List Char} (follows : Follows itemEnds rest) :
    EndsNumber rest :=
  follows.stops caseFree_isNumeric (by decide)

def commaItem (item : Reader α) : Reader α := fun text => do
  let rest ← char ',' (skipGap text)
  item (skipGap rest)

theorem opens_comma : Opens (exactly ",") [','] := opens_exactly ⟨_, _, rfl, by decide⟩

theorem follows_comma {form : Form} {text : List Char} (written : text ∈ commaForm form)
    (rest : List Char) : Follows itemEnds (text ++ rest) := by
  rw [commaForm, mul_assoc, mul_assoc] at written
  exact follows_mem (opens_comma.mul _) (by decide) (by decide) written rest

theorem reads_commaItem {item : Reader α} {form : Form} {a : α} {next : List Char → Prop}
    {heads : List Char} (reads : Reads item form a next) (opens : Opens form heads)
    (noGap : ∀ c ∈ heads, Text.isGap c = false) :
    Reads (commaItem item) (commaForm form) a next := by
  intro text written rest follows
  simp only [commaForm, mul_assoc] at written
  obtain ⟨_, written, beforeRead⟩ := skipGap_mem (opens_comma.mul _) (by decide) written rest
  obtain ⟨_, written, commaRead⟩ := char_mem (c := ',') rfl written rest
  obtain ⟨_, written, afterRead⟩ := skipGap_mem opens noGap written rest
  simp only [commaItem, beforeRead, commaRead, afterRead, Option.bind_eq_bind, Option.bind_some]
  exact reads _ written rest follows

theorem commaItem_eq_none {item : Reader α} {rest : List Char} (follows : Follows listEnds rest) :
    commaItem item rest = none := by
  have absent : char ',' (skipGap rest) = none := follows.char_eq_none (by decide)
  simp only [commaItem, absent]
  rfl

theorem nil_notMem_commaForm (form : Form) : [] ∉ commaForm form := by
  intro written
  simp only [commaForm, mul_assoc, Language.mem_mul (l := blanks),
    Language.mem_mul (l := exactly ",")] at written
  obtain ⟨before, -, _, ⟨comma, commaWritten, rest, -, rfl⟩, nil⟩ := written
  rw [show comma = [','] from commaWritten] at nil
  simp at nil

theorem commaList_eq_bind (item : Reader α) (text : List Char) :
    commaList item text = (item text).bind fun found =>
      let others := repeated (commaItem item) found.2
      some (found.1 :: others.1, others.2) := rfl

theorem reads_commaList {item : Reader α} {form : α → Form} {heads : List Char} {items : List α}
    (reads : ∀ a ∈ items, Reads item (form a) a (Follows itemEnds))
    (opens : ∀ a, Opens (form a) heads) (noGap : ∀ c ∈ heads, Text.isGap c = false) :
    Reads (commaList item) (listed form items) items (Follows listEnds) := by
  intro text written rest follows
  cases items with
  | nil => exact absurd written (Language.notMem_zero text)
  | cons first others =>
    obtain ⟨head, headWritten, tail, tailWritten, rfl⟩ := Language.mem_mul.1 written
    have ended : ∀ rest, Follows listEnds rest → Follows itemEnds rest :=
      fun _ follows => follows.mono (List.subset_cons_self _ _)
    have between : ∀ a, ∀ text ∈ commaForm (form a), ∀ rest, Follows itemEnds (text ++ rest) :=
      fun _ _ written => follows_comma written
    have read := reads first List.mem_cons_self head headWritten _
      (next_append ended between tailWritten follows)
    have itemRead : ∀ a ∈ others,
        Reads (commaItem item) (commaForm (form a)) a (Follows itemEnds) := fun a member =>
      reads_commaItem (reads a (List.mem_cons_of_mem _ member)) (opens a) noGap
    have othersRead := repeated_append itemRead (fun _ => commaItem_eq_none) ended between
      (fun a => nil_notMem_commaForm (form a)) tailWritten follows
    rw [List.append_assoc]
    rw [commaList_eq_bind, read, Option.bind_some, othersRead]

end SeriesQuery.Language
