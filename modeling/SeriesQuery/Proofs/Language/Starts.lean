import SeriesQuery.Proofs.Language.Written
import SeriesQuery.Proofs.Text.Stretches

/-!
How written forms start. Readers choose between alternatives by the first characters, so what a
form starts with, letter case aside, decides which reader takes it and where a reader stops.
-/

set_option autoImplicit false

namespace SeriesQuery.Language

open Grammar

/-! ## Letter case -/

theorem toLower_eq_or (c : Char) :
    c.toLower = c ∨ 65 ≤ c.toNat ∧ c.toNat ≤ 90 ∧ c.toLower.toNat = c.toNat + 32 := by
  unfold Char.toLower
  split
  · next upper =>
    obtain ⟨least, most⟩ := upper
    have low : 65 ≤ c.toNat := least
    have high : c.toNat ≤ 90 := most
    refine .inr ⟨low, high, ?_⟩
    change (c.val + ('a'.val - 'A'.val)).toNat = c.toNat + 32
    rw [UInt32.toNat_add]
    change (c.toNat + 32) % 2 ^ 32 = c.toNat + 32
    omega
  · exact .inl rfl

/-- A class of characters that has both cases of a letter or neither. -/
def CaseFree (p : Char → Bool) : Prop := ∀ c : Char, p c.toLower = p c

theorem caseFree_of_no_letter {p : Char → Bool}
    (noLetter : ∀ c, p c = true → c.toNat < 65 ∨ 90 < c.toNat ∧ c.toNat < 97 ∨ 122 < c.toNat) :
    CaseFree p := by
  intro c
  rcases toLower_eq_or c with same | ⟨low, high, lower⟩
  · rw [same]
  · have upperOut : p c = false := by
      cases found : p c with
      | false => rfl
      | true => have := noLetter c found; omega
    have lowerOut : p c.toLower = false := by
      cases found : p c.toLower with
      | false => rfl
      | true => have := noLetter _ found; omega
    rw [upperOut, lowerOut]

theorem caseFree_isGap : CaseFree Text.isGap := by
  apply caseFree_of_no_letter
  intro c found
  simp only [Text.isGap, Bool.or_eq_true, beq_iff_eq] at found
  rcases found with ((rfl | rfl) | rfl) | rfl <;> decide

theorem caseFree_beq {d : Char}
    (noLetter : d.toNat < 65 ∨ 90 < d.toNat ∧ d.toNat < 97 ∨ 122 < d.toNat) :
    CaseFree (· == d) := by
  apply caseFree_of_no_letter
  intro c found
  rw [eq_of_beq found]
  exact noLetter

theorem toNat_of_isDigit {c : Char} (digit : c.isDigit = true) : 48 ≤ c.toNat ∧ c.toNat ≤ 57 := by
  simp only [Char.isDigit, Bool.and_eq_true, decide_eq_true_eq] at digit
  exact digit

theorem caseFree_isDigit : CaseFree Char.isDigit :=
  caseFree_of_no_letter fun _ digit => by have := toNat_of_isDigit digit; omega

theorem CaseFree.or {p q : Char → Bool} (first : CaseFree p) (second : CaseFree q) :
    CaseFree fun c => p c || q c := by
  intro c
  change (p c.toLower || q c.toLower) = (p c || q c)
  rw [first c, second c]

/-! ## First characters -/

/-- The text starts with one of some characters, in either case. -/
def Starts (heads : List Char) (text : List Char) : Prop :=
  ∃ c rest, text = c :: rest ∧ c.toLower ∈ heads

/-- Every text of the form starts with one of some characters. -/
def Opens (form : Form) (heads : List Char) : Prop := ∀ text ∈ form, Starts heads text

theorem Starts.append {heads text : List Char} (starts : Starts heads text) (rest : List Char) :
    Starts heads (text ++ rest) := by
  obtain ⟨c, others, rfl, found⟩ := starts
  exact ⟨c, others ++ rest, rfl, found⟩

theorem Starts.mono {heads more text : List Char} (starts : Starts heads text)
    (subset : heads ⊆ more) : Starts more text := by
  obtain ⟨c, others, rfl, found⟩ := starts
  exact ⟨c, others, rfl, subset found⟩

theorem Starts.stops {heads text : List Char} {p : Char → Bool} (starts : Starts heads text)
    (free : CaseFree p) (none : ∀ c ∈ heads, p c = false) : Stops p text := by
  obtain ⟨c, others, rfl, found⟩ := starts
  intro d rest same
  cases same
  rw [← free]
  exact none _ found

theorem Opens.mul {form : Form} {heads : List Char} (opens : Opens form heads) (next : Form) :
    Opens (form * next) heads := by
  intro text written
  obtain ⟨first, firstWritten, rest, -, rfl⟩ := Language.mem_mul.1 written
  exact (opens first firstWritten).append rest

theorem Opens.add {first second : Form} {heads others : List Char} (left : Opens first heads)
    (right : Opens second others) : Opens (first + second) (heads ++ others) := by
  intro text written
  rcases (Language.mem_add _ _ _).1 written with written | written
  · exact (left text written).mono (List.subset_append_left _ _)
  · exact (right text written).mono (List.subset_append_right _ _)

theorem opens_zero (heads : List Char) : Opens 0 heads := fun text written =>
  absurd written (Language.notMem_zero text)

theorem opens_exactly {word : String} {heads : List Char} (starts : Starts heads word.toList) :
    Opens (exactly word) heads := by
  intro text written
  rw [show text = word.toList from written]
  exact starts

theorem opens_spelled {word : String} {c : Char} {rest : List Char}
    (same : word.toList.map Char.toLower = c :: rest) : Opens (spelled word) [c] := by
  intro text written
  obtain ⟨d, others, rfl, lower, -⟩ := List.map_eq_cons_iff.1 (Eq.trans written same)
  exact ⟨d, others, rfl, lower ▸ List.mem_singleton_self _⟩

def gapHeads : List Char := [' ', '\t', '\r', '\n']

theorem toLower_mem_gapHeads {c : Char} (gap : Text.isGap c = true) : c.toLower ∈ gapHeads := by
  simp only [Text.isGap, Bool.or_eq_true, beq_iff_eq] at gap
  rcases gap with ((rfl | rfl) | rfl) | rfl <;> decide

theorem opens_space : Opens space gapHeads := by
  rintro text ⟨nonempty, gaps⟩
  cases text with
  | nil => exact absurd rfl nonempty
  | cons c rest => exact ⟨c, rest, rfl, toLower_mem_gapHeads (gaps c List.mem_cons_self)⟩

theorem Opens.blanks_mul {form : Form} {heads : List Char} (opens : Opens form heads) :
    Opens (blanks * form) (gapHeads ++ heads) := by
  intro text written
  obtain ⟨gaps, gapsWritten, rest, restWritten, rfl⟩ := Language.mem_mul.1 written
  cases gaps with
  | nil => exact (opens rest restWritten).mono (List.subset_append_right _ _)
  | cons c others =>
    have found := toLower_mem_gapHeads (gapsWritten c List.mem_cons_self)
    exact ⟨c, others ++ rest, rfl, List.mem_append_left _ found⟩

theorem opens_nameForm (name : String) : Opens (nameForm name) ['"'] := by
  rintro text ⟨-, -, rfl⟩
  exact ⟨'"', name.toList ++ ['"'], rfl, by decide⟩

theorem opens_quotedForm (content : String) : Opens (quotedForm content) ['\''] := by
  rintro text ⟨-, rfl⟩
  exact ⟨'\'', content.toList ++ ['\''], rfl, by decide⟩

/-! ## Numbers and literals -/

def digitHeads : List Char := "0123456789".toList

theorem toLower_mem_digitHeads {c : Char} (digit : c.isDigit = true) : c.toLower ∈ digitHeads := by
  have all : ∀ n : Fin 10, (Char.ofNat (48 + n)).toLower ∈ digitHeads := by decide
  have bounds := toNat_of_isDigit digit
  have found := all ⟨c.toNat - 48, by omega⟩
  have same : Char.ofNat (48 + (c.toNat - 48)) = c := by
    rw [show 48 + (c.toNat - 48) = c.toNat by omega]
    exact Char.ofNat_toNat c
  simpa only [same] using found

theorem Digits.starts (digits : Digits) : Starts digitHeads digits.text := by
  cases same : digits.text with
  | nil => exact absurd same digits.nonempty
  | cons c rest =>
    have digit := digits.digits c (same ▸ List.mem_cons_self)
    exact ⟨c, rest, rfl, toLower_mem_digitHeads digit⟩

theorem Numeral.starts (numeral : Numeral) : Starts ('-' :: digitHeads) numeral.text := by
  unfold Numeral.text Numeral.signText
  rw [List.append_assoc]
  cases numeral.negative with
  | true => exact ⟨'-', _, rfl, by decide⟩
  | false =>
    exact (numeral.whole.starts.append _).mono (List.subset_cons_self _ _)

theorem opens_numberForm (value : Scalar) : Opens (numberForm value) ('-' :: digitHeads) := by
  rintro text ⟨numeral, -, rfl⟩
  exact numeral.starts

/-- What a literal starts with: a quote, a sign, a digit or the first letter of a word. -/
def literalHeads : List Char := '\'' :: 't' :: 'f' :: 'n' :: '-' :: digitHeads

theorem opens_literalForm (value : Scalar) : Opens (literalForm value) literalHeads := by
  intro text written
  cases value with
  | null => exact (opens_spelled rfl text written).mono (by decide)
  | bool value =>
    cases value with
    | true => exact (opens_spelled rfl text written).mono (by decide)
    | false => exact (opens_spelled rfl text written).mono (by decide)
  | integer value => exact (opens_numberForm _ text written).mono (by decide)
  | float value => exact (opens_numberForm _ text written).mono (by decide)
  | timestamp value => exact absurd written (Language.notMem_zero text)
  | string value => exact (opens_quotedForm _ text written).mono (by decide)

def operatorHeads : List Char := ['=', '!', '<', '>']

theorem opens_operatorForm (operator : Operator) : Opens (operatorForm operator) operatorHeads := by
  intro text written
  cases operator with
  | equal | notEqual =>
    rcases (Language.mem_add _ _ _).1 written with written | written
    · exact opens_exactly ⟨_, _, rfl, by decide⟩ text written
    · exact opens_exactly ⟨_, _, rfl, by decide⟩ text written
  | greater | greaterOrEqual | less | lessOrEqual =>
    exact opens_exactly ⟨_, _, rfl, by decide⟩ text written
  | isIn | notIn | between | regex | notRegex =>
    exact absurd written (Language.notMem_zero text)

end SeriesQuery.Language
