import SeriesQuery.Proofs.Text.Escapes
import SeriesQuery.Text.Pattern

/-!
Regular expressions of characters, anchors, groups and alternatives: how they are read, and which
texts they match as a whole. A group of escaped texts between the anchors matches these texts and
nothing else.
-/

set_option autoImplicit false

namespace SeriesQuery.Text

inductive Pattern where
  | empty
  | char (c : Char)
  /-- The start of the text. -/
  | start
  /-- The end of the text. -/
  | finish
  | sequence (first second : Pattern)
  | either (first second : Pattern)
  deriving Repr, DecidableEq

/-! ## Matching -/

/-- A place in a text, with what stands behind it. -/
structure Spot where
  atStart : Bool
  rest : List Char
  deriving Repr, DecidableEq

namespace Pattern

/-- The places up to which a pattern matches from a place on. -/
def ends : Pattern → Spot → List Spot
  | .empty, spot => [spot]
  | .char c, ⟨_, d :: rest⟩ => if c = d then [⟨false, rest⟩] else []
  | .char _, ⟨_, []⟩ => []
  | .start, spot => if spot.atStart then [spot] else []
  | .finish, spot => if spot.rest.isEmpty then [spot] else []
  | .sequence first second, spot => (first.ends spot).flatMap second.ends
  | .either first second, spot => first.ends spot ++ second.ends spot

def accepts (pattern : Pattern) (text : String) : Bool :=
  (pattern.ends ⟨true, text.toList⟩).any (·.rest.isEmpty)

/-- The pattern matches from a place on and leaves this much of the text. -/
def Leaves (pattern : Pattern) (spot : Spot) (tail : List Char) : Prop :=
  ∃ place ∈ pattern.ends spot, place.rest = tail

def followedBy (pattern : Pattern) (text : List Char) : Pattern :=
  text.foldl (fun pattern c => .sequence pattern (.char c)) pattern

def anchored (pattern : Pattern) : Pattern :=
  .sequence (.sequence (.sequence .empty .start) pattern) .finish

variable {pattern first second : Pattern} {spot : Spot} {text tail : List Char}

theorem accepts_iff {text : String} :
    pattern.accepts text = true ↔ pattern.Leaves ⟨true, text.toList⟩ [] := by
  simp [accepts, Leaves]

theorem leaves_empty : empty.Leaves spot tail ↔ spot.rest = tail := by
  simp [Leaves, ends]

theorem leaves_either :
    (either first second).Leaves spot tail ↔ first.Leaves spot tail ∨ second.Leaves spot tail := by
  simp only [Leaves, ends, List.mem_append, or_and_right, exists_or]

theorem leaves_char {c : Char} : (char c).Leaves spot tail ↔ spot.rest = c :: tail := by
  obtain ⟨atStart, rest⟩ := spot
  cases rest with
  | nil => simp [Leaves, ends]
  | cons d rest =>
    by_cases same : c = d
    · simp [Leaves, ends, same]
    · simp [Leaves, ends, same, Ne.symm same]

theorem leaves_sequence :
    (sequence first second).Leaves spot tail ↔
      ∃ place ∈ first.ends spot, second.Leaves place tail := by
  simp only [Leaves, ends, List.mem_flatMap]
  constructor
  · rintro ⟨last, ⟨place, reached, next⟩, left⟩
    exact ⟨place, reached, last, next, left⟩
  · rintro ⟨place, reached, last, next, left⟩
    exact ⟨last, ⟨place, reached, next⟩, left⟩

theorem leaves_followedBy :
    (pattern.followedBy text).Leaves spot tail ↔ pattern.Leaves spot (text ++ tail) := by
  induction text generalizing pattern with
  | nil => rfl
  | cons c text ih =>
    have step : (sequence pattern (char c)).Leaves spot (text ++ tail) ↔
        pattern.Leaves spot (c :: (text ++ tail)) := by
      simp only [leaves_sequence, leaves_char]
      rfl
    exact ih.trans step

theorem leaves_characters : (empty.followedBy text).Leaves spot [] ↔ spot.rest = text := by
  rw [leaves_followedBy, leaves_empty, List.append_nil]

theorem accepts_anchored {text : String} :
    pattern.anchored.accepts text = true ↔ pattern.Leaves ⟨true, text.toList⟩ [] := by
  rw [accepts_iff]
  simp [anchored, Leaves, ends]

end Pattern

/-! ## Reading -/

/-- Characters that do not stand for themselves without a backslash. -/
def reserved : List Char :=
  ['\\', '.', '+', '*', '?', '(', ')', '|', '[', ']', '\x7b', '\x7d', '^', '$']

/-- Behind a backslash, letters and digits have meanings of their own. -/
def isEscapable (c : Char) : Bool := c.toNat < 128 && !c.isAlphanum

/-- An alternation that is being read: the branches before the last bar, and the one behind it. -/
structure Branches where
  complete? : Option Pattern
  current : Pattern
  deriving Repr, DecidableEq

namespace Branches

def new : Branches := ⟨none, .empty⟩

def pattern (branches : Branches) : Pattern :=
  match branches.complete? with
  | none => branches.current
  | some complete => .either complete branches.current

def add (branches : Branches) (pattern : Pattern) : Branches :=
  { branches with current := .sequence branches.current pattern }

def spell (branches : Branches) (text : List Char) : Branches :=
  { branches with current := branches.current.followedBy text }

def next (branches : Branches) : Branches := ⟨some branches.pattern, .empty⟩

end Branches

/-- Reads on inside the groups that are open. A group is opened as one that captures nothing;
classes, repetitions, and letters behind a backslash are not read. -/
def readPattern (opened : List Branches) (branches : Branches) : List Char → Option Pattern
  | [] => if opened.isEmpty then some branches.pattern else none
  | '\\' :: c :: rest =>
    if isEscapable c then readPattern opened (branches.add (.char c)) rest else none
  | '(' :: '?' :: ':' :: rest => readPattern (branches :: opened) .new rest
  | ')' :: rest =>
    match opened with
    | [] => none
    | outer :: opened => readPattern opened (outer.add branches.pattern) rest
  | '|' :: rest => readPattern opened branches.next rest
  | '^' :: rest => readPattern opened (branches.add .start) rest
  | '$' :: rest => readPattern opened (branches.add .finish) rest
  | c :: rest =>
    if c ∈ reserved then none else readPattern opened (branches.add (.char c)) rest

def pattern? (text : String) : Option Pattern := readPattern [] .new text.toList

variable {opened : List Branches} {branches : Branches}

theorem isEscapable_of_isPatternSign {c : Char} (sign : isPatternSign c = true) :
    isEscapable c = true := by
  simp only [isPatternSign, Bool.or_eq_true, beq_iff_eq] at sign
  casesm* _ ∨ _
  all_goals
    subst c
    rfl

theorem readPattern_plain {c : Char} (plain : c ∉ reserved) (rest : List Char) :
    readPattern opened branches (c :: rest) =
      readPattern opened (branches.add (.char c)) rest := by
  have other {sign : Char} (member : sign ∈ reserved) : c ≠ sign :=
    fun same => plain (same ▸ member)
  rw [readPattern]
  · exact if_neg plain
  · exact fun _ _ same => absurd same (other (by decide))
  · exact fun _ same => absurd same (other (by decide))
  · exact other (by decide)
  · exact other (by decide)
  · exact other (by decide)
  · exact other (by decide)

theorem readPattern_literalChar (c : Char) (rest : List Char) :
    readPattern opened branches (literalChar c ++ rest) =
      readPattern opened (branches.add (.char c)) rest := by
  have signs : ∀ c ∈ reserved, isPatternSign c = true := by decide
  unfold literalChar
  split
  · next sign => exact if_pos (isEscapable_of_isPatternSign sign)
  · next plain => exact readPattern_plain (fun member => plain (signs c member)) rest

theorem readPattern_literals (text rest : List Char) :
    readPattern opened branches (text.flatMap literalChar ++ rest) =
      readPattern opened (branches.spell text) rest := by
  induction text generalizing branches with
  | nil => rfl
  | cons c text ih =>
    rw [List.flatMap_cons, List.append_assoc, readPattern_literalChar, ih]
    rfl

def Branches.spellEach (branches : Branches) (members : List String) : Branches :=
  members.foldl (fun branches member => branches.next.spell member.toList) branches

theorem readPattern_alternatives (members : List String) (rest : List Char) :
    readPattern opened branches
        ((members.flatMap fun member => '|' :: (literalPattern member).toList) ++ rest) =
      readPattern opened (branches.spellEach members) rest := by
  induction members generalizing branches with
  | nil => rfl
  | cons member members ih =>
    rw [List.flatMap_cons, List.append_assoc, List.cons_append, readPattern, literalPattern,
      String.toList_ofList, readPattern_literals, ih]
    rfl

theorem leaves_spellEach {members : List String} {spot : Spot} :
    (branches.spellEach members).pattern.Leaves spot [] ↔
      branches.pattern.Leaves spot [] ∨ ∃ member ∈ members, spot.rest = member.toList := by
  induction members generalizing branches with
  | nil => simp [Branches.spellEach]
  | cons member members ih =>
    have step : (branches.next.spell member.toList).pattern.Leaves spot [] ↔
        branches.pattern.Leaves spot [] ∨ spot.rest = member.toList :=
      Pattern.leaves_either.trans (or_congr_right Pattern.leaves_characters)
    rw [List.exists_mem_cons_iff, ← or_assoc, ← step]
    exact ih

/-! ## Groups of texts -/

def oneOf (first : String) (others : List String) : Pattern :=
  ((Branches.new.spell first.toList).spellEach others).pattern

theorem leaves_oneOf {first : String} {others : List String} {spot : Spot} :
    (oneOf first others).Leaves spot [] ↔
      ∃ member ∈ first :: others, spot.rest = member.toList := by
  rw [List.exists_mem_cons_iff]
  exact leaves_spellEach.trans (or_congr_left Pattern.leaves_characters)

theorem readPattern_group (first : String) (others : List String) (rest : List Char) :
    readPattern opened branches ("(?:".toList ++
        (("|".intercalate ((first :: others).map literalPattern)).toList ++ ')' :: rest)) =
      readPattern opened (branches.add (oneOf first others)) rest := by
  have body : ("|".intercalate ((first :: others).map literalPattern)).toList =
      first.toList.flatMap literalChar ++
        others.flatMap fun member => '|' :: (literalPattern member).toList := by
    rw [List.map_cons, toList_intercalate_cons, List.flatMap_map, literalPattern,
      String.toList_ofList]
    rfl
  have inside (text : List Char) : readPattern opened branches ("(?:".toList ++ text) =
      readPattern (branches :: opened) .new text := by
    change readPattern opened branches ('(' :: '?' :: ':' :: text) = _
    rw [readPattern]
  rw [inside, body, List.append_assoc, readPattern_literals, readPattern_alternatives, readPattern]
  rfl

end SeriesQuery.Text
