import SeriesQuery.Proofs.Json.Doubles

/-!
Compact JSON text is read back as the tree that it was written from. Only doubles keep no more than
their literal, which need not stand for the same double again.
-/

set_option autoImplicit false

namespace SeriesQuery.Json

/-! ## Trees of values -/

/-- The number that is read of a double, or null for one that is not finite. -/
def floatTree (value : Float) : Tree :=
  match readLiteral (floatText value).toList with
  | some (literal, _) => .number literal
  | none => .null

namespace Value

mutual

def tree : Value → Tree
  | .null => .null
  | .bool value => .bool value
  | .integer value => .number (integerLiteral value)
  | .float value => floatTree value
  | .string value => .string (some value)
  | .array items => .array (itemTrees items)
  | .object members => .object (memberTrees members)

def itemTrees : List Value → List Tree
  | [] => []
  | item :: rest => item.tree :: itemTrees rest

def memberTrees : List (String × Value) → List (Option String × Tree)
  | [] => []
  | (name, value) :: rest => (some name, value.tree) :: memberTrees rest

end

end Value

/-! ## Starts of values -/

theorem skipBlank_cons {c : Char} (solid : isBlank c = false) (text : List Char) :
    skipBlank (c :: text) = c :: text := by
  simp [skipBlank, solid]

theorem solid_of_digit {c : Char} (digit : c.isDigit = true) : isBlank c = false := by
  unfold isBlank
  simp only [Bool.or_eq_false_iff, beq_eq_false_iff_ne]
  refine ⟨⟨⟨?_, ?_⟩, ?_⟩, ?_⟩ <;> (rintro rfl; cases digit)

theorem readValue_digit {c : Char} (digit : c.isDigit = true) (fuel : Nat) (text : List Char) :
    readValue (fuel + 1) (c :: text) =
      (readLiteral (c :: text)).map fun (literal, rest) => (.number literal, rest) := by
  rw [readValue, skipBlank_cons (solid_of_digit digit)]
  split
  all_goals first
    | next same => rw [(List.cons.inj same).1] at digit; cases digit
    | rfl

theorem readValue_minus (fuel : Nat) (text : List Char) :
    readValue (fuel + 1) ('-' :: text) =
      (readLiteral ('-' :: text)).map fun (literal, rest) => (.number literal, rest) := by
  rw [readValue, skipBlank_cons (by decide)]
  rfl

theorem text_starts {literal : Literal} (formed : literal.WellFormed) :
    ∃ c more, literal.text = c :: more ∧ (c.isDigit = true ∨ c = '-') := by
  obtain ⟨c, others, start⟩ := List.exists_cons_of_ne_nil formed.whole.nonempty
  unfold Literal.text
  cases literal.negative with
  | true => exact ⟨'-', _, rfl, .inr rfl⟩
  | false =>
    rw [start]
    exact ⟨c, _, rfl, .inl (formed.whole.all c (by simp [start]))⟩

theorem readValue_literal {literal : Literal} (formed : literal.WellFormed) {rest : List Char}
    (stops : Stops isNumberPart rest) (fuel : Nat) :
    readValue (fuel + 1) (literal.text ++ rest) = some (.number literal, rest) := by
  have read := readLiteral_text formed stops
  obtain ⟨c, more, text, digit | rfl⟩ := text_starts formed
  · rw [text, List.cons_append] at read ⊢
    rw [readValue_digit digit, read]
    rfl
  · rw [text, List.cons_append] at read ⊢
    rw [readValue_minus, read]
    rfl

theorem floatTree_of_finite {value : Float} {literal : Literal} (formed : literal.WellFormed)
    (text : literal.text = (floatText value).toList) : floatTree value = .number literal := by
  have read := readLiteral_text formed (stops_nil isNumberPart)
  rw [List.append_nil, text] at read
  rw [floatTree, read]

theorem floatText_of_infinite {value : Float} (infinite : Decimal.isFinite value = false) :
    floatText value = "null" := by
  rw [floatText, infinite]
  rfl

theorem readValue_float (value : Float) {rest : List Char} (stops : Stops isNumberPart rest)
    (fuel : Nat) :
    readValue (fuel + 1) ((floatText value).toList ++ rest) = some (floatTree value, rest) := by
  cases finite : Decimal.isFinite value with
  | true =>
    obtain ⟨literal, -, formed, text, -⟩ := exists_literal_of_finite finite
    rw [← text, readValue_literal formed stops, floatTree_of_finite formed text]
  | false =>
    rw [floatTree, floatText_of_infinite finite]
    simp [readValue, skipBlank, isBlank]
    rfl

theorem compact_starts (value : Value) :
    ∃ c more, value.compact.toList = c :: more ∧ isBlank c = false ∧ c ≠ ']' := by
  have number {literal : Literal} (formed : literal.WellFormed) {text : String}
      (same : literal.text = text.toList) :
      ∃ c more, text.toList = c :: more ∧ isBlank c = false ∧ c ≠ ']' := by
    obtain ⟨c, more, start, digit | rfl⟩ := text_starts formed
    · exact ⟨c, more, same ▸ start, solid_of_digit digit, by rintro rfl; cases digit⟩
    · exact ⟨'-', more, same ▸ start, by decide, by decide⟩
  unfold Value.compact
  cases value with
  | null => exact ⟨'n', _, rfl, by decide, by decide⟩
  | bool value =>
    cases value with
    | true => exact ⟨'t', _, rfl, by decide, by decide⟩
    | false => exact ⟨'f', _, rfl, by decide, by decide⟩
  | integer value => exact number (wellFormed_integerLiteral value) (text_integerLiteral value)
  | float value =>
    cases finite : Decimal.isFinite value with
    | true =>
      obtain ⟨literal, -, formed, text, -⟩ := exists_literal_of_finite finite
      exact number formed text
    | false =>
      dsimp only
      rw [floatText_of_infinite finite]
      exact ⟨'n', _, rfl, by decide, by decide⟩
  | string value => exact ⟨'"', _, toList_stringText value, by decide, by decide⟩
  | array items => exact ⟨'[', _, by simp; rfl, by decide, by decide⟩
  | object members => exact ⟨'\x7b', _, by simp [braced]; rfl, by decide, by decide⟩

/-! ## Values -/

def joined (texts : List String) : List Char := (",".intercalate texts).toList

theorem joined_single (text : String) : joined [text] = text.toList := by
  simp [joined]

theorem joined_cons (text next : String) (texts : List String) :
    joined (text :: next :: texts) = text.toList ++ ',' :: joined (next :: texts) := by
  simp [joined, String.intercalate_cons_cons]

theorem toList_compact_array (items : List Value) :
    (Value.array items).compact.toList = '[' :: (joined (Value.compactItems items) ++ [']']) := by
  simp [Value.compact, joined]

theorem toList_compact_object (members : List (String × Value)) :
    (Value.object members).compact.toList =
      '\x7b' :: (joined (Value.compactMembers members) ++ ['\x7d']) := by
  simp [Value.compact, joined, braced]

section
variable {fuel : Nat} {text more rest : List Char} {item : Tree}

theorem readItems_last (read : readValue fuel (text ++ ']' :: rest) = some (item, ']' :: rest)) :
    readItems (fuel + 1) (text ++ ']' :: rest) = some ([item], rest) := by
  simp [readItems, read, skipBlank_cons (by decide : isBlank ']' = false)]

theorem readItems_more {items : List Tree}
    (read : readValue fuel (text ++ ',' :: more) = some (item, ',' :: more))
    (others : readItems fuel more = some (items, rest)) :
    readItems (fuel + 1) (text ++ ',' :: more) = some (item :: items, rest) := by
  simp [readItems, read, skipBlank_cons (by decide : isBlank ',' = false), others]

def memberText (name : String) (text : List Char) : List Char :=
  (stringText name).toList ++ ':' :: text

theorem memberText_append (name : String) (text more : List Char) :
    memberText name text ++ more = memberText name (text ++ more) := by
  simp [memberText]

theorem readMembers_last {name : String}
    (read : readValue fuel (text ++ '\x7d' :: rest) = some (item, '\x7d' :: rest)) :
    readMembers (fuel + 1) (memberText name text ++ '\x7d' :: rest) =
      some ([(some name, item)], rest) := by
  rw [memberText_append, memberText, toList_stringText]
  simp [readMembers, skipBlank_cons (by decide : isBlank '"' = false), readString_stringText,
    skipBlank_cons (by decide : isBlank ':' = false), read,
    skipBlank_cons (by decide : isBlank '\x7d' = false)]

theorem readMembers_more {name : String} {members : List (Option String × Tree)}
    (read : readValue fuel (text ++ ',' :: more) = some (item, ',' :: more))
    (others : readMembers fuel more = some (members, rest)) :
    readMembers (fuel + 1) (memberText name text ++ ',' :: more) =
      some ((some name, item) :: members, rest) := by
  rw [memberText_append, memberText, toList_stringText]
  simp [readMembers, skipBlank_cons (by decide : isBlank '"' = false), readString_stringText,
    skipBlank_cons (by decide : isBlank ':' = false), read,
    skipBlank_cons (by decide : isBlank ',' = false), others]

end

theorem toList_compactMember (name : String) (value : Value) :
    (stringText name ++ ":" ++ value.compact).toList = memberText name value.compact.toList := by
  simp [memberText]

theorem readValue_array {fuel : Nat} {text rest : List Char} {items : List Tree}
    (starts : ∃ c more, text = c :: more ∧ isBlank c = false ∧ c ≠ ']')
    (read : readItems fuel text = some (items, rest)) :
    readValue (fuel + 1) ('[' :: text) = some (.array items, rest) := by
  obtain ⟨c, more, rfl, solid, other⟩ := starts
  simp [readValue, skipBlank_cons (by decide : isBlank '[' = false), skipBlank_cons solid, other,
    read]

theorem readValue_object {fuel : Nat} {text rest : List Char}
    {members : List (Option String × Tree)} (starts : ∃ more, text = '"' :: more)
    (read : readMembers fuel text = some (members, rest)) :
    readValue (fuel + 1) ('\x7b' :: text) = some (.object members, rest) := by
  obtain ⟨more, rfl⟩ := starts
  simp [readValue, skipBlank_cons (by decide : isBlank '\x7b' = false),
    skipBlank_cons (by decide : isBlank '"' = false), read]

theorem joined_starts (item : Value) (items : List Value) (more : List Char) :
    ∃ c others, joined (Value.compactItems (item :: items)) ++ more = c :: others ∧
      isBlank c = false ∧ c ≠ ']' := by
  obtain ⟨c, others, text, solid, other⟩ := compact_starts item
  cases items with
  | nil => exact ⟨c, _, by rw [Value.compactItems, Value.compactItems, joined_single, text]; rfl,
      solid, other⟩
  | cons next items =>
    exact ⟨c, _, by rw [Value.compactItems, Value.compactItems, joined_cons, text]; rfl, solid,
      other⟩

theorem joined_starts_member (member : String × Value) (members : List (String × Value))
    (more : List Char) :
    ∃ others, joined (Value.compactMembers (member :: members)) ++ more = '"' :: others := by
  obtain ⟨name, value⟩ := member
  have text := toList_compactMember name value
  rw [memberText, toList_stringText] at text
  cases members with
  | nil => exact ⟨_, by rw [Value.compactMembers, Value.compactMembers, joined_single, text]; rfl⟩
  | cons next members =>
    exact ⟨_, by rw [Value.compactMembers, Value.compactMembers, joined_cons, text]; rfl⟩

theorem stops_closing (c : Char) (closes : c ∈ [',', ']', '\x7d']) (rest : List Char) :
    Stops isNumberPart (c :: rest) := by
  refine stops_cons ?_ rest
  revert c
  decide

theorem length_compact_pos (value : Value) : 0 < value.compact.toList.length := by
  obtain ⟨c, more, text, -⟩ := compact_starts value
  rw [text]
  exact Nat.succ_pos _

/-! ## Reading back -/

/-- With so much fuel, two units for each character, values are read back. -/
def ReadsValues (fuel : Nat) : Prop :=
  ∀ (value : Value) (rest : List Char), 2 * value.compact.toList.length ≤ fuel →
    Stops isNumberPart rest → readValue fuel (value.compact.toList ++ rest) =
      some (value.tree, rest)

def ReadsItems (fuel : Nat) : Prop :=
  ∀ (items : List Value) (rest : List Char), items ≠ [] →
    2 * (joined (Value.compactItems items)).length + 1 ≤ fuel →
      readItems fuel (joined (Value.compactItems items) ++ ']' :: rest) =
        some (Value.itemTrees items, rest)

def ReadsMembers (fuel : Nat) : Prop :=
  ∀ (members : List (String × Value)) (rest : List Char), members ≠ [] →
    2 * (joined (Value.compactMembers members)).length + 1 ≤ fuel →
      readMembers fuel (joined (Value.compactMembers members) ++ '\x7d' :: rest) =
        some (Value.memberTrees members, rest)

section
variable {fuel : Nat}

theorem readsValues_succ (readsItems : ReadsItems fuel) (readsMembers : ReadsMembers fuel) :
    ReadsValues (fuel + 1) := by
  intro value rest enough stops
  -- Only lists and objects go further down, and what is in them is shorter than they are.
  cases value with
  | null => simp [Value.compact, Value.tree, readValue, skipBlank, isBlank]
  | bool value => cases value <;> simp [Value.compact, Value.tree, readValue, skipBlank, isBlank]
  | integer value =>
    rw [Value.compact, ← text_integerLiteral]
    exact readValue_literal (wellFormed_integerLiteral value) stops fuel
  | float value =>
    rw [Value.compact]
    exact readValue_float value stops fuel
  | string value =>
    rw [Value.compact, toList_stringText]
    simp [Value.tree, readValue, skipBlank_cons (by decide : isBlank '"' = false),
      readString_stringText]
  | array items =>
    rw [toList_compact_array] at enough ⊢
    simp only [List.length_cons, List.length_append, List.length_nil] at enough
    rw [List.cons_append, List.append_assoc, List.singleton_append, Value.tree]
    cases items with
    | nil => simp [Value.compactItems, Value.itemTrees, joined, readValue, skipBlank, isBlank]
    | cons item items =>
      have read := readsItems (item :: items) rest (List.cons_ne_nil _ _) (by omega)
      exact readValue_array (joined_starts item items _) read
  | object members =>
    rw [toList_compact_object] at enough ⊢
    simp only [List.length_cons, List.length_append, List.length_nil] at enough
    rw [List.cons_append, List.append_assoc, List.singleton_append, Value.tree]
    cases members with
    | nil => simp [Value.compactMembers, Value.memberTrees, joined, readValue, skipBlank, isBlank]
    | cons member members =>
      have read := readsMembers (member :: members) rest (List.cons_ne_nil _ _) (by omega)
      exact readValue_object (joined_starts_member member members _) read

theorem readsItems_succ (readsValues : ReadsValues fuel) (readsItems : ReadsItems fuel) :
    ReadsItems (fuel + 1) := by
  intro items rest nonempty enough
  obtain ⟨item, items, rfl⟩ := List.exists_cons_of_ne_nil nonempty
  rw [Value.compactItems, Value.itemTrees] at *
  cases items with
  | nil =>
    rw [Value.compactItems, joined_single] at enough ⊢
    exact readItems_last (readsValues item _ (by omega) (stops_closing ']' (by decide) rest))
  | cons next items =>
    rw [Value.compactItems, joined_cons, ← Value.compactItems] at enough ⊢
    rw [List.length_append, List.length_cons] at enough
    rw [List.append_assoc, List.cons_append]
    exact readItems_more (readsValues item _ (by omega) (stops_closing ',' (by decide) _))
      (readsItems (next :: items) rest (List.cons_ne_nil _ _) (by omega))

theorem readsMembers_succ (readsValues : ReadsValues fuel) (readsMembers : ReadsMembers fuel) :
    ReadsMembers (fuel + 1) := by
  intro members rest nonempty enough
  obtain ⟨⟨name, value⟩, members, rfl⟩ := List.exists_cons_of_ne_nil nonempty
  rw [Value.compactMembers, Value.memberTrees] at *
  cases members with
  | nil =>
    rw [Value.compactMembers, joined_single, toList_compactMember] at enough ⊢
    rw [memberText, List.length_append, List.length_cons] at enough
    exact readMembers_last (readsValues value _ (by omega) (stops_closing '\x7d' (by decide) rest))
  | cons next members =>
    obtain ⟨nextName, nextValue⟩ := next
    rw [Value.compactMembers, joined_cons, ← Value.compactMembers, toList_compactMember]
      at enough ⊢
    rw [List.length_append, List.length_cons, memberText, List.length_append, List.length_cons]
      at enough
    rw [List.append_assoc, List.cons_append]
    exact readMembers_more (readsValues value _ (by omega) (stops_closing ',' (by decide) _))
      (readsMembers ((nextName, nextValue) :: members) rest (List.cons_ne_nil _ _) (by omega))

end

theorem reads (fuel : Nat) : ReadsValues fuel ∧ ReadsItems fuel ∧ ReadsMembers fuel := by
  induction fuel with
  | zero =>
    refine ⟨fun value _ enough _ => ?_, fun _ _ _ enough => ?_, fun _ _ _ enough => ?_⟩
    · have positive := length_compact_pos value
      omega
    · omega
    · omega
  | succ fuel ih =>
    have ⟨values, items, members⟩ := ih
    exact ⟨readsValues_succ items members, readsItems_succ values items,
      readsMembers_succ values members⟩

theorem read?_compact (value : Value) : read? value.compact = some value.tree := by
  have enough : 2 * value.compact.toList.length ≤ 2 * value.compact.length + 2 := by
    rw [String.length_toList]
    omega
  have read := (reads _).1 value [] enough (stops_nil isNumberPart)
  rw [List.append_nil] at read
  unfold read?
  rw [read]
  rfl

/-! ## Doubles -/

/-- The double that is read of the text of a finite double, or the double itself when none is. -/
def reread (value : Float) : Float := ((read? (floatText value)).bind Tree.float?).getD value

theorem read?_floatText (value : Float) : read? (floatText value) = some (floatTree value) := by
  have read := read?_compact (.float value)
  rwa [Value.compact, Value.tree] at read

theorem number?_floatTree {value : Float} (finite : Decimal.isFinite value = true) :
    (floatTree value).number? = some (.float (reread value)) := by
  obtain ⟨literal, read, formed, text, number⟩ := exists_literal_of_finite finite
  have tree := floatTree_of_finite formed text
  have same : reread value = read := by
    rw [reread, read?_floatText, tree, Option.bind_some, Tree.float?, Tree.number?, number]
    rfl
  rw [same, tree]
  exact number

theorem float?_floatTree {value : Float} (finite : Decimal.isFinite value = true) :
    (floatTree value).float? = some (reread value) := by
  rw [Tree.float?, number?_floatTree finite]
  rfl

theorem int64?_floatTree {value : Float} (finite : Decimal.isFinite value = true) :
    (floatTree value).int64? = none := by
  rw [Tree.int64?, Tree.integer?, number?_floatTree finite]
  rfl

end SeriesQuery.Json
