/-!
Dictionaries: values under text keys, kept in increasing order of the keys, each key once. Two
dictionaries with the same entries are equal, however they were built.
-/

set_option autoImplicit false

namespace SeriesQuery

variable {Value : Type}

def insertEntry (key : String) (value : Value) : List (String × Value) → List (String × Value)
  | [] => [(key, value)]
  | entry :: rest =>
    if key < entry.1 then (key, value) :: entry :: rest
    else if key = entry.1 then (key, value) :: rest
    else entry :: insertEntry key value rest

def KeysIncrease (entries : List (String × Value)) : Prop :=
  entries.Pairwise fun first second => first.1 < second.1

theorem mem_insertEntry {key : String} {value : Value} {entries : List (String × Value)}
    {entry : String × Value} (member : entry ∈ insertEntry key value entries) :
    entry = (key, value) ∨ entry ∈ entries := by
  induction entries with
  | nil => simpa [insertEntry] using member
  | cons head rest ih =>
    simp only [insertEntry] at member
    split at member
    · simpa using member
    · split at member
      · simp only [List.mem_cons] at member ⊢
        exact member.imp id Or.inr
      · simp only [List.mem_cons] at member ⊢
        rcases member with same | member
        · exact Or.inr (Or.inl same)
        · exact (ih member).imp id Or.inr

theorem keysIncrease_insertEntry (key : String) (value : Value) {entries : List (String × Value)}
    (increase : KeysIncrease entries) : KeysIncrease (insertEntry key value entries) := by
  induction entries with
  | nil => simp [insertEntry, KeysIncrease]
  | cons head rest ih =>
    have ⟨above, restIncrease⟩ := List.pairwise_cons.1 increase
    simp only [insertEntry]
    split
    · next less =>
      refine List.pairwise_cons.2 ⟨fun entry member => ?_, increase⟩
      rcases List.mem_cons.1 member with same | member
      · subst same; exact less
      · exact String.lt_trans less (above entry member)
    · split
      · next same => subst same; exact List.pairwise_cons.2 ⟨above, restIncrease⟩
      · next notLess different =>
        refine List.pairwise_cons.2 ⟨fun entry member => ?_, ih restIncrease⟩
        rcases mem_insertEntry member with same | member
        · subst same
          exact Std.lt_of_le_of_ne (String.not_lt.1 notLess) (Ne.symm different)
        · exact above entry member

structure Dictionary (Value : Type) where
  entries : List (String × Value)
  increase : KeysIncrease entries

namespace Dictionary

theorem eq_of_entries {first second : Dictionary Value} (same : first.entries = second.entries) :
    first = second := by
  cases first; cases second; cases same; rfl

instance [DecidableEq Value] : DecidableEq (Dictionary Value) := fun first second =>
  decidable_of_iff (first.entries = second.entries) ⟨eq_of_entries, fun same => same ▸ rfl⟩

def empty : Dictionary Value := ⟨[], List.Pairwise.nil⟩

def insert (dictionary : Dictionary Value) (key : String) (value : Value) : Dictionary Value :=
  ⟨insertEntry key value dictionary.entries, keysIncrease_insertEntry key value dictionary.increase⟩

/-- The entries in order; a later one replaces an earlier one with the same key. -/
def ofList (entries : List (String × Value)) : Dictionary Value :=
  entries.foldl (fun dictionary entry => dictionary.insert entry.1 entry.2) empty

def erase (dictionary : Dictionary Value) (key : String) : Dictionary Value :=
  ⟨dictionary.entries.filter fun entry => entry.1 != key,
    dictionary.increase.sublist List.filter_sublist⟩

def get? (dictionary : Dictionary Value) (key : String) : Option Value :=
  dictionary.entries.lookup key

def contains (dictionary : Dictionary Value) (key : String) : Bool :=
  dictionary.entries.any fun entry => entry.1 == key

def keys (dictionary : Dictionary Value) : List String := dictionary.entries.map (·.1)

def isEmpty (dictionary : Dictionary Value) : Bool := dictionary.entries.isEmpty

@[simp] theorem entries_empty : (empty : Dictionary Value).entries = [] := rfl

@[simp] theorem entries_insert (dictionary : Dictionary Value) (key : String) (value : Value) :
    (dictionary.insert key value).entries = insertEntry key value dictionary.entries := rfl

end Dictionary

end SeriesQuery
