import Mathlib.Data.List.Nodup
import SeriesQuery.Dictionary

/-!
Dictionaries are known by their entries, in whatever order these are put in.
-/

set_option autoImplicit false

namespace SeriesQuery

variable {Value : Type}

theorem insertEntry_perm {key : String} {value : Value} {entries : List (String × Value)}
    (fresh : key ∉ entries.map (·.1)) :
    (insertEntry key value entries).Perm ((key, value) :: entries) := by
  induction entries with
  | nil => rfl
  | cons entry rest ih =>
    have ⟨other, fresh⟩ := List.ne_and_not_mem_of_not_mem_cons fresh
    by_cases less : key < entry.1
    · rw [insertEntry, if_pos less]
    · rw [insertEntry, if_neg less, if_neg other]
      exact ((ih fresh).cons entry).trans (.swap _ _ _)

theorem eq_of_keysIncrease {first second : List (String × Value)}
    (firstIncrease : KeysIncrease first) (secondIncrease : KeysIncrease second)
    (same : first.Perm second) : first = second := by
  refine same.eq_of_pairwise (fun entry other _ _ less greater => ?_) firstIncrease secondIncrease
  exact absurd (String.lt_trans less greater) (String.lt_irrefl _)

/-! ## Look-ups -/

theorem lookup_entry (entry : String × Value) (rest : List (String × Value)) (key : String) :
    (entry :: rest).lookup key = if key = entry.1 then some entry.2 else rest.lookup key := by
  rw [List.lookup_cons]
  by_cases same : key = entry.1
  · simp [same]
  · simp [same, beq_eq_false_iff_ne.2 same]

theorem lookup_of_mem {key : String} {value : Value} {entries : List (String × Value)}
    (distinct : (entries.map (·.1)).Nodup) (member : (key, value) ∈ entries) :
    entries.lookup key = some value := by
  induction entries with
  | nil => cases member
  | cons entry rest ih =>
    obtain ⟨fresh, distinct⟩ := List.nodup_cons.1 distinct
    rw [lookup_entry]
    rcases List.mem_cons.1 member with rfl | member
    · exact if_pos rfl
    · have other : key ≠ entry.1 := fun same => fresh (List.mem_map.2 ⟨_, member, same⟩)
      rw [if_neg other, ih distinct member]

namespace Dictionary

theorem nodup_keys (dictionary : Dictionary Value) : dictionary.keys.Nodup :=
  List.pairwise_map.2 (dictionary.increase.imp fun less same => by
    rw [same] at less
    exact String.lt_irrefl _ less)

theorem entries_foldl_insert {entries : List (String × Value)} {dictionary : Dictionary Value}
    (distinct : (entries.map (·.1)).Nodup)
    (apart : ∀ entry ∈ entries, entry.1 ∉ dictionary.keys) :
    (entries.foldl (fun dictionary entry => dictionary.insert entry.1 entry.2)
      dictionary).entries.Perm (entries ++ dictionary.entries) := by
  induction entries generalizing dictionary with
  | nil => rfl
  | cons entry rest ih =>
    have ⟨other, distinct⟩ := List.nodup_cons.1 distinct
    have ⟨fresh, apart⟩ := List.forall_mem_cons.1 apart
    have inserted : (insertEntry entry.1 entry.2 dictionary.entries).Perm
        (entry :: dictionary.entries) := insertEntry_perm fresh
    -- The entry that was put in is no obstacle to the later ones, whose keys differ from its own.
    have apart : ∀ later ∈ rest, later.1 ∉ (dictionary.insert entry.1 entry.2).keys := by
      intro later member known
      have known := (inserted.map (·.1)).mem_iff.1 known
      rcases List.mem_cons.1 known with same | known
      · exact other (same ▸ List.mem_map_of_mem member)
      · exact apart later member known
    rw [List.foldl_cons]
    refine (ih distinct apart).trans ?_
    rw [entries_insert]
    exact (inserted.append_left rest).trans List.perm_middle

theorem ofList_eq_of_perm {dictionary : Dictionary Value} {entries : List (String × Value)}
    (same : entries.Perm dictionary.entries) : ofList entries = dictionary := by
  have distinct : (entries.map (·.1)).Nodup := (same.map _).nodup_iff.2 dictionary.nodup_keys
  have apart : ∀ entry ∈ entries, entry.1 ∉ (empty : Dictionary Value).keys := by simp [keys]
  have made := entries_foldl_insert distinct apart
  rw [entries_empty, List.append_nil] at made
  exact eq_of_entries (eq_of_keysIncrease (ofList entries).increase dictionary.increase
    (made.trans same))

theorem ofList_entries (dictionary : Dictionary Value) : ofList dictionary.entries = dictionary :=
  ofList_eq_of_perm (.refl _)

/-! ### Values under keys -/

theorem get?_insert (dictionary : Dictionary Value) (key other : String) (value : Value) :
    (dictionary.insert key value).get? other =
      if other = key then some value else dictionary.get? other := by
  unfold get?
  rw [entries_insert]
  induction dictionary.entries with
  | nil => exact lookup_entry _ [] other
  | cons entry rest ih =>
    rw [insertEntry]
    split
    · exact lookup_entry _ _ other
    · split
      · next same =>
        -- The entry with the same key is replaced.
        subst same
        rw [lookup_entry, lookup_entry]
        split <;> rfl
      · next different =>
        rw [lookup_entry, lookup_entry, ih]
        by_cases found : other = entry.1
        · simp [found, Ne.symm different]
        · simp [found]

theorem mem_entries_iff {dictionary : Dictionary Value} {key : String} {value : Value} :
    (key, value) ∈ dictionary.entries ↔ dictionary.get? key = some value := by
  constructor
  · exact lookup_of_mem dictionary.nodup_keys
  · intro found
    obtain ⟨before, after, same, -⟩ := List.lookup_eq_some_iff.1 found
    rw [same]
    exact List.mem_append_right before List.mem_cons_self

theorem eq_of_get? {first second : Dictionary Value}
    (same : ∀ key, first.get? key = second.get? key) : first = second := by
  have members : ∀ entry, entry ∈ first.entries ↔ entry ∈ second.entries := by
    rintro ⟨key, value⟩
    rw [mem_entries_iff, mem_entries_iff, same]
  have distinct (dictionary : Dictionary Value) : dictionary.entries.Nodup :=
    List.Nodup.of_map _ dictionary.nodup_keys
  exact eq_of_entries (eq_of_keysIncrease first.increase second.increase
    ((List.perm_ext_iff_of_nodup (distinct first) (distinct second)).2 members))

theorem mem_keys_of_get? {dictionary : Dictionary Value} {key : String} {value : Value}
    (found : dictionary.get? key = some value) : key ∈ dictionary.keys :=
  List.mem_map_of_mem (mem_entries_iff.2 found)

end Dictionary

end SeriesQuery
