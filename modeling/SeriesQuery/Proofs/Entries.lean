import Mathlib.Data.List.Induction
import Mathlib.Data.List.Nodup
import SeriesQuery.Query.Basic

/-!
Names and entries that are put in one after the other: a name that is already there is not added,
and an entry under a key that is already there takes the place of the earlier one.
-/

set_option autoImplicit false

namespace SeriesQuery

/-! ## Names -/

section

variable {α : Type} [DecidableEq α]

theorem eraseDups_concat (names : List α) (name : α) :
    (names ++ [name]).eraseDups =
      if name ∈ names then names.eraseDups else names.eraseDups ++ [name] := by
  rw [List.eraseDups_append, List.removeAll, List.filter_singleton]
  by_cases known : name ∈ names
  · simp [known]
  · simp [known, List.eraseDups_cons]

theorem nodup_added {names : List α} (distinct : names.Nodup) (name : α) :
    (if name ∈ names then names else names ++ [name]).Nodup := by
  split
  · exact distinct
  · next missing =>
    exact List.nodup_append_comm.1 (List.nodup_cons.2 ⟨missing, distinct⟩)

theorem nodup_eraseDups (names : List α) : names.eraseDups.Nodup := by
  induction names using List.reverseRecOn with
  | nil => exact .nil
  | append_singleton names name ih =>
    rw [eraseDups_concat]
    simpa only [List.mem_eraseDups] using nodup_added ih name

/-- Names that are put in one after the other stand where they came first. -/
theorem foldl_added (names : List α) :
    names.foldl (fun found name => if name ∈ found then found else found ++ [name]) [] =
      names.eraseDups := by
  induction names using List.reverseRecOn with
  | nil => rfl
  | append_singleton names name ih =>
    rw [List.foldl_append, ih, List.foldl_cons, List.foldl_nil, eraseDups_concat]
    simp only [List.mem_eraseDups]

theorem pairwise_idxOf_eraseDups (names : List α) :
    names.eraseDups.Pairwise fun first second => names.idxOf first < names.idxOf second := by
  induction names using List.reverseRecOn with
  | nil => exact .nil
  | append_singleton names name ih =>
    have kept : names.eraseDups.Pairwise fun first second =>
        (names ++ [name]).idxOf first < (names ++ [name]).idxOf second := by
      refine ih.imp_of_mem fun {first second} firstKnown secondKnown less => ?_
      rw [List.idxOf_append_of_mem (List.mem_eraseDups.1 firstKnown),
        List.idxOf_append_of_mem (List.mem_eraseDups.1 secondKnown)]
      exact less
    rw [eraseDups_concat]
    split
    · exact kept
    · next fresh =>
      refine List.pairwise_append.2 ⟨kept, List.pairwise_singleton _ _, ?_⟩
      intro first firstKnown last lastKnown
      have known := List.mem_eraseDups.1 firstKnown
      rw [List.mem_singleton.1 lastKnown, List.idxOf_append_of_mem known,
        List.idxOf_append_of_notMem fresh]
      exact Nat.lt_add_right _ (List.idxOf_lt_length_of_mem known)

theorem eraseDups_eq_of_ordered {all names : List α} (distinct : names.Nodup)
    (same : ∀ name, name ∈ all ↔ name ∈ names)
    (ordered : names.Pairwise fun first second => all.idxOf first < all.idxOf second) :
    all.eraseDups = names := by
  have members : all.eraseDups.Perm names :=
    (List.perm_ext_iff_of_nodup (nodup_eraseDups all) distinct).2 fun name => by
      rw [List.mem_eraseDups, same name]
  exact members.eq_of_pairwise (fun _ _ _ _ less greater => absurd less (Nat.lt_asymm greater))
    (pairwise_idxOf_eraseDups all) ordered

end

/-! ## Entries -/

section

variable {Value : Type}

theorem map_fst_setEntry (key : String) (value : Value) (entries : List (String × Value)) :
    (setEntry key value entries).map Prod.fst =
      if key ∈ entries.map Prod.fst then entries.map Prod.fst
      else entries.map Prod.fst ++ [key] := by
  induction entries with
  | nil => rfl
  | cons entry rest ih =>
    by_cases same : entry.1 = key
    · simp [setEntry, same]
    · -- the entry stays, and the key is set among the others
      by_cases later : key ∈ rest.map Prod.fst
      · rw [if_pos later] at ih
        simp [setEntry, same, ih, later]
      · rw [if_neg later] at ih
        simp [setEntry, same, Ne.symm same, ih, later]

theorem mem_setEntry {key : String} {value : Value} {entries : List (String × Value)}
    (distinct : (entries.map Prod.fst).Nodup) {entry : String × Value}
    (member : entry ∈ setEntry key value entries) :
    entry = (key, value) ∨ entry ∈ entries ∧ entry.1 ≠ key := by
  induction entries with
  | nil => exact .inl (List.mem_singleton.1 member)
  | cons first rest ih =>
    obtain ⟨fresh, distinct⟩ := List.nodup_cons.1 distinct
    unfold setEntry at member
    split at member
    · next same =>
      refine (List.mem_cons.1 member).imp_right fun later => ?_
      refine ⟨List.mem_cons_of_mem _ later, fun again => fresh ?_⟩
      rw [same, ← again]
      exact List.mem_map_of_mem later
    · next other =>
      rcases List.mem_cons.1 member with rfl | later
      · exact .inr ⟨List.mem_cons_self, other⟩
      · exact (ih distinct later).imp_right fun found => ⟨List.mem_cons_of_mem _ found.1, found.2⟩

def setEntries (requests : List (String × Value)) : List (String × Value) :=
  requests.foldl (fun entries request => setEntry request.1 request.2 entries) []

theorem setEntries_concat (requests : List (String × Value)) (request : String × Value) :
    setEntries (requests ++ [request]) = setEntry request.1 request.2 (setEntries requests) := by
  rw [setEntries, List.foldl_append]
  rfl

theorem map_fst_setEntries (requests : List (String × Value)) :
    (setEntries requests).map Prod.fst = (requests.map Prod.fst).eraseDups := by
  induction requests using List.reverseRecOn with
  | nil => rfl
  | append_singleton requests request ih =>
    rw [setEntries_concat, map_fst_setEntry, ih, List.map_append, List.map_singleton,
      eraseDups_concat]
    simp only [List.mem_eraseDups]

theorem nodup_setEntries (requests : List (String × Value)) :
    ((setEntries requests).map Prod.fst).Nodup := by
  rw [map_fst_setEntries]
  exact nodup_eraseDups _

theorem getLast?_of_mem_setEntries {requests : List (String × Value)} {entry : String × Value}
    (member : entry ∈ setEntries requests) :
    (requests.filter (·.1 = entry.1)).getLast? = some entry := by
  induction requests using List.reverseRecOn with
  | nil => cases member
  | append_singleton requests request ih =>
    rw [setEntries_concat] at member
    rw [List.filter_append]
    rcases mem_setEntry (nodup_setEntries requests) member with rfl | ⟨earlier, other⟩
    · simp
    · simp [Ne.symm other, ih earlier]

end

end SeriesQuery
