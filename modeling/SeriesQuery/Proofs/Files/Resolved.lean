import SeriesQuery.Proofs.Files.Places

/-!
Paths by their text alone, with `.` and `..` taken out. What is below a directory is reached from it
by names that lead on.
-/

set_option autoImplicit false

namespace SeriesQuery.Files

instance (name : String) : Decidable (IsOwnName name) :=
  decidable_of_iff
    ((name ≠ "" ∧ '/' ∉ name.toList ∧ '\x00' ∉ name.toList) ∧ name ≠ "." ∧ name ≠ "..")
    ⟨fun ⟨⟨nonempty, noSlash, noNull⟩, notHere, notAbove⟩ =>
        { nonempty, noSlash, noNull, notHere, notAbove },
      fun own => ⟨⟨own.nonempty, own.noSlash, own.noNull⟩, own.notHere, own.notAbove⟩⟩

/-- What a path says, whatever is on the disk. -/
structure Resolved where
  absolute : Bool
  names : List String
  deriving Repr, DecidableEq

namespace Resolved

def root : Resolved := ⟨true, []⟩

/-- Above the root is the root; above the start of a relative path, the way up stays written. -/
def up (place : Resolved) : Resolved :=
  match place.names.getLast? with
  | none => if place.absolute then place else { place with names := [".."] }
  | some last =>
    if last = ".." then { place with names := place.names ++ [".."] }
    else { place with names := place.names.dropLast }

def on (place : Resolved) (names : List String) : Resolved :=
  { place with names := place.names ++ names }

/-- One written component further. -/
def next (place : Resolved) (part : String) : Resolved :=
  if part = "" ∨ part = "." then place
  else if part = ".." then place.up
  else place.on [part]

/-- Strictly below: on by names, none of which leads up. -/
def Below (base place : Resolved) : Prop :=
  ∃ names, names ≠ [] ∧ ".." ∉ names ∧ place = base.on names

theorem on_append (place : Resolved) (names more : List String) :
    (place.on names).on more = place.on (names ++ more) := by
  simp [on, List.append_assoc]

theorem on_injective {place : Resolved} {names others : List String}
    (same : place.on names = place.on others) : names = others :=
  List.append_cancel_left (congrArg Resolved.names same)

theorem next_ownName {name : String} (own : IsOwnName name) (place : Resolved) :
    place.next name = place.on [name] := by
  rw [next, if_neg (by simp [own.nonempty, own.notHere]), if_neg own.notAbove]

theorem foldl_next {names : List String} (own : ∀ name ∈ names, IsOwnName name)
    (place : Resolved) : names.foldl next place = place.on names := by
  induction names generalizing place with
  | nil => simp [on]
  | cons name rest ih =>
    have ⟨isOwn, own⟩ := List.forall_mem_cons.1 own
    rw [List.foldl_cons, next_ownName isOwn, ih own, on_append, List.singleton_append]

theorem below_on {names : List String} (nonempty : names ≠ [])
    (own : ∀ name ∈ names, IsOwnName name) (place : Resolved) : place.Below (place.on names) :=
  ⟨names, nonempty, fun member => (own ".." member).notAbove rfl, rfl⟩

theorem up_concat (absolute : Bool) (before : List String) (last : String) :
    up ⟨absolute, before ++ [last]⟩ =
      if last = ".." then ⟨absolute, before ++ [last] ++ [".."]⟩ else ⟨absolute, before⟩ := by
  rw [up, List.getLast?_concat, List.dropLast_concat]

theorem not_below_on_up (place : Resolved) (names : List String) :
    ¬ place.Below (place.on (".." :: names)) := by
  rintro ⟨others, -, noneUp, same⟩
  exact noneUp (on_injective same ▸ List.mem_cons_self)

theorem below_up_on_iff {base : Resolved} {first : String} {rest : List String}
    (own : ∀ name ∈ first :: rest, IsOwnName name) :
    base.Below (base.up.on (first :: rest)) ↔
      base = root ∨ base.names.getLast? = some first ∧ rest ≠ [] := by
  have ⟨isOwn, others⟩ := List.forall_mem_cons.1 own
  obtain ⟨absolute, names⟩ := base
  -- The place has no names, ends with a way up that was never taken back, or ends with a name.
  rcases List.eq_nil_or_concat' names with rfl | ⟨before, last, rfl⟩
  · cases absolute with
    | true => exact iff_of_true (below_on (List.cons_ne_nil _ _) own root) (.inl rfl)
    | false => exact iff_of_false (not_below_on_up ⟨false, []⟩ _) (by simp [root])
  · have notRoot : (⟨absolute, before ++ [last]⟩ : Resolved) ≠ root := by simp [root]
    rw [or_iff_right notRoot, up_concat, List.getLast?_concat, Option.some.injEq]
    by_cases above : last = ".."
    · rw [if_pos above]
      refine iff_of_false ?_ fun ⟨same, _⟩ => isOwn.notAbove (same ▸ above)
      have written := on_append ⟨absolute, before ++ [last]⟩ [".."] (first :: rest)
      exact written ▸ not_below_on_up _ _
    · have here : (⟨absolute, before ++ [last]⟩ : Resolved) = on ⟨absolute, before⟩ [last] := rfl
      rw [if_neg above, here]
      constructor
      · rintro ⟨names, nonempty, -, same⟩
        rw [on_append] at same
        obtain ⟨rfl, rfl⟩ := List.cons.inj (on_injective same)
        exact ⟨rfl, nonempty⟩
      · rintro ⟨rfl, nonempty⟩
        have written := on_append ⟨absolute, before⟩ [last] rest
        exact written ▸ below_on nonempty others _

end Resolved

def resolve (path : String) : Resolved :=
  (parts path).foldl .next ⟨path.startsWith "/", []⟩

/-- By the texts of both paths, the second leads strictly below the first. -/
def Below (base path : String) : Prop := (resolve base).Below (resolve path)

theorem parts_lead_append {name : String} (noSlash : '/' ∉ name.toList) (base : String) :
    parts (lead base ++ name) = above base ++ [name] := by
  have single : name.toList.splitOn '/' = [name.toList] := by
    have alone : ∀ text ∈ [name.toList], '/' ∉ text := by simpa using noSlash
    simpa using List.splitOn_intercalate '/' alone (by simp)
  rw [above, parts, parts, Text.splitAt, Text.splitAt, String.toList_append]
  rcases lead_empty_or_ended base with empty | ⟨before, ended⟩
  · rw [empty, List.nil_append, single]
    simp
  · rw [ended, List.append_assoc, List.singleton_append, List.splitOn_append_cons_self, single,
      List.splitOn_append_cons_self, List.splitOn_nil]
    simp

theorem startsWith_slash_lead_append {name : String} (noSlash : '/' ∉ name.toList)
    (base : String) : (lead base ++ name).startsWith "/" = base.startsWith "/" := by
  rw [Bool.eq_iff_iff, startsWith_slash_iff, startsWith_slash_iff, String.toList_append]
  cases written : base.toList with
  | nil =>
    have none : lead base = "" := by rw [String.toList_eq_nil_iff.1 written]; rfl
    rw [none]
    refine iff_of_false ?_ (by simp)
    rintro ⟨rest, same⟩
    exact noSlash ((List.nil_append _).symm.trans same ▸ List.mem_cons_self)
  | cons c rest =>
    unfold lead
    split
    · simp [written]
    · simp [written]

theorem resolve_join {name : String} (noSlash : '/' ∉ name.toList) (base : String) :
    resolve (join base name) = (resolve base).next name := by
  have base_eq : resolve base = (above base).foldl .next ⟨base.startsWith "/", []⟩ := by
    by_cases empty : base = ""
    · rw [empty]
      rfl
    · unfold resolve
      rcases Tree.parts_eq empty with same | same
      · rw [same]
      · rw [same, List.foldl_append]
        rfl
  rw [join_eq noSlash, resolve, parts_lead_append noSlash, startsWith_slash_lead_append noSlash,
    List.foldl_append, ← base_eq]
  rfl

theorem resolve_joinAll {names : List String} (noSlash : ∀ name ∈ names, '/' ∉ name.toList)
    (base : String) : resolve (joinAll base names) = names.foldl .next (resolve base) := by
  induction names generalizing base with
  | nil => rfl
  | cons name rest ih =>
    have ⟨first, noSlash⟩ := List.forall_mem_cons.1 noSlash
    rw [List.foldl_cons, ← resolve_join first, ← ih noSlash]
    rfl

end SeriesQuery.Files
