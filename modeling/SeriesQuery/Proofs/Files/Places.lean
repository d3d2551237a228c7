import Mathlib.Data.List.Basic
import SeriesQuery.Files.Tree
import SeriesQuery.Proofs.Outcomes

/-!
Where paths lead. A path that is joined from names leads to the place that one reaches from its base
by these names, one after the other.
-/

set_option autoImplicit false

namespace SeriesQuery.Files

/-- Text that can stand as one component of a path. -/
structure IsName (name : String) : Prop where
  nonempty : name ≠ ""
  noSlash : '/' ∉ name.toList
  noNull : '\x00' ∉ name.toList

/-- A name that does not stand for a directory that is there already. -/
structure IsOwnName (name : String) : Prop extends IsName name where
  notHere : name ≠ "."
  notAbove : name ≠ ".."

/-! ## Joined paths -/

/-- What stands before the components of a path that is joined to a base. -/
def lead (base : String) : String :=
  if base.isEmpty || base.endsWith "/" then base else base ++ "/"

def above (base : String) : List String := (parts (lead base)).dropLast

theorem endsWith_slash_iff {text : String} :
    text.endsWith "/" = true ↔ ∃ before, text.toList = before ++ ['/'] := by
  rw [String.endsWith_eq_endsWith_toSlice, String.Slice.endsWith_string_iff, String.copy_toSlice]
  exact exists_congr fun before => eq_comm

theorem startsWith_slash_iff {text : String} :
    text.startsWith "/" = true ↔ ∃ rest, text.toList = '/' :: rest := by
  rw [String.startsWith_string_iff]
  exact exists_congr fun rest => eq_comm

theorem lead_empty_or_ended (base : String) :
    (lead base).toList = [] ∨ ∃ before, (lead base).toList = before ++ ['/'] := by
  unfold lead
  split
  · next given =>
    rcases (Bool.or_eq_true _ _).mp given with empty | ended
    · exact .inl (by simpa using empty)
    · exact .inr (endsWith_slash_iff.1 ended)
  · exact .inr ⟨base.toList, String.toList_append⟩

theorem join_eq {name : String} (noSlash : '/' ∉ name.toList) (base : String) :
    join base name = lead base ++ name := by
  have relative : ¬ name.startsWith "/" = true := by
    rw [startsWith_slash_iff]
    rintro ⟨rest, same⟩
    exact noSlash (same ▸ List.mem_cons_self)
  unfold join lead
  by_cases empty : base.isEmpty = true
  · rw [if_pos (by simp [empty]), if_pos (by simp [empty]), String.isEmpty_iff.1 empty]
    simp
  · rw [if_neg (by simp [relative, empty])]
    by_cases ended : base.endsWith "/" = true
    · rw [if_pos ended, if_pos (by simp [ended])]
    · rw [if_neg ended, if_neg (by simp [empty, ended])]

theorem lead_append {name : String} (isName : IsName name) (text : String) :
    lead (text ++ name) = text ++ name ++ "/" := by
  have unended : ¬ (text ++ name).endsWith "/" = true := by
    rw [endsWith_slash_iff]
    rintro ⟨before, same⟩
    have last := congrArg List.getLast? same
    have full : name.toList ≠ [] := fun none => isName.nonempty (String.toList_inj.1 none)
    rw [String.toList_append, List.getLast?_concat, List.getLast?_append_of_ne_nil _ full] at last
    exact isName.noSlash (List.mem_of_getLast? last)
  rw [lead, if_neg (by simp [isName.nonempty, unended])]

theorem joinAll_eq {first : String} {rest : List String}
    (names : ∀ name ∈ first :: rest, IsName name) (base : String) :
    joinAll base (first :: rest) = lead base ++ "/".intercalate (first :: rest) := by
  induction rest generalizing base first with
  | nil =>
    have isName := names first List.mem_cons_self
    rw [joinAll, List.foldl_cons, List.foldl_nil, join_eq isName.noSlash]
    rfl
  | cons second rest ih =>
    have ⟨isName, names⟩ := List.forall_mem_cons.1 names
    -- The first name joins the base of the others, which therefore ends in no slash of its own.
    have step : joinAll base (first :: second :: rest) =
        joinAll (lead base ++ first) (second :: rest) := by
      rw [joinAll, List.foldl_cons, join_eq isName.noSlash, joinAll]
    rw [step, ih names, lead_append isName]
    apply String.toList_inj.1
    simp [String.toList_intercalate]

theorem parts_joinAll {first : String} {rest : List String}
    (names : ∀ name ∈ first :: rest, IsName name) (base : String) :
    parts (joinAll base (first :: rest)) = above base ++ first :: rest := by
  have apart : ∀ text ∈ (first :: rest).map String.toList, '/' ∉ text := by
    intro text member
    obtain ⟨name, known, rfl⟩ := List.mem_map.1 member
    exact (names name known).noSlash
  have written : ("/".intercalate (first :: rest)).toList.splitOn '/' =
      (first :: rest).map String.toList := by
    rw [String.toList_intercalate]
    exact List.splitOn_intercalate '/' apart (by simp)
  have restored : ((first :: rest).map String.toList).map String.ofList = first :: rest := by
    rw [List.map_map]
    exact List.map_id'' (fun name => String.ofList_toList) _
  rw [joinAll_eq names, above, parts, parts, Text.splitAt, Text.splitAt, String.toList_append]
  -- The lead ends where a component starts, so the cut at its last slash is the only one that counts.
  rcases lead_empty_or_ended base with empty | ⟨before, ended⟩
  · rw [empty, List.nil_append, written, restored]
    rfl
  · rw [ended, List.append_assoc, List.singleton_append, List.splitOn_append_cons_self, written,
      List.splitOn_append_cons_self, List.map_append, List.map_append, restored, List.splitOn_nil,
      List.map_singleton, List.dropLast_concat]

theorem joinAll_injective {base first second : String} {rest others : List String}
    (names : ∀ name ∈ first :: rest, IsName name) (further : ∀ name ∈ second :: others, IsName name)
    (same : joinAll base (first :: rest) = joinAll base (second :: others)) :
    first :: rest = second :: others := by
  have same := congrArg parts same
  rw [parts_joinAll names, parts_joinAll further] at same
  exact List.append_cancel_left same

theorem toList_join {name : String} (isName : IsName name) (base : String) :
    (join base name).toList = base.toList ++ name.toList ∨
      base ≠ "" ∧ (join base name).toList = base.toList ++ '/' :: name.toList := by
  rw [join_eq isName.noSlash, lead]
  split
  · exact .inl String.toList_append
  · next given =>
    refine .inr ⟨fun empty => given (by simp [empty]), ?_⟩
    rw [String.toList_append, String.toList_append, List.append_assoc]
    rfl

theorem contains_null_joinAll {names : List String} (are : ∀ name ∈ names, IsName name)
    (base : String) :
    (joinAll base names).toList.contains '\x00' = base.toList.contains '\x00' := by
  induction names generalizing base with
  | nil => rfl
  | cons first rest ih =>
    have ⟨isName, are⟩ := List.forall_mem_cons.1 are
    have clean := isName.noNull
    refine (ih are (join base first)).trans ?_
    rcases toList_join isName base with same | ⟨-, same⟩
    · simp [same, clean]
    · simp [same, clean]

theorem startsWith_slash_joinAll {names : List String} (are : ∀ name ∈ names, IsName name)
    (base : String) : (joinAll base names).startsWith "/" = base.startsWith "/" := by
  induction names generalizing base with
  | nil => rfl
  | cons first rest ih =>
    have ⟨isName, are⟩ := List.forall_mem_cons.1 are
    refine (ih are (join base first)).trans ?_
    rw [Bool.eq_iff_iff, startsWith_slash_iff, startsWith_slash_iff]
    have full : base ≠ "" → base.toList ≠ [] := fun nonempty none =>
      nonempty (String.toList_inj.1 none)
    have noSlash := isName.noSlash
    cases written : base.toList with
    | nil =>
      -- Without a base, the path starts as its first name does, and no name starts with a slash.
      rcases toList_join isName base with same | ⟨nonempty, -⟩
      · rw [same, written, List.nil_append]
        constructor
        · rintro ⟨others, starts⟩
          exact absurd (starts ▸ List.mem_cons_self) noSlash
        · rintro ⟨others, starts⟩
          cases starts
      · exact absurd written (full nonempty)
    | cons c others =>
      rcases toList_join isName base with same | ⟨-, same⟩
      · simp [same, written]
      · simp [same, written]

theorem joinAll_ne_empty {first : String} {rest : List String}
    (names : ∀ name ∈ first :: rest, IsName name) (base : String) :
    joinAll base (first :: rest) ≠ "" := by
  rw [joinAll_eq names]
  have full := (names first List.mem_cons_self).nonempty
  cases rest with
  | nil => simp [full]
  | cons second rest => simp [full]

/-! ## Locating -/

namespace Tree

/-- Where the components of a path that is joined to a base are looked for. -/
def entry (tree : Tree) (base : String) : Except Problem Location :=
  if base.toList.contains '\x00' then .error .notDirectory
  else (above base).foldlM tree.enter (if base.startsWith "/" then [] else tree.workingDirectory)

theorem locate_joinAll {first : String} {rest : List String}
    (names : ∀ name ∈ first :: rest, IsName name) (tree : Tree) (base : String) :
    tree.locate (joinAll base (first :: rest)) =
      tree.entry base >>= fun location => (first :: rest).foldlM tree.enter location := by
  have nonempty : ¬ (joinAll base (first :: rest)).isEmpty = true :=
    fun empty => joinAll_ne_empty names base (String.isEmpty_iff.1 empty)
  rw [locate, if_neg nonempty, contains_null_joinAll names, startsWith_slash_joinAll names,
    parts_joinAll names, entry]
  split
  · rfl
  · rw [List.foldlM_append]

theorem enter_eq_ok {tree : Tree} {location next : Location} {part : String}
    (entered : tree.enter location part = .ok next) :
    tree.isDirectoryAt location = true ∧
      next = if part = "" ∨ part = "." then location
        else if part = ".." then location.dropLast
        else location ++ [part] := by
  unfold enter at entered
  split at entered
  · next directory => exact ⟨directory, (Except.ok.inj entered).symm⟩
  · split at entered <;> cases entered

theorem enter_ownName {tree : Tree} {location : Location} {name : String}
    (own : IsOwnName name) (directory : tree.isDirectoryAt location = true) :
    tree.enter location name = .ok (location ++ [name]) := by
  rw [enter, if_pos directory, if_neg (by simp [own.nonempty, own.notHere]), if_neg own.notAbove]

theorem enter_ownName_eq_ok {tree : Tree} {location next : Location} {name : String}
    (own : IsOwnName name) (entered : tree.enter location name = .ok next) :
    next = location ++ [name] := by
  obtain ⟨-, same⟩ := enter_eq_ok entered
  rwa [if_neg (by simp [own.nonempty, own.notHere]), if_neg own.notAbove] at same

theorem foldlM_enter_eq_ok {tree : Tree} {location place : Location} {names : List String}
    (own : ∀ name ∈ names, IsOwnName name)
    (entered : names.foldlM tree.enter location = .ok place) : place = location ++ names := by
  induction names generalizing location with
  | nil =>
    exact (Except.ok.inj entered).symm.trans (List.append_nil location).symm
  | cons name rest ih =>
    have ⟨isOwn, own⟩ := List.forall_mem_cons.1 own
    rw [List.foldlM_cons] at entered
    obtain ⟨next, first, entered⟩ := exists_of_bind entered
    rw [ih own entered, enter_ownName_eq_ok isOwn first, List.append_assoc, List.singleton_append]

theorem isDirectoryAt_of_file {tree : Tree} {location : Location} {name : String}
    {rest : List String} (file : location ++ name :: rest ∈ tree.files) :
    tree.isDirectoryAt location = true := by
  have lies : (tree.files.any fun file =>
      location.length < file.length && location.isPrefixOf file) = true := by
    refine List.any_eq_true.2 ⟨_, file, ?_⟩
    simp
  rw [isDirectoryAt, lies, Bool.or_true]

/-- A joined path leads through its first name to the place below it. -/
theorem locate_joinAll_eq_ok {tree : Tree} {base first : String} {rest : List String}
    {place : Location} (isName : IsName first) (own : ∀ name ∈ rest, IsOwnName name)
    (located : tree.locate (joinAll base (first :: rest)) = .ok place) :
    ∃ location next, tree.entry base = .ok location ∧ tree.enter location first = .ok next ∧
      place = next ++ rest := by
  have names : ∀ name ∈ first :: rest, IsName name :=
    List.forall_mem_cons.2 ⟨isName, fun name member => (own name member).toIsName⟩
  rw [locate_joinAll names] at located
  obtain ⟨location, reached, located⟩ := exists_of_bind located
  rw [List.foldlM_cons] at located
  obtain ⟨next, entered, located⟩ := exists_of_bind located
  exact ⟨location, next, reached, entered, foldlM_enter_eq_ok own located⟩

theorem directory_eq_ok {tree : Tree} {path : String} {location : Location}
    (found : tree.directory path = .ok location) :
    tree.locate path = .ok location ∧ tree.isDirectoryAt location = true := by
  unfold directory at found
  obtain ⟨place, located, found⟩ := exists_of_bind found
  split at found
  · next directory =>
    cases found
    exact ⟨located, directory⟩
  · split at found <;> cases found

theorem parts_eq {base : String} (nonempty : base ≠ "") :
    parts base = above base ∨ parts base = above base ++ [""] := by
  unfold above lead
  split
  · next given =>
    right
    rcases (Bool.or_eq_true _ _).mp given with empty | ended
    · exact absurd (String.isEmpty_iff.1 empty) nonempty
    · obtain ⟨before, same⟩ := endsWith_slash_iff.1 ended
      rw [parts, Text.splitAt, same, List.splitOn_append_cons_self, List.splitOn_nil,
        List.map_append, List.map_singleton, List.dropLast_concat]
  · left
    rw [parts, parts, Text.splitAt, Text.splitAt, String.toList_append]
    have slash : "/".toList = ['/'] := rfl
    rw [slash, List.splitOn_append_cons_self, List.splitOn_nil, List.map_append,
      List.map_singleton, List.dropLast_concat]

theorem directory_of_locate {tree : Tree} {path : String} {location : Location}
    (located : tree.locate path = .ok location) (directory : tree.isDirectoryAt location = true) :
    tree.directory path = .ok location := by
  rw [Tree.directory, located, ok_bind, if_pos directory]
  rfl

theorem isFile_iff {tree : Tree} {path : String} :
    tree.isFile path = true ↔ ∃ place, tree.locate path = .ok place ∧ place ∈ tree.files := by
  unfold isFile isFileAt
  cases tree.locate path with
  | error problem => simp
  | ok location => simp

theorem entry_of_directory {tree : Tree} {base : String} {location : Location}
    (found : tree.directory base = .ok location) : tree.entry base = .ok location := by
  obtain ⟨located, -⟩ := directory_eq_ok found
  unfold locate at located
  split at located
  · cases located
  · next full =>
    have nonempty : base ≠ "" := fun empty => full (String.isEmpty_iff.2 empty)
    unfold entry
    split at located
    · cases located
    · next noNull =>
      rw [if_neg noNull]
      rcases parts_eq nonempty with same | same
      · rwa [same] at located
      · -- The slash at the end leaves an empty component, which stays where it is.
        rw [same, List.foldlM_append] at located
        obtain ⟨place, reached, located⟩ := exists_of_bind located
        rw [List.foldlM_cons] at located
        obtain ⟨next, entered, located⟩ := exists_of_bind located
        cases located
        obtain ⟨-, same⟩ := enter_eq_ok entered
        rw [if_pos (.inl rfl)] at same
        rw [reached, same]

/-- A place to go on from is a directory with the path that led to it. -/
theorem directory_of_entry {tree : Tree} {base : String} {location : Location}
    (nonempty : base ≠ "") (reached : tree.entry base = .ok location)
    (directory : tree.isDirectoryAt location = true) : tree.directory base = .ok location := by
  refine directory_of_locate ?_ directory
  unfold entry at reached
  split at reached
  · cases reached
  · next noNull =>
    rw [locate, if_neg (fun empty => nonempty (String.isEmpty_iff.1 empty)), if_neg noNull]
    rcases parts_eq nonempty with same | same
    · rwa [same]
    · rw [same, List.foldlM_append, reached, ok_bind, List.foldlM_cons, enter, if_pos directory,
        if_pos (.inl rfl)]
      rfl

theorem directory_join_eq_ok_iff {tree : Tree} {base name : String} {location : Location}
    (nonempty : base ≠ "") (own : IsOwnName name) :
    tree.directory (join base name) = .ok location ↔ ∃ root, tree.directory base = .ok root ∧
      location = root ++ [name] ∧ tree.isDirectoryAt location = true := by
  constructor
  · intro found
    obtain ⟨located, directory⟩ := directory_eq_ok found
    obtain ⟨root, next, reached, entered, rfl⟩ :=
      locate_joinAll_eq_ok own.toIsName (List.forall_mem_nil _) located
    refine ⟨root, directory_of_entry nonempty reached (enter_eq_ok entered).1, ?_, directory⟩
    rw [enter_ownName_eq_ok own entered, List.append_nil]
  · rintro ⟨root, found, rfl, directory⟩
    refine directory_of_locate ?_ directory
    refine (locate_joinAll (List.forall_mem_singleton.2 own.toIsName) tree base).trans ?_
    rw [entry_of_directory found, ok_bind, List.foldlM_cons,
      enter_ownName own (directory_eq_ok found).2, ok_bind]
    rfl

end Tree

end SeriesQuery.Files
