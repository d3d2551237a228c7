import Mathlib.Data.List.Sort
import Mathlib.Data.String.Basic
import SeriesQuery.Proofs.Rrd.Discovery
import SeriesQuery.Proofs.Rrd.Variables

/-!
Listed measurements. Every layout lists the measurements that have files. The names of flat files
are sorted before their measurements are read off, and a name is dropped where it repeats the one
before it: a measurement is listed again when the file of another one stands between its own.
-/

set_option autoImplicit false

namespace SeriesQuery.Files.Tree

theorem isFile_join_iff {tree : Tree} {base name : String} (nonempty : base ≠ "")
    (own : IsOwnName name) : tree.isFile (join base name) = true ↔
      ∃ root, tree.directory base = .ok root ∧ root ++ [name] ∈ tree.files := by
  rw [isFile_iff]
  constructor
  · rintro ⟨place, located, file⟩
    obtain ⟨root, next, reached, entered, rfl⟩ :=
      locate_joinAll_eq_ok own.toIsName (List.forall_mem_nil _) located
    rw [enter_ownName_eq_ok own entered, List.append_nil] at file
    exact ⟨root, directory_of_entry nonempty reached (enter_eq_ok entered).1, file⟩
  · rintro ⟨root, found, file⟩
    refine ⟨root ++ [name], ?_, file⟩
    refine (locate_joinAll (List.forall_mem_singleton.2 own.toIsName) tree base).trans ?_
    rw [entry_of_directory found, ok_bind, List.foldlM_cons,
      enter_ownName own (directory_eq_ok found).2, ok_bind]
    rfl

end SeriesQuery.Files.Tree

namespace SeriesQuery.Rrd

/-! ## Sorted names -/

theorem pairwise_mergeSort_lt {names : List String} (distinct : names.Nodup) :
    (names.mergeSort fun first second => decide (first ≤ second)).Pairwise (· < ·) := by
  have transitive (first second third : String) (before : decide (first ≤ second) = true)
      (after : decide (second ≤ third) = true) : decide (first ≤ third) = true :=
    decide_eq_true ((of_decide_eq_true before).trans (of_decide_eq_true after))
  have total (first second : String) :
      (decide (first ≤ second) || decide (second ≤ first)) = true := by
    simpa using le_total first second
  have sorted := List.pairwise_mergeSort transitive total names
  exact (sorted.and ((List.mergeSort_perm names _).nodup_iff.2 distinct)).imp
    fun ⟨least, other⟩ => lt_of_le_of_ne (of_decide_eq_true least) other

theorem sublist_of_increasing {names : List String} (sorted : names.Pairwise (· < ·))
    {first second third : String} (members : ∀ name ∈ [first, second, third], name ∈ names)
    (before : first < second) (after : second < third) :
    [first, second, third].Sublist names := by
  have increase : [first, second, third].Pairwise (· < ·) :=
    .cons (List.forall_mem_cons.2 ⟨before, List.forall_mem_singleton.2 (before.trans after)⟩)
      (.cons (List.forall_mem_singleton.2 after) (List.pairwise_singleton _ _))
  have distinct : [first, second, third].Nodup := increase.imp ne_of_lt
  exact List.sublist_of_subperm_of_pairwise (List.subperm_of_subset distinct members)
    (increase.imp le_of_lt) (sorted.imp le_of_lt)

/-- What stands between two texts with one start has that start too. -/
theorem prefix_of_between {start first middle last : List Char} (starts : start <+: first)
    (ends : start <+: last) (above : first < middle) (below : middle < last) :
    start <+: middle := by
  induction start generalizing first middle last with
  | nil => exact List.nil_prefix
  | cons c start ih =>
    obtain ⟨rest, rfl⟩ := starts
    obtain ⟨others, rfl⟩ := ends
    cases middle with
    | nil => exact absurd above (List.not_lt_nil _)
    | cons d middle =>
      rw [List.cons_append, List.cons_lt_cons_iff] at above below
      have same : c = d := by
        rcases above with less | ⟨same, -⟩
        · rcases below with more | ⟨same, -⟩
          · exact absurd (less.trans more) (lt_irrefl c)
          · exact same.symm
        · exact same
      subst same
      have above := above.resolve_left (lt_irrefl c)
      have below := below.resolve_left (lt_irrefl c)
      exact List.cons_prefix_cons.2
        ⟨rfl, ih (List.prefix_append _ _) (List.prefix_append _ _) above.2 below.2⟩

theorem not_append_lt (text more : List Char) : ¬ text ++ more < text := by
  induction text with
  | nil => exact List.not_lt_nil _
  | cons c text ih =>
    rw [List.cons_append, List.cons_lt_cons_iff]
    rintro (less | ⟨-, less⟩)
    · exact lt_irrefl c less
    · exact ih less

theorem ne_empty_of_stem? {name stem : String} (found : Files.stem? "rrd" name = some stem) :
    stem ≠ "" := by
  unfold Files.stem? at found
  split at found
  · cases found
  · next none _ =>
    cases found
    exact fun empty => none (String.ofList_eq_empty_iff.1 empty)
  · cases found

namespace Layout

theorem exists_stems {tree : Files.Tree} {base : String}
    (notFile : tree.directory base ≠ .error .notDirectory) :
    ∃ found, stems tree base = .ok found ∧ found.Pairwise (· < ·) ∧ ∀ stem, stem ∈ found ↔
      stem ≠ "" ∧ ∃ root, tree.directory base = .ok root ∧ root ++ [fileName stem] ∈ tree.files := by
  unfold stems
  cases located : tree.directory base with
  | error problem =>
    cases problem with
    | missing => exact ⟨[], rfl, .nil, by simp⟩
    | notDirectory => exact absurd located notFile
  | ok root =>
    refine ⟨_, rfl, ?sorted, fun stem => ?member⟩
    case sorted =>
      refine pairwise_mergeSort_lt (List.Nodup.filterMap (fun name other stem found same => ?_)
        (nodup_namesBelow tree root))
      rw [(eq_fileName_of_found found).2, (eq_fileName_of_found same).2]
    case member =>
      rw [(List.mergeSort_perm _ _).mem_iff, List.mem_filterMap]
      constructor
      · rintro ⟨name, -, found⟩
        obtain ⟨file, rfl⟩ := eq_fileName_of_found found
        rw [Files.Tree.isFileAt, if_pos (List.contains_iff_mem.2 file)] at found
        exact ⟨ne_empty_of_stem? found, root, rfl, file⟩
      · rintro ⟨nonempty, again, same, file⟩
        cases same
        refine ⟨fileName stem, mem_namesBelow file, ?_⟩
        rw [Files.Tree.isFileAt, if_pos (List.contains_iff_mem.2 file), stem?_fileName nonempty]

/-! ## Names that are listed -/

/-- The names are those of the measurements that have files. -/
def Lists (layout : Layout) (tree : Files.Tree) (base : String) (names : List String) : Prop :=
  ∀ measurement, Carried measurement → Files.IsOwnName measurement →
    (measurement ∈ names ↔ ∃ found, layout.files tree base measurement = .ok found ∧ found ≠ [])

theorem lists_iff_of_files {layout : Layout} {tree : Files.Tree} {base measurement : String}
    {found : List SeriesFile} (files : layout.files tree base measurement = .ok found) :
    (∃ found, layout.files tree base measurement = .ok found ∧ found ≠ []) ↔ found ≠ [] := by
  constructor
  · rintro ⟨again, same, some⟩
    exact Except.ok.inj (files.symm.trans same) ▸ some
  · exact fun some => ⟨found, files, some⟩

/-- The file of another measurement comes between the file that a measurement has without tags and
one that it has with tags. -/
def Interrupted (written : List (String × Tags)) : Prop :=
  ∃ measurement tags other, (measurement, Dictionary.empty) ∈ written ∧
    (measurement, tags) ∈ written ∧ other ∈ written ∧ other.1 ≠ measurement ∧
      measurement < stemText other.1 other.2 ∧ stemText other.1 other.2 < stemText measurement tags

section
variable {tree : Files.Tree} {base : String} {written : List (String × Tags)}

theorem flat_lists {found : List String} (listed : stems tree base = .ok found) :
    Lists .flat tree base (dropRepeats (found.map fun stem => (readStem stem).1)) := by
  intro measurement carried _
  have files : Layout.flat.files tree base measurement = .ok (found.filterMap fun stem =>
      if (readStem stem).1 = component measurement then
        some ⟨Files.join base (fileName stem), (readStem stem).2⟩
      else none) := by
    rw [Layout.files, flatFiles, listed, ok_bind]
    rfl
  rw [lists_iff_of_files files, mem_dropRepeats, Ne, List.filterMap_eq_nil_iff, List.mem_map,
    component_eq carried]
  simp

theorem untagged_lists (named : base ≠ "") {found : List String}
    (member : ∀ stem, stem ∈ found ↔ stem ≠ "" ∧ ∃ root, tree.directory base = .ok root ∧
      root ++ [fileName stem] ∈ tree.files) :
    Lists .untagged tree base found := by
  intro measurement carried own
  have isFile : tree.isFile (Files.join base (fileName measurement)) = true ↔ _ :=
    Files.Tree.isFile_join_iff named (isOwnName_fileName carried)
  have path : Layout.untagged.path base measurement .empty =
      Files.join base (fileName measurement) := by
    rw [Layout.path, components, component_eq carried]
    rfl
  have files : Layout.untagged.files tree base measurement =
      .ok (if tree.isFile (Files.join base (fileName measurement)) then
        [⟨Files.join base (fileName measurement), .empty⟩] else []) := by
    rw [Layout.files, path]
  rw [lists_iff_of_files files, member, and_iff_right own.nonempty, ← isFile]
  simp

theorem exists_of_folderFiles_ne_nil (named : base ≠ "") {measurement : String}
    (carried : Carried measurement) (own : Files.IsOwnName measurement)
    (some : folderFiles tree base measurement ≠ []) :
    ∃ root rest, tree.directory base = .ok root ∧
      tree.isDirectoryAt (root ++ [measurement]) = true ∧
        root ++ measurement :: rest ∈ tree.files := by
  simp only [folderFiles, component_eq carried] at some
  split at some
  · exact absurd rfl some
  · next location located =>
    obtain ⟨root, found, rfl, directory⟩ :=
      (Files.Tree.directory_join_eq_ok_iff named own).1 located
    obtain ⟨file, member⟩ := List.exists_mem_of_ne_nil _ some
    obtain ⟨names, known, -⟩ := List.mem_filterMap.1 member
    rw [(List.mergeSort_perm _ _).mem_iff, List.mem_filterMap] at known
    obtain ⟨place, isFile, below⟩ := known
    refine ⟨root, names, found, directory, ?_⟩
    rwa [← List.singleton_append, ← List.append_assoc, below_eq_some_iff.1 below]

theorem folder_files (tree : Files.Tree) (base measurement : String) :
    Layout.folder.files tree base measurement = .ok (folderFiles tree base measurement) := rfl

theorem folder_lists (named : base ≠ "") (notFile : tree.directory base ≠ .error .notDirectory) :
    ∃ names, Layout.folder.measurements tree base = .ok names ∧ names.Nodup ∧
      Lists .folder tree base names := by
  unfold measurements
  cases located : tree.directory base with
  | error problem =>
    cases problem with
    | notDirectory => exact absurd located notFile
    | missing =>
      refine ⟨[], rfl, .nil, fun measurement carried own => ?_⟩
      rw [lists_iff_of_files (folder_files tree base measurement)]
      refine iff_of_false List.not_mem_nil fun some => ?_
      obtain ⟨root, -, found, -⟩ := exists_of_folderFiles_ne_nil named carried own some
      cases located.symm.trans found
  | ok root =>
    refine ⟨_, rfl, (nodup_namesBelow tree root).filter _, fun measurement carried own => ?_⟩
    rw [lists_iff_of_files (folder_files tree base measurement), List.mem_filter]
    constructor
    · rintro ⟨-, holds⟩
      simp only [Bool.and_eq_true, Bool.not_eq_true', List.isEmpty_eq_false_iff] at holds
      exact holds.2
    · intro some
      obtain ⟨again, rest, found, directory, file⟩ :=
        exists_of_folderFiles_ne_nil named carried own some
      obtain rfl : root = again := Except.ok.inj (located.symm.trans found)
      exact ⟨mem_namesBelow file, by simp [directory, some]⟩

/-! ## Names that are listed again -/

theorem stemText_empty {measurement : String} (carried : Carried measurement) :
    stemText measurement .empty = measurement := by
  apply String.toList_inj.1
  rw [toList_stemText carried (fun _ member => absurd member List.not_mem_nil)]
  exact List.append_nil _

theorem eq_of_between_tagged {measurement : String} {tags more : Tags} {other : String × Tags}
    (discoverable : Discoverable .flat measurement tags)
    (again : Discoverable .flat measurement more)
    (further : Discoverable .flat other.1 other.2)
    (tagged : tags.entries ≠ []) (moreTagged : more.entries ≠ [])
    (above : stemText measurement tags < stemText other.1 other.2)
    (below : stemText other.1 other.2 < stemText measurement more) : other.1 = measurement := by
  have starts {tags : Tags} (legible : Legible tags) (tagged : tags.entries ≠ []) :
      measurement.toList ++ joint <+: (stemText measurement tags).toList := by
    obtain ⟨entry, rest, same⟩ := List.exists_cons_of_ne_nil tagged
    rw [toList_stemText discoverable.carried legible, same, tagsText_cons, ← List.append_assoc]
    exact List.prefix_append _ _
  obtain ⟨rest, same⟩ := prefix_of_between (starts discoverable.legible tagged)
    (starts again.legible moreTagged) (String.lt_iff_toList_lt.1 above)
    (String.lt_iff_toList_lt.1 below)
  rw [toList_stemText further.carried further.legible, List.append_assoc] at same
  exact String.toList_inj.1 ((further.clear rfl).1.append_inj (discoverable.clear rfl).1
    (joined_tagsText _) (.inr (List.prefix_append _ _)) same.symm).1

theorem Holds.stem_iff (holds : Holds .flat tree base written)
    (discoverable : ∀ series ∈ written, Discoverable .flat series.1 series.2) {stem : String} :
    (stem ≠ "" ∧ ∃ root, tree.directory base = .ok root ∧ root ++ [fileName stem] ∈ tree.files) ↔
      ∃ series ∈ written, stemText series.1 series.2 = stem := by
  constructor
  · rintro ⟨-, root, found, file⟩
    obtain ⟨series, known, same⟩ := (holds.mem_files_iff (by decide) discoverable found).1 file
    exact ⟨series, known, fileName_injective (List.cons.inj same).1⟩
  · rintro ⟨series, known, rfl⟩
    obtain ⟨root, found, file⟩ := holds.place (by decide) (discoverable series known) known
    exact ⟨stemText_ne_empty (discoverable series known).nonempty series.2, root, found, file⟩

theorem tagged_of_lt {measurement : String} {tags more : Tags}
    (discoverable : Discoverable .flat measurement tags)
    (above : stemText measurement tags < stemText measurement more) : more.entries ≠ [] := by
  intro none
  obtain rfl : more = .empty := Dictionary.eq_of_entries none
  rw [stemText_empty discoverable.carried, String.lt_iff_toList_lt,
    toList_stemText discoverable.carried discoverable.legible] at above
  exact not_append_lt _ _ above

theorem eq_of_between (whole : ¬ Interrupted written)
    (discoverable : ∀ series ∈ written, Discoverable .flat series.1 series.2)
    {measurement : String} {tags more : Tags} {other : String × Tags}
    (first : (measurement, tags) ∈ written) (last : (measurement, more) ∈ written)
    (further : other ∈ written) (above : stemText measurement tags < stemText other.1 other.2)
    (below : stemText other.1 other.2 < stemText measurement more) : other.1 = measurement := by
  by_cases none : tags.entries = []
  · obtain rfl : tags = .empty := Dictionary.eq_of_entries none
    rw [stemText_empty (discoverable _ first).carried] at above
    by_contra differ
    exact whole ⟨_, more, other, first, last, further, differ, above, below⟩
  · exact eq_of_between_tagged (discoverable _ first) (discoverable _ last)
      (discoverable _ further) none (tagged_of_lt (discoverable _ first) (above.trans below))
      above below

section
variable {found : List String} (sorted : found.Pairwise (· < ·))
  (discoverable : ∀ series ∈ written, Discoverable .flat series.1 series.2)
  (member : ∀ stem, stem ∈ found ↔ ∃ series ∈ written, stemText series.1 series.2 = stem)
include sorted discoverable member

theorem not_interrupted_of_together
    (together : Together (found.map fun stem => (readStem stem).1)) : ¬ Interrupted written := by
  rintro ⟨measurement, tags, other, plain, tagged, known, differ, above, below⟩
  have read (series : String × Tags) (known : series ∈ written) :=
    congrArg Prod.fst (discoverable series known).readStem_stemText
  have carried : Carried measurement := (discoverable _ plain).carried
  rw [← stemText_empty carried] at above
  have members : ∀ stem ∈ [stemText measurement .empty, stemText other.1 other.2,
      stemText measurement tags], stem ∈ found := by
    simp only [List.forall_mem_cons, member]
    exact ⟨⟨_, plain, rfl⟩, ⟨_, known, rfl⟩, ⟨_, tagged, rfl⟩, List.forall_mem_nil _⟩
  have names := (sublist_of_increasing sorted members above below).map
    fun stem => (readStem stem).1
  simp only [List.map_cons, List.map_nil, read _ plain, read _ known, read _ tagged] at names
  exact differ (together _ _ names)

theorem exists_of_sublist_names {name between : String}
    (names : [name, between, name].Sublist (found.map fun stem => (readStem stem).1)) :
    ∃ tags more other, (name, tags) ∈ written ∧ (name, more) ∈ written ∧ other ∈ written ∧
      other.1 = between ∧ stemText name tags < stemText other.1 other.2 ∧
        stemText other.1 other.2 < stemText name more := by
  have read (series : String × Tags) (known : series ∈ written) :=
    congrArg Prod.fst (discoverable series known).readStem_stemText
  obtain ⟨stems, within, same⟩ := List.sublist_map_iff.1 names
  obtain ⟨first, second, third, rfl⟩ : ∃ first second third, stems = [first, second, third] :=
    List.length_eq_three.1 (by simpa using (congrArg List.length same).symm)
  have increase := sorted.sublist within
  simp only [List.pairwise_cons, List.mem_cons, forall_eq_or_imp] at increase
  obtain ⟨⟨above, -⟩, ⟨below, -⟩, -⟩ := increase
  have known (stem : String) (inside : stem ∈ [first, second, third]) :=
    (member stem).1 (within.subset inside)
  obtain ⟨⟨measurement, tags⟩, plain, rfl⟩ := known first (by simp)
  obtain ⟨other, isOther, rfl⟩ := known second (by simp)
  obtain ⟨⟨again, more⟩, tagged, rfl⟩ := known third (by simp)
  simp only [List.map_cons, List.map_nil, read _ plain, read _ isOther, read _ tagged,
    List.cons.injEq, and_true] at same
  obtain ⟨rfl, rfl, rfl⟩ := same
  exact ⟨tags, more, other, plain, tagged, isOther, rfl, above, below⟩

theorem together_stems_iff :
    Together (found.map fun stem => (readStem stem).1) ↔ ¬ Interrupted written := by
  refine ⟨not_interrupted_of_together sorted discoverable member, fun whole name between names => ?_⟩
  obtain ⟨tags, more, other, first, last, further, rfl, above, below⟩ :=
    exists_of_sublist_names sorted discoverable member names
  exact eq_of_between whole discoverable first last further above below

end

end

/-- Every layout lists exactly the measurements that have files, and lists none of them again unless
flat files of one measurement stand on both sides of another one's. -/
theorem measurements_list {layout : Layout} {tree : Files.Tree} {base : String}
    {written : List (String × Tags)}
    (discoverable : ∀ series ∈ written, Discoverable layout series.1 series.2)
    (holds : Holds layout tree base written) :
    ∃ names, layout.measurements tree base = .ok names ∧ Lists layout tree base names ∧
      (names.Nodup ↔ (layout = .flat → ¬ Interrupted written)) := by
  obtain ⟨found, listed, sorted, member⟩ := exists_stems holds.notFile
  cases layout with
  | folder =>
    obtain ⟨names, given, distinct, lists⟩ := folder_lists holds.named holds.notFile
    exact ⟨names, given, lists, iff_of_true distinct nofun⟩
  | untagged =>
    exact ⟨found, listed, untagged_lists holds.named member,
      iff_of_true (sorted.imp ne_of_lt) nofun⟩
  | flat =>
    refine ⟨_, by rw [measurements, listed, ok_bind]; rfl, flat_lists listed, ?_⟩
    have stems (stem : String) :
        stem ∈ found ↔ ∃ series ∈ written, stemText series.1 series.2 = stem :=
      (member stem).trans (holds.stem_iff discoverable)
    rw [nodup_dropRepeats_iff, together_stems_iff sorted discoverable stems]
    exact ⟨fun whole _ => whole, fun whole => whole rfl⟩

/-- The file of `cpu-total` comes between those of `cpu`, since a hyphen comes before an underscore. -/
theorem measurements_list_interrupted :
    let written : List (String × Tags) :=
      [("cpu", .empty), ("cpu-total", .empty), ("cpu", .ofList [("host", "a")])]
    let tree : Files.Tree := ⟨written.map fun series =>
      ["data"] ++ Layout.flat.components series.1 series.2, [], []⟩
    (∀ series ∈ written, Discoverable .flat series.1 series.2) ∧
      Holds .flat tree "/data" written ∧
      ∃ names, Layout.flat.measurements tree "/data" = .ok names ∧
        Lists .flat tree "/data" names ∧ ¬ names.Nodup := by
  intro written tree
  have discoverable : ∀ series ∈ written, Discoverable .flat series.1 series.2 := by
    decide +kernel
  have holds : Holds .flat tree "/data" written := by decide +kernel
  have interrupted : Interrupted written :=
    ⟨"cpu", .ofList [("host", "a")], ("cpu-total", .empty), by decide +kernel, by decide +kernel,
      by decide +kernel, by decide, by decide +kernel, by decide +kernel⟩
  obtain ⟨names, given, lists, distinct⟩ := measurements_list discoverable holds
  exact ⟨discoverable, holds, names, given, lists, fun nodup => distinct.1 nodup rfl interrupted⟩

end Layout

end SeriesQuery.Rrd
