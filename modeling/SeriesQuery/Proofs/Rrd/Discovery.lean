import Mathlib.Data.List.Dedup
import SeriesQuery.Proofs.Entries
import SeriesQuery.Proofs.Outcomes
import SeriesQuery.Proofs.Rrd.Isolation

/-!
What is written is found again. Where the files below a base directory are those of a set of series,
the files of a measurement are those of its series, each with its tags.
-/

set_option autoImplicit false

namespace SeriesQuery.Rrd

/-- The names of a series that its path tells. -/
structure Discoverable (layout : Layout) (measurement : String) (tags : Tags) : Prop
    extends Separable layout measurement tags where
  notHere : measurement ≠ "."
  notAbove : measurement ≠ ".."
  clearKeys : layout = .flat → ∀ entry ∈ tags.entries, ¬ joint <:+: entry.1.toList

instance (layout : Layout) (measurement : String) (tags : Tags) :
    Decidable (Discoverable layout measurement tags) :=
  decidable_of_iff (Separable layout measurement tags ∧ measurement ≠ "." ∧ measurement ≠ ".." ∧
      (layout = .flat → ∀ entry ∈ tags.entries, ¬ joint <:+: entry.1.toList))
    ⟨fun ⟨separable, notHere, notAbove, clearKeys⟩ =>
        { separable with notHere := notHere, notAbove := notAbove, clearKeys := clearKeys },
      fun discoverable => ⟨discoverable.toSeparable, discoverable.notHere, discoverable.notAbove,
        discoverable.clearKeys⟩⟩

/-! ## Reading names -/

theorem clear_pair {key value : List Char} (noJoint : ¬ joint <:+: key) (clear : Clear value) :
    Clear (key ++ '=' :: value) where
  noJoint inside := (joint_infix_pair inside).elim noJoint clear.noJoint
  noTail last := by
    rw [List.getLast?_append_of_ne_nil _ (List.cons_ne_nil _ _)] at last
    cases value with
    | nil => exact absurd (Option.some.inj last) (by decide)
    | cons c rest => exact clear.noTail last

theorem splitStem_joined {text : List Char} {others : List (List Char)} (clear : Clear text)
    (clearOthers : ∀ other ∈ others, Clear other) :
    splitStem (text ++ others.flatMap fun other => joint ++ other) = text :: others := by
  induction others generalizing text with
  | nil => rw [List.flatMap_nil, List.append_nil, splitStem_eq clear.noJoint]
  | cons other rest ih =>
    have ⟨clearOther, clearRest⟩ := List.forall_mem_cons.1 clearOthers
    rw [List.flatMap_cons, List.append_assoc, splitStem_append clear, ih clearOther clearRest]

theorem dropEnd?_append (text word : List Char) :
    Text.dropEnd? word (text ++ word) = some text := by
  rw [Text.dropEnd?, List.reverse_append, Text.dropStart?_append, Option.map_some,
    List.reverse_reverse]

theorem eq_append_of_dropEnd? {word text rest : List Char}
    (found : Text.dropEnd? word text = some rest) : text = rest ++ word := by
  obtain ⟨reversed, dropped, rfl⟩ := Option.map_eq_some_iff.1 found
  rw [← List.reverse_reverse text, Text.eq_append_of_dropStart? dropped, List.reverse_append,
    List.reverse_reverse]

theorem stem?_fileName {stem : String} (nonempty : stem ≠ "") :
    Files.stem? "rrd" (fileName stem) = some stem := by
  have dropped : Text.dropEnd? ('.' :: "rrd".toList) (fileName stem).toList = some stem.toList := by
    rw [fileName, String.toList_append]
    exact dropEnd?_append _ _
  rw [Files.stem?, dropped]
  split
  · next none => exact absurd (String.toList_inj.1 (Option.some.inj none)) nonempty
  · next same => rw [← Option.some.inj same, String.ofList_toList]
  · next none => cases none

theorem eq_fileName_of_stem? {name stem : String} (found : Files.stem? "rrd" name = some stem) :
    name = fileName stem := by
  unfold Files.stem? at found
  split at found
  · cases found
  · next dropped =>
    cases found
    apply String.toList_inj.1
    rw [eq_append_of_dropEnd? dropped, fileName, String.toList_append]
    exact congrArg (· ++ _) String.toList_ofList.symm
  · cases found

theorem Legible.mapM_readPair? {tags : Tags} (legible : Legible tags) :
    (pairTexts tags).mapM (fun pair => readPair? pair.toList) = some tags.entries := by
  have each (entry : String × String) (member : entry ∈ tags.entries) :
      readPair? (pairText entry.1 entry.2).toList = some (id entry) :=
    readPair?_pairText (legible entry member).1 (legible entry member).2
  rw [pairTexts, mapM_map, mapM_of_forall each, List.map_id]

theorem Legible.readFolders?_pairTexts {tags : Tags} (legible : Legible tags) :
    Layout.readFolders? (pairTexts tags) = some tags := by
  rw [Layout.readFolders?, legible.mapM_readPair?, Option.map_some, Dictionary.ofList_entries]

theorem Discoverable.readStem_stemText {measurement : String} {tags : Tags}
    (discoverable : Discoverable .flat measurement tags) :
    Layout.readStem (stemText measurement tags) = (measurement, tags) := by
  have ⟨clear, clearValues⟩ := discoverable.clear rfl
  have clearPairs : ∀ pair ∈ (pairTexts tags).map String.toList, Clear pair := by
    intro pair member
    obtain ⟨text, written, rfl⟩ := List.mem_map.1 member
    obtain ⟨entry, known, rfl⟩ := List.mem_map.1 written
    rw [toList_pairText (discoverable.legible entry known).1]
    exact clear_pair (discoverable.clearKeys rfl entry known) (clearValues entry known)
  have split := splitStem_joined clear clearPairs
  rw [List.flatMap_map] at split
  rw [Layout.readStem, stemText, component_eq discoverable.carried, toList_intercalate_joint,
    split]
  simp only [List.filterMap_map, Function.comp_def]
  rw [discoverable.legible.filterMap_readPair?, Dictionary.ofList_entries, String.ofList_toList]

theorem stemText_ne_empty {measurement : String} (nonempty : measurement ≠ "") (tags : Tags) :
    stemText measurement tags ≠ "" := by
  intro empty
  have none := congrArg String.toList empty
  rw [stemText, toList_intercalate_joint] at none
  exact component_ne_empty nonempty
    (String.toList_inj.1 (List.append_eq_nil_iff.1 none).1)

/-! ## The files of a set of series -/

namespace Layout

/-- Below the base directory there is the file of each series, and no other. -/
structure Holds (layout : Layout) (tree : Files.Tree) (base : String)
    (written : List (String × Tags)) : Prop where
  named : base ≠ ""
  notFile : tree.directory base ≠ .error .notDirectory
  distinct : tree.files.Nodup
  each : ∀ series ∈ written, tree.isFile (layout.path base series.1 series.2) = true
  only : ∀ root, tree.directory base = .ok root → ∀ file ∈ tree.files, root <+: file →
    ∃ series ∈ written, tree.locate (layout.path base series.1 series.2) = .ok file

instance (layout : Layout) (tree : Files.Tree) (base : String) (written : List (String × Tags)) :
    Decidable (Holds layout tree base written) :=
  match found : tree.directory base with
  | .error problem =>
    decidable_of_iff (base ≠ "" ∧ problem ≠ .notDirectory ∧ tree.files.Nodup ∧
        ∀ series ∈ written, tree.isFile (layout.path base series.1 series.2) = true)
      ⟨fun ⟨named, notFile, distinct, each⟩ =>
        { named, distinct, each
          notFile := fun same => notFile (Except.error.inj (found.symm.trans same))
          only := fun root same => absurd (found.symm.trans same) (by simp) },
        fun holds => ⟨holds.named, fun same => holds.notFile (same ▸ found), holds.distinct,
          holds.each⟩⟩
  | .ok root =>
    decidable_of_iff (base ≠ "" ∧ tree.files.Nodup ∧
        (∀ series ∈ written, tree.isFile (layout.path base series.1 series.2) = true) ∧
        ∀ file ∈ tree.files, root <+: file →
          ∃ series ∈ written, tree.locate (layout.path base series.1 series.2) = .ok file)
      ⟨fun ⟨named, distinct, each, only⟩ =>
        { named, distinct, each
          notFile := fun same => absurd (found.symm.trans same) (by simp)
          only := fun other same => Except.ok.inj (found.symm.trans same) ▸ only },
        fun holds => ⟨holds.named, holds.distinct, holds.each, holds.only root found⟩⟩

theorem isOwnName_components {layout : Layout} (tagged : layout ≠ .untagged) {measurement : String}
    {tags : Tags} (discoverable : Discoverable layout measurement tags) :
    ∀ name ∈ layout.components measurement tags, Files.IsOwnName name := by
  cases layout with
  | untagged => exact absurd rfl tagged
  | flat =>
    exact List.forall_mem_singleton.2 (isOwnName_fileName (carried_stemText measurement tags))
  | folder =>
    refine List.forall_mem_cons.2 ⟨?_, isOwnName_rest measurement tags⟩
    rw [component_eq discoverable.carried]
    exact { discoverable.carried.isName discoverable.nonempty with
      notHere := discoverable.notHere, notAbove := discoverable.notAbove }

theorem components_ne_nil (layout : Layout) (measurement : String) (tags : Tags) :
    layout.components measurement tags ≠ [] := by
  cases layout <;> exact List.cons_ne_nil _ _

theorem locate_path_eq_ok {layout : Layout} (tagged : layout ≠ .untagged) {tree : Files.Tree}
    {base measurement : String} {tags : Tags} {place : Files.Location} (named : base ≠ "")
    (discoverable : Discoverable layout measurement tags)
    (located : tree.locate (layout.path base measurement tags) = .ok place) :
    ∃ root, tree.directory base = .ok root ∧
      place = root ++ layout.components measurement tags := by
  have own := isOwnName_components tagged discoverable
  obtain ⟨first, rest, same⟩ :=
    List.exists_cons_of_ne_nil (components_ne_nil layout measurement tags)
  rw [path, same] at located
  rw [same] at own ⊢
  have ⟨isOwn, ownRest⟩ := List.forall_mem_cons.1 own
  obtain ⟨root, next, reached, entered, rfl⟩ :=
    Files.Tree.locate_joinAll_eq_ok isOwn.toIsName ownRest located
  refine ⟨root, Files.Tree.directory_of_entry named reached (Files.Tree.enter_eq_ok entered).1, ?_⟩
  rw [Files.Tree.enter_ownName_eq_ok isOwn entered, List.append_assoc, List.singleton_append]

section
variable {layout : Layout} {tree : Files.Tree} {base : String} {written : List (String × Tags)}

theorem Holds.place (holds : Holds layout tree base written) (tagged : layout ≠ .untagged)
    {series : String × Tags} (discoverable : Discoverable layout series.1 series.2)
    (member : series ∈ written) :
    ∃ root, tree.directory base = .ok root ∧
      root ++ layout.components series.1 series.2 ∈ tree.files := by
  obtain ⟨place, located, file⟩ := Files.Tree.isFile_iff.1 (holds.each series member)
  obtain ⟨root, found, rfl⟩ := locate_path_eq_ok tagged holds.named discoverable located
  exact ⟨root, found, file⟩

theorem Holds.mem_files_iff (holds : Holds layout tree base written) (tagged : layout ≠ .untagged)
    (discoverable : ∀ series ∈ written, Discoverable layout series.1 series.2)
    {root : Files.Location} (found : tree.directory base = .ok root) {names : List String} :
    root ++ names ∈ tree.files ↔
      ∃ series ∈ written, layout.components series.1 series.2 = names := by
  constructor
  · intro file
    obtain ⟨series, member, located⟩ := holds.only root found _ file (List.prefix_append root names)
    obtain ⟨again, foundAgain, same⟩ :=
      locate_path_eq_ok tagged holds.named (discoverable series member) located
    obtain rfl : root = again := Except.ok.inj (found.symm.trans foundAgain)
    exact ⟨series, member, (List.append_cancel_left same).symm⟩
  · rintro ⟨series, member, rfl⟩
    obtain ⟨again, foundAgain, file⟩ := holds.place tagged (discoverable series member) member
    obtain rfl : root = again := Except.ok.inj (found.symm.trans foundAgain)
    exact file

/-! ## Flat files -/

theorem nodup_namesBelow (tree : Files.Tree) (location : Files.Location) :
    (tree.namesBelow location).Nodup :=
  (List.mergeSort_perm _ _).nodup_iff.2 (nodup_eraseDups _)

theorem mem_namesBelow {tree : Files.Tree} {location rest : Files.Location} {name : String}
    (file : location ++ name :: rest ∈ tree.files) : name ∈ tree.namesBelow location := by
  rw [Files.Tree.namesBelow, (List.mergeSort_perm _ _).mem_iff, List.mem_eraseDups,
    List.mem_filterMap]
  refine ⟨_, List.mem_append_left _ file, ?_⟩
  rw [if_pos (List.isPrefixOf_iff_prefix.2 (List.prefix_append _ _)),
    List.getElem?_append_right le_rfl, Nat.sub_self, List.getElem?_cons_zero]

theorem eq_fileName_of_found {tree : Files.Tree} {location : Files.Location} {name stem : String}
    (found : (if tree.isFileAt (location ++ [name]) then Files.stem? "rrd" name else none) =
      some stem) : location ++ [name] ∈ tree.files ∧ name = fileName stem := by
  split at found
  · next file => exact ⟨List.contains_iff_mem.1 file, eq_fileName_of_stem? found⟩
  · cases found

theorem Holds.stems_perm (holds : Holds .flat tree base written)
    (discoverable : ∀ series ∈ written, Discoverable .flat series.1 series.2)
    (once : written.Nodup) :
    ∃ found, stems tree base = .ok found ∧
      found.Perm (written.map fun series => stemText series.1 series.2) := by
  unfold stems
  cases located : tree.directory base with
  | error problem =>
    -- Any series would have its file below the base directory, so that nothing is written.
    have none : written = [] := by
      refine List.eq_nil_iff_forall_not_mem.2 fun series member => ?_
      obtain ⟨root, found, -⟩ := holds.place (by decide) (discoverable series member) member
      cases found.symm.trans located
    cases problem with
    | missing => exact ⟨[], rfl, none ▸ .nil⟩
    | notDirectory => exact absurd located holds.notFile
  | ok root =>
    have files_iff (names : List String) : root ++ names ∈ tree.files ↔
        ∃ series ∈ written, Layout.flat.components series.1 series.2 = names :=
      holds.mem_files_iff (by decide) discoverable located
    refine ⟨_, rfl, (List.mergeSort_perm _ _).trans ?_⟩
    have distinct : (written.map fun series => stemText series.1 series.2).Nodup := by
      refine List.Nodup.map_on (fun first member second known same => ?_) once
      have ⟨names, tags⟩ := stemText_injective (discoverable first member).toSeparable
        (discoverable second known).toSeparable same
      exact Prod.ext names tags
    refine (List.perm_ext_iff_of_nodup ?_ distinct).2 fun stem => ?_
    · refine List.Nodup.filterMap (fun name other stem found same => ?_)
        (nodup_namesBelow tree root)
      rw [(eq_fileName_of_found found).2, (eq_fileName_of_found same).2]
    · rw [List.mem_filterMap, List.mem_map]
      constructor
      · rintro ⟨name, -, found⟩
        obtain ⟨file, rfl⟩ := eq_fileName_of_found found
        obtain ⟨series, member, same⟩ := (files_iff [fileName stem]).1 file
        exact ⟨series, member, fileName_injective (List.cons.inj same).1⟩
      · rintro ⟨series, member, rfl⟩
        have file := (files_iff [fileName (stemText series.1 series.2)]).2 ⟨series, member, rfl⟩
        have full := stemText_ne_empty (discoverable series member).nonempty series.2
        refine ⟨_, mem_namesBelow file, ?_⟩
        rw [Files.Tree.isFileAt, if_pos (List.contains_iff_mem.2 file), stem?_fileName full]

theorem Holds.flatFiles_perm (holds : Holds .flat tree base written)
    (discoverable : ∀ series ∈ written, Discoverable .flat series.1 series.2)
    (once : written.Nodup) {measurement : String} (carried : Carried measurement) :
    ∃ found, flatFiles tree base measurement = .ok found ∧
      found.Perm ((written.filter (·.1 = measurement)).map fun series =>
        ⟨Layout.flat.path base series.1 series.2, series.2⟩) := by
  obtain ⟨stems, listed, same⟩ := holds.stems_perm discoverable once
  refine ⟨_, by rw [flatFiles, listed, ok_bind]; rfl, (same.filterMap _).trans (.of_eq ?_)⟩
  rw [List.filterMap_map, ← List.filterMap_eq_map, List.filterMap_filter]
  refine List.filterMap_congr fun series member => ?_
  simp only [Function.comp_apply, (discoverable series member).readStem_stemText,
    component_eq carried, decide_eq_true_eq]
  rfl

/-! ## Folders -/

theorem below_eq_some_iff {location file rest : Files.Location} :
    (if location.isPrefixOf file then some (file.drop location.length) else none) = some rest ↔
      location ++ rest = file := by
  constructor
  · intro found
    split at found
    · next before =>
      obtain ⟨names, rfl⟩ := List.isPrefixOf_iff_prefix.1 before
      rw [List.drop_left] at found
      rw [Option.some.inj found]
    · cases found
  · rintro rfl
    rw [if_pos (List.isPrefixOf_iff_prefix.2 (List.prefix_append _ _)), List.drop_left]

theorem Holds.below_perm (holds : Holds .folder tree base written)
    (discoverable : ∀ series ∈ written, Discoverable .folder series.1 series.2)
    (once : written.Nodup) {root : Files.Location} (located : tree.directory base = .ok root)
    (measurement : String) :
    (tree.files.filterMap fun file =>
      if (root ++ [measurement]).isPrefixOf file then
        some (file.drop (root ++ [measurement]).length)
      else none).Perm ((written.filter (·.1 = measurement)).map fun series =>
        pairTexts series.2 ++ [fileName measurement]) := by
  have files_iff (names : List String) : root ++ names ∈ tree.files ↔
      ∃ series ∈ written, Layout.folder.components series.1 series.2 = names :=
    holds.mem_files_iff (by decide) discoverable located
  have distinct : ((written.filter (·.1 = measurement)).map fun series =>
      pairTexts series.2 ++ [fileName measurement]).Nodup := by
    refine List.Nodup.map_on (fun first member second known same => ?_) (once.filter _)
    obtain ⟨member, named⟩ := List.mem_filter.1 member
    obtain ⟨known, alsoNamed⟩ := List.mem_filter.1 known
    have tags := (discoverable first member).legible.eq_of_pairTexts
      (discoverable second known).legible (List.append_cancel_right same)
    exact Prod.ext ((of_decide_eq_true named).trans (of_decide_eq_true alsoNamed).symm) tags
  have components (series : String × Tags) (member : series ∈ written) :
      Layout.folder.components series.1 series.2 =
        series.1 :: (pairTexts series.2 ++ [fileName series.1]) := by
    rw [components_folder, component_eq (discoverable series member).carried]
  -- Both lists have each file once, so it is enough that they have the same ones.
  refine (List.perm_ext_iff_of_nodup ?_ distinct).2 fun rest => ?_
  · refine List.Nodup.filterMap (fun file other rest found same => ?_) holds.distinct
    rw [← below_eq_some_iff.1 found, ← below_eq_some_iff.1 same]
  · simp only [List.mem_filterMap, below_eq_some_iff, List.append_assoc, List.singleton_append,
      exists_eq_right', files_iff, List.mem_map, List.mem_filter, decide_eq_true_eq]
    constructor
    · rintro ⟨series, member, same⟩
      rw [components series member] at same
      obtain ⟨rfl, names⟩ := List.cons.inj same
      exact ⟨series, ⟨member, rfl⟩, names⟩
    · rintro ⟨series, ⟨member, rfl⟩, rfl⟩
      exact ⟨series, member, components series member⟩

theorem Holds.folderFiles_perm (holds : Holds .folder tree base written)
    (discoverable : ∀ series ∈ written, Discoverable .folder series.1 series.2)
    (once : written.Nodup) {measurement : String} (carried : Carried measurement)
    (own : Files.IsOwnName measurement) :
    (folderFiles tree base measurement).Perm
      ((written.filter (·.1 = measurement)).map fun series =>
        ⟨Layout.folder.path base series.1 series.2, series.2⟩) := by
  simp only [folderFiles, component_eq carried]
  cases located : tree.directory (Files.join base measurement) with
  | error problem =>
    -- The file of a series makes all above it directories, and the measurement's would be one.
    have none : written.filter (·.1 = measurement) = [] := by
      refine List.filter_eq_nil_iff.2 fun series member same => ?_
      obtain ⟨root, found, file⟩ := holds.place (by decide) (discoverable series member) member
      rw [components_folder, of_decide_eq_true same, component_eq carried] at file
      obtain ⟨first, rest, names⟩ := List.exists_cons_of_ne_nil
        (List.concat_ne_nil (fileName measurement) (pairTexts series.2))
      rw [List.append_cons, names] at file
      have directory := Files.Tree.isDirectoryAt_of_file file
      cases located.symm.trans ((Files.Tree.directory_join_eq_ok_iff holds.named own).2
        ⟨root, found, rfl, directory⟩)
    rw [none]
    exact .nil
  | ok location =>
    obtain ⟨root, found, rfl, -⟩ := (Files.Tree.directory_join_eq_ok_iff holds.named own).1 located
    have same := holds.below_perm discoverable once found measurement
    refine (((List.mergeSort_perm _ _).trans same).filterMap _).trans (.of_eq ?_)
    rw [List.filterMap_map, ← List.filterMap_eq_map]
    refine List.filterMap_congr fun series member => ?_
    obtain ⟨known, named⟩ := List.mem_filter.1 member
    obtain rfl := of_decide_eq_true named
    have legible := (discoverable series known).legible
    simp only [Function.comp_apply, List.getLast?_concat, List.dropLast_concat, if_true,
      legible.readFolders?_pairTexts, Option.map_some]
    rw [path, components_folder, component_eq carried]
    rfl

end

/-- The files of a measurement are those of its series, each with its tags, and no others. -/
theorem files_perm {layout : Layout} (tagged : layout ≠ .untagged) {tree : Files.Tree}
    {base : String} {written : List (String × Tags)} (once : written.Nodup)
    (discoverable : ∀ series ∈ written, Discoverable layout series.1 series.2)
    (holds : Holds layout tree base written) {measurement : String} (carried : Carried measurement)
    (own : Files.IsOwnName measurement) :
    ∃ found, layout.files tree base measurement = .ok found ∧
      found.Perm ((written.filter (·.1 = measurement)).map fun series =>
        ⟨layout.path base series.1 series.2, series.2⟩) := by
  cases layout with
  | untagged => exact absurd rfl tagged
  | flat => exact holds.flatFiles_perm discoverable once carried
  | folder => exact ⟨_, rfl, holds.folderFiles_perm discoverable once carried own⟩

/-- Tags that go on from one another, values with a sign and measurements with one start. -/
theorem files_perm_nested :
    let written : List (String × Tags) := [("cpu", .ofList []), ("cpu", .ofList [("host", "a")]),
      ("cpu", .ofList [("host", "a"), ("rack", "r=1")]), ("cpu_0", .ofList [("host", "a")])]
    let folders : Files.Tree := ⟨written.map fun series =>
      ["srv", "data"] ++ Layout.folder.components series.1 series.2,
      [["srv", "data", "mem"]], ["srv"]⟩
    let flat : Files.Tree := ⟨written.map fun series =>
      ["srv", "data"] ++ Layout.flat.components series.1 series.2, [], ["srv"]⟩
    (∀ series ∈ written, Discoverable .folder series.1 series.2 ∧
      Discoverable .flat series.1 series.2) ∧
      Holds .folder folders "./data/" written ∧ Holds .flat flat "../srv/data" written ∧
      (∃ found, Layout.folder.files folders "./data/" "cpu" = .ok found ∧
        found.Perm ((written.filter (·.1 = "cpu")).map fun series =>
          ⟨Layout.folder.path "./data/" series.1 series.2, series.2⟩)) ∧
      ∃ found, Layout.flat.files flat "../srv/data" "cpu" = .ok found ∧
        found.Perm ((written.filter (·.1 = "cpu")).map fun series =>
          ⟨Layout.flat.path "../srv/data" series.1 series.2, series.2⟩) := by
  intro written folders flat
  have once : written.Nodup := by decide +kernel
  have discoverable : ∀ series ∈ written, Discoverable .folder series.1 series.2 ∧
      Discoverable .flat series.1 series.2 := by decide +kernel
  have nested : Holds .folder folders "./data/" written := by decide +kernel
  have joined : Holds .flat flat "../srv/data" written := by decide +kernel
  have carried : Carried "cpu" := by decide
  have own : Files.IsOwnName "cpu" := ⟨⟨by decide, by decide, by decide⟩, by decide, by decide⟩
  exact ⟨discoverable, nested, joined,
    files_perm (by decide) once (fun series member => (discoverable series member).1) nested carried
      own,
    files_perm (by decide) once (fun series member => (discoverable series member).2) joined carried
      own⟩

end Layout

end SeriesQuery.Rrd
