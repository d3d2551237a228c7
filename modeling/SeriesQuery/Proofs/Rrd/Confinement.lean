import SeriesQuery.Proofs.Files.Resolved
import SeriesQuery.Proofs.Rrd.Discovery
import SeriesQuery.Rrd.Store

/-!
Where the files of series are. Every path is below the data directory, and so is every file that a
command is run about, except for one measurement: with a directory for each tag, `..` is not taken
for a name but leads up.
-/

set_option autoImplicit false

namespace SeriesQuery.Rrd

/-! ## Components -/

theorem carried_of_component {text : String} (kept : '_' ∉ (component text).toList) :
    Carried text := by
  intro c member
  have replaced := List.mem_map_of_mem
    (f := fun c => if c = '/' ∨ c = '\\' ∨ c = '\x00' then '_' else c) member
  rw [← String.toList_map] at replaced
  split at replaced
  · exact absurd replaced kept
  · next other =>
    simp only [not_or] at other
    exact other

theorem component_above : component ".." = ".." := component_eq (by decide)

theorem component_ne_above {text : String} (other : text ≠ "..") : component text ≠ ".." := by
  intro same
  have carried : Carried text := carried_of_component (by rw [same]; decide)
  exact other ((component_eq carried).symm.trans same)

theorem next_component {measurement : String} (other : measurement ≠ "..")
    (place : Files.Resolved) :
    ∃ names, (∀ name ∈ names, Files.IsOwnName name) ∧
      place.next (component measurement) = place.on names := by
  have notAbove := component_ne_above other
  by_cases stays : component measurement = "" ∨ component measurement = "."
  · exact ⟨[], List.forall_mem_nil _, by simp [Files.Resolved.next, Files.Resolved.on, stays]⟩
  · obtain ⟨nonempty, notHere⟩ := not_or.1 stays
    have isName := (carried_component measurement).isName nonempty
    have own : Files.IsOwnName (component measurement) :=
      { isName with notHere := notHere, notAbove := notAbove }
    exact ⟨[component measurement], List.forall_mem_singleton.2 own,
      Files.Resolved.next_ownName own place⟩

/-! ## Paths -/

namespace Layout

/-- The layout goes up with the measurement, instead of into a directory of its own. -/
def GoesUp (layout : Layout) (measurement : String) : Prop :=
  layout = .folder ∧ measurement = ".."

instance (layout : Layout) (measurement : String) : Decidable (layout.GoesUp measurement) :=
  inferInstanceAs (Decidable (layout = .folder ∧ measurement = ".."))

/-- Up from a place and back: there is nothing above the root, and otherwise the first pair of the
tags is the name of the place itself. -/
def ComesBack (place : Files.Resolved) (tags : Tags) : Prop :=
  place = .root ∨ pairTexts tags ≠ [] ∧ place.names.getLast? = (pairTexts tags).head?

instance (place : Files.Resolved) (tags : Tags) : Decidable (ComesBack place tags) :=
  inferInstanceAs (Decidable (place = .root ∨
    pairTexts tags ≠ [] ∧ place.names.getLast? = (pairTexts tags).head?))

theorem noSlash_components (layout : Layout) (measurement : String) (tags : Tags) :
    ∀ name ∈ layout.components measurement tags, '/' ∉ name.toList := by
  have single {stem : String} (carried : Carried stem) :
      ∀ name ∈ [fileName stem], '/' ∉ name.toList :=
    List.forall_mem_singleton.2 (isOwnName_fileName carried).noSlash
  cases layout with
  | flat => exact single (carried_stemText measurement tags)
  | untagged => exact single (carried_component measurement)
  | folder =>
    exact List.forall_mem_cons.2 ⟨fun slash => (carried_component measurement _ slash).1 rfl,
      fun name member => (isOwnName_rest measurement tags name member).noSlash⟩

theorem resolve_path (layout : Layout) (base measurement : String) (tags : Tags) :
    Files.resolve (layout.path base measurement tags) =
      (layout.components measurement tags).foldl .next (Files.resolve base) :=
  Files.resolve_joinAll (noSlash_components layout measurement tags) base

theorem resolve_path_folder (base measurement : String) (tags : Tags) :
    Files.resolve (Layout.folder.path base measurement tags) =
      ((Files.resolve base).next (component measurement)).on
        (pairTexts tags ++ [fileName (component measurement)]) := by
  rw [resolve_path, components_folder, List.foldl_cons,
    Files.Resolved.foldl_next (isOwnName_rest measurement tags)]

theorem below_path {layout : Layout} {measurement : String}
    (stays : ¬ layout.GoesUp measurement) (base : String) (tags : Tags) :
    Files.Below base (layout.path base measurement tags) := by
  have single {stem : String} (carried : Carried stem) :
      (Files.resolve base).Below ([fileName stem].foldl .next (Files.resolve base)) := by
    have own := List.forall_mem_singleton.2 (isOwnName_fileName carried)
    rw [Files.Resolved.foldl_next own]
    exact Files.Resolved.below_on (List.cons_ne_nil _ _) own _
  unfold Files.Below
  cases layout with
  | flat => exact resolve_path .flat base measurement tags ▸ single (carried_stemText _ _)
  | untagged => exact resolve_path .untagged base measurement tags ▸ single (carried_component _)
  | folder =>
    obtain ⟨names, own, same⟩ := next_component (fun above => stays ⟨rfl, above⟩)
      (Files.resolve base)
    rw [resolve_path_folder, same, Files.Resolved.on_append]
    refine Files.Resolved.below_on (by simp) (fun name member => ?_) _
    exact (List.mem_append.1 member).elim (own name) (isOwnName_rest measurement tags name)

theorem below_path_above_iff (base : String) (tags : Tags) :
    Files.Below base (Layout.folder.path base ".." tags) ↔
      ComesBack (Files.resolve base) tags := by
  have own := isOwnName_rest ".." tags
  have up : (Files.resolve base).next (component "..") = (Files.resolve base).up := by
    rw [component_above]
    rfl
  rw [Files.Below, resolve_path_folder, up, ComesBack]
  cases written : pairTexts tags with
  | nil =>
    rw [written] at own
    rw [List.nil_append, Files.Resolved.below_up_on_iff own]
    simp
  | cons pair rest =>
    rw [written, List.cons_append] at own
    rw [List.cons_append, Files.Resolved.below_up_on_iff own]
    simp

/-! ## Files that are found -/

/-- A tree whose places are told by names, and not by ways to other places. -/
def NamedByNames (tree : Files.Tree) : Prop :=
  ∀ file ∈ tree.files, ∀ name ∈ file, Files.IsOwnName name

instance (tree : Files.Tree) : Decidable (NamedByNames tree) :=
  inferInstanceAs (Decidable (∀ file ∈ tree.files, ∀ name ∈ file, Files.IsOwnName name))

theorem below_join {base name : String} (own : Files.IsOwnName name) :
    Files.Below base (Files.join base name) := by
  rw [Files.Below, Files.resolve_join own.noSlash, Files.Resolved.next_ownName own]
  exact Files.Resolved.below_on (List.cons_ne_nil _ _) (List.forall_mem_singleton.2 own) _

theorem mem_stems {tree : Files.Tree} {base stem : String} {found : List String}
    (listed : stems tree base = .ok found) (member : stem ∈ found) :
    ∃ location : Files.Location, location ++ [fileName stem] ∈ tree.files := by
  unfold stems at listed
  split at listed
  · next location _ =>
    cases listed
    rw [(List.mergeSort_perm _ _).mem_iff, List.mem_filterMap] at member
    obtain ⟨name, -, made⟩ := member
    obtain ⟨file, rfl⟩ := eq_fileName_of_found made
    exact ⟨location, file⟩
  · cases listed
    cases member
  · cases listed

theorem below_flatFiles {tree : Files.Tree} (named : NamedByNames tree)
    {base measurement : String} {found : List SeriesFile}
    (listed : flatFiles tree base measurement = .ok found) {file : SeriesFile}
    (member : file ∈ found) : Files.Below base file.path := by
  obtain ⟨stems, read, made⟩ := exists_of_bind listed
  cases made
  obtain ⟨stem, known, same⟩ := List.mem_filterMap.1 member
  obtain ⟨location, isFile⟩ := mem_stems read known
  dsimp only at same
  split at same
  · cases same
    exact below_join (named _ isFile _ (List.mem_append_right _ List.mem_cons_self))
  · cases same

theorem below_folderFiles {tree : Files.Tree} (named : NamedByNames tree)
    {measurement : String} (other : measurement ≠ "..") {base : String} {file : SeriesFile}
    (member : file ∈ folderFiles tree base measurement) : Files.Below base file.path := by
  unfold folderFiles at member
  dsimp only at member
  split at member
  · cases member
  · next location _ =>
    obtain ⟨names, known, made⟩ := List.mem_filterMap.1 member
    rw [(List.mergeSort_perm _ _).mem_iff, List.mem_filterMap] at known
    obtain ⟨isFile, isMember, dropped⟩ := known
    split at made
    · next last =>
      obtain ⟨tags, -, rfl⟩ := Option.map_eq_some_iff.1 made
      -- Behind the directory of the measurement there are only names, and none of them leads up.
      have own : ∀ name ∈ names, Files.IsOwnName name := fun name inside =>
        named isFile isMember name (below_eq_some_iff.1 dropped ▸ List.mem_append_right _ inside)
      have nonempty : names ≠ [] := fun none => by rw [none] at last; cases last
      have noSlash : '/' ∉ (component measurement).toList :=
        fun slash => (carried_component measurement _ slash).1 rfl
      obtain ⟨above, ownAbove, same⟩ := next_component other (Files.resolve base)
      rw [Files.Below, Files.resolve_joinAll fun name inside => (own name inside).noSlash,
        Files.resolve_join noSlash, Files.Resolved.foldl_next own, same, Files.Resolved.on_append]
      refine Files.Resolved.below_on (by simp [nonempty]) (fun name inside => ?_) _
      exact (List.mem_append.1 inside).elim (ownAbove name) (own name)
    · cases made

theorem below_files {layout : Layout} {measurement : String}
    (stays : ¬ layout.GoesUp measurement) {tree : Files.Tree} (named : NamedByNames tree)
    {base : String} {found : List SeriesFile}
    (listed : layout.files tree base measurement = .ok found) :
    ∀ file ∈ found, Files.Below base file.path := by
  intro file member
  cases layout with
  | flat => exact below_flatFiles named listed member
  | folder =>
    cases listed
    exact below_folderFiles named (fun above => stays ⟨rfl, above⟩) member
  | untagged =>
    cases listed
    split at member
    · rw [List.mem_singleton.1 member]
      have stays : ¬ Layout.untagged.GoesUp measurement := fun up => by cases up.1
      exact below_path stays base .empty
    · cases member

end Layout

/-! ## Commands -/

/-- The files of a command, those of the definitions in an export included, are below a
directory. -/
def Command.Within (base : String) : Command → Prop
  | .create path .. | .update path .. | .fetch path .. | .info path | .last path =>
    Files.Below base path
  | .xport _ _ _ _ statements => ∀ statement ∈ statements, "DEF:".toList <+: statement.toList →
    ∃ field path function, statement = definition field path field function ∧
      Files.Below base path

/-- Work that runs commands about files below a directory only: what the tool would do about any
other command makes no difference to it. -/
def RunsWithin {m : Type → Type} {α : Type} (base : String)
    (work : Run m → ExceptT SeriesQuery.Failure m α) : Prop :=
  ∀ run other : Run m, (∀ command : Command, command.Within base → run command = other command) →
    work run = work other

theorem within_command {compiled : Compiled} {base : String}
    (below : Files.Below base compiled.path) : compiled.command.Within base := by
  unfold Compiled.command
  dsimp only
  cases compiled.mode with
  | fetch => exact below
  | xport =>
    intro statement member starts
    have notDefinition (text : String) {rest : String} (same : statement = text ++ rest)
        (apart : ¬ "DEF:".toList <+: text.toList ∧ 4 ≤ text.toList.length) : False := by
      rw [same, String.toList_append] at starts
      exact apart.1 (List.prefix_of_prefix_length_le starts (List.prefix_append _ _) apart.2)
    simp only [Compiled.statements, List.mem_append, List.mem_map] at member
    rcases member with ((⟨field, -, rfl⟩ | ⟨⟨math, index⟩, -, rfl⟩) | ⟨field, -, rfl⟩) |
      ⟨⟨math, index⟩, -, rfl⟩
    · exact ⟨field, compiled.path, compiled.function, rfl, below⟩
    · exact (notDefinition "CDEF:" (by simp [String.append_assoc]; rfl) (by decide)).elim
    · exact (notDefinition "XPORT:" (by simp [String.append_assoc]; rfl) (by decide)).elim
    · exact (notDefinition "XPORT:" (by simp [String.append_assoc]; rfl) (by decide)).elim

theorem path_of_compile {layout : Layout} {base : String} {mode : Mode} {query : Query}
    {compiled : Compiled} (made : compile layout base mode query = .ok compiled) :
    compiled.path = layout.path base query.measurement (labelsOf query) := by
  obtain ⟨-, -, made⟩ := exists_of_bind made
  obtain ⟨interval?, -, made⟩ := exists_of_bind made
  cases made
  rfl

theorem path_resolve (compiled : Compiled) (sources : List String) :
    (compiled.resolve sources).path = compiled.path := by
  unfold Compiled.resolve
  split <;> rfl

section
variable {m : Type → Type} [Monad m]

theorem runsWithin_execute {base : String} {compiled : Compiled}
    (below : Files.Below base compiled.path) :
    RunsWithin base fun run : Run m => execute run compiled := by
  intro run other agree
  have looks : run (.info compiled.path) = other (.info compiled.path) := agree _ below
  have reads (sources : List String) :
      run (compiled.resolve sources).command = other (compiled.resolve sources).command :=
    agree _ (within_command (path_resolve compiled sources ▸ below))
  simp only [execute, answer, fileInfo, looks, reads]

theorem runsWithin_write {store : Store} {point : Point}
    (below : Files.Below store.settings.dataDirectory (store.path point)) (disk : Files.Disk m) :
    RunsWithin store.settings.dataDirectory fun run : Run m => store.write disk run point := by
  intro run other agree
  have creates : run (store.createCommand point) = other (store.createCommand point) :=
    agree _ below
  have updates : run (store.updateCommand point) = other (store.updateCommand point) :=
    agree _ below
  simp only [Store.write, creates, updates]

end

/-! ## Data directories -/

/-- Nothing about a measurement is looked for outside the data directory of a store. -/
structure Store.Confines (store : Store) (measurement : String) : Prop where
  found : ∀ (tree : Files.Tree) (files : List SeriesFile), Layout.NamedByNames tree →
    store.settings.layout.files tree store.settings.dataDirectory measurement = .ok files →
      ∀ file ∈ files, Files.Below store.settings.dataDirectory file.path
  writes : ∀ {m : Type → Type} [Monad m] (disk : Files.Disk m) (point : Point),
    point.measurement = measurement →
      RunsWithin store.settings.dataDirectory fun run : Run m => store.write disk run point
  reads : ∀ {m : Type → Type} [Monad m] (mode : Mode) (query : Query) (compiled : Compiled),
    query.measurement = measurement → store.compile mode query = .ok compiled →
      RunsWithin store.settings.dataDirectory fun run : Run m => execute run compiled

/-- Every path is strictly below its base, whatever the names of the series, unless the layout goes
up with the measurement and does not come back; and a store stays in its data directory unless its
layout goes up. -/
theorem path_below_iff (measurement : String) :
    (∀ (layout : Layout) (base : String) (tags : Tags),
      Files.Below base (layout.path base measurement tags) ↔
        (layout.GoesUp measurement → Layout.ComesBack (Files.resolve base) tags)) ∧
    ∀ store : Store, ¬ store.settings.layout.GoesUp measurement → store.Confines measurement := by
  constructor
  · intro layout base tags
    by_cases up : layout.GoesUp measurement
    · obtain ⟨rfl, rfl⟩ := up
      rw [Layout.below_path_above_iff, forall_prop_of_true ⟨rfl, rfl⟩]
    · exact iff_of_true (Layout.below_path up base tags) fun isUp => absurd isUp up
  · intro store stays
    refine ⟨fun tree files named listed => Layout.below_files stays named listed, ?_, ?_⟩
    · rintro m _ disk point rfl
      exact runsWithin_write (Layout.below_path stays _ _) disk
    · rintro m _ mode query compiled rfl made
      exact runsWithin_execute (path_of_compile made ▸ Layout.below_path stays _ _)

/-- Series in a directory for each tag. -/
def folderStore : Store where
  settings := { dataDirectory := "/srv/data", layout := .folder }
  schemas := .empty

/-- A slash in a measurement and a tag that looks like a way up stay names. -/
theorem path_below_iff_crossing :
    let tags : Tags := .ofList [("host", "..")]
    let tree : Files.Tree :=
      ⟨[["srv", "data"] ++ Layout.folder.components "../etc" tags], [], []⟩
    let query := Query.ofMeasurement "../etc"
    Files.Below "/srv/data" (Layout.folder.path "/srv/data" "../etc" tags) ∧
      ¬ Files.Below "/srv/data" (Layout.folder.path "/srv/data" ".." tags) ∧
      (∃ file, Layout.folder.files tree "/srv/data" "../etc" = .ok [file] ∧
        Files.Below "/srv/data" file.path) ∧
      (∃ compiled, folderStore.compile .xport query = .ok compiled ∧
        RunsWithin "/srv/data" fun run : Run (StateM Nat) => execute run compiled) ∧
      ∀ (disk : Files.Disk (StateM Nat)) (timestamp : Time.Instant), RunsWithin "/srv/data"
        fun run => folderStore.write disk run (.ofMeasurement "../etc" timestamp) := by
  intro tags tree query
  have confines := (path_below_iff "../etc").2 folderStore (by decide)
  have named : Layout.NamedByNames tree := by decide +kernel
  refine ⟨((path_below_iff "../etc").1 .folder "/srv/data" tags).2 (fun up => ?_), ?_, ?_, ?_, ?_⟩
  · exact absurd up (by decide)
  · intro below
    exact absurd (((path_below_iff "..").1 .folder "/srv/data" tags).1 below ⟨rfl, rfl⟩)
      (by decide +kernel)
  · have listed : Layout.folder.files tree "/srv/data" "../etc" =
        .ok [⟨Layout.folder.path "/srv/data" "../etc" tags, tags⟩] := by decide +kernel
    exact ⟨_, listed, confines.found tree _ named listed _ List.mem_cons_self⟩
  · have compiles : (folderStore.compile .xport query).isOk = true := by decide +kernel
    cases made : folderStore.compile .xport query with
    | ok compiled => exact ⟨compiled, rfl, confines.reads .xport query compiled rfl made⟩
    | error problem => rw [made] at compiles; cases compiles
  · exact fun disk timestamp => confines.writes disk _ rfl

end SeriesQuery.Rrd
