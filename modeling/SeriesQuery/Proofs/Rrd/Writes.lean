import SeriesQuery.Proofs.Journal
import SeriesQuery.Rrd.Store

/-!
Which commands a write of a point runs: a first command that makes the file where there is none, and
an update, for a point that its schema lets pass. No other command is run, whatever the disk holds
and whatever the tool answers.
-/

set_option autoImplicit false

namespace SeriesQuery.Rrd

variable {World : Type}

/-! ## Commands of a write -/

def unnotedDisk (disk : Files.Disk (StateM World)) :
    Files.Disk (StateM (World × List Command)) where
  tree path := unnoted (disk.tree path)
  read path := unnoted (disk.read path)
  write path text := unnoted (disk.write path text)
  makeDirectories path := unnoted (disk.makeDirectories path)

/-- The same tool in a world with a journal of its commands. -/
def notedRun (run : Run (StateM World)) : Run (StateM (World × List Command)) := fun command =>
  ExceptT.mk (noting (fun _ => command) (run command))

def Store.issued (store : Store) (disk : Files.Disk (StateM World)) (run : Run (StateM World))
    (point : Point) (world : World) : List Command :=
  ((store.write (unnotedDisk disk) (notedRun run) point).run.run (world, [])).2.2

/-- The file that a command is about; the statements of an export name theirs. -/
def Command.path? : Command → Option String
  | .create path .. | .update path .. | .fetch path .. | .info path | .last path => some path
  | .xport .. => none

def Command.declared? : Command → Option (List String)
  | .create _ _ _ sources _ => some (sources.map (·.name))
  | _ => none

namespace Store

variable (store : Store) (disk : Files.Disk (StateM World)) (run : Run (StateM World))
  (point : Point)

section
variable {m : Type → Type} [Monad m]

def update (store : Store) (run : Run m) (point : Point) : ExceptT SeriesQuery.Failure m Unit := do
  let _ ← (run (store.updateCommand point)).adapt writeFailure

def createAndUpdate (store : Store) (run : Run m) (point : Point) :
    ExceptT SeriesQuery.Failure m Unit := do
  let _ ← (run (store.createCommand point)).adapt writeFailure
  store.update run point

/-- What a write does about a point that can be written, once it is known whether its file is
there. -/
def put (store : Store) (disk : Files.Disk m) (run : Run m) (point : Point) :
    Bool → ExceptT SeriesQuery.Failure m Unit
  | true => store.update run point
  | false =>
    match Files.parent? (store.path point) with
    | some parent => do
      system (disk.makeDirectories parent)
      store.createAndUpdate run point
    | none => store.createAndUpdate run point

theorem write_eq_put (store : Store) (disk : Files.Disk m) (run : Run m) {point : Point}
    (content : point.fields.isEmpty = false) (passes : store.schemas.problem? point = none) :
    store.write disk run point = (do
      let tree ← disk.tree (store.path point)
      let occupied ← refuseProblem (tree.occupied (store.path point))
      store.put disk run point occupied) := by
  unfold Store.write
  rw [content, passes]
  refine bind_congr fun tree => bind_congr fun occupied => ?_
  cases occupied with
  | true => rfl
  | false =>
    unfold put
    cases Files.parent? (store.path point) <;> rfl

end

theorem issued_of_refused (refused : point.fields.isEmpty = true ∨
    store.schemas.problem? point ≠ none) (world : World) :
    store.issued disk run point world = [] := by
  unfold issued Store.write
  by_cases empty : point.fields.isEmpty = true
  · rw [if_pos empty]
    rfl
  · obtain ⟨problem, found⟩ := Option.ne_none_iff_exists'.1 (refused.resolve_left empty)
    rw [if_neg empty, found]
    rfl

/-- A command leaves its note, whether it fails or not. -/
theorem run_noted (command : Command) (world : World) (notes : List Command) :
    ((notedRun run command).adapt writeFailure).run.run (world, notes) =
      (((run command).run.run world).1.mapError writeFailure, ((run command).run.run world).2,
        notes ++ [command]) := rfl

theorem notes_update (world : World) (notes : List Command) :
    ((store.update (notedRun run) point).run.run (world, notes)).2.2 =
      notes ++ [store.updateCommand point] := by
  unfold update
  rw [run_bind, run_noted]
  generalize ((run (store.updateCommand point)).run.run world).1.mapError writeFailure = result
  cases result <;> rfl

/-- The commands after the one that makes the file: only a file that was made is updated. -/
def following (store : Store) (point : Point) : Except Failure String → List Command
  | .ok _ => [store.updateCommand point]
  | .error _ => []

theorem notes_createAndUpdate (world : World) (notes : List Command) :
    ((store.createAndUpdate (notedRun run) point).run.run (world, notes)).2.2 =
      notes ++ store.createCommand point ::
        store.following point ((run (store.createCommand point)).run.run world).1 := by
  unfold createAndUpdate
  rw [run_bind, run_noted]
  cases made : ((run (store.createCommand point)).run.run world).1 with
  | error failure => rfl
  | ok output =>
    dsimp only [Except.mapError]
    rw [notes_update, List.append_assoc]
    rfl

theorem run_makeDirectories (parent : String) (world : World) (notes : List Command) :
    (system (m := StateM (World × List Command))
      ((unnotedDisk disk).makeDirectories parent)).run.run (world, notes) =
      (((disk.makeDirectories parent).run world).1.mapError .system,
        ((disk.makeDirectories parent).run world).2, notes) := rfl

/-- All that a write can run. -/
inductive Issued (store : Store) (point : Point) : List Command → Prop where
  | nothing : Issued store point []
  | updated : Issued store point [store.updateCommand point]
  | created : Issued store point [store.createCommand point]
  | both : Issued store point [store.createCommand point, store.updateCommand point]

theorem Issued.eq_or_eq {store : Store} {point : Point} {commands : List Command}
    (issued : Issued store point commands) {command : Command} (member : command ∈ commands) :
    command = store.createCommand point ∨ command = store.updateCommand point := by
  cases issued with
  | nothing => cases member
  | updated => exact .inr (List.mem_singleton.1 member)
  | created => exact .inl (List.mem_singleton.1 member)
  | both => simpa using member

theorem issued_createAndUpdate (world : World) :
    Issued store point
      ((store.createAndUpdate (notedRun run) point).run.run (world, [])).2.2 := by
  rw [notes_createAndUpdate]
  cases ((run (store.createCommand point)).run.run world).1 with
  | error failure => exact .created
  | ok output => exact .both

theorem issued_put (occupied : Bool) (world : World) :
    Issued store point
      ((store.put (unnotedDisk disk) (notedRun run) point occupied).run.run (world, [])).2.2 := by
  unfold put
  cases occupied with
  | true =>
    dsimp only
    rw [notes_update]
    exact .updated
  | false =>
    dsimp only
    cases Files.parent? (store.path point) with
    | none => exact issued_createAndUpdate store run point world
    | some parent =>
      dsimp only
      rw [run_bind, run_makeDirectories]
      generalize
        ((disk.makeDirectories parent).run world).1.mapError SeriesQuery.Failure.system = made
      cases made with
      | error failure => exact .nothing
      | ok _ => exact issued_createAndUpdate store run point _

theorem create_mem_put
    (makes : ∀ parent world, ((disk.makeDirectories parent).run world).1 = .ok ()) (world : World) :
    store.createCommand point ∈
      ((store.put (unnotedDisk disk) (notedRun run) point false).run.run (world, [])).2.2 := by
  have created : ∀ world, store.createCommand point ∈
      ((store.createAndUpdate (notedRun run) point).run.run (world, [])).2.2 := by
    intro world
    rw [notes_createAndUpdate]
    exact List.mem_cons_self
  unfold put
  dsimp only
  cases Files.parent? (store.path point) with
  | none => exact created world
  | some parent =>
    dsimp only
    rw [run_bind, run_makeDirectories, makes parent world]
    exact created _

/-! ## Whole writes -/

theorem issued_of_passes (content : point.fields.isEmpty = false)
    (passes : store.schemas.problem? point = none) (world : World) :
    store.issued disk run point world =
      match ((disk.tree (store.path point)).run world).1.occupied (store.path point) with
      | .ok occupied => ((store.put (unnotedDisk disk) (notedRun run) point occupied).run.run
          (((disk.tree (store.path point)).run world).2, [])).2.2
      | .error _ => [] := by
  have looked : (liftM ((unnotedDisk disk).tree (store.path point)) :
      ExceptT SeriesQuery.Failure (StateM (World × List Command)) Files.Tree).run.run (world, []) =
      (.ok ((disk.tree (store.path point)).run world).1,
        ((disk.tree (store.path point)).run world).2, []) := rfl
  unfold issued
  -- Looking at the disk leaves no note, so the notes are those of what follows.
  rw [write_eq_put _ _ _ content passes, run_bind, looked]
  dsimp only
  rw [run_bind]
  cases ((disk.tree (store.path point)).run world).1.occupied (store.path point) with
  | error problem => rfl
  | ok occupied => rfl

theorem issued_of_content (content : point.fields.isEmpty = false)
    (passes : store.schemas.problem? point = none) (world : World) :
    Issued store point (store.issued disk run point world) := by
  rw [issued_of_passes store disk run point content passes]
  cases ((disk.tree (store.path point)).run world).1.occupied (store.path point) with
  | error problem => exact .nothing
  | ok occupied => exact issued_put store disk run point occupied _

theorem content_and_passes_of_mem {command : Command} {world : World}
    (member : command ∈ store.issued disk run point world) :
    point.fields.isEmpty = false ∧ store.schemas.problem? point = none := by
  by_cases refused : point.fields.isEmpty = true ∨ store.schemas.problem? point ≠ none
  · rw [issued_of_refused store disk run point refused] at member
    cases member
  · obtain ⟨content, passes⟩ := not_or.1 refused
    exact ⟨Bool.eq_false_iff.2 content, Decidable.not_not.1 passes⟩

theorem mem_issued {command : Command} {world : World}
    (member : command ∈ store.issued disk run point world) :
    store.schemas.problem? point = none ∧
      (command = store.createCommand point ∨ command = store.updateCommand point) := by
  obtain ⟨content, passes⟩ := content_and_passes_of_mem store disk run point member
  exact ⟨passes, (issued_of_content store disk run point content passes world).eq_or_eq member⟩

/-- No file is there yet, and directories can be made. -/
structure Vacant (disk : Files.Disk (StateM World)) (path : String) (world : World) : Prop where
  missing : ((disk.tree path).run world).1.occupied path = .ok false
  makes : ∀ parent world, ((disk.makeDirectories parent).run world).1 = .ok ()

theorem create_mem_issued (content : point.fields.isEmpty = false)
    (passes : store.schemas.problem? point = none) {world : World}
    (vacant : Vacant disk (store.path point) world) :
    store.createCommand point ∈ store.issued disk run point world := by
  rw [issued_of_passes store disk run point content passes, vacant.missing]
  exact create_mem_put store disk run point vacant.makes _

end Store

def bareDisk : Files.Disk (StateM Unit) where
  tree _ := return .empty
  read _ := return .ok ""
  write _ _ := return .ok ()
  makeDirectories _ := return .ok ()

end SeriesQuery.Rrd
