/-!
Worlds with a journal. What is done in them can be read afterwards, and is done as without it.
-/

set_option autoImplicit false

namespace SeriesQuery

variable {World Note ε α β : Type}

/-- The same action in a world with a journal, where it leaves a note. -/
def noting (note : α → Note) (action : StateM World α) : StateM (World × List Note) α :=
  fun (world, notes) =>
    let (result, later) := action.run world
    (result, later, notes ++ [note result])

/-- The same action in a world with a journal, where it leaves no note. -/
def unnoted (action : StateM World α) : StateM (World × List Note) α := fun (world, notes) =>
  let (result, later) := action.run world
  (result, later, notes)

theorem run_bind (action : ExceptT ε (StateM World) α) (next : α → ExceptT ε (StateM World) β)
    (world : World) :
    (action >>= next).run.run world = match action.run.run world with
      | (.ok value, later) => (next value).run.run later
      | (.error problem, later) => (.error problem, later) := by
  rw [ExceptT.run_bind, StateT.run_bind]
  obtain ⟨result, later⟩ := action.run.run world
  cases result <;> rfl

end SeriesQuery
