import Mathlib.Data.List.Nodup
import SeriesQuery.Driver.Batch

/-!
Points that are written together and points that are written one by one. When every request has the
same fortune, both ways have the same failures in the same order, and so the same report.
-/

set_option autoImplicit false

namespace SeriesQuery

variable {State : Type} {calm : State → Prop}

/-! ## Actions with a certain result -/

def Yields {α : Type} (calm : State → Prop) (action : StateM State α) (result : α) : Prop :=
  ∀ state, calm state → (action.run state).1 = result ∧ calm (action.run state).2

section
variable {α β : Type}

theorem yields_pure (value : α) : Yields calm (pure value) value := fun _ calmed => ⟨rfl, calmed⟩

theorem Yields.bind {action : StateM State α} {next : α → StateM State β} {value : α} {result : β}
    (first : Yields calm action value) (rest : Yields calm (next value) result) :
    Yields calm (action >>= next) result := by
  intro state calmed
  have ⟨same, later⟩ := first state calmed
  have told : (action >>= next).run state = (next value).run (action.run state).2 := by
    rw [← same]
    rfl
  rw [told]
  exact rest _ later

theorem Yields.map {action : StateM State α} {value : α} (yields : Yields calm action value)
    (f : α → β) : Yields calm (f <$> action) (f value) := by
  rw [map_eq_pure_bind]
  exact yields.bind (yields_pure _)

end

namespace Batch

variable {α : Type}

/-! ## Failures in order -/

def failureOf? (fate : Point → Except Failure Unit) : Point × Nat → Option BatchFailure
  | (point, index) =>
    match fate point with
    | .ok _ => none
    | .error failure => some (failureAt index failure)

def failuresOf (fate : Point → Except Failure Unit) (items : List (Point × Nat)) :
    List BatchFailure := items.filterMap (failureOf? fate)

theorem failuresOf_cons (fate : Point → Except Failure Unit) (point : Point) (index : Nat)
    (rest : List (Point × Nat)) :
    failuresOf fate ((point, index) :: rest) = match fate point with
      | .ok _ => failuresOf fate rest
      | .error failure => failureAt index failure :: failuresOf fate rest := by
  unfold failuresOf
  rw [List.filterMap_cons]
  cases same : fate point <;> simp [failureOf?, same]

def fateOf (writeDown : Point → Except WriteProblem α) (verdict : Except Failure Unit)
    (point : Point) : Except Failure Unit :=
  match writeDown point with
  | .ok _ => verdict
  | .error problem => .error (.write (.content problem))

theorem yields_failuresOfEach {write : Point → ExceptT Failure (StateM State) Unit}
    {fate : Point → Except Failure Unit} {items : List (Point × Nat)}
    (yields : ∀ item ∈ items, Yields calm (write item.1).run (fate item.1)) :
    Yields calm (failuresOfEach write items) (failuresOf fate items) := by
  induction items with
  | nil => exact yields_pure []
  | cons item rest ih =>
    obtain ⟨point, index⟩ := item
    have ⟨first, others⟩ := List.forall_mem_cons.1 yields
    refine first.bind ((ih others).bind ?_)
    rw [failuresOf_cons]
    cases fate point with
    | ok _ => exact yields_pure _
    | error failure => exact yields_pure _

theorem yields_writeEach {write : Point → ExceptT Failure (StateM State) Unit}
    {fate : Point → Except Failure Unit} {points : List Point}
    (yields : ∀ point ∈ points, Yields calm (write point).run (fate point)) :
    Yields calm (writeEach write points).run
      (report points.length (failuresOf fate points.zipIdx)) := by
  have each : ∀ item ∈ points.zipIdx, Yields calm (write item.1).run (fate item.1) :=
    fun item member => yields item.1 (List.fst_mem_of_mem_zipIdx member)
  exact (yields_failuresOfEach each).bind (yields_pure _)

/-! ## Failures of points that are sent together -/

def writtenDown (writeDown : Point → Except WriteProblem α) (items : List (Point × Nat)) :
    List (Except WriteProblem α × Nat) :=
  items.map fun (point, index) => (writeDown point, index)

theorem failuresOf_accepted (writeDown : Point → Except WriteProblem α)
    (items : List (Point × Nat)) :
    failuresOf (fateOf writeDown (.ok ())) items = unwritable (writtenDown writeDown items) := by
  unfold failuresOf unwritable writtenDown
  rw [List.filterMap_map]
  refine List.filterMap_congr fun item _ => ?_
  obtain ⟨point, index⟩ := item
  cases same : writeDown point <;> simp [failureOf?, fateOf, same]

theorem failuresOf_unsent {writeDown : Point → Except WriteProblem α} {items : List (Point × Nat)}
    (nothing : sendable (writtenDown writeDown items) = []) (verdict : Except Failure Unit) :
    failuresOf (fateOf writeDown verdict) items = unwritable (writtenDown writeDown items) := by
  rw [← failuresOf_accepted]
  refine List.filterMap_congr fun item member => ?_
  obtain ⟨point, index⟩ := item
  have unwritten := List.filterMap_eq_nil_iff.1 nothing _ (List.mem_map_of_mem member)
  cases same : writeDown point with
  | error problem => simp [failureOf?, fateOf, same]
  | ok content => simp [same] at unwritten

/-- The failures of points that cannot be written down, and after them those of points that are
sent in vain. -/
def failuresOfVain (writeDown : Point → Except WriteProblem α) (failure : Failure)
    (items : List (Point × Nat)) : List BatchFailure :=
  unwritable (writtenDown writeDown items) ++
    (sendable (writtenDown writeDown items)).map fun (_, index) => failureAt index failure

theorem failuresOf_refused_perm (writeDown : Point → Except WriteProblem α) (failure : Failure)
    (items : List (Point × Nat)) :
    (failuresOf (fateOf writeDown (.error failure)) items).Perm
      (failuresOfVain writeDown failure items) := by
  induction items with
  | nil => rfl
  | cons item rest ih =>
    obtain ⟨point, index⟩ := item
    rw [failuresOf_cons]
    unfold failuresOfVain unwritable sendable writtenDown at ih ⊢
    cases same : writeDown point with
    | error problem => simpa [fateOf, same] using ih
    | ok content =>
      simp only [List.filterMap_cons, List.map_cons, fateOf, same]
      exact (ih.cons _).trans List.perm_middle.symm

theorem index_of_failureOf? {fate : Point → Except Failure Unit} {item : Point × Nat}
    {found : BatchFailure} (failed : failureOf? fate item = some found) : found.index = item.2 := by
  obtain ⟨point, index⟩ := item
  unfold failureOf? at failed
  cases fated : fate point with
  | ok _ => simp [fated] at failed
  | error failure =>
    simp only [fated, Option.some.injEq] at failed
    rw [← failed]
    rfl

theorem failuresOf_increase (fate : Point → Except Failure Unit) (points : List Point) :
    (failuresOf fate points.zipIdx).Pairwise fun first second => first.index < second.index := by
  have places : points.zipIdx.Pairwise fun first second => first.2 < second.2 := by
    refine List.pairwise_map.1 ?_
    rw [List.zipIdx_map_snd]
    exact List.pairwise_lt_range'
  refine List.pairwise_filterMap.2 (places.imp fun less first firstFailed second secondFailed => ?_)
  rw [index_of_failureOf? firstFailed, index_of_failureOf? secondFailed]
  exact less

theorem mergeSort_failuresOfVain (writeDown : Point → Except WriteProblem α) (failure : Failure)
    (points : List Point) :
    (failuresOfVain writeDown failure points.zipIdx).mergeSort
        (fun first second => decide (first.index ≤ second.index)) =
      failuresOf (fateOf writeDown (.error failure)) points.zipIdx := by
  let noLater (first second : BatchFailure) : Bool := decide (first.index ≤ second.index)
  have increase := failuresOf_increase (fateOf writeDown (.error failure)) points
  have same := (List.mergeSort_perm (failuresOfVain writeDown failure points.zipIdx) noLater).trans
    (failuresOf_refused_perm writeDown failure points.zipIdx).symm
  have sorted : ((failuresOfVain writeDown failure points.zipIdx).mergeSort noLater).Pairwise
      fun first second => first.index ≤ second.index := by
    refine (List.pairwise_mergeSort ?_ ?_ _).imp fun order => of_decide_eq_true order
    · intro first second third
      simpa [noLater] using Nat.le_trans
    · intro first second
      simpa [noLater] using Nat.le_total first.index second.index
  -- No two failures are of one point, so that the order leaves no choice.
  have distinct : ((failuresOf (fateOf writeDown (.error failure)) points.zipIdx).map
      BatchFailure.index).Nodup :=
    List.pairwise_map.2 (increase.imp Nat.ne_of_lt)
  refine List.Perm.eq_of_pairwise (fun first second firstMember secondMember before after => ?_)
    sorted (increase.imp Nat.le_of_lt) same
  exact List.inj_on_of_nodup_map distinct (same.mem_iff.1 firstMember) secondMember
    (Nat.le_antisymm before after)

/-! ## One request and many -/

def contentsOf (writeDown : Point → Except WriteProblem α) (points : List Point) : List α :=
  points.filterMap fun point => (writeDown point).toOption

/-- All that is sent when points are written together and then one by one. -/
def loads (writeDown : Point → Except WriteProblem α) (points : List Point) : List (List α) :=
  let contents := contentsOf writeDown points
  if contents.isEmpty then [] else contents :: contents.map fun content => [content]

def verdictOn {m : Type → Type} [Monad m] (deliver : List α → m (Except Failure Unit))
    (contents : List α) : m (Except Failure Unit) :=
  if contents.isEmpty then pure (.ok ()) else deliver contents

section
variable {writeDown : Point → Except WriteProblem α} {points : List Point}

theorem contents_mem_loads (some : contentsOf writeDown points ≠ []) :
    contentsOf writeDown points ∈ loads writeDown points := by
  unfold loads
  rw [if_neg (mt List.isEmpty_iff.1 some)]
  exact List.mem_cons_self

theorem singleton_mem_loads {content : α} (member : content ∈ contentsOf writeDown points) :
    [content] ∈ loads writeDown points := by
  unfold loads
  rw [if_neg (mt List.isEmpty_iff.1 (List.ne_nil_of_mem member))]
  exact List.mem_cons_of_mem _ (List.mem_map_of_mem member)

theorem map_sendable :
    (sendable (writtenDown writeDown points.zipIdx)).map (·.1) = contentsOf writeDown points := by
  unfold sendable writtenDown contentsOf
  rw [List.filterMap_map, List.map_filterMap]
  conv_rhs => rw [← List.zipIdx_map_fst 0 points, List.filterMap_map]
  refine List.filterMap_congr fun item _ => ?_
  obtain ⟨point, index⟩ := item
  cases same : writeDown point <;> simp [same, Except.toOption]

/-- The report on points that are sent together, from what becomes of sending. -/
def reportOf (writeDown : Point → Except WriteProblem α) (points : List Point)
    (verdict : Except Failure Unit) : Except Failure BatchReport :=
  report points.length (failuresOf (fateOf writeDown verdict) points.zipIdx)

theorem reportOf_unsent (nothing : contentsOf writeDown points = [])
    (verdict : Except Failure Unit) :
    reportOf writeDown points verdict = reportOf writeDown points (.ok ()) := by
  rw [← map_sendable, List.map_eq_nil_iff] at nothing
  rw [reportOf, reportOf, failuresOf_unsent nothing, failuresOf_accepted]

theorem run_writeTogether {m : Type → Type} [Monad m] [LawfulMonad m]
    (send : List α → ExceptT Failure m Unit) :
    (writeTogether writeDown send points).run =
      reportOf writeDown points <$>
        verdictOn (fun contents => (send contents).run) (contentsOf writeDown points) := by
  unfold verdictOn reportOf
  rw [← map_sendable, List.isEmpty_map]
  change (if (sendable (writtenDown writeDown points.zipIdx)).isEmpty then _ else _) = _
  split
  next nothing =>
    rw [map_pure, failuresOf_accepted]
    rfl
  next something =>
    rw [map_eq_pure_bind]
    refine bind_congr fun verdict => ?_
    cases verdict with
    | ok _ =>
      rw [failuresOf_accepted]
      rfl
    | error failure =>
      rw [← mergeSort_failuresOfVain]
      rfl

theorem yields_writeTogether {send : List α → ExceptT Failure (StateM State) Unit}
    {verdict : Except Failure Unit}
    (yields : contentsOf writeDown points ≠ [] →
      Yields calm (send (contentsOf writeDown points)).run verdict) :
    Yields calm (writeTogether writeDown send points).run (reportOf writeDown points verdict) := by
  rw [run_writeTogether]
  unfold verdictOn
  split
  next nothing =>
    rw [reportOf_unsent (List.isEmpty_iff.1 nothing) verdict]
    exact (yields_pure _).map _
  next something => exact (yields (mt List.isEmpty_iff.2 something)).map _

end

end Batch

end SeriesQuery
