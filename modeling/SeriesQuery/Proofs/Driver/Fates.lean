import SeriesQuery.Proofs.Driver.Batches

/-!
What the report of a batch says against what became of each of its points, whichever way the points
were written.
-/

set_option autoImplicit false

namespace SeriesQuery

variable {State : Type}

/-! ## What becomes of each point -/

namespace Batch

section
variable {m : Type → Type} [Monad m] {α : Type}

def fatesEach (write : Point → ExceptT Failure m Unit) (points : List Point) :
    m (List (Except Failure Unit)) := points.mapM fun point => (write point).run

/-- Points of which those that can be written down share one request. -/
def fatesTogether (writeDown : Point → Except WriteProblem α)
    (deliver : List α → m (Except Failure Unit)) (points : List Point) :
    m (List (Except Failure Unit)) :=
  (fun verdict => points.map (fateOf writeDown verdict)) <$>
    verdictOn deliver (contentsOf writeDown points)

end

end Batch

/-- What becomes of each point of a batch when this driver writes it: what the answer to the one
request says, or what becomes of each write. -/
def Driver.fates {m : Type → Type} [Monad m] (driver : Driver) (world : World m)
    (points : List Point) : StateT Rrd.Session m (List (Except Failure Unit)) :=
  match driver with
  | .influx service =>
    StateT.lift (Batch.fatesTogether (Influx.line service.settings.precision)
      (service.posted world.http) points)
  | .graphite service =>
    StateT.lift (Batch.fatesTogether (Graphite.lines service.root?)
      (service.delivered world.carbon) points)
  | .rrd store => Batch.fatesEach ((Driver.rrd store).write world) points
  | .prometheus _ =>
    return points.map fun point => .error (.write (.readOnly point.measurement))

namespace Batch

/-! ## Failures among the fates -/

def failedAt? : Except Failure Unit × Nat → Option BatchFailure
  | (.ok _, _) => none
  | (.error failure, index) => some (failureAt index failure)

/-- The failures among fates of points that stand from a place on. -/
def failuresFrom (start : Nat) (fates : List (Except Failure Unit)) : List BatchFailure :=
  (fates.zipIdx start).filterMap failedAt?

theorem failuresFrom_cons (start : Nat) (fate : Except Failure Unit)
    (rest : List (Except Failure Unit)) :
    failuresFrom start (fate :: rest) = match fate with
      | .ok _ => failuresFrom (start + 1) rest
      | .error failure => failureAt start failure :: failuresFrom (start + 1) rest := by
  unfold failuresFrom
  rw [List.zipIdx_cons, List.filterMap_cons]
  cases fate <;> rfl

theorem failuresOf_zipIdx (fate : Point → Except Failure Unit) (points : List Point) :
    failuresOf fate points.zipIdx = failuresFrom 0 (points.map fate) := by
  unfold failuresOf failuresFrom
  rw [List.zipIdx_map, List.filterMap_map]
  refine List.filterMap_congr fun item _ => ?_
  obtain ⟨point, index⟩ := item
  cases same : fate point <;> simp [failureOf?, failedAt?, same]

section
variable {fates : List (Except Failure Unit)}

theorem mem_failuresFrom_zero {index : Nat} {message : String} :
    ⟨index, message⟩ ∈ failuresFrom 0 fates ↔
      ∃ failure, fates[index]? = some (.error failure) ∧ failure.itemMessage = message := by
  unfold failuresFrom
  rw [List.mem_filterMap]
  constructor
  · rintro ⟨⟨fate, place⟩, member, failed⟩
    cases fate with
    | ok _ => cases failed
    | error failure =>
      cases failed
      exact ⟨failure, List.mem_zipIdx_iff_getElem?.1 member, rfl⟩
  · rintro ⟨failure, stands, rfl⟩
    exact ⟨(.error failure, index), List.mem_zipIdx_iff_getElem?.2 stands, rfl⟩

theorem le_index_of_mem_failuresFrom {start : Nat} {found : BatchFailure}
    (member : found ∈ failuresFrom start fates) : start ≤ found.index := by
  induction fates generalizing start with
  | nil => cases member
  | cons fate rest ih =>
    rw [failuresFrom_cons] at member
    cases fate with
    | ok _ => exact Nat.le_of_succ_le (ih member)
    | error failure =>
      cases List.mem_cons.1 member with
      | inl same => rw [same]; exact Nat.le_refl start
      | inr later => exact Nat.le_of_succ_le (ih later)

theorem failuresFrom_increase (start : Nat) :
    (failuresFrom start fates).Pairwise fun first second => first.index < second.index := by
  induction fates generalizing start with
  | nil => exact List.Pairwise.nil
  | cons fate rest ih =>
    rw [failuresFrom_cons]
    cases fate with
    | ok _ => exact ih (start + 1)
    | error failure =>
      exact List.pairwise_cons.2 ⟨fun _ later => le_index_of_mem_failuresFrom later, ih (start + 1)⟩

theorem length_failuresFrom_le (start : Nat) :
    (failuresFrom start fates).length ≤ fates.length := by
  have counted := List.length_filterMap_le failedAt? (fates.zipIdx start)
  rwa [List.length_zipIdx] at counted

theorem length_failuresFrom_eq (start : Nat) :
    (failuresFrom start fates).length = fates.length ↔
      ∀ fate ∈ fates, ∃ failure, fate = .error failure := by
  induction fates generalizing start with
  | nil => simp [failuresFrom]
  | cons fate rest ih =>
    rw [failuresFrom_cons, List.forall_mem_cons, ← ih (start + 1), List.length_cons]
    cases fate with
    | ok _ =>
      have fewer : (failuresFrom (start + 1) rest).length ≤ rest.length :=
        length_failuresFrom_le (start + 1)
      have more : (failuresFrom (start + 1) rest).length ≠ rest.length + 1 := by omega
      simp [more]
    | error failure => simp

end

/-! ## Reports about fates -/

/-- There are points, all failed, and each failure says the same. -/
def FailAlike (message : String) (fates : List (Except Failure Unit)) : Prop :=
  fates ≠ [] ∧ ∀ fate ∈ fates, ∃ failure, fate = .error failure ∧ failure.itemMessage = message

/-- The report names just the points that failed, in order, and counts the others. -/
structure Accounts (fates : List (Except Failure Unit)) (report : BatchReport) : Prop where
  increasing : report.failures.Pairwise fun first second => first.index < second.index
  below : ∀ failure ∈ report.failures, failure.index < fates.length
  failed : ∀ index message, ⟨index, message⟩ ∈ report.failures ↔
    ∃ failure, fates[index]? = some (.error failure) ∧ failure.itemMessage = message
  total : report.written + report.failures.length = fates.length

theorem ofFailures_eq_error {total : Nat} {failures : List BatchFailure} {message : String} :
    BatchReport.ofFailures total failures = .error message ↔
      failures ≠ [] ∧ failures.length = total ∧
        ∀ failure ∈ failures, failure.message = message := by
  unfold BatchReport.ofFailures
  cases failures with
  | nil => simp
  | cons first rest =>
    dsimp only
    split
    next shared =>
      have ⟨all, same⟩ := shared
      simp only [List.all_eq_true, beq_iff_eq] at same
      constructor
      · intro told
        cases told
        exact ⟨List.cons_ne_nil _ _, all, same⟩
      · rintro ⟨-, -, told⟩
        rw [told first List.mem_cons_self]
    next unshared =>
      -- A message that all failures share is that of the first.
      refine iff_of_false (fun told => nomatch told) ?_
      rintro ⟨-, all, told⟩
      refine unshared ⟨all, ?_⟩
      simp only [List.all_eq_true, beq_iff_eq]
      intro failure member
      rw [told failure member, told first List.mem_cons_self]

theorem ofFailures_eq_ok {total : Nat} {failures : List BatchFailure} {report : BatchReport}
    (made : BatchReport.ofFailures total failures = .ok report) :
    report = ⟨total - failures.length, failures⟩ := by
  unfold BatchReport.ofFailures at made
  split at made
  · split at made
    · cases made
    · exact (Except.ok.inj made).symm
  · exact (Except.ok.inj made).symm

section
variable {fates : List (Except Failure Unit)}

theorem forall_mem_failuresFrom_zero {message : String} :
    (∀ found ∈ failuresFrom 0 fates, found.message = message) ↔
      ∀ failure, .error failure ∈ fates → failure.itemMessage = message := by
  constructor
  · intro told failure member
    have ⟨index, stands⟩ := List.mem_iff_getElem?.1 member
    exact told ⟨index, failure.itemMessage⟩ (mem_failuresFrom_zero.2 ⟨failure, stands, rfl⟩)
  · rintro told ⟨index, said⟩ member
    have ⟨failure, stands, same⟩ := mem_failuresFrom_zero.1 member
    exact same.symm.trans (told failure (List.mem_of_getElem? stands))

theorem ofFailures_failuresFrom {message : String} :
    BatchReport.ofFailures fates.length (failuresFrom 0 fates) = .error message ↔
      FailAlike message fates := by
  rw [ofFailures_eq_error, length_failuresFrom_eq, forall_mem_failuresFrom_zero]
  constructor
  · rintro ⟨some, all, told⟩
    refine ⟨fun none => some ?_, fun fate member => ?_⟩
    · rw [none]
      rfl
    · obtain ⟨failure, rfl⟩ := all fate member
      exact ⟨failure, rfl, told failure member⟩
  · rintro ⟨some, alike⟩
    have all : ∀ fate ∈ fates, ∃ failure, fate = .error failure := fun fate member =>
      have ⟨failure, same, _⟩ := alike fate member
      ⟨failure, same⟩
    refine ⟨fun none => some ?_, all, fun failure member => ?_⟩
    · have counted := (length_failuresFrom_eq 0).2 all
      rw [none] at counted
      exact List.length_eq_zero_iff.1 counted.symm
    · have ⟨cause, same, said⟩ := alike _ member
      rwa [Except.error.inj same]

theorem report_eq_error {failure : Failure} :
    report fates.length (failuresFrom 0 fates) = .error failure ↔
      ∃ message, failure = .write (.batch message) ∧ FailAlike message fates := by
  simp only [← ofFailures_failuresFrom]
  unfold report
  cases made : BatchReport.ofFailures fates.length (failuresFrom 0 fates) with
  | ok told => simp
  | error message => simp [eq_comm]

theorem accounts_of_report {told : BatchReport}
    (made : report fates.length (failuresFrom 0 fates) = .ok told) : Accounts fates told := by
  unfold report at made
  cases counted : BatchReport.ofFailures fates.length (failuresFrom 0 fates) with
  | error message => simp [counted] at made
  | ok made' =>
    simp only [counted, Except.ok.injEq] at made
    rw [← made, ofFailures_eq_ok counted]
    have bounded : (failuresFrom 0 fates).length ≤ fates.length := length_failuresFrom_le 0
    refine ⟨failuresFrom_increase 0, ?_, fun _ _ => mem_failuresFrom_zero, ?_⟩
    · rintro ⟨index, message⟩ member
      have ⟨_, stands, _⟩ := mem_failuresFrom_zero.1 member
      exact (List.getElem?_eq_some_iff.1 stands).1
    · dsimp only
      omega

end

/-! ## The fates of a run -/

section
variable {m : Type → Type} [Monad m] [LawfulMonad m] {α : Type}

theorem failuresOfEach_zipIdx (write : Point → ExceptT Failure m Unit) (points : List Point)
    (start : Nat) :
    failuresOfEach write (points.zipIdx start) = failuresFrom start <$> fatesEach write points := by
  induction points generalizing start with
  | nil => exact (map_pure (failuresFrom start) []).symm
  | cons point rest ih =>
    unfold fatesEach at ih ⊢
    rw [List.zipIdx_cons, List.mapM_cons, map_bind]
    unfold failuresOfEach
    refine bind_congr fun fate => ?_
    rw [ih, bind_map_left, map_bind]
    refine bind_congr fun fates => ?_
    rw [map_pure, failuresFrom_cons]
    cases fate <;> rfl

theorem run_writeEach (write : Point → ExceptT Failure m Unit) (points : List Point) :
    (writeEach write points).run =
      (fun fates => report points.length (failuresFrom 0 fates)) <$> fatesEach write points := by
  unfold writeEach
  rw [ExceptT.run_mk, failuresOfEach_zipIdx, bind_map_left, map_eq_pure_bind]

theorem run_writeTogether_fates (writeDown : Point → Except WriteProblem α)
    {send : List α → ExceptT Failure m Unit} {deliver : List α → m (Except Failure Unit)}
    (sends : ∀ contents, (send contents).run = deliver contents) (points : List Point) :
    (writeTogether writeDown send points).run =
      (fun fates => report points.length (failuresFrom 0 fates)) <$>
        fatesTogether writeDown deliver points := by
  unfold fatesTogether
  rw [run_writeTogether, Functor.map_map, funext sends]
  unfold reportOf
  simp only [failuresOf_zipIdx]

end

theorem length_fatesEach (write : Point → Action (StateM State) Unit) (points : List Point)
    (session : Rrd.Session) (start : State) :
    (((fatesEach write points).run session).run start).1.1.length = points.length := by
  unfold fatesEach
  induction points generalizing session start with
  | nil => rfl
  | cons point rest ih =>
    rw [List.mapM_cons]
    exact congrArg (· + 1) (ih _ _)

theorem length_fatesTogether {α : Type} (writeDown : Point → Except WriteProblem α)
    (deliver : List α → StateM State (Except Failure Unit)) (points : List Point) (start : State) :
    ((fatesTogether writeDown deliver points).run start).1.length = points.length := by
  unfold fatesTogether
  rw [StateT.run_map]
  exact List.length_map _

end Batch

namespace Driver

theorem run_once_map {m : Type → Type} [Monad m] [LawfulMonad m] {α : Type} {fates : m α}
    {result : α → Except Failure BatchReport} {action : ExceptT Failure m BatchReport}
    (same : action.run = result <$> fates) :
    (once action).run = result <$> (StateT.lift fates : StateT Rrd.Session m α) := by
  change StateT.lift action.run = _
  rw [same, map_eq_pure_bind, map_eq_pure_bind, lift_bind]
  exact bind_congr fun value => lift_pure _

theorem run_writeBatch {m : Type → Type} [Monad m] [LawfulMonad m] (driver : Driver)
    (world : World m) (points : List Point) :
    (driver.writeBatch world points).run =
      (fun fates => Batch.report points.length (Batch.failuresFrom 0 fates)) <$>
        driver.fates world points := by
  cases driver with
  | influx service =>
    exact run_once_map (Batch.run_writeTogether_fates _ (service.run_send world.http) points)
  | graphite service => exact run_once_map (Batch.run_writeTogether_fates _ (fun _ => rfl) points)
  | rrd store => exact Batch.run_writeEach _ points
  | prometheus service =>
    refine (Batch.run_writeEach _ points).trans (congrArg _ ?_)
    exact List.mapM_pure ..

theorem length_of_fates (driver : Driver) (world : World (StateM State)) (points : List Point)
    (session : Rrd.Session) (start : State) :
    (((driver.fates world points).run session).run start).1.1.length = points.length := by
  cases driver with
  | influx service => exact Batch.length_fatesTogether _ _ points start
  | graphite service => exact Batch.length_fatesTogether _ _ points start
  | rrd store => exact Batch.length_fatesEach _ points session start
  | prometheus service => exact List.length_map _

/-- Whatever a backend does to a batch, its report accounts for every point, and there is an error
in its place just when all points fail alike. -/
theorem writeBatch_accounts (driver : Driver) (world : World (StateM State)) (points : List Point)
    (session : Rrd.Session) (start : State) :
    ∃ (fates : List (Except Failure Unit)) (result : Except Failure BatchReport)
      (left : Rrd.Session) (finish : State),
      ((driver.fates world points).run session).run start = ((fates, left), finish) ∧
      ((driver.writeBatch world points).run.run session).run start = ((result, left), finish) ∧
      fates.length = points.length ∧
      (∀ failure, result = .error failure ↔
        ∃ message, failure = .write (.batch message) ∧ Batch.FailAlike message fates) ∧
      ∀ report, result = .ok report → Batch.Accounts fates report := by
  have counted := driver.length_of_fates world points session start
  have same := driver.run_writeBatch world points
  obtain ⟨⟨⟨fates, left⟩, finish⟩, ran⟩ : ∃ ended,
    ((driver.fates world points).run session).run start = ended := ⟨_, rfl⟩
  rw [ran] at counted
  refine ⟨fates, Batch.report fates.length (Batch.failuresFrom 0 fates), left, finish, ran, ?_,
    counted, fun failure => Batch.report_eq_error, fun report => Batch.accounts_of_report⟩
  rw [same, StateT.run_map, StateT.run_map, ran, counted]
  rfl

/-- A busy server refuses the lines of two points, and the third point is never written down. One
point alone is refused alike. -/
theorem writeBatch_accounts_busy :
    let driver := Driver.influx ⟨{}⟩
    let session : Rrd.Session := ⟨.notStarted, none⟩
    let start := Scripted.ofTree .empty
    let busy : Failure := .write (.status 503 "busy")
    let told := "HTTP 503 Service Unavailable: busy"
    let fates := [.error busy, .error (.write (.content (.noFields "load"))), .error busy]
    let report := ⟨0, [⟨0, told⟩, ⟨1, "point for 'load' has no fields"⟩, ⟨2, told⟩]⟩
    (((driver.fates busyWorld loadPoints).run session).run start).1.1 = fates ∧
      (driver.writeBatch busyWorld loadPoints).result session start = .ok report ∧
      Batch.Accounts fates report ∧
      (driver.writeBatch busyWorld (loadPoints.take 1)).result session start =
        .error (.write (.batch told)) := by
  intro driver session start busy told fates report
  have refused : (((driver.fates busyWorld loadPoints).run session).run start).1.1 = fates := by
    decide +kernel
  have reported : (driver.writeBatch busyWorld loadPoints).result session start = .ok report := by
    rw [Action.result, run_writeBatch]
    decide +kernel
  obtain ⟨others, result, _, _, ran, wrote, -, -, accounts⟩ :=
    writeBatch_accounts driver busyWorld loadPoints session start
  have same : others = fates := (congrArg (·.1.1) ran).symm.trans refused
  have made : result = .ok report := (congrArg (·.1.1) wrote).symm.trans reported
  refine ⟨refused, reported, same ▸ accounts report made, ?_⟩
  rw [Action.result, run_writeBatch]
  decide +kernel

end Driver

end SeriesQuery
