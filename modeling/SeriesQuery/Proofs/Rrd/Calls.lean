import Mathlib.Data.List.Induction
import SeriesQuery.Rrd.Session

/-!
Histories of calls on a session. The state says that the session runs exactly when the session holds
the pipes of a child, unless the last call to stop failed: that call takes the pipes away and leaves
the state as it was.
-/

set_option autoImplicit false

namespace SeriesQuery.Rrd

variable {World : Type}

namespace Session

/-! ## Outcomes of steps -/

/-- What comes of a step: its result, the session and the world that the child lives in. -/
def outcome {α : Type} (step : Step (StateM World) α) (session : Session) (world : World) :
    Except Failure α × Session × World :=
  let ((result, session), world) := (step.run.run session).run world
  (result, session, world)

section
variable {α β : Type} (session : Session) (world : World)

theorem outcome_lift (action : StateM World α) :
    outcome (monadLift action : Step (StateM World) α) session world =
      (.ok (action.run world).1, session, (action.run world).2) := rfl

theorem outcome_bind (step : Step (StateM World) α) (next : α → Step (StateM World) β) :
    outcome (step >>= next) session world = match outcome step session world with
      | (.ok value, session, world) => outcome (next value) session world
      | (.error failure, session, world) => (.error failure, session, world) := by
  simp only [outcome, ExceptT.run, StateT.run, bind, ExceptT.bind, ExceptT.mk, StateT.bind]
  obtain ⟨⟨result, after⟩, later⟩ := step session world
  cases result <;> rfl

end

/-! ## Sessions between calls -/

/-- The session holds pipes exactly when it says that it runs. -/
def Truthful (session : Session) : Prop := session.state = .running ↔ session.pipes?.isSome = true

/-- The session says that it runs, and has lost its child. -/
def stranded : Session := ⟨.running, none⟩

theorem not_truthful_stranded : ¬stranded.Truthful := by
  unfold Truthful stranded
  decide

theorem truthful_holding (unread : List Char) : (holding unread).Truthful := by
  simp [Truthful, holding]

theorem truthful_of_no_pipes {state : SessionState} (notRunning : state ≠ .running) :
    Truthful ⟨state, none⟩ := by
  unfold Truthful
  simpa using notRunning

/-- A step after which a session that told the truth still does. -/
def Keeps {α : Type} (step : Step (StateM World) α) : Prop :=
  ∀ session world, session.Truthful → (outcome step session world).2.1.Truthful

theorem Keeps.bind {α β : Type} {step : Step (StateM World) α} {next : α → Step (StateM World) β}
    (first : Keeps step) (rest : ∀ value, Keeps (next value)) : Keeps (step >>= next) := by
  intro session world truthful
  have kept := first session world truthful
  rw [outcome_bind]
  generalize outcome step session world = found at kept
  obtain ⟨result, after, later⟩ := found
  cases result with
  | error failure => exact kept
  | ok value => exact rest value after later kept

theorem keeps_pure {α : Type} (value : α) : Keeps (pure value : Step (StateM World) α) :=
  fun _ _ truthful => truthful

theorem keeps_throw {α : Type} (failure : Failure) :
    Keeps (throw failure : Step (StateM World) α) := fun _ _ truthful => truthful

theorem keeps_lift {α : Type} (action : StateM World α) :
    Keeps (monadLift action : Step (StateM World) α) := fun _ _ truthful => truthful

theorem keeps_get : Keeps (get : Step (StateM World) Session) := fun _ _ truthful => truthful

theorem keeps_set {session : Session} (truthful : session.Truthful) :
    Keeps (set session : Step (StateM World) Unit) := fun _ _ _ => truthful

/-! ## Starting and running -/

variable (child : Child (StateM World))

theorem keeps_start : Keeps (start child) := by
  refine (keeps_lift child.start).bind fun result => ?_
  cases result with
  | error reason => exact keeps_throw _
  | ok _ => exact keeps_set (truthful_holding [])

theorem keeps_ensureStarted : Keeps (ensureStarted child) := by
  refine keeps_get.bind fun session => ?_
  cases session.state with
  | stopped => exact keeps_throw _
  | notStarted => exact keeps_start child
  | running => exact keeps_pure ()

/-- What `run` does once the child is started. -/
def sendLine (line : String) : Step (StateM World) String := do
  let some pipes := (← get).pipes? | throw (.pipe .notRunning)
  set (⟨.notStarted, none⟩ : Session)
  match ← child.send line with
  | .error reason => throw (.system reason)
  | .ok answer =>
    match exchange answer.fault?
        (keptLines answer.fault?.isSome (pipes.unread ++ answer.text)) with
    | (.output text, rest) =>
      set (holding rest.flatten)
      return String.ofList text
    | (.refusal message, rest) =>
      set (holding rest.flatten)
      throw (Failure.ofMessage (String.ofList message))
    | (.exited, _) =>
      set (⟨.stopped, none⟩ : Session)
      throw (.pipe .exited)
    | (.fault reason, _) => throw (.system reason)

theorem run_eq (line : String) :
    run child line = ensureStarted child >>= fun _ => sendLine child line := rfl

/-- Whatever the child prints, and wherever it breaks off. -/
theorem keeps_sendLine (line : String) : Keeps (sendLine child line) := by
  refine keeps_get.bind fun session => ?_
  cases session.pipes? with
  | none => exact keeps_throw _
  | some pipes =>
    refine (keeps_set (truthful_of_no_pipes (by decide))).bind fun _ => ?_
    refine (keeps_lift (child.send line)).bind fun result => ?_
    cases result with
    | error reason => exact keeps_throw _
    | ok answer =>
      dsimp only
      split
      · exact (keeps_set (truthful_holding _)).bind fun _ => keeps_pure _
      · exact (keeps_set (truthful_holding _)).bind fun _ => keeps_throw _
      · exact (keeps_set (truthful_of_no_pipes (by decide))).bind fun _ => keeps_throw _
      · exact keeps_throw _

theorem keeps_run (line : String) : Keeps (run child line) := by
  rw [run_eq]
  exact (keeps_ensureStarted child).bind fun _ => keeps_sendLine child line

/-! ## Stopping -/

theorem outcome_stop_of_no_pipes {session : Session} (absent : session.pipes? = none)
    (world : World) :
    outcome (stop child) session world = (.ok (), ⟨.stopped, none⟩, world) := by
  obtain ⟨state, pipes?⟩ := session
  cases absent
  rfl

/-- What a stop does once the child has answered. -/
def afterQuit (answer : Except String Unit) : Step (StateM World) Unit := do
  match answer with
  | .error reason => throw (.system reason)
  | .ok () => pure ()
  modify fun session => { session with state := .stopped }

theorem outcome_stop_of_pipes {session : Session} {pipes : Pipes}
    (present : session.pipes? = some pipes) (world : World) :
    outcome (stop child) session world = match child.quit.run world with
      | (.ok (), later) => (.ok (), ⟨.stopped, none⟩, later)
      | (.error reason, later) => (.error (.system reason), ⟨session.state, none⟩, later) := by
  obtain ⟨state, pipes?⟩ := session
  cases present
  have quit : outcome (stop child) ⟨state, some pipes⟩ world =
      outcome ((monadLift child.quit : Step (StateM World) (Except String Unit)) >>= afterQuit)
        ⟨state, none⟩ world := rfl
  rw [quit, outcome_bind, outcome_lift]
  obtain ⟨result, later⟩ := child.quit.run world
  cases result with
  | error reason => rfl
  | ok _ => rfl

end Session

/-! ## Histories of calls -/

inductive Call where
  | run (line : String)
  | ensureStarted
  | stop
  deriving DecidableEq

def Call.step (child : Child (StateM World)) : Call → Session.Step (StateM World) Unit
  | .run line => do let _ ← Session.run child line
  | .ensureStarted => Session.ensureStarted child
  | .stop => Session.stop child

structure Event where
  call : Call
  failed : Bool

/-- What happened so far, and how things are now. -/
structure History (World : Type) where
  events : List Event
  session : Session
  world : World

namespace History

def new (world : World) : History World := ⟨[], .new, world⟩

def add (child : Child (StateM World)) (history : History World) (call : Call) : History World :=
  let (result, session, world) := Session.outcome (call.step child) history.session history.world
  ⟨history.events ++ [⟨call, !result.isOk⟩], session, world⟩

def ofCalls (child : Child (StateM World)) (calls : List Call) (world : World) : History World :=
  calls.foldl (add child) (new world)

def StopFailed (events : List Event) : Prop :=
  ∃ event, (events.filter (·.call = .stop)).getLast? = some event ∧ event.failed = true

theorem stopFailed_append_stop (events : List Event) (failed : Bool) :
    StopFailed (events ++ [⟨.stop, failed⟩]) ↔ failed = true := by
  simp [StopFailed, List.filter_append]

theorem stopFailed_append_other (events : List Event) {event : Event} (other : event.call ≠ .stop) :
    StopFailed (events ++ [event]) ↔ StopFailed events := by
  simp [StopFailed, List.filter_append, other]

/-- A session has lost its child after a stop that failed, and else tells the truth. -/
def Kept (history : History World) : Prop :=
  StopFailed history.events ∧ history.session = .stranded ∨
    ¬StopFailed history.events ∧ history.session.Truthful

theorem kept_new (world : World) : (new world).Kept := by
  right
  constructor
  · rintro ⟨event, last, -⟩
    cases last
  · exact Session.truthful_of_no_pipes (by decide)

theorem kept_of_stopped (events : List Event) (world : World) :
    Kept ⟨events ++ [⟨.stop, false⟩], ⟨.stopped, none⟩, world⟩ := by
  right
  constructor
  · intro failed
    cases (stopFailed_append_stop events false).1 failed
  · exact Session.truthful_of_no_pipes (by decide)

theorem kept_add_stop (child : Child (StateM World)) {history : History World}
    (kept : history.Kept) : (history.add child .stop).Kept := by
  obtain ⟨events, session, world⟩ := history
  cases held : session.pipes? with
  | none =>
    have ended := Session.outcome_stop_of_no_pipes child held world
    simp only [add, Call.step, ended]
    exact kept_of_stopped events world
  | some pipes =>
    have running : session.state = .running := by
      rcases kept with ⟨-, lost⟩ | ⟨-, truthful⟩
      · rw [show session = .stranded from lost] at held
        cases held
      · exact truthful.2 (by rw [held]; rfl)
    have ended := Session.outcome_stop_of_pipes child held world
    rw [running] at ended
    simp only [add, Call.step, ended]
    obtain ⟨result, later⟩ := child.quit.run world
    cases result with
    | error reason => exact .inl ⟨(stopFailed_append_stop events true).2 rfl, rfl⟩
    | ok _ => exact kept_of_stopped events later

theorem kept_add_other (child : Child (StateM World)) {history : History World} {call : Call}
    (other : call ≠ .stop) (keeps : Session.Keeps (call.step child))
    (idle : ∀ world, (Session.outcome (call.step child) .stranded world).2.1 = .stranded)
    (kept : history.Kept) : (history.add child call).Kept := by
  obtain ⟨events, session, world⟩ := history
  rcases kept with ⟨failed, lost⟩ | ⟨succeeded, truthful⟩
  · left
    refine ⟨(stopFailed_append_other events other).2 failed, ?_⟩
    rw [show session = .stranded from lost]
    exact idle world
  · right
    exact ⟨fun failed => succeeded ((stopFailed_append_other events other).1 failed),
      keeps session world truthful⟩

theorem kept_add (child : Child (StateM World)) {history : History World} (call : Call)
    (kept : history.Kept) : (history.add child call).Kept := by
  cases call with
  | run line =>
    exact kept_add_other child (by simp) ((Session.keeps_run child line).bind fun _ => Session.keeps_pure ())
      (fun _ => rfl) kept
  | ensureStarted =>
    exact kept_add_other child (by simp) (Session.keeps_ensureStarted child) (fun _ => rfl) kept
  | stop => exact kept_add_stop child kept

theorem kept_ofCalls (child : Child (StateM World)) (calls : List Call) (world : World) :
    (ofCalls child calls world).Kept := by
  induction calls using List.reverseRecOn with
  | nil => exact kept_new world
  | append_singleton calls call ih =>
    rw [ofCalls, List.foldl_append]
    exact kept_add child call ih

/-- After any calls, whatever the child did, the state says whether the session holds the pipes of
a child, except after a stop that failed. -/
theorem truthful_iff_not_stopFailed (child : Child (StateM World)) (calls : List Call)
    (world : World) :
    (ofCalls child calls world).session.Truthful ↔
      ¬StopFailed (ofCalls child calls world).events := by
  rcases kept_ofCalls child calls world with ⟨failed, lost⟩ | ⟨succeeded, truthful⟩
  · rw [lost]
    exact ⟨fun truthful => absurd truthful Session.not_truthful_stranded, fun kept => absurd failed kept⟩
  · exact ⟨fun _ => succeeded, fun _ => truthful⟩

/-- A child that ends after its first answer, so that it cannot be asked to end. -/
def shortLived : Child (StateM Unit) where
  start := return .ok ()
  send _ := return .ok ⟨"OK u:0.00 s:0.00 r:0.00".toList, none⟩
  quit := return .error "Broken pipe"

example : (ofCalls shortLived [.run "a", .stop] ()).session = .stranded := by decide

end History

end SeriesQuery.Rrd
