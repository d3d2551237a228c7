import SeriesQuery.Driver.Basic
import SeriesQuery.Driver.Scripted
import SeriesQuery.Proofs.Batches

/-!
Backends that take a whole batch in one request. Where all requests are answered alike, they report
what writing the points one by one reports.
-/

set_option autoImplicit false

namespace SeriesQuery

variable {State : Type}

/-! ## Answers -/

/-- What an answer to lines means for their points. -/
def Influx.verdictOf :
    Except Http.Fault Http.Reply → Except Failure Unit
  | .ok reply =>
    if reply.status.isSuccess then .ok ()
    else .error (.write (.status reply.status (Text.trim reply.body)))
  | .error fault => .error (Service.writeFailure (fault.failure .influxdb "write"))

/-- When these points are written, together or one by one, from this state on, every request that
is sent is accepted, or every one fails with the same error. -/
def Influx.Service.AnsweredAlike (service : Influx.Service)
    (transport : Http.Transport (StateM State)) (points : List Point) (start : State) : Prop :=
  ∃ (verdict : Except Failure Unit) (calm : State → Prop), calm start ∧
    ∀ lines ∈ Batch.loads (Influx.line service.settings.precision) points,
      Http.addressProblem? (service.writeRequest lines).address = none →
        Yields calm (Influx.verdictOf <$> transport (service.writeRequest lines)) verdict

/-- What becomes of lines that are written. No request leaves for what is no address. -/
def Influx.Service.posted {m : Type → Type} [Monad m] (service : Influx.Service)
    (transport : Http.Transport m) (lines : List String) : m (Except Failure Unit) :=
  match Http.addressProblem? (service.writeRequest []).address with
  | some problem => pure (.error (.write (.unsent .influxdb (.address problem))))
  | none => Influx.verdictOf <$> transport (service.writeRequest lines)

def Graphite.Service.delivery (service : Graphite.Service) (lines : List (List String)) :
    Graphite.Delivery :=
  ⟨service.settings.protocol, service.settings.host, service.settings.port,
    Graphite.Service.payload lines⟩

def Graphite.Service.delivered {m : Type → Type} [Monad m] (service : Graphite.Service)
    (carbon : Graphite.Carbon m) (lines : List (List String)) : m (Except Failure Unit) :=
  Except.mapError Graphite.DeliveryFault.failure <$> carbon (service.delivery lines)

def Graphite.Service.AnsweredAlike (service : Graphite.Service)
    (carbon : Graphite.Carbon (StateM State)) (points : List Point) (start : State) : Prop :=
  ∃ (answer : Except Graphite.DeliveryFault Unit) (calm : State → Prop), calm start ∧
    ∀ lines ∈ Batch.loads (Graphite.lines service.root?) points,
      Yields calm (carbon (service.delivery lines)) answer

def Action.result {α : Type} (action : Action (StateM State) α) (session : Rrd.Session)
    (start : State) : Except Failure α := ((action.run.run session).run start).1.1

/-! ## Sending -/

section
variable {m : Type → Type} [Monad m]

theorem run_adapt {ε ε' α : Type} (f : ε → ε') (action : ExceptT ε m α) :
    (action.adapt f).run = Except.mapError f <$> action.run := rfl

variable [LawfulMonad m]

theorem Http.run_ask (transport : Http.Transport m) (backend : Backend) (query : String)
    (request : Http.Request) :
    (Http.ask transport backend query request).run =
      match Http.addressProblem? request.address with
      | some problem => pure (.error (.execution backend query (.address problem)))
      | none =>
        Except.mapError (Http.Fault.failure backend query) <$> transport request := by
  unfold Http.ask
  cases Http.addressProblem? request.address with
  | some problem => rfl
  | none =>
    rw [ExceptT.run_bind, ExceptT.run_liftM, bind_map_left]
    dsimp only
    rw [map_eq_pure_bind]
    exact bind_congr fun answer => by cases answer <;> rfl

theorem Influx.Service.run_send (service : Influx.Service) (transport : Http.Transport m)
    (lines : List String) :
    (service.send transport lines).run = service.posted transport lines := by
  -- The address does not depend on what is written.
  have same : (service.writeRequest lines).address = (service.writeRequest []).address := rfl
  unfold send posted
  rw [ExceptT.run_bind, run_adapt, Http.run_ask, same]
  cases Http.addressProblem? (service.writeRequest []).address with
  | some problem => simp [Except.mapError, writeFailure]
  | none =>
    rw [bind_map_left, bind_map_left, map_eq_pure_bind]
    refine bind_congr fun answer => ?_
    cases answer with
    | error reason => rfl
    | ok reply =>
      unfold Influx.verdictOf
      cases accepted : reply.status.isSuccess <;> simp [Except.mapError, accepted]

end

theorem Influx.Service.AnsweredAlike.yields_send {service : Influx.Service}
    {transport : Http.Transport (StateM State)} {points : List Point} {start : State}
    (alike : service.AnsweredAlike transport points start) :
    ∃ (verdict : Except Failure Unit) (calm : State → Prop), calm start ∧
      ∀ lines ∈ Batch.loads (Influx.line service.settings.precision) points,
        Yields calm (service.send transport lines).run verdict := by
  obtain ⟨verdict, calm, starts, answered⟩ := alike
  cases found : Http.addressProblem? (service.writeRequest []).address with
  | some problem =>
    -- No request leaves, and what the transport would answer does not matter.
    refine ⟨.error (.write (.unsent .influxdb (.address problem))), calm, starts, fun lines _ => ?_⟩
    rw [service.run_send, posted, found]
    exact yields_pure _
  | none =>
    refine ⟨verdict, calm, starts, fun lines sent => ?_⟩
    rw [service.run_send, posted, found]
    exact answered lines sent found

theorem Graphite.Service.AnsweredAlike.yields_send {service : Graphite.Service}
    {carbon : Graphite.Carbon (StateM State)} {points : List Point} {start : State}
    (alike : service.AnsweredAlike carbon points start) :
    ∃ (verdict : Except Failure Unit) (calm : State → Prop), calm start ∧
      ∀ lines ∈ Batch.loads (Graphite.lines service.root?) points,
        Yields calm (service.send carbon lines).run verdict := by
  obtain ⟨answer, calm, starts, answered⟩ := alike
  exact ⟨answer.mapError Graphite.DeliveryFault.failure, calm, starts, fun lines sent =>
    (answered lines sent).map (Except.mapError Graphite.DeliveryFault.failure)⟩

/-! ## Actions without use of the session -/

section
variable {m : Type → Type} [Monad m] [LawfulMonad m]

theorem lift_pure {α : Type} (value : α) :
    (StateT.lift (pure value : m α) : StateT Rrd.Session m α) = pure value :=
  LawfulMonadLift.monadLift_pure (m := m) (n := StateT Rrd.Session m) value

theorem lift_bind {α β : Type} (action : m α) (next : α → m β) :
    (StateT.lift (action >>= next) : StateT Rrd.Session m β) =
      StateT.lift action >>= fun value => StateT.lift (next value) :=
  LawfulMonadLift.monadLift_bind (m := m) (n := StateT Rrd.Session m) action next

theorem failuresOfEach_once (write : Point → ExceptT Failure m Unit) (items : List (Point × Nat)) :
    Batch.failuresOfEach (fun point => Driver.once (write point)) items =
      StateT.lift (Batch.failuresOfEach write items) := by
  induction items with
  | nil => exact (lift_pure _).symm
  | cons item rest ih =>
    obtain ⟨point, index⟩ := item
    unfold Batch.failuresOfEach
    rw [lift_bind, ih]
    refine bind_congr fun outcome => ?_
    rw [lift_bind]
    refine bind_congr fun failures => ?_
    cases outcome with
    | ok _ => exact (lift_pure _).symm
    | error failure => exact (lift_pure _).symm

theorem writeEach_once (write : Point → ExceptT Failure m Unit) (points : List Point) :
    Batch.writeEach (fun point => Driver.once (write point)) points =
      Driver.once (Batch.writeEach write points) := by
  unfold Batch.writeEach Driver.once
  rw [ExceptT.run_mk, lift_bind]
  refine congrArg ExceptT.mk ?_
  rw [← failuresOfEach_once]
  exact bind_congr fun failures => (lift_pure _).symm

end

theorem result_once {α : Type} (action : ExceptT Failure (StateM State) α) (session : Rrd.Session)
    (start : State) : (Driver.once action).result session start = (action.run.run start).1 := rfl

/-! ## Reports -/

section
variable {α : Type} {writeDown : Point → Except WriteProblem α}
  {send : List α → ExceptT Failure (StateM State) Unit}
  {write : Point → ExceptT Failure (StateM State) Unit}

theorem result_writeTogether {points : List Point} {start : State}
    (written : ∀ point, write point = match writeDown point with
      | .ok content => send [content]
      | .error problem => throw (.write (.content problem)))
    (alike : ∃ (verdict : Except Failure Unit) (calm : State → Prop), calm start ∧
      ∀ contents ∈ Batch.loads writeDown points, Yields calm (send contents).run verdict)
    (session : Rrd.Session) :
    (Driver.once (Batch.writeTogether writeDown send points)).result session start =
      Action.result (Batch.writeEach (fun point => Driver.once (write point)) points) session
        start := by
  obtain ⟨verdict, calm, starts, sends⟩ := alike
  -- One by one, the points that can be written down meet the same verdict as together.
  have each : ∀ point ∈ points,
      Yields calm (write point).run (Batch.fateOf writeDown verdict point) := by
    intro point member
    rw [written]
    unfold Batch.fateOf
    cases same : writeDown point with
    | error problem => exact yields_pure _
    | ok content =>
      have sent : content ∈ Batch.contentsOf writeDown points :=
        List.mem_filterMap.2 ⟨point, member, by rw [same]; rfl⟩
      exact sends [content] (Batch.singleton_mem_loads sent)
  have together := Batch.yields_writeTogether fun some => sends _ (Batch.contents_mem_loads some)
  rw [writeEach_once, result_once, result_once, (together start starts).1,
    (Batch.yields_writeEach each start starts).1, Batch.reportOf]

end

/-- The whole batch in one request has the report, or the failure, of its points one by one. -/
theorem Driver.writeBatch_eq_writeEach (world : World (StateM State)) (points : List Point)
    (session : Rrd.Session) (start : State) :
    (∀ service : Influx.Service, service.AnsweredAlike world.http points start →
      ((Driver.influx service).writeBatch world points).result session start =
        Action.result (Batch.writeEach ((Driver.influx service).write world) points) session
          start) ∧
    (∀ service : Graphite.Service, service.AnsweredAlike world.carbon points start →
      ((Driver.graphite service).writeBatch world points).result session start =
        Action.result (Batch.writeEach ((Driver.graphite service).write world) points) session
          start) := by
  constructor
  · intro service alike
    refine result_writeTogether (fun point => ?_) alike.yields_send session
    unfold Influx.Service.write
    cases Influx.line service.settings.precision point <;> rfl
  · intro service alike
    refine result_writeTogether (fun point => ?_) alike.yields_send session
    unfold Graphite.Service.write
    cases Graphite.lines service.root? point <;> rfl

def loadPoints : List Point :=
  let bare := Point.ofMeasurement "load" ⟨1698411600, 0, by decide⟩
  [bare.addField "five" (.integer 2), bare, bare.addField "fifteen" (.integer 1)]

def busyWorld : World (StateM Scripted) :=
  Scripted.world .earliest (fun _ => .ok ⟨503, "busy"⟩) fun _ =>
    .error (.connecting "Connection refused")

theorem Driver.writeBatch_eq_writeEach_busy :
    let start := Scripted.ofTree .empty
    let session : Rrd.Session := ⟨.notStarted, none⟩
    Influx.Service.AnsweredAlike ⟨{}⟩ busyWorld.http loadPoints start ∧
      Graphite.Service.AnsweredAlike ⟨{}⟩ busyWorld.carbon loadPoints start ∧
      ((Driver.influx ⟨{}⟩).writeBatch busyWorld loadPoints).result session start =
        Action.result (Batch.writeEach ((Driver.influx ⟨{}⟩).write busyWorld) loadPoints) session
          start ∧
      ((Driver.graphite ⟨{}⟩).writeBatch busyWorld loadPoints).result session start =
        Action.result (Batch.writeEach ((Driver.graphite ⟨{}⟩).write busyWorld) loadPoints) session
          start := by
  intro start session
  have busy : Influx.Service.AnsweredAlike ⟨{}⟩ busyWorld.http loadPoints start :=
    ⟨_, fun _ => True, trivial, fun _ _ _ =>
      yields_pure (Influx.verdictOf (.ok ⟨503, "busy"⟩))⟩
  have refused : Graphite.Service.AnsweredAlike ⟨{}⟩ busyWorld.carbon loadPoints start :=
    ⟨.error (.connecting "Connection refused"), fun _ => True, trivial, fun _ _ => yields_pure _⟩
  have ⟨posted, delivered⟩ :=
    Driver.writeBatch_eq_writeEach busyWorld loadPoints session start
  exact ⟨busy, refused, posted _ busy, delivered _ refused⟩

end SeriesQuery
