import HermesSentinel.Central.Evaluation
import HermesSentinel.Foundation.InOrder
import HermesSentinel.Heartbeat.Admission
import HermesSentinel.Host.AlertStream

namespace HermesSentinel
namespace Central

open Python
open Domain
open Foundation
open Heartbeat
open Host

/-!
# The central service

One process serves connections and runs monitoring cycles in some order, on one
repository, one engine and one clock.  `runService` is that process from its
start to the exception that ends it, if one does.

The abstract level is the interleaving of ingestions and evaluations.  Every
step of the service is a sequence of such calls: a connection at most one
ingestion, of telemetry whose sender was entitled to post it, and a cycle one
evaluation for each host it got to.
-/

/-- What is fixed while the process runs. -/
structure Deployment where
  config : SentinelConfig
  credentials : NodeCredentials
  clock : SteadyClock
  interpreter : Interpreter

def Deployment.service (deployment : Deployment) : CentralService where
  ingestConfig := deployment.config
  engineConfig := deployment.config
  clock := deployment.clock
  reader := deployment.interpreter.reader

/-- The adapter over the ingestor of the one repository. -/
def Deployment.adapter (deployment : Deployment) : HeartbeatHttpAdapter :=
  HeartbeatServer.adapter deployment.interpreter {
    config := deployment.config
    credentials := deployment.credentials
    ingestor := deployment.service.ingestor }

structure ServiceWorld where
  ingestion : IngestWorld
  monitoring : MonitoringWorld

abbrev ServiceProgram (α : Type) := Program Raised ServiceWorld α

/-- A connection, with what storage and peer do while it is served. -/
structure Connection where
  incoming : Incoming
  received : List Utf8.Byte
  storage : Fallible Unit
  broken : Option Raised

/-- What storage, network and sender do during a monitoring cycle. -/
structure Surroundings where
  storage : PyStr -> Fallible Unit
  createConnection : PyStr -> CreateConnection
  send : Incident -> Fallible Unit

section

variable (deployment : Deployment)

/-- `handle_request` with a connection waiting: the stdlib server reports an
`Exception` of the handler and goes on. -/
def handleRequest (connection : Connection) : ServiceProgram Unit := fun w =>
  let listener : Listener :=
    { adapter := deployment.adapter, storage := connection.storage, broken := connection.broken }
  let done := serve listener connection.incoming connection.received w.ingestion
  match done.1 with
  | .ok () => (.ok (), { w with ingestion := done.2.ingestion })
  | .error e =>
      (if e.kind.isException = true then .ok () else .error e,
        { w with ingestion := done.2.ingestion })

/-- The part of `MonitoringCycle.run` for one host; the engine reads the
repository and the clock as they are now. -/
def monitorHost (surroundings : Surroundings) (host : HostConfig) :
    ServiceProgram HostMonitoringResult := fun w =>
  let collaborators : CycleCollaborators := {
    engine := fun name => deployment.service.collaborators w.ingestion (surroundings.storage name)
      (surroundings.createConnection name)
    send := surroundings.send }
  let done := visitHost deployment.config collaborators host w.monitoring
  (done.1, {
    ingestion := { w.ingestion with
      clockCalls := w.ingestion.clockCalls + clockCallsOf deployment.service host.name }
    monitoring := done.2 })

def monitoringCycle (surroundings : Surroundings) : ServiceProgram (List HostMonitoringResult) :=
  Program.inOrder (deployment.config.hosts.map (monitorHost deployment surroundings))

/-- What the runtime makes the service do. -/
inductive Occurrence
  | connection (connection : Connection)
  | cycle (surroundings : Surroundings)

def occur : Occurrence -> ServiceProgram Unit
  | .connection connection => handleRequest deployment connection
  | .cycle surroundings => do
      let _ ← monitoringCycle deployment surroundings
      pure ()

end

/-- A process starts with the heartbeats in the database and no memory. -/
structure ServiceStart (deployment : Deployment) where
  database : Database
  records : List HeartbeatRecord
  kept : exists entries, Kept { database, inserted := records } entries
  past : forall record, record ∈ records -> forall call now,
    deployment.clock.result call = .ok (.datetime now) -> record.receivedAt.instant ≤ now.instant

namespace ServiceStart

/-- A start without heartbeats. -/
def empty (deployment : Deployment) : ServiceStart deployment where
  database := Database.empty
  records := []
  kept := (CentralStart.empty deployment.service).kept
  past := by
    intro record impossible
    cases impossible

variable {deployment : Deployment} (start : ServiceStart deployment)

def world : ServiceWorld where
  ingestion := ⟨start.database, 0⟩
  monitoring := MonitoringWorld.initial

/-- The same start of the interleaving. -/
def central : CentralStart deployment.service where
  world := { ingestion := ⟨start.database, 0⟩, resolutions := fun _ => none }
  records := start.records
  kept := start.kept
  past := start.past

end ServiceStart

/-- The process up to a point, or to the exception that ended it before. -/
def runService {deployment : Deployment} (start : ServiceStart deployment)
    (occurrences : List Occurrence) : ServiceWorld :=
  (Program.inOrder (occurrences.map (occur deployment)) start.world).2

/-- Notification concerns the sender only. -/
theorem notifyTransition_keeps (send : Incident -> Fallible Unit) (transition : Option HostTransition)
    (w : MonitoringWorld) :
    (notifyTransition send transition w).2.resolutions = w.resolutions ∧
      (notifyTransition send transition w).2.committed = w.committed := by
  cases transition with
  | none => exact ⟨rfl, rfl⟩
  | some transition =>
      simp only [notifyTransition, bind, Program.bind, Program.lift]
      rcases incidentFromTransition transition with e | incident
      · exact ⟨rfl, rfl⟩
      · cases incident with
        | none => exact ⟨rfl, rfl⟩
        | some incident =>
            simp only [sendIncident, bind, Program.bind, Program.update, Program.lift]
            cases send incident with
            | ok _ => exact ⟨rfl, rfl⟩
            | error e => exact ⟨rfl, rfl⟩

/-- A visit remembers and commits what the engine's evaluation does. -/
theorem visitHost_evaluates (engineConfig : SentinelConfig) (collaborators : CycleCollaborators)
    (host : HostConfig) (w : MonitoringWorld) :
    (visitHost engineConfig collaborators host w).2.resolutions =
        (evaluateHost engineConfig (collaborators.engine host.name) host.name w.resolutions).2 ∧
      (visitHost engineConfig collaborators host w).2.committed = w.committed ++
        (evaluateHost engineConfig (collaborators.engine host.name) host.name
          w.resolutions).1.toOption.toList := by
  simp only [visitHost, bind, Program.bind, engineEvaluate]
  rcases evaluateHost engineConfig (collaborators.engine host.name) host.name w.resolutions with
    ⟨e | evaluation, resolutions⟩
  · exact ⟨rfl, (List.append_nil _).symm⟩
  · dsimp only
    have kept := notifyTransition_keeps collaborators.send evaluation.transition
      { w with resolutions := resolutions, committed := w.committed ++ [evaluation] }
    rcases notified : notifyTransition collaborators.send evaluation.transition
      { w with resolutions := resolutions, committed := w.committed ++ [evaluation] } with
      ⟨e | incident, after⟩
    · rw [notified] at kept
      exact kept
    · rw [notified] at kept
      exact kept

/-! ## The refinement -/

/-- What an evaluation has committed. -/
def committedBy : CentralResult -> Option HostHealthEvaluation
  | .evaluated (.ok evaluation) => some evaluation
  | _ => none

theorem filterMap_committedBy (result : Fallible HostHealthEvaluation) :
    [CentralResult.evaluated result].filterMap committedBy = result.toOption.toList := by
  cases result with
  | ok evaluation => rfl
  | error e => rfl

/-- The service stands where the interleaving of these calls does. -/
structure Refines {deployment : Deployment} (start : ServiceStart deployment) (w : ServiceWorld)
    (calls : List CentralCall) : Prop where
  ingestion : (runCentral start.central calls).world.ingestion = w.ingestion
  resolutions : (runCentral start.central calls).world.resolutions = w.monitoring.resolutions
  committed : w.monitoring.committed = (runCentral start.central calls).results.filterMap committedBy
  /-- Every telemetry that is ingested was posted by a sender entitled to it. -/
  posted : forall telemetry storage, CentralCall.ingest telemetry storage ∈ calls ->
    exists request, Posted deployment.adapter request telemetry
  /-- Every host that is evaluated is monitored. -/
  monitored : forall host storage createConnection,
    CentralCall.evaluate host storage createConnection ∈ calls ->
      exists hostConfig, hostConfig ∈ deployment.config.hosts ∧ hostConfig.name = host

section

variable {deployment : Deployment} {start : ServiceStart deployment}

theorem refines_start : Refines start start.world [] where
  ingestion := rfl
  resolutions := rfl
  committed := rfl
  posted := by
    intro telemetry storage impossible
    cases impossible
  monitored := by
    intro host storage createConnection impossible
    cases impossible

theorem Refines.monitorHost {w : ServiceWorld} {calls : List CentralCall}
    (refines : Refines start w calls) (surroundings : Surroundings) {host : HostConfig}
    (listed : host ∈ deployment.config.hosts) :
    Refines start (monitorHost deployment surroundings host w).2
      (calls ++ [.evaluate host.name (surroundings.storage host.name)
        (surroundings.createConnection host.name)]) := by
  have evaluates := visitHost_evaluates deployment.config {
    engine := fun name => deployment.service.collaborators w.ingestion (surroundings.storage name)
      (surroundings.createConnection name)
    send := surroundings.send } host w.monitoring
  constructor
  case ingestion =>
    rw [runCentral_concat]
    simp only [stepCentral, perform, refines.ingestion]
    rfl
  case resolutions =>
    rw [runCentral_concat]
    simp only [stepCentral, perform, refines.ingestion, refines.resolutions]
    exact evaluates.1.symm
  case committed =>
    rw [runCentral_concat]
    simp only [stepCentral, perform, refines.ingestion, refines.resolutions, List.filterMap_append]
    rw [<- refines.committed, filterMap_committedBy]
    exact evaluates.2
  case posted =>
    intro telemetry storage member
    rcases List.mem_append.mp member with earlier | impossible
    · exact refines.posted telemetry storage earlier
    · cases List.mem_singleton.mp impossible
  case monitored =>
    intro name storage createConnection member
    rcases List.mem_append.mp member with earlier | newest
    · exact refines.monitored name storage createConnection earlier
    · cases List.mem_singleton.mp newest
      exact ⟨host, listed, rfl⟩

/-- Serving a connection concerns the ingestion only. -/
theorem handleRequest_left (deployment : Deployment) (connection : Connection) (w : ServiceWorld) :
    (Central.handleRequest deployment connection w).2 = { w with
      ingestion := (serve
        { adapter := deployment.adapter, storage := connection.storage, broken := connection.broken }
        connection.incoming connection.received w.ingestion).2.ingestion } := by
  unfold Central.handleRequest
  dsimp only
  split
  · rfl
  · rfl

/-- A connection is no call, or the ingestion of what was posted on it. -/
theorem Refines.handleRequest {w : ServiceWorld} {calls : List CentralCall}
    (refines : Refines start w calls) (connection : Connection) :
    exists more, Refines start (handleRequest deployment connection w).2 (calls ++ more) := by
  have effect := serve_effect
    { adapter := deployment.adapter, storage := connection.storage, broken := connection.broken }
    connection.incoming connection.received w.ingestion
  rw [handleRequest_left]
  generalize (serve
    { adapter := deployment.adapter, storage := connection.storage, broken := connection.broken }
    connection.incoming connection.received w.ingestion).2.ingestion = after at effect ⊢
  cases effect with
  | nothing =>
      refine ⟨[], ?_⟩
      rw [List.append_nil]
      exact refines
  | ingested request parsed body telemetry posted =>
      refine ⟨[.ingest telemetry connection.storage], ?_⟩
      constructor
      case ingestion =>
        rw [runCentral_concat]
        simp only [stepCentral, perform, refines.ingestion]
        rfl
      case resolutions =>
        rw [runCentral_concat]
        exact refines.resolutions
      case committed =>
        rw [runCentral_concat]
        simp only [stepCentral, perform, List.filterMap_append]
        exact refines.committed.trans (List.append_nil _).symm
      case posted =>
        intro other storage member
        rcases List.mem_append.mp member with earlier | newest
        · exact refines.posted other storage earlier
        · cases List.mem_singleton.mp newest
          exact ⟨_, posted⟩
      case monitored =>
        intro name storage createConnection member
        rcases List.mem_append.mp member with earlier | impossible
        · exact refines.monitored name storage createConnection earlier
        · cases List.mem_singleton.mp impossible

/-- What every connection and every visit of a host keeps, a process keeps. -/
theorem runService_keeps {holds : ServiceWorld -> Prop} (initially : holds start.world)
    (connected : forall w connection, holds w ->
      holds (Central.handleRequest deployment connection w).2)
    (visited : forall w surroundings host, host ∈ deployment.config.hosts -> holds w ->
      holds (Central.monitorHost deployment surroundings host w).2)
    (occurrences : List Occurrence) : holds (runService start occurrences) := by
  have step : forall program, program ∈ occurrences.map (occur deployment) ->
      Program.Spec holds program (fun _ => holds) (fun _ => holds) := by
    intro program member
    rcases List.mem_map.mp member with ⟨occurrence, _, rfl⟩
    cases occurrence with
    | connection connection => exact Program.Spec.iff_final.mpr fun w => connected w connection
    | cycle surroundings =>
        refine Program.Spec.bind (Program.Spec.inOrder_keeps ?_) fun _ => .pure fun _ kept => kept
        intro visit listed
        rcases List.mem_map.mp listed with ⟨host, configured, rfl⟩
        exact Program.Spec.iff_final.mpr fun w => visited w surroundings host configured
  exact Program.Spec.iff_final.mp (Program.Spec.inOrder_keeps step) start.world initially

end

/-- Every process of the service, up to every point and however it ended, has
done what some interleaving of ingestions and evaluations does: with the same
rows, the same memory of the engine and the same committed evaluations, in which
every ingestion is of telemetry that was posted with the credential of its node. -/
theorem service_refines_interleaving {deployment : Deployment} (start : ServiceStart deployment)
    (occurrences : List Occurrence) :
    exists calls, Refines start (runService start occurrences) calls := by
  have kept := @runService_keeps deployment start (fun w => exists calls, Refines start w calls)
  refine kept ⟨[], refines_start⟩ ?_ ?_ occurrences
  · intro w connection before
    rcases before with ⟨calls, refines⟩
    rcases refines.handleRequest connection with ⟨more, after⟩
    exact ⟨calls ++ more, after⟩
  · intro w surroundings host listed before
    rcases before with ⟨calls, refines⟩
    exact ⟨_, refines.monitorHost surroundings listed⟩

end Central
end HermesSentinel
