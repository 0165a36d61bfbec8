import HermesSentinel.Central.StopRequest
import HermesSentinel.Foundation.Acquisition
import HermesSentinel.Heartbeat.Schema
import HermesSentinel.Settings.Central

namespace HermesSentinel
namespace Central

open Python
open Domain
open Foundation
open Heartbeat
open Settings

/-!
# The composed application

`buildApplication` opens the database, binds the listener and constructs the
components in their order, and releases what it has opened if one of them fails.
`runApplication` is the `with` statement of the process around it.

Any call can fail with any exception, whatever was called before; what a call
does by itself (the settings loader, the schema, the loop) is the model of it.
-/

inductive StopSignal
  | sigterm
  | sigint
  deriving DecidableEq

inductive Component
  | heartbeatRepository
  | heartbeatIngestor
  | authenticatedHeartbeatAdapter
  | heartbeatHttpAdapter
  | healthEngine
  | telegramSender
  | notificationCoordinator
  | monitoringCycle
  | sentinelRuntime
  | sentinelApplication
  deriving DecidableEq

inductive ProcessCall (Handler : Type)
  | loadCentralSettings
  | getsignal (signal : StopSignal)
  /-- `signal.signal` with the handler of the process; the one before is kept. -/
  | installHandler (signal : StopSignal) (previous : Handler)
  | restoreHandler (signal : StopSignal) (previous : Handler)
  | sqliteConnect (path : PyStr)
  | initializeSchema
  | construct (component : Component)
  | createHeartbeatHttpServer (host : PyStr) (port : Int)
  | runForever
  | serverClose
  | connectionClose
  deriving DecidableEq

abbrev ProcessLog (Handler : Type) := List (Attempted (ProcessCall Handler) Raised)

/-- A loop that comes to an end: it is stopped, or it raises. -/
structure FinishedLoop (runtime : SentinelRuntime) (collaborators : RuntimeCollaborators) where
  boundaries : Nat
  finished : (runForever runtime collaborators boundaries none []).1 = .ok () ->
    LoopStopped (runForever runtime collaborators boundaries none []).2

/-- A signal that is there at the start ends the loop on its first boundary. -/
def FinishedLoop.atOnce (runtime : SentinelRuntime) (collaborators : RuntimeCollaborators)
    {signals : Signals} (arrived : 0 < signals []) :
    FinishedLoop runtime (collaborators.stoppedBy signals) where
  boundaries := 1
  finished := by
    have requested : (stopRequestAt signals []).call = true :=
      (stopRequestAt_call signals []).mpr ⟨[], List.prefix_refl [], arrived⟩
    have stopped : runForever runtime (collaborators.stoppedBy signals) 1 none [] =
        (.ok (), [.stopCheck true]) := by
      have asked : ask (collaborators.stoppedBy signals).stop .stopCheck [] =
          (.ok true, [.stopCheck true]) := by
        rw [<- requested]
        rfl
      rw [runForever, Program.bind_returned asked]
      rfl
    intro _
    rw [stopped]
    exact ⟨[], rfl⟩

/-- What a process finds. -/
structure Platform (Handler : Type) where
  interpreter : Settings.Interpreter
  environment : EnvironmentMapping
  /-- The handlers of the stop signals before the process. -/
  handlers : StopSignal -> Handler
  onStopSignal : Handler
  /-- The exception a call ends with, if something outside makes it fail. -/
  fails : ProcessLog Handler -> ProcessCall Handler -> Option Raised
  database : PyStr -> Sqlite.Catalogue
  faults : Sqlite.Faults
  collaborators : RuntimeCollaborators
  signals : Signals
  loop : (runtime : SentinelRuntime) -> FinishedLoop runtime (collaborators.stoppedBy signals)

/-- What the calls work on. -/
structure Resources where
  connection : Sqlite.Connection
  runtimeLog : RuntimeLog

abbrev ProcessWorld (Handler : Type) := Logged (ProcessCall Handler) Raised Resources

abbrev ProcessProgram (Handler α : Type) := Program Raised (ProcessWorld Handler) α

section

variable {Handler : Type} (platform : Platform Handler)

def performCall {α : Type} (call : ProcessCall Handler) (own : Program Raised Resources α) :
    ProcessProgram Handler α :=
  Program.perform platform.fails call own

/-- A schema initialization of the open connection. -/
def ownInitializeSchema : Program Raised Resources Unit :=
  Program.zoom Resources.connection (fun connection resources => { resources with connection })
    (initializeSchema platform.faults)

def connectionClose : ProcessProgram Handler Unit :=
  performCall platform .connectionClose (pure ())

def serverClose : ProcessProgram Handler Unit :=
  performCall platform .serverClose (pure ())

def connect (path : PyStr) : ProcessProgram Handler Unit := do
  performCall platform (.sqliteConnect path) (Program.update fun resources =>
    { resources with connection := Sqlite.Connection.opened (platform.database path) })
  Program.undoing (performCall platform .initializeSchema (ownInitializeSchema platform))
    (connectionClose platform)

/-- A constructor that keeps its arguments. -/
def construct (component : Component) : ProcessProgram Handler Unit :=
  performCall platform (.construct component) (pure ())

def SentinelRuntime.make (fields : SentinelRuntimeFields) : Fallible SentinelRuntime :=
  match accepted : fields.postInit with
  | .ok () => .ok { fields with accepted }
  | .error e => .error e

def constructRuntime (settings : CentralSettings) : ProcessProgram Handler SentinelRuntime :=
  performCall platform (.construct .sentinelRuntime) (Program.lift (SentinelRuntime.make {
    monitorIntervalSeconds := .float settings.monitorIntervalSeconds
    pollIntervalSeconds := .float settings.pollIntervalSeconds }))

/-- `_close_rolling_back`. -/
def closeRollingBack (close : ProcessProgram Handler Unit) : ProcessProgram Handler Unit :=
  Program.attempt close

/-- The constructions over the bound listener. -/
def composeRuntime (settings : CentralSettings) : ProcessProgram Handler SentinelRuntime := do
  construct platform .healthEngine
  construct platform .telegramSender
  construct platform .notificationCoordinator
  construct platform .monitoringCycle
  let runtime ← constructRuntime platform settings
  construct platform .sentinelApplication
  pure runtime

/-- The constructions over the open connection. -/
def composeListener (settings : CentralSettings) : ProcessProgram Handler SentinelRuntime := do
  performCall platform (.construct .heartbeatRepository) (ownInitializeSchema platform)
  construct platform .heartbeatIngestor
  construct platform .authenticatedHeartbeatAdapter
  construct platform .heartbeatHttpAdapter
  performCall platform (.createHeartbeatHttpServer settings.listenHost settings.listenPort) (pure ())
  Program.undoing (composeRuntime platform settings) (closeRollingBack (serverClose platform))

/-- The application, of which only the runtime is looked at later. -/
def buildApplication (settings : CentralSettings) : ProcessProgram Handler SentinelRuntime := do
  connect platform settings.databasePath
  Program.undoing (composeListener platform settings) (closeRollingBack (connectionClose platform))

/-! ## The application in use -/

/-- `SentinelApplication.close`. -/
def closeApplication : ProcessProgram Handler Unit :=
  Program.ensuring (serverClose platform) (connectionClose platform)

/-- `SentinelApplication.run_forever` with the stop request of the process. -/
def runLoop (runtime : SentinelRuntime) : ProcessProgram Handler Unit :=
  performCall platform .runForever (Program.zoom Resources.runtimeLog
    (fun runtimeLog resources => { resources with runtimeLog })
    (runForever runtime (platform.collaborators.stoppedBy platform.signals)
      (platform.loop runtime).boundaries none))

/-- `with build_application(settings) as application: application.run_forever(..)`. -/
def runApplication (settings : CentralSettings) : ProcessProgram Handler Unit := do
  let runtime ← buildApplication platform settings
  Program.ensuring (runLoop platform runtime) (closeApplication platform)

end

variable {Handler : Type}

def ProcessCall.release : ProcessCall Handler -> Option (ProcessCall Handler)
  | .installHandler signal previous => some (.restoreHandler signal previous)
  | .sqliteConnect _ => some .connectionClose
  | .createHeartbeatHttpServer _ _ => some .serverClose
  | _ => none

def ProcessCall.isClose : ProcessCall Handler -> Bool
  | .serverClose => true
  | .connectionClose => true
  | _ => false

/-- Only behind the schema and behind the loop does a failure to close escape in
the place of another one. -/
def ProcessCall.surfaces : ProcessCall Handler -> ProcessCall Handler -> Bool
  | .initializeSchema, release => release.isClose
  | .runForever, release => release.isClose
  | _, _ => false

def discipline (Handler : Type) : Discipline (ProcessCall Handler) where
  release := ProcessCall.release
  surfaces := ProcessCall.surfaces

def connectCalls (settings : CentralSettings) : List (ProcessCall Handler) :=
  [.sqliteConnect settings.databasePath, .initializeSchema]

def listenerCalls (settings : CentralSettings) : List (ProcessCall Handler) :=
  [.construct .heartbeatRepository, .construct .heartbeatIngestor,
    .construct .authenticatedHeartbeatAdapter, .construct .heartbeatHttpAdapter,
    .createHeartbeatHttpServer settings.listenHost settings.listenPort]

def runtimeCalls : List (ProcessCall Handler) :=
  [.construct .healthEngine, .construct .telegramSender, .construct .notificationCoordinator,
    .construct .monitoringCycle, .construct .sentinelRuntime, .construct .sentinelApplication]

/-- The calls of `build_application`, in order. -/
def buildCalls (settings : CentralSettings) : List (ProcessCall Handler) :=
  connectCalls settings ++ (listenerCalls settings ++ runtimeCalls)

section

variable {platform : Platform Handler} {start : List (ProcessCall Handler)}

/-- Calls whose value is not looked at. -/
abbrev Performs (start calls : List (ProcessCall Handler)) {α : Type}
    (program : ProcessProgram Handler α) : Prop :=
  Program.Does (discipline Handler) start calls (fun _ => True) program

theorem performs {α : Type} (call : ProcessCall Handler) (own : Program Raised Resources α) :
    Performs start [call] (performCall platform call own) :=
  Program.Does.perform platform.fails call fun _ _ _ _ => trivial

theorem composeRuntime_performs (settings : CentralSettings) :
    Performs start runtimeCalls (composeRuntime platform settings) := by
  have silent (component : Component) :
      (discipline Handler).releases [.construct component] = [] := rfl
  refine .bind (performs (.construct .healthEngine) _) (fun _ _ => ?_) (silent _)
  refine .bind (performs (.construct .telegramSender) _) (fun _ _ => ?_) (silent _)
  refine .bind (performs (.construct .notificationCoordinator) _) (fun _ _ => ?_) (silent _)
  refine .bind (performs (.construct .monitoringCycle) _) (fun _ _ => ?_) (silent _)
  refine .bind (performs (.construct .sentinelRuntime) _) (fun _ _ => ?_) (silent _)
  exact .bind (performs (.construct .sentinelApplication) _) (fun _ _ => .pure trivial) (silent _)

/-- A failure of the schema is followed by one close, whose failure is heard. -/
theorem connect_performs (settings : CentralSettings) :
    Performs start (connectCalls settings) (connect platform settings.databasePath) := by
  refine .bracket ProcessCall.isClose (performs (.sqliteConnect settings.databasePath) _)
    (fun _ _ => performs .initializeSchema _) (fun _ _ _ => ?_) ?_
  · exact Program.Releases.perform platform.fails .connectionClose (pure ()) rfl
  · intro reached member release _
    rw [List.mem_singleton.mp member]
    rfl

/-- No failure behind these constructions is heard. -/
theorem surfaces_of_constructing (settings : CentralSettings) (reached : ProcessCall Handler)
    (member : reached ∈ listenerCalls settings ++ runtimeCalls) (release : ProcessCall Handler) :
    (discipline Handler).surfaces reached release = false := by
  simp only [listenerCalls, runtimeCalls, List.cons_append, List.nil_append, List.mem_cons,
    List.not_mem_nil, or_false] at member
  rcases member with rfl | rfl | rfl | rfl | rfl | rfl | rfl | rfl | rfl | rfl | rfl <;> rfl

theorem closeRollingBack_releases {call : ProcessCall Handler} {own : Program Raised Resources Unit}
    (e : Raised) : Program.Releases (fun _ => false) [call] (some e)
      (closeRollingBack (performCall platform call own)) :=
  Program.Releases.attempt platform.fails call own e

theorem composeListener_performs (settings : CentralSettings) :
    Performs start (listenerCalls settings ++ runtimeCalls) (composeListener platform settings) := by
  have silent (component : Component) :
      (discipline Handler).releases [.construct component] = [] := rfl
  simp only [listenerCalls, List.cons_append, List.nil_append]
  refine .bind (performs (.construct .heartbeatRepository) _) (fun _ _ => ?_) (silent _)
  refine .bind (performs (.construct .heartbeatIngestor) _) (fun _ _ => ?_) (silent _)
  refine .bind (performs (.construct .authenticatedHeartbeatAdapter) _) (fun _ _ => ?_) (silent _)
  refine .bind (performs (.construct .heartbeatHttpAdapter) _) (fun _ _ => ?_) (silent _)
  refine .bracket (fun _ => false)
    (performs (.createHeartbeatHttpServer settings.listenHost settings.listenPort) _)
    (fun _ _ => composeRuntime_performs settings) (fun _ _ => closeRollingBack_releases) ?_
  intro reached member release _
  exact surfaces_of_constructing settings reached (List.mem_append_right _ member) release

theorem buildApplication_performs (settings : CentralSettings) :
    Performs start (buildCalls settings) (buildApplication platform settings) :=
  .bracket (fun _ => false) (connect_performs settings)
    (fun _ _ => composeListener_performs settings) (fun _ _ => closeRollingBack_releases)
    fun reached member release _ => surfaces_of_constructing settings reached member release

/-- Both resources are closed, the listener first, whatever escapes. -/
theorem closeApplication_releases (pending : Option Raised) :
    Program.Releases ProcessCall.isClose [.serverClose, .connectionClose] pending
      (closeApplication platform) := by
  have server : Program.Releases ProcessCall.isClose [.serverClose] pending (serverClose platform) :=
    Program.Releases.perform platform.fails .serverClose (pure ()) rfl
  apply server.ensuring
  intro later
  exact Program.Releases.perform platform.fails .connectionClose (pure ()) rfl

theorem runApplication_ends (settings : CentralSettings) :
    Program.Ends (discipline Handler) start (buildCalls settings ++ [.runForever])
      (runApplication platform settings) := by
  refine Program.Ends.settling ProcessCall.isClose (buildApplication_performs settings)
    (fun runtime _ => ?_) (fun _ _ e => closeApplication_releases (some e))
    (fun _ _ => closeApplication_releases none) ?_
  · exact Program.Ends.perform platform.fails .runForever _
  · intro reached member release _
    rw [List.mem_singleton.mp member]
    rfl

end

end Central
end HermesSentinel
