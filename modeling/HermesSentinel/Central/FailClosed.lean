import HermesSentinel.Central.Process
import HermesSentinel.Heartbeat.Bootstrap

namespace HermesSentinel
namespace Central

open Python
open Domain
open Foundation
open Heartbeat
open Settings
open Sqlite

/-!
# A startup that fails closed

The process serves nothing on a database that the bootstrap refuses.  What the
bootstrap has made of the database holds of the open connection until the
process ends, whatever is called in between.
-/

/-- What the bootstrap promises of the connection it was run on. -/
structure Ready (database : Catalogue) (connection : Sqlite.Connection) : Prop where
  accepted : ¬ Refused database
  conforming : ¬ Misplaced database -> ¬ Extended database ->
    Conforming connection.database ∧
      forall faults, initializeSchema faults connection = (.ok (), connection)
  canonical : ¬ Misplaced database -> ¬ Disguised database -> Canonical connection.database

/-- A database whose bootstrap returned was not refused. -/
theorem accepted_of_returned {faults : Faults} {database : Catalogue} {connection : Sqlite.Connection}
    (returned : initializeSchema faults (Sqlite.Connection.opened database) = (.ok (), connection)) :
    ¬ Refused database := by
  have ended := initializeSchema_ended faults database
  rw [returned] at ended
  intro refused
  rcases (refused_iff database).mp refused with unvetted | ⟨older, unbuildable⟩
  · cases ended with
    | stamped vetted _ => exact unvetted vetted
    | written vetted _ _ _ _ => exact unvetted vetted
  · cases ended with
    | stamped _ version => exact absurd version (ne_of_lt older)
    | written vetted _ _ made _ =>
        have build := build_vetted vetted
        rw [made] at build
        exact build.buildable unbuildable

theorem Ready.of_returned {faults : Faults} {database : Catalogue} {connection : Sqlite.Connection}
    (returned : initializeSchema faults (Sqlite.Connection.opened database) = (.ok (), connection)) :
    Ready database connection where
  accepted := accepted_of_returned returned
  conforming := by
    intro placed listed
    rcases conforming_of_returned placed listed returned with ⟨conforming, _, _, _, again⟩
    exact ⟨conforming, again⟩
  canonical := by
    intro placed plain
    rcases conforming_of_returned placed (mt disguised_of_extended plain) returned with
      ⟨conforming, _, _, kept, _⟩
    exact conforming.canonical (kept plain)

/-- The bootstrap is run once more by the repository and changes nothing. -/
theorem Ready.again {database : Catalogue} {connection : Sqlite.Connection}
    (ready : Ready database connection) (faults : Faults) :
    Ready database (initializeSchema faults connection).2 where
  accepted := ready.accepted
  conforming := by
    intro placed listed
    have conforming := ready.conforming placed listed
    rw [conforming.2 faults]
    exact conforming
  canonical := by
    intro placed plain
    rw [(ready.conforming placed (mt disguised_of_extended plain)).2 faults]
    exact ready.canonical placed plain

section

variable {Handler : Type} {platform : Platform Handler}

/-- The calls with which the process serves. -/
def ProcessCall.serves : ProcessCall Handler -> Bool
  | .createHeartbeatHttpServer _ _ => true
  | .runForever => true
  | _ => false

def Idle (w : ProcessWorld Handler) : Prop :=
  forall attempted, attempted ∈ w.log -> attempted.call.serves = false

def OnReady (database : Catalogue) (w : ProcessWorld Handler) : Prop :=
  Ready database w.rest.connection

/-- The process has not served yet, or it is on a connection that is ready. -/
def Closed (database : Catalogue) (w : ProcessWorld Handler) : Prop :=
  Idle w ∨ OnReady database w

/-- Calls that neither serve nor touch the connection keep it. -/
def Steady (holds : ProcessWorld Handler -> Prop) : Prop :=
  forall w call failure rest, call.serves = false -> rest.connection = w.rest.connection ->
    holds w -> holds ⟨w.log ++ [⟨call, failure⟩], rest⟩

theorem Idle.concat {w : ProcessWorld Handler} (idle : Idle w) {call : ProcessCall Handler}
    (silent : call.serves = false) (failure : Option Raised) (rest : Resources) :
    Idle ⟨w.log ++ [⟨call, failure⟩], rest⟩ := by
  intro attempted member
  rcases List.mem_append.mp member with earlier | newest
  · exact idle attempted earlier
  · rw [List.mem_singleton.mp newest]
    exact silent

theorem idle_steady : Steady (@Idle Handler) :=
  fun _ _ failure rest silent _ idle => idle.concat silent failure rest

theorem onReady_same {database : Catalogue} {w : ProcessWorld Handler} (ready : OnReady database w)
    {log : ProcessLog Handler} {rest : Resources}
    (same : rest.connection = w.rest.connection) : OnReady database ⟨log, rest⟩ := by
  unfold OnReady
  rw [same]
  exact ready

theorem closed_steady (database : Catalogue) : Steady (@Closed Handler database) := by
  intro w call failure rest silent same closed
  rcases closed with idle | ready
  · exact .inl (idle_steady w call failure rest silent same idle)
  · exact .inr (onReady_same ready same)

section

variable {holds : ProcessWorld Handler -> Prop}

abbrev Keeps (holds : ProcessWorld Handler -> Prop) {α : Type} (program : ProcessProgram Handler α) :
    Prop :=
  Program.Spec holds program (fun _ => holds) (fun _ => holds)

/-- A call that does nothing by itself. -/
theorem Steady.call (steady : Steady holds) {call : ProcessCall Handler}
    (silent : call.serves = false) : Keeps holds (performCall platform call (pure ())) := by
  apply Program.perform_spec
  case returns =>
    intro w _ rest before ended
    cases ended
    exact steady w call none _ silent rfl before
  case raises =>
    intro w e rest before reason
    rcases reason with rfl | ended
    · exact steady w call (some e) _ silent rfl before
    · cases ended

theorem Steady.restoreEach (steady : Steady holds) (installed : List (StopSignal × Handler))
    (failure : Option Raised) : Keeps holds (restoreEach platform installed failure) := by
  induction installed generalizing failure with
  | nil => exact .pure fun _ before => before
  | cons newest rest inductionHypothesis =>
      have restored : Keeps holds
          (Program.caught (restoreHandler platform newest.1 newest.2)) :=
        Program.Spec.caught (steady.call rfl)
      refine .bind restored fun ended => ?_
      cases ended with
      | ok _ => exact inductionHypothesis failure
      | error e => exact inductionHypothesis (failure.or (some e))

theorem Steady.restoreStopHandlers (steady : Steady holds)
    (installed : List (StopSignal × Handler)) (swallowFailures : Bool) :
    Keeps holds (restoreStopHandlers platform installed swallowFailures) := by
  refine .bind (steady.restoreEach installed.reverse none) fun left => ?_
  cases left with
  | none => exact .pure fun _ before => before
  | some e =>
      cases swallowFailures with
      | true => exact .pure fun _ before => before
      | false => exact .interrupt fun _ before => before

theorem Steady.installEach (steady : Steady holds) (signals : List StopSignal) :
    forall installed, Keeps holds (installEach platform installed signals) := by
  induction signals with
  | nil =>
      intro installed
      exact .pure fun _ before => before
  | cons signal rest inductionHypothesis =>
      intro installed
      have captured : Keeps holds (getsignal platform signal) :=
        .bind (steady.call rfl) fun _ => .bind (.read fun _ before => before) fun _ =>
          .pure fun _ before => before
      have changed : Keeps holds (Program.caught do
          let previous ← getsignal platform signal
          installHandler platform signal previous
          pure previous) := by
        apply Program.Spec.caught
        exact .bind captured fun previous => .bind (steady.call rfl) fun _ =>
          .pure fun _ before => before
      refine .bind changed fun ended => ?_
      cases ended with
      | ok previous => exact inductionHypothesis _
      | error e => exact .pure fun _ before => before

theorem Steady.installStopHandlers (steady : Steady holds) :
    Keeps holds (installStopHandlers platform) := by
  refine .bind (steady.installEach stopSignals []) fun left => ?_
  rcases left with ⟨installed, failure⟩
  cases failure with
  | none => exact .pure fun _ before => before
  | some e =>
      exact .bind (steady.restoreStopHandlers installed true) fun _ =>
        .interrupt fun _ before => before

end

/-! ## The database of a process -/

section

variable {settings : CentralSettings}

theorem ownInitializeSchema_eq {resources rest : Resources} {outcome : Fallible Unit}
    (run : ownInitializeSchema platform resources = (outcome, rest)) :
    initializeSchema platform.faults resources.connection = (outcome, rest.connection) := by
  cases run
  rfl

/-- A call that leaves the connection alone keeps what is behind it. -/
theorem ready_perform {α : Type} {database : Catalogue} {call : ProcessCall Handler}
    {own : Program Raised Resources α}
    (frame : forall resources, (own resources).2.connection = resources.connection) :
    Keeps (OnReady database) (performCall platform call own) := by
  apply Program.perform_spec
  case returns =>
    intro w _ rest ready ended
    have same := frame w.rest
    rw [ended] at same
    exact onReady_same ready same
  case raises =>
    intro w e rest ready reason
    rcases reason with rfl | ended
    · exact ready
    · have same := frame w.rest
      rw [ended] at same
      exact onReady_same ready same

/-- The connection is open on the database, and ready once `connect` returns. -/
theorem connect_ready (path : PyStr) :
    Program.Spec Idle (connect platform path)
      (fun _ => OnReady (platform.database path)) (fun _ => Idle) := by
  have opened : Program.Spec Idle
      (performCall platform (.sqliteConnect path) (Program.update fun resources =>
        { resources with connection := Sqlite.Connection.opened (platform.database path) }))
      (fun _ w => Idle w ∧ w.rest.connection = Sqlite.Connection.opened (platform.database path))
      (fun _ => Idle) := by
    apply Program.perform_spec
    case returns =>
      intro w _ rest idle ended
      cases ended
      exact ⟨idle.concat rfl none _, rfl⟩
    case raises =>
      intro w e rest idle _
      exact idle.concat rfl (some e) rest
  refine opened.bind fun _ => ?_
  have bootstrapped : Program.Spec
      (fun w => Idle w ∧ w.rest.connection = Sqlite.Connection.opened (platform.database path))
      (performCall platform .initializeSchema (ownInitializeSchema platform))
      (fun _ => OnReady (platform.database path)) (fun _ => Idle) := by
    apply Program.perform_spec
    case returns =>
      intro w _ rest before ended
      have run := ownInitializeSchema_eq ended
      rw [before.2] at run
      exact Ready.of_returned run
    case raises =>
      intro w e rest before _
      exact before.1.concat rfl (some e) rest
  exact bootstrapped.undoing fun _ => idle_steady.call rfl

/-- The bootstrap of the repository finds everything done. -/
theorem repository_ready (database : Catalogue) :
    Keeps (OnReady database)
      (performCall platform (.construct .heartbeatRepository) (ownInitializeSchema platform)) := by
  apply Program.perform_spec
  case returns =>
    intro w _ rest ready ended
    have again := Ready.again ready platform.faults
    rw [ownInitializeSchema_eq ended] at again
    exact again
  case raises =>
    intro w e rest ready reason
    rcases reason with rfl | ended
    · exact ready
    · have again := Ready.again ready platform.faults
      rw [ownInitializeSchema_eq ended] at again
      exact again

theorem composeRuntime_ready (database : Catalogue) (settings : CentralSettings) :
    Keeps (OnReady database) (composeRuntime platform settings) := by
  have silent (component : Component) : Keeps (OnReady database) (construct platform component) :=
    ready_perform fun _ => rfl
  refine .bind (silent _) fun _ => .bind (silent _) fun _ => .bind (silent _) fun _ =>
    .bind (silent _) fun _ => ?_
  exact .bind (ready_perform fun _ => rfl) fun _ => .bind (silent _) fun _ => .pure fun _ ready => ready

theorem composeListener_ready (database : Catalogue) (settings : CentralSettings) :
    Keeps (OnReady database) (composeListener platform settings) := by
  have silent (component : Component) : Keeps (OnReady database) (construct platform component) :=
    ready_perform fun _ => rfl
  refine .bind (repository_ready database) fun _ => .bind (silent _) fun _ =>
    .bind (silent _) fun _ => .bind (silent _) fun _ => .bind (ready_perform fun _ => rfl) fun _ => ?_
  exact (composeRuntime_ready database settings).undoing fun _ =>
    .attempt (ready_perform fun _ => rfl)

theorem buildApplication_ready (settings : CentralSettings) :
    Program.Spec Idle (buildApplication platform settings)
      (fun _ => OnReady (platform.database settings.databasePath))
      (fun _ => Closed (platform.database settings.databasePath)) := by
  have connected := @connect_ready Handler platform settings.databasePath
  refine .bind (connected.mono (fun _ idle => idle) (fun _ _ ready => ready)
    fun _ _ idle => .inl idle) fun _ => ?_
  have composed := @composeListener_ready Handler platform
    (platform.database settings.databasePath) settings
  apply composed.undoing
  intro e
  have closed : Keeps (OnReady (platform.database settings.databasePath))
      (closeRollingBack (connectionClose platform)) :=
    .attempt (ready_perform fun _ => rfl)
  exact closed.mono (fun _ ready => ready) (fun _ _ ready => .inr ready) fun _ _ ready => .inr ready

theorem runApplication_closed (settings : CentralSettings) :
    Program.Spec Idle (runApplication platform settings)
      (fun _ => Closed (platform.database settings.databasePath))
      (fun _ => Closed (platform.database settings.databasePath)) := by
  refine .bind (buildApplication_ready settings) fun runtime => ?_
  have looped : Keeps (OnReady (platform.database settings.databasePath))
      (runLoop platform runtime) := ready_perform fun _ => rfl
  have closing : Keeps (OnReady (platform.database settings.databasePath))
      (closeApplication platform) :=
    .ensuring (ready_perform fun _ => rfl) (fun _ => ready_perform fun _ => rfl)
      fun _ => ready_perform fun _ => rfl
  have used : Keeps (OnReady (platform.database settings.databasePath))
      (Program.ensuring (runLoop platform runtime) (closeApplication platform)) :=
    looped.ensuring (fun _ => closing) fun _ => closing
  exact used.mono (fun _ ready => ready) (fun _ _ ready => .inr ready) fun _ _ ready => .inr ready

end

/-- What a process does with its database. -/
structure FailsClosed (platform : Platform Handler) (outcome : Fallible Unit)
    (w : ProcessWorld Handler) : Prop where
  /-- It listens and runs its loop only on a database that the bootstrap accepted,
  and what the bootstrap promises holds of the connection to the end. -/
  served : forall attempted, attempted ∈ w.log -> attempted.call.serves = true ->
    exists settings,
      loadCentralSettings platform.interpreter platform.environment = .ok settings ∧
        Ready (platform.database settings.databasePath) w.rest.connection
  /-- On a refused database it ends with an exception. -/
  refused : forall settings,
    loadCentralSettings platform.interpreter platform.environment = .ok settings ->
      Refused (platform.database settings.databasePath) -> outcome ≠ .ok ()

theorem runProcess_closed {settings : CentralSettings}
    (loaded : loadCentralSettings platform.interpreter platform.environment = .ok settings) :
    Program.Spec Idle (runProcess platform)
      (fun _ => Closed (platform.database settings.databasePath))
      (fun _ => Closed (platform.database settings.databasePath)) := by
  have steady := @closed_steady Handler (platform.database settings.databasePath)
  have load : Program.Spec Idle
      (performCall platform .loadCentralSettings
        (Program.lift (loadCentralSettings platform.interpreter platform.environment)))
      (fun value w => value = settings ∧ Idle w)
      (fun _ => Closed (platform.database settings.databasePath)) := by
    apply Program.perform_spec
    case returns =>
      intro w value rest idle ended
      rw [loaded] at ended
      cases ended
      exact ⟨rfl, idle.concat rfl none _⟩
    case raises =>
      intro w e rest idle _
      exact .inl (idle.concat rfl (some e) rest)
  refine load.bind fun value => .given fun same => ?_
  subst same
  have installed := @Steady.installStopHandlers Handler platform Idle idle_steady
  refine .bind (installed.mono (fun _ idle => idle) (fun _ _ idle => idle)
    fun _ _ idle => .inl idle) fun installed => ?_
  refine .bind ((runApplication_closed value).undoing fun _ => steady.restoreStopHandlers _ _)
    fun _ => ?_
  exact .bind (steady.restoreStopHandlers _ _) fun _ => .pure fun _ closed => closed

/-- Every process fails closed, whatever fails in it. -/
theorem process_fails_closed (platform : Platform Handler) (resources : Resources) :
    FailsClosed platform (runProcess platform (ProcessWorld.initial resources)).1
      (runProcess platform (ProcessWorld.initial resources)).2 := by
  have ended := runProcess_ended platform resources
  have start : Idle (ProcessWorld.initial resources : ProcessWorld Handler) := by
    intro attempted impossible
    cases impossible
  have closed (settings : CentralSettings)
      (loaded : loadCentralSettings platform.interpreter platform.environment = .ok settings) :=
    Program.Spec.iff_final.mp (runProcess_closed loaded) _ start
  have served (attempted : Attempted (ProcessCall Handler) Raised)
      (member : attempted ∈ (runProcess platform (ProcessWorld.initial resources)).2.log)
      (serves : attempted.call.serves = true) (settings : CentralSettings)
      (loaded : loadCentralSettings platform.interpreter platform.environment = .ok settings) :
      Ready (platform.database settings.databasePath)
        (runProcess platform (ProcessWorld.initial resources)).2.rest.connection := by
    rcases closed settings loaded with idle | ready
    · have silent := idle attempted member
      rw [serves] at silent
      cases silent
    · exact ready
  constructor
  case served =>
    intro attempted member serves
    cases loaded : loadCentralSettings platform.interpreter platform.environment with
    | ok settings => exact ⟨settings, rfl, served attempted member serves settings loaded⟩
    | error e =>
        rcases refused_log loaded resources with ⟨e', _, log⟩
        rw [log] at member
        rw [List.mem_singleton.mp member] at serves
        cases serves
  case refused =>
    intro settings loaded refused returned
    rcases ended with ⟨done, reached, failure, released, run, escapes⟩
    rw [returned, Discipline.escaping, Program.failureOf, Discipline.foldl_eq_none] at escapes
    have whole := run.complete escapes.1
    rw [processCalls_loaded loaded] at whole
    cases (List.append_inj' whole rfl).2
    refine (served ⟨.runForever, failure⟩ ?_ rfl settings loaded).accepted refused
    rw [run.log]
    exact List.mem_append_right _ List.mem_cons_self

end

end Central
end HermesSentinel
