import HermesSentinel.Central.Application
import HermesSentinel.Settings.Secrecy

namespace HermesSentinel
namespace Central

open Python
open Domain
open Foundation
open Settings

/-!
# The central process

`runProcess` loads the settings, installs the handlers of the stop signals, runs
the application and restores the handlers, newest first.  The signal table is
what the successful installations and restorations have made of it.
-/

section

variable {Handler : Type} (platform : Platform Handler)

/-- `_STOP_SIGNALS`. -/
def stopSignals : List StopSignal := [.sigterm, .sigint]

def setHandler : ProcessCall Handler -> (StopSignal -> Handler) -> (StopSignal -> Handler)
  | .installHandler signal _, table => Function.update table signal platform.onStopSignal
  | .restoreHandler signal previous, table => Function.update table signal previous
  | _, table => table

def handlersAt (log : ProcessLog Handler) : StopSignal -> Handler :=
  replay (setHandler platform) platform.handlers log

def getsignal (signal : StopSignal) : ProcessProgram Handler Handler := do
  performCall platform (.getsignal signal) (pure ())
  let w ← Program.read
  pure (handlersAt platform w.log signal)

def installHandler (signal : StopSignal) (previous : Handler) : ProcessProgram Handler Unit :=
  performCall platform (.installHandler signal previous) (pure ())

def restoreHandler (signal : StopSignal) (previous : Handler) : ProcessProgram Handler Unit :=
  performCall platform (.restoreHandler signal previous) (pure ())

/-- The loop of `_restore_stop_handlers`: it goes on and leaves the first failure. -/
def restoreEach : List (StopSignal × Handler) -> Option Raised ->
    ProcessProgram Handler (Option Raised)
  | [], failure => pure failure
  | (signal, previous) :: rest, failure => do
      match ← Program.caught (restoreHandler platform signal previous) with
      | .ok () => restoreEach rest failure
      | .error e => restoreEach rest (failure.or (some e))

def restoreStopHandlers (installed : List (StopSignal × Handler)) (swallowFailures : Bool) :
    ProcessProgram Handler Unit := do
  match ← restoreEach platform installed.reverse none with
  | some e => if swallowFailures = true then pure () else Program.interrupt e
  | none => pure ()

/-- The loop of `_install_stop_handlers`: what was installed and what stopped it. -/
def installEach (installed : List (StopSignal × Handler)) : List StopSignal ->
    ProcessProgram Handler (List (StopSignal × Handler) × Option Raised)
  | [] => pure (installed, none)
  | signal :: rest => do
      let changed ← Program.caught do
        let previous ← getsignal platform signal
        installHandler platform signal previous
        pure previous
      match changed with
      | .ok previous => installEach (installed ++ [(signal, previous)]) rest
      | .error e => pure (installed, some e)

def installStopHandlers : ProcessProgram Handler (List (StopSignal × Handler)) := do
  match ← installEach platform [] stopSignals with
  | (installed, none) => pure installed
  | (installed, some e) => do
      restoreStopHandlers platform installed true
      Program.interrupt e

/-- `run_process`. -/
def runProcess : ProcessProgram Handler Unit := do
  let settings ← performCall platform .loadCentralSettings
    (Program.lift (loadCentralSettings platform.interpreter platform.environment))
  let installed ← installStopHandlers platform
  Program.undoing (runApplication platform settings) (restoreStopHandlers platform installed true)
  restoreStopHandlers platform installed false
  pure ()

end

section

variable {Handler : Type} {platform : Platform Handler}

def restoration (installed : StopSignal × Handler) : ProcessCall Handler :=
  .restoreHandler installed.1 installed.2

/-- Every restoration is attempted, and the first that fails is what is left. -/
theorem restoreEach_released (installed : List (StopSignal × Handler)) (failure : Option Raised) :
    forall log, Program.Spec (fun w => w.log = log) (restoreEach platform installed failure)
      (fun left w => Discipline.Released (fun _ => false) (installed.map restoration) failure left
        log w.log) (fun _ _ => False) := by
  induction installed generalizing failure with
  | nil =>
      intro log
      apply Program.Spec.pure
      rintro w rfl
      exact ⟨[], (List.append_nil _).symm, rfl, rfl⟩
  | cons newest rest inductionHypothesis =>
      intro log
      have restored : Program.Spec (fun w => w.log = log)
          (Program.caught (restoreHandler platform newest.1 newest.2))
          (fun ended w => w.log = log ++ [⟨restoration newest, Program.failureOf ended⟩])
          (fun _ _ => False) := by
        apply Program.Spec.caught
        unfold restoreHandler performCall
        apply Program.perform_spec
        case returns =>
          rintro w _ _ rfl _
          rfl
        case raises =>
          rintro w e _ rfl _
          rfl
      apply restored.bind
      intro ended w same
      have one := @Discipline.Released.one _ Raised (fun _ => false) (restoration newest)
        (Program.failureOf ended) failure log
      rw [<- same] at one
      cases ended with
      | ok _ =>
          exact (inductionHypothesis failure w.log).mono (fun _ holds => holds)
            (fun _ _ released => one.trans released) (fun _ _ never => never) w rfl
      | error e =>
          exact (inductionHypothesis (failure.or (some e)) w.log).mono (fun _ holds => holds)
            (fun _ _ released => one.trans released) (fun _ _ never => never) w rfl

/-- Beside an escaping failure no failure to restore is heard. -/
theorem restoreStopHandlers_swallowing (installed : List (StopSignal × Handler)) (e : Raised) :
    Program.Releases (fun _ => false) (installed.reverse.map restoration) (some e)
      (restoreStopHandlers platform installed true) := by
  intro log
  have each := @restoreEach_released Handler platform installed.reverse none log
  refine Program.Spec.bind (each.mono (fun _ same => same) (fun _ _ released => released)
    fun _ _ never => never.elim) fun left => ?_
  have swallowed : Program.Spec
      (fun w => Discipline.Released (fun _ => false) (installed.reverse.map restoration) none left
        log w.log) (pure () : ProcessProgram Handler Unit)
      (fun _ w => Discipline.Released (fun _ => false) (installed.reverse.map restoration) (some e)
        (some e) log w.log)
      (fun e' w => Discipline.Released (fun _ => false) (installed.reverse.map restoration) (some e)
        (some e') log w.log) := by
    apply Program.Spec.pure
    rintro w ⟨more, same, balanced, _⟩
    exact ⟨more, same, balanced, Discipline.foldl_quiet e more⟩
  cases left with
  | none => exact swallowed
  | some _ => exact swallowed

/-- Where nothing escapes the first failure to restore does. -/
theorem restoreStopHandlers_surfacing (installed : List (StopSignal × Handler)) :
    Program.Releases (fun _ => false) (installed.reverse.map restoration) none
      (restoreStopHandlers platform installed false) := by
  intro log
  have each := @restoreEach_released Handler platform installed.reverse none log
  refine Program.Spec.bind (each.mono (fun _ same => same) (fun _ _ released => released)
    fun _ _ never => never.elim) fun left => ?_
  cases left with
  | none => exact Program.Spec.pure fun _ released => released
  | some e => exact Program.Spec.interrupt fun _ released => released

/-! ## Installing -/

def installation (installed : StopSignal × Handler) : List (ProcessCall Handler) :=
  [.getsignal installed.1, .installHandler installed.1 installed.2]

/-- The signals with the handlers from before the process. -/
def captured (platform : Platform Handler) (signals : List StopSignal) : List (StopSignal × Handler) :=
  signals.map fun signal => (signal, platform.handlers signal)

def signalCalls (platform : Platform Handler) (signals : List StopSignal) :
    List (ProcessCall Handler) :=
  (captured platform signals).flatMap installation

/-- The signal's handler is still the one from before the process. -/
def Unchanged (platform : Platform Handler) (begun : List (ProcessCall Handler))
    (signal : StopSignal) : Prop :=
  handlersAt platform (succeeded begun) signal = platform.handlers signal

theorem Unchanged.installation {begun : List (ProcessCall Handler)} {signal other : StopSignal}
    (unchanged : Unchanged platform begun signal) (different : signal ≠ other) (previous : Handler) :
    Unchanged platform (begun ++ Central.installation (other, previous)) signal := by
  unfold Unchanged handlersAt
  rw [succeeded_append, replay_append]
  show Function.update (handlersAt platform (succeeded begun)) other platform.onStopSignal signal = _
  rw [Function.update_of_ne different]
  exact unchanged

theorem getsignal_does {begun : List (ProcessCall Handler)} {signal : StopSignal}
    (unchanged : Unchanged platform begun signal) :
    Program.Does (discipline Handler) begun [.getsignal signal]
      (fun previous => previous = platform.handlers signal) (getsignal platform signal) := by
  have performed := @performs Handler platform begun Unit (.getsignal signal) (pure ())
  apply Program.Spec.bind (performed.mono (fun _ same => same) (fun _ _ done => done.2)
    fun _ _ broken => broken)
  intro _
  have seen : Program.Spec (fun w => w.log = succeeded (begun ++ [.getsignal signal]))
      (Program.read : ProcessProgram Handler (ProcessWorld Handler))
      (fun seen w => seen = w ∧ w.log = succeeded (begun ++ [.getsignal signal]))
      (fun e w => (discipline Handler).Broken begun [.getsignal signal] e w.log) :=
    Program.Spec.read fun w same => ⟨rfl, same⟩
  refine seen.bind fun _ => ?_
  apply Program.Spec.pure
  rintro w ⟨rfl, same⟩
  refine ⟨?_, same⟩
  rw [same]
  unfold handlersAt
  rw [succeeded_append, replay_append]
  exact unchanged

/-- One pass of the installation loop: it keeps the handler it replaces. -/
theorem install_does {begun : List (ProcessCall Handler)} {signal : StopSignal}
    (unchanged : Unchanged platform begun signal) :
    Program.Does (discipline Handler) begun (installation (signal, platform.handlers signal))
      (fun previous => previous = platform.handlers signal) (do
        let previous ← getsignal platform signal
        installHandler platform signal previous
        pure previous) := by
  refine .bind (getsignal_does unchanged) (fun previous seen => ?_) rfl
  subst seen
  have installed : Program.Does (discipline Handler) (begun ++ [.getsignal signal])
      [.installHandler signal (platform.handlers signal)] (fun _ => True)
      (installHandler platform signal (platform.handlers signal)) := performs _ _
  apply Program.Spec.bind (installed.mono (fun _ same => same) (fun _ _ done => done.2)
    fun _ _ broken => broken)
  intro _
  exact Program.Spec.pure fun _ same => ⟨rfl, same⟩

/-- What breaks off one pass has not installed anything. -/
theorem broken_installation {begun : List (ProcessCall Handler)} {installed : StopSignal × Handler}
    {e : Raised} {log : ProcessLog Handler}
    (broken : (discipline Handler).Broken begun (installation installed) e log) :
    exists done reached, done ++ [reached] <+: installation installed ∧
      (discipline Handler).releases done = [] ∧
      log = succeeded (begun ++ done) ++ [⟨reached, some e⟩] := by
  rcases broken with ⟨done, reached, failure, released, run, escapes⟩
  have nothing : (discipline Handler).releases done = [] := by
    have listed := run.listed
    cases done with
    | nil => rfl
    | cons first rest =>
        have few := listed.length_le
        have empty : rest = [] := by
          simp only [installation, List.length_append, List.length_cons, List.length_nil] at few
          exact List.eq_nil_of_length_eq_zero (by omega)
        rcases listed with ⟨more, same⟩
        rw [empty] at same ⊢
        cases same
        rfl
  have noMore := run.balanced
  rw [nothing, List.map_eq_nil_iff] at noMore
  have log := run.log
  rw [noMore] at log escapes
  cases escapes
  exact ⟨done, reached, run.listed, nothing, log⟩

/-- What the installation loop leaves, after the calls `begun`: all handlers, or
those that were installed before the failure. -/
def LeftInstalled (platform : Platform Handler) (begun : List (ProcessCall Handler))
    (signals : List StopSignal) (installed : List (StopSignal × Handler)) (log : ProcessLog Handler) :
    Option Raised -> Prop
  | none => installed = captured platform signals ∧
      log = succeeded (begun ++ signalCalls platform signals)
  | some e => exists done reached, done ++ [reached] <+: signalCalls platform signals ∧
      (discipline Handler).releases done = installed.reverse.map restoration ∧
      log = succeeded (begun ++ done) ++ [⟨reached, some e⟩]

theorem LeftInstalled.cons {begun : List (ProcessCall Handler)} {signal : StopSignal}
    {signals : List StopSignal} {installed : List (StopSignal × Handler)} {log : ProcessLog Handler}
    {failure : Option Raised}
    (left : LeftInstalled platform (begun ++ installation (signal, platform.handlers signal)) signals
      installed log failure) :
    LeftInstalled platform begun (signal :: signals) ((signal, platform.handlers signal) :: installed)
      log failure := by
  have calls : signalCalls platform (signal :: signals) =
      installation (signal, platform.handlers signal) ++ signalCalls platform signals := rfl
  cases failure with
  | none =>
      rcases left with ⟨same, log⟩
      rw [List.append_assoc] at log
      exact ⟨congrArg _ same, log⟩
  | some e =>
      rcases left with ⟨done, reached, listed, balanced, log⟩
      refine ⟨installation (signal, platform.handlers signal) ++ done, reached, ?_, ?_, ?_⟩
      · rw [calls, List.append_assoc]
        exact (List.prefix_append_right_inj _).mpr listed
      · rw [Discipline.releases_append, balanced, List.reverse_cons, List.map_append]
        rfl
      · rw [log, List.append_assoc]

theorem installEach_spec (signals : List StopSignal) : forall begun earlier, signals.Nodup ->
    (forall signal, signal ∈ signals -> Unchanged platform begun signal) ->
    Program.Spec (fun w => w.log = succeeded begun) (installEach platform earlier signals)
      (fun left w => exists installed, left.1 = earlier ++ installed ∧
        LeftInstalled platform begun signals installed w.log left.2) (fun _ _ => False) := by
  induction signals with
  | nil =>
      intro begun earlier _ _
      apply Program.Spec.pure
      intro w same
      refine ⟨[], (List.append_nil _).symm, rfl, ?_⟩
      rw [same]
      exact congrArg succeeded (List.append_nil _).symm
  | cons signal rest inductionHypothesis =>
      intro begun earlier distinct unchanged
      rcases List.nodup_cons.mp distinct with ⟨new, distinctRest⟩
      have pass := install_does (unchanged signal List.mem_cons_self)
      have ended : Program.Spec (fun w => w.log = succeeded begun)
          (Program.caught do
            let previous ← getsignal platform signal
            installHandler platform signal previous
            pure previous)
          (fun ended w => match ended with
            | .ok previous => previous = platform.handlers signal ∧
                w.log = succeeded (begun ++ installation (signal, platform.handlers signal))
            | .error e => (discipline Handler).Broken begun
                (installation (signal, platform.handlers signal)) e w.log)
          (fun _ _ => False) := Program.Spec.caught pass
      refine Program.Spec.bind ended fun ended => ?_
      cases ended with
      | ok previous =>
          apply Program.Spec.given
          rintro rfl
          have later : forall other, other ∈ rest ->
              Unchanged platform (begun ++ installation (signal, platform.handlers signal)) other := by
            intro other member
            apply (unchanged other (List.mem_cons_of_mem signal member)).installation
            rintro rfl
            exact new member
          refine (inductionHypothesis _ (earlier ++ [(signal, platform.handlers signal)]) distinctRest
            later).mono (fun _ same => same) ?_ fun _ _ never => never
          rintro left w ⟨installed, same, done⟩
          refine ⟨(signal, platform.handlers signal) :: installed, ?_, done.cons⟩
          rw [same, List.append_assoc]
          rfl
      | error e =>
          apply Program.Spec.pure
          intro w broken
          rcases broken_installation broken with ⟨done, reached, listed, nothing, log⟩
          exact ⟨[], (List.append_nil _).symm, done, reached,
            listed.trans (List.prefix_append _ _), nothing, log⟩

/-- No failure behind the signals is heard. -/
theorem surfaces_of_signals (signals : List StopSignal) (reached : ProcessCall Handler)
    (member : reached ∈ signalCalls platform signals) :
    (discipline Handler).surfaces reached = fun _ => false := by
  rcases List.mem_flatMap.mp member with ⟨installed, _, call⟩
  simp only [installation, List.mem_cons, List.not_mem_nil, or_false] at call
  rcases call with rfl | rfl <;> rfl

theorem releases_signalCalls (signals : List StopSignal) :
    (discipline Handler).releases (signalCalls platform signals) =
      (captured platform signals).reverse.map restoration := by
  induction signals with
  | nil => rfl
  | cons signal rest inductionHypothesis =>
      have calls : signalCalls platform (signal :: rest) =
        installation (signal, platform.handlers signal) ++ signalCalls platform rest := rfl
      have captures : captured platform (signal :: rest) =
        (signal, platform.handlers signal) :: captured platform rest := rfl
      rw [calls, Discipline.releases_append, inductionHypothesis, captures, List.reverse_cons,
        List.map_append]
      rfl

/-- All handlers are installed, or none is left installed. -/
theorem installStopHandlers_does {begun : List (ProcessCall Handler)}
    (unchanged : forall signal, Unchanged platform begun signal) :
    Program.Does (discipline Handler) begun (signalCalls platform stopSignals)
      (fun installed => installed = captured platform stopSignals)
      (installStopHandlers platform) := by
  have each := installEach_spec stopSignals begun [] (by decide) fun signal _ => unchanged signal
  refine Program.Spec.bind (each.mono (fun _ same => same) (fun _ _ left => left)
    fun _ _ never => never.elim) fun left => ?_
  rcases left with ⟨installed, failure⟩
  cases failure with
  | none =>
      apply Program.Spec.pure
      rintro w ⟨_, rfl, same, log⟩
      exact ⟨same, log⟩
  | some e =>
      rintro w ⟨_, rfl, done, reached, listed, balanced, log⟩
      have whole (e' : Raised) (w' : ProcessWorld Handler)
          (released : Discipline.Released (fun _ => false) (installed.reverse.map restoration)
            (some e) (some e') w.log w'.log) :
          (discipline Handler).Broken begun (signalCalls platform stopSignals) e' w'.log := by
        rcases released with ⟨more, same, restored, escapes⟩
        have member : reached ∈ signalCalls platform stopSignals :=
          listed.subset (List.mem_append_right done (List.mem_singleton.mpr rfl))
        refine ⟨done, reached, e, more, ?_, ?_⟩
        · constructor
          case listed => exact listed
          case log =>
            rw [same, log, List.append_assoc]
            rfl
          case complete =>
            intro impossible
            cases impossible
          case balanced => rw [restored, balanced]
        · unfold Discipline.escaping
          rw [surfaces_of_signals stopSignals reached member, escapes]
      have restored := @restoreStopHandlers_swallowing Handler platform installed e w.log
      exact Program.Spec.bind (restored.mono (fun _ same => same) (fun _ => whole e) whole)
        (fun _ => Program.Spec.interrupt fun _ broken => broken) w rfl

/-! ## Whole processes -/

/-- The calls of a process that nothing stops. -/
def processCalls (platform : Platform Handler) : List (ProcessCall Handler) :=
  .loadCentralSettings ::
    match loadCentralSettings platform.interpreter platform.environment with
    | .ok settings => signalCalls platform stopSignals ++ (buildCalls settings ++ [.runForever])
    | .error _ => []

/-- A failure to restore a handler never takes the place of another one. -/
theorem restorations_quiet (reached : ProcessCall Handler) (signals : List StopSignal)
    (release : ProcessCall Handler)
    (member : release ∈ (discipline Handler).releases (signalCalls platform signals)) :
    (discipline Handler).surfaces reached release = false := by
  rw [releases_signalCalls] at member
  rcases List.mem_map.mp member with ⟨installed, _, rfl⟩
  cases reached <;> rfl

/-- Settings that are refused end the process with its first call. -/
theorem runProcess_refused {e : Raised}
    (refused : loadCentralSettings platform.interpreter platform.environment = .error e) :
    Program.Spec (fun w => w.log = succeeded []) (runProcess platform) (fun _ _ => False)
      (fun e w => (discipline Handler).Ended [] [.loadCentralSettings] (some e) w.log) := by
  have load : Program.Does (discipline Handler) [] [.loadCentralSettings] (fun _ => False)
      (performCall platform .loadCentralSettings
        (Program.lift (loadCentralSettings platform.interpreter platform.environment))) := by
    apply Program.Does.perform
    intro s value s' ended
    rw [refused] at ended
    cases ended
  refine Program.Spec.bind (load.mono (fun _ same => same) (fun _ _ never => never.1)
    fun _ _ broken => broken.ended) fun _ => ?_
  intro w never
  exact never.elim

theorem runProcess_ends :
    Program.Ends (discipline Handler) [] (processCalls platform) (runProcess platform) := by
  unfold processCalls
  cases loaded : loadCentralSettings platform.interpreter platform.environment with
  | error e =>
      exact (runProcess_refused loaded).mono (fun _ same => same) (fun _ _ never => never.elim)
        fun _ _ ended => ended
  | ok settings =>
      have load : Program.Does (discipline Handler) [] [.loadCentralSettings]
          (fun value => value = settings) (performCall platform .loadCentralSettings
            (Program.lift (loadCentralSettings platform.interpreter platform.environment))) := by
        apply Program.Does.perform
        intro s value s' ended
        rw [loaded] at ended
        cases ended
        rfl
      refine .bind load (fun value same => ?_) rfl
      subst same
      have fresh (signal : StopSignal) :
          Unchanged platform ([] ++ [.loadCentralSettings]) signal := rfl
      refine .settling (fun _ => false) (installStopHandlers_does fresh)
        (fun _ _ => runApplication_ends value) (fun installed same e => ?_)
        (fun installed same => ?_) ?_
      · rw [same, releases_signalCalls]
        exact restoreStopHandlers_swallowing _ e
      · rw [same, releases_signalCalls]
        exact restoreStopHandlers_surfacing _
      · intro reached _ release member
        exact restorations_quiet reached stopSignals release member

/-- A process that has not made any call. -/
def ProcessWorld.initial (resources : Resources) : ProcessWorld Handler where
  log := []
  rest := resources

/-- How every process ends. -/
structure ProcessContract (platform : Platform Handler) (outcome : Fallible Unit)
    (log : ProcessLog Handler) : Prop where
  /-- The calls are made in their order up to the first that fails, and then what
  was acquired is released, newest first and each of it once. -/
  disciplined : (discipline Handler).Ended [] (processCalls platform) (Program.failureOf outcome) log
  /-- Settings that are refused end it at once. -/
  refused : forall e, loadCentralSettings platform.interpreter platform.environment = .error e ->
    exists e', outcome = .error e' ∧ log = [⟨.loadCentralSettings, some e'⟩]
  /-- The process returns if and only if no call has failed. -/
  returns : outcome = .ok () ↔ forall attempted, attempted ∈ log -> attempted.failure = none
  /-- What escapes from it was raised by a call. -/
  raised : forall e, outcome = .error e ->
    exists attempted, attempted ∈ log ∧ attempted.failure = some e
  /-- A failure of the startup is what escapes, whatever fails in its cleanup; only
  the schema's can be replaced, by a failure to close the connection. -/
  startup : forall before call e after, log = succeeded before ++ ⟨call, some e⟩ :: after ->
    call ∈ processCalls platform -> call ≠ .initializeSchema -> call ≠ .runForever ->
      outcome = .error e
  /-- The loop runs when everything is there, and both resources are closed and both
  handlers restored behind it. -/
  loop : forall failure, ⟨.runForever, failure⟩ ∈ log ->
    log.map Attempted.call = processCalls platform ++ [.serverClose, .connectionClose,
      .restoreHandler .sigint (platform.handlers .sigint),
      .restoreHandler .sigterm (platform.handlers .sigterm)]
  /-- Where no restoration fails the signal table is the one from before. -/
  handlers : (forall attempted signal previous, attempted ∈ log ->
    attempted.call = .restoreHandler signal previous -> attempted.failure = none) ->
      handlersAt platform log = platform.handlers

/-! ## The calls of a process -/

def ProcessCall.isRelease : ProcessCall Handler -> Bool
  | .restoreHandler _ _ => true
  | .serverClose => true
  | .connectionClose => true
  | _ => false

theorem isRelease_of_mem_releases {calls : List (ProcessCall Handler)} {call : ProcessCall Handler}
    (member : call ∈ (discipline Handler).releases calls) : call.isRelease = true := by
  rcases List.mem_filterMap.mp member with ⟨acquisition, _, release⟩
  cases acquisition <;> cases release <;> rfl

section

variable {settings : CentralSettings}

/-- What comes before the loop. -/
def startupCalls (platform : Platform Handler) (settings : CentralSettings) :
    List (ProcessCall Handler) :=
  .loadCentralSettings :: (signalCalls platform stopSignals ++ buildCalls settings)

theorem processCalls_loaded
    (loaded : loadCentralSettings platform.interpreter platform.environment = .ok settings) :
    processCalls platform = startupCalls platform settings ++ [.runForever] := by
  rw [processCalls, loaded]
  rfl

theorem startupCalls_eq : startupCalls platform settings =
    [.loadCentralSettings, .getsignal .sigterm,
      .installHandler .sigterm (platform.handlers .sigterm), .getsignal .sigint,
      .installHandler .sigint (platform.handlers .sigint),
      .sqliteConnect settings.databasePath, .initializeSchema] ++
      (listenerCalls settings ++ runtimeCalls) :=
  rfl

theorem runForever_not_mem : ProcessCall.runForever ∉ startupCalls platform settings := by
  rw [startupCalls_eq]
  simp [listenerCalls, runtimeCalls]

end

theorem isRelease_of_mem {call : ProcessCall Handler} (member : call ∈ processCalls platform) :
    call.isRelease = false := by
  cases loaded : loadCentralSettings platform.interpreter platform.environment with
  | error e =>
      rw [processCalls, loaded] at member
      rw [List.mem_singleton.mp member]
      rfl
  | ok settings =>
      rw [processCalls_loaded loaded, startupCalls_eq] at member
      simp only [listenerCalls, runtimeCalls, List.cons_append, List.nil_append, List.mem_cons,
        List.not_mem_nil, or_false] at member
      rcases member with rfl | rfl | rfl | rfl | rfl | rfl | rfl | rfl | rfl | rfl | rfl | rfl |
        rfl | rfl | rfl | rfl | rfl | rfl | rfl <;> rfl

theorem processCalls_reversible :
    Reversible (setHandler platform) (discipline Handler) platform.handlers
      (processCalls platform) := by
  cases loaded : loadCentralSettings platform.interpreter platform.environment with
  | error e =>
      rw [processCalls, loaded]
      exact ⟨rfl, trivial⟩
  | ok settings =>
      rw [processCalls_loaded loaded, startupCalls_eq]
      simp [Reversible, listenerCalls, runtimeCalls, discipline, ProcessCall.release, setHandler]

/-- Only the schema and the loop are followed by closings whose failure is heard. -/
theorem surfaces_quiet {reached : ProcessCall Handler} (schema : reached ≠ .initializeSchema)
    (loop : reached ≠ .runForever) : (discipline Handler).surfaces reached = fun _ => false := by
  cases reached with
  | initializeSchema => exact absurd rfl schema
  | runForever => exact absurd rfl loop
  | _ => rfl

/-- Nothing but a release comes after a failure. -/
theorem mem_of_failed {calls done : List (ProcessCall Handler)} {reached : ProcessCall Handler}
    {failure : Option Raised} {released log : ProcessLog Handler}
    (run : (discipline Handler).Run [] calls done reached failure released log)
    {attempted : Attempted (ProcessCall Handler) Raised} (member : attempted ∈ log)
    (other : attempted.call.isRelease = false) :
    (attempted.failure = none ∧ attempted.call ∈ done) ∨ attempted = ⟨reached, failure⟩ := by
  rw [run.log, List.nil_append] at member
  rcases List.mem_append.mp member with early | late
  · rcases List.mem_map.mp early with ⟨call, occurs, rfl⟩
    exact .inl ⟨rfl, occurs⟩
  · rcases List.mem_cons.mp late with same | cleanup
    · exact .inr same
    · have balanced := List.mem_map_of_mem (f := Attempted.call) cleanup
      rw [run.balanced] at balanced
      have release := isRelease_of_mem_releases balanced
      rw [other] at release
      cases release

section

variable {outcome : Fallible Unit} {log : ProcessLog Handler}

theorem returns_of_ended
    (ended : (discipline Handler).Ended [] (processCalls platform) (Program.failureOf outcome) log) :
    outcome = .ok () ↔ forall attempted, attempted ∈ log -> attempted.failure = none := by
  rcases ended with ⟨done, reached, failure, released, run, escapes⟩
  have quiet : outcome = .ok () ↔ Program.failureOf outcome = none := by
    cases outcome <;> simp [Program.failureOf]
  rw [quiet, <- escapes, Discipline.escaping, Discipline.foldl_eq_none, run.log]
  constructor
  · rintro ⟨reachedReturned, settled⟩ attempted member
    rcases List.mem_append.mp member with early | late
    · rcases List.mem_map.mp early with ⟨_, _, rfl⟩
      rfl
    · rcases List.mem_cons.mp late with rfl | cleanup
      · exact reachedReturned
      · exact settled attempted cleanup
  · intro settled
    refine ⟨settled ⟨reached, failure⟩ ?_, fun attempted cleanup => settled attempted ?_⟩
    · exact List.mem_append_right _ List.mem_cons_self
    · exact List.mem_append_right _ (List.mem_cons_of_mem _ cleanup)

theorem raised_of_ended {e : Raised}
    (ended : (discipline Handler).Ended [] (processCalls platform) (some e) log) :
    exists attempted, attempted ∈ log ∧ attempted.failure = some e := by
  rcases ended with ⟨done, reached, failure, released, run, escapes⟩
  rw [run.log]
  rcases Discipline.foldl_eq_some escapes with own | ⟨attempted, cleanup, raised⟩
  · exact ⟨⟨reached, failure⟩, List.mem_append_right _ List.mem_cons_self, own⟩
  · exact ⟨attempted, List.mem_append_right _ (List.mem_cons_of_mem _ cleanup), raised⟩

theorem startup_of_ended
    (ended : (discipline Handler).Ended [] (processCalls platform) (Program.failureOf outcome) log)
    {before : List (ProcessCall Handler)} {call : ProcessCall Handler} {e : Raised}
    {after : ProcessLog Handler} (shape : log = succeeded before ++ ⟨call, some e⟩ :: after)
    (listed : call ∈ processCalls platform) (schema : call ≠ .initializeSchema)
    (loop : call ≠ .runForever) : outcome = .error e := by
  rcases ended with ⟨done, reached, failure, released, run, escapes⟩
  have member : ⟨call, some e⟩ ∈ log := by
    rw [shape]
    exact List.mem_append_right _ List.mem_cons_self
  rcases mem_of_failed run member (isRelease_of_mem listed) with ⟨impossible, _⟩ | same
  · cases impossible
  · cases same
    rw [Discipline.escaping, surfaces_quiet schema loop, Discipline.foldl_quiet] at escapes
    cases outcome with
    | ok _ => cases escapes
    | error e' =>
        cases escapes
        rfl

theorem loop_of_ended
    (ended : (discipline Handler).Ended [] (processCalls platform) (Program.failureOf outcome) log)
    {failure : Option Raised} (looped : ⟨.runForever, failure⟩ ∈ log) :
    log.map Attempted.call = processCalls platform ++ [.serverClose, .connectionClose,
      .restoreHandler .sigint (platform.handlers .sigint),
      .restoreHandler .sigterm (platform.handlers .sigterm)] := by
  rcases ended with ⟨done, reached, failure', released, run, escapes⟩
  have listed := run.listed
  have occurs : ProcessCall.runForever ∈ done ++ [reached] := by
    rcases mem_of_failed run looped rfl with ⟨_, early⟩ | same
    · exact List.mem_append_left [reached] early
    · cases same
      exact List.mem_append_right done (List.mem_singleton.mpr rfl)
  cases loaded : loadCentralSettings platform.interpreter platform.environment with
  | error e =>
      rw [processCalls, loaded] at listed
      cases List.mem_singleton.mp (listed.subset occurs)
  | ok settings =>
      rw [processCalls_loaded loaded] at listed ⊢
      rcases List.prefix_concat_iff.mp listed with whole | shorter
      · cases (List.append_inj' whole rfl).2
        rw [run.log, List.map_append, List.map_cons, run.balanced, List.append_inj_left' whole rfl,
          List.nil_append, calls_succeeded, List.append_assoc]
        rfl
      · exact absurd (shorter.subset occurs) runForever_not_mem

/-- The last of the calls has no part in the signal table. -/
theorem last_idle {done : List (ProcessCall Handler)} {reached : ProcessCall Handler}
    (whole : processCalls platform = done ++ [reached]) (table : StopSignal -> Handler) :
    setHandler platform reached table = table := by
  cases loaded : loadCentralSettings platform.interpreter platform.environment with
  | error e =>
      rw [processCalls, loaded] at whole
      have only : [] ++ [ProcessCall.loadCentralSettings] = done ++ [reached] := whole
      cases (List.append_inj' only rfl).2
      rfl
  | ok settings =>
      rw [processCalls_loaded loaded] at whole
      cases (List.append_inj' whole rfl).2
      rfl

end

theorem runProcess_ended (platform : Platform Handler) (resources : Resources) :
    (discipline Handler).Ended [] (processCalls platform)
      (Program.failureOf (runProcess platform (ProcessWorld.initial resources)).1)
      (runProcess platform (ProcessWorld.initial resources)).2.log := by
  have ended := @runProcess_ends Handler platform (ProcessWorld.initial resources) rfl
  rcases run : runProcess platform (ProcessWorld.initial resources) with ⟨e | _, w⟩
  · rw [run] at ended
    exact ended
  · rw [run] at ended
    exact ended

/-- Refused settings are the only call and what escapes is its failure. -/
theorem refused_log {e : Raised}
    (refused : loadCentralSettings platform.interpreter platform.environment = .error e)
    (resources : Resources) :
    exists e', (runProcess platform (ProcessWorld.initial resources)).1 = .error e' ∧
      (runProcess platform (ProcessWorld.initial resources)).2.log =
        [⟨.loadCentralSettings, some e'⟩] := by
  have stopped := runProcess_refused refused (ProcessWorld.initial resources) rfl
  rcases run : runProcess platform (ProcessWorld.initial resources) with ⟨e' | _, w⟩
  · rw [run] at stopped
    refine ⟨e', rfl, ?_⟩
    rcases stopped with ⟨done, reached, failure, released, ended, escapes⟩
    have few := ended.listed.length_le
    have nothing : done = [] := by
      rw [List.length_append, List.length_singleton, List.length_singleton] at few
      exact List.eq_nil_of_length_eq_zero (by omega)
    subst nothing
    have noMore := List.map_eq_nil_iff.mp ended.balanced
    have listed : [reached] <+: [] ++ [ProcessCall.loadCentralSettings] := ended.listed
    have log := ended.log
    rw [noMore] at log escapes
    cases escapes
    rcases List.prefix_concat_iff.mp listed with same | impossible
    · cases same
      exact log
    · exact absurd (List.prefix_nil.mp impossible) (List.cons_ne_nil _ _)
  · rw [run] at stopped
    exact stopped.elim

/-- However its calls fail, a process makes them in their order, releases what it
has acquired and reports the first failure of its startup. -/
theorem process_is_disciplined (platform : Platform Handler) (resources : Resources) :
    ProcessContract platform (runProcess platform (ProcessWorld.initial resources)).1
      (runProcess platform (ProcessWorld.initial resources)).2.log := by
  have ended := runProcess_ended platform resources
  constructor
  case disciplined => exact ended
  case refused =>
    intro e refused
    exact refused_log refused resources
  case returns => exact returns_of_ended ended
  case raised =>
    intro e raised
    rw [raised] at ended
    exact raised_of_ended ended
  case startup =>
    intro before call e after shape listed schema loop
    exact startup_of_ended ended shape listed schema loop
  case loop =>
    intro failure looped
    exact loop_of_ended ended looped
  case handlers =>
    intro settled
    rcases ended with ⟨done, reached, failure, released, run, escapes⟩
    apply run.undone processCalls_reversible
    · intro completed table
      exact last_idle (run.complete completed) table
    · intro attempted cleanup
      have member : attempted ∈ (runProcess platform (ProcessWorld.initial resources)).2.log := by
        rw [run.log]
        exact List.mem_append_right _ (List.mem_cons_of_mem _ cleanup)
      have balanced := List.mem_map_of_mem (f := Attempted.call) cleanup
      rw [run.balanced] at balanced
      have release := isRelease_of_mem_releases balanced
      cases call : attempted.call with
      | restoreHandler signal previous => exact .inl (settled attempted signal previous member call)
      | serverClose => exact .inr fun _ => rfl
      | connectionClose => exact .inr fun _ => rfl
      | _ =>
          rw [call] at release
          cases release

end

def newDatabase : Sqlite.Catalogue where
  userVersion := 0
  tables := []
  indexes := []
  namesDistinct := List.nodup_nil
  indexed := nofun

def signalAtStart : Signals := fun log =>
  if log = [] then 1 else 0

theorem signalAtStart_arrived : 0 < signalAtStart [] := by
  decide

/-- Its loop is stopped on the first boundary; opening the listener fails as given. -/
def onePlatform (listening : Option Raised) : Platform Unit where
  interpreter := standardInterpreter
  environment := .ofSnapshot (serviceVariables (text "prod") (text "secret") (text "1:a"))
  handlers := fun _ => ()
  onStopSignal := ()
  fails := fun _ call =>
    if call = .createHeartbeatHttpServer (text "127.0.0.1") 8080 then listening else none
  database := fun _ => newDatabase
  faults := fun _ => none
  collaborators := idleCollaborators
  signals := signalAtStart
  loop := fun runtime => .atOnce runtime idleCollaborators signalAtStart_arrived

/-- What the calls of this process work on, before it opens its database. -/
def unopened : Resources where
  connection := Sqlite.Connection.opened newDatabase
  runtimeLog := []

/-- Where the listener opens, the process ends without an exception. -/
example : (runProcess (onePlatform none) (ProcessWorld.initial unopened)).1 = .ok () := by
  decide +kernel

/-- Where it does not, the database is closed again. -/
example :
    let occupied : Raised := { kind := .osError, message := "Address already in use" }
    let ended := runProcess (onePlatform (some occupied)) (ProcessWorld.initial unopened)
    ended.1 = .error occupied ∧ (ended.2.log.drop 12).map Attempted.call =
      [.connectionClose, .restoreHandler .sigint (), .restoreHandler .sigterm ()] := by
  decide +kernel

end Central
end HermesSentinel
