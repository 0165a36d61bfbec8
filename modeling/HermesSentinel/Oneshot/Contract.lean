import HermesSentinel.DeadMan.Delivery
import HermesSentinel.Oneshot.Wire

namespace HermesSentinel
namespace Oneshot

open Python
open Foundation
open DeadMan
open Settings
open Telegram (requests)

/-!
# What a process promises

A process that is not killed exits with 0 or 1 and writes one line; it exits
with 0 exactly if its cycle completed, and the line then shows the state file
it leaves.  A timer starts processes one after the other: whatever they run
into, the file goes through what cycles do to it.
-/

section Files

variable {scanner : JsonScanner} {reader : IsoReader}

/-- The file is read as a snapshot with this state and so many notifications. -/
def Holds (scanner : JsonScanner) (reader : IsoReader) (state : DeadManState) (pending : Nat)
    (file : StateFile) : Prop :=
  exists status, loadFile scanner reader file = .ok status ∧ status.state = state ∧
    status.pendingNotifications.length = pending

theorem save_holds (access : WriteAccess) (status : DeadManStatus) :
    Program.Spec (fun _ => True) (save access status)
      (fun _ v => Holds scanner reader status.state status.pendingNotifications.length v.file)
      (fun _ _ => True) := by
  intro v _
  unfold save
  cases serialised : serialise status with
  | error e => trivial
  | ok data =>
      cases access with
      | completes =>
          exact ⟨status.inUtc, loadFile_serialise serialised, rfl, List.length_map _⟩
      | _ => trivial

/-- What a completed cycle returns is what the file holds. -/
theorem cycle_holds (environment : CycleEnvironment) :
    Program.Spec (fun _ => True) (runDeadmanCycle scanner reader environment)
      (fun result v => Holds scanner reader result.state result.pendingCount v.file)
      (fun _ _ => True) := by
  have passes : forall {α : Type} (program : CycleProgram α),
      Program.Spec (fun _ => True) program (fun _ _ => True) (fun _ _ => True) :=
    fun program => Program.Spec.iff_final.mpr fun _ _ => trivial
  refine .bind (passes _) fun status => .bind (passes _) fun outcome => .bind (passes _) fun reading => ?_
  refine .bind (passes _) fun now => .bind (passes _) fun advanced => ?_
  refine .bind (@save_holds scanner reader environment.firstSave advanced) fun _ => ?_
  cases shape : advanced.pendingNotifications with
  | nil =>
      rw [List.length_nil]
      exact .pure fun _ holds => holds
  | cons oldest rest =>
      refine .bind ((passes _).mono (fun _ _ => trivial) (fun _ _ => id) fun _ _ => id) fun _ => ?_
      refine .bind (passes _) fun acknowledged => ?_
      exact .bind (@save_holds scanner reader environment.secondSave acknowledged) fun _ =>
        .pure fun _ holds => holds

end Files

/-- The failures whose texts are shown. -/
def boundedKinds : List ExceptionClass :=
  [.deadManSettingsError, .deadManStateStoreError, .deadManTelegramDeliveryError,
    .deadManRuntimeError]

def Line.Bounded (line : Line) : Prop :=
  forall e, line.shown = .text e -> e.kind ∈ boundedKinds

/-- How a process ends whose cycle did not complete. -/
inductive Complained (w : OneshotWorld) : Except Interruption Nat × OneshotWorld -> Prop
  | exits (line : Line) (bounded : line.Bounded) (stream : line.stream = .stderr) :
      Complained w (.ok 1, { w with output := w.output ++ [line] })
  | passes (e : Raised) (notException : e.kind.isException = false) :
      Complained w (.error (.raised e), w)
  | killed : Complained w (.error .crashed, w)

theorem complain_text {e : Raised} (bounded : e.kind ∈ boundedKinds) (words : String)
    (w : OneshotWorld) : Complained w (complain words (.text e) w) := by
  refine .exits { stream := .stderr, words, shown := .text e } ?_ rfl
  rintro e' same
  cases same
  exact bounded

theorem complain_typeName (kind : ExceptionClass) (words : String) (w : OneshotWorld) :
    Complained w (complain words (.typeName kind) w) :=
  .exits { stream := .stderr, words, shown := .typeName kind } nofun rfl

theorem reportFailure_complained (e : Raised) (w : OneshotWorld) :
    Complained w (reportFailure e w) := by
  unfold reportFailure
  split
  · rename_i store
    exact complain_text (by rw [store]; decide) _ w
  · split
    · rename_i delivery
      exact complain_text (by rw [delivery]; decide) _ w
    · split
      · rename_i runtime
        exact complain_text (by rw [runtime]; decide) _ w
      · split
        · exact complain_typeName e.kind _ w
        · rename_i notException
          exact .passes e (Bool.eq_false_iff.mpr notException)

/-- The line of a completed cycle. -/
def completedLine (state : DeadManState) (pending : Nat) : Line where
  stream := .stdout
  words := "dead-man cycle completed:"
  shown := .cycle state pending

theorem reportCycle_complained (i : Interruption) (w : OneshotWorld) :
    Complained w (reportCycle (.error i) w) := by
  cases i with
  | raised e => exact reportFailure_complained e w
  | crashed => exact .killed

section Processes

variable (library : StandardLibrary) (surroundings : Surroundings) (env : EnvironmentMapping)

/-- Either a process comes to its cycle, or it has no effect but a line. -/
theorem process_cases (w : OneshotWorld) :
    (reachesCycle library surroundings env = true ∧
      exists probeSettings telegram, TelegramFields.postInit telegram = .ok () ∧
        runDeadmanProcess library surroundings env w =
          runReported library surroundings probeSettings telegram w) ∨
    (reachesCycle library surroundings env = false ∧
      Complained w (runDeadmanProcess library surroundings env w)) := by
  unfold reachesCycle runDeadmanProcess setUp
  cases loaded : loadDeadmanSettings library.interpreter library.urlsplit env with
  | error e =>
      refine .inr ⟨rfl, ?_⟩
      have kind := loadDeadmanSettings_fails library.interpreter library.urlsplit env e loaded
      simp only [kind, if_true]
      exact complain_text (by rw [kind]; decide) _ w
  | ok settings =>
      cases surroundings.setup with
      | none => exact .inl ⟨rfl, _, _, settings.telegram.accepted, rfl⟩
      | some e =>
          refine .inr ⟨rfl, ?_⟩
          dsimp only
          split
          · exact complain_typeName e.kind _ w
          · rename_i notException
            exact .passes e (Bool.eq_false_iff.mpr notException)

end Processes

/-! ## One process -/

/-- What a process has written by its end. -/
def Reported (w w' : OneshotWorld) : Except Interruption Nat -> Prop
  | .ok code => exists line, w'.output = w.output ++ [line] ∧ line.Bounded ∧
      (code = 0 ∧ line.stream = .stdout ∨ code = 1 ∧ line.stream = .stderr)
  | .error (.raised e) => w'.output = w.output ∧ e.kind.isException = false
  | .error .crashed => w'.output = w.output

section Contract

variable (library : StandardLibrary) (surroundings : Surroundings) (env : EnvironmentMapping)

/-- One process, from whatever there was before. -/
structure OneshotContract (w : OneshotWorld) : Prop where
  /-- To the file and the log of the sender it is its cycle. -/
  refines : (runDeadmanProcess library surroundings env w).2.world =
    (runDeadmanCycle library.scanner library.reader (cycleOf library surroundings env) w.world).2
  /-- The cycle sees a sign of life where there is one, -/
  alive : (cycleEnvironment library surroundings).probe = .returns .healthy ↔
    exists exchange response, surroundings.probing = .ends exchange ∧
      exchange.acquired = some response ∧ Alive response
  /-- and a delivery where the Bot API has accepted it. -/
  delivered : (cycleEnvironment library surroundings).send = .returns () ↔
    exists exchange, surroundings.sending = .ends exchange ∧
      Telegram.Delivered library.scan exchange
  /-- It exits with 0 exactly if the cycle completed. -/
  completes : (runDeadmanProcess library surroundings env w).1 = .ok 0 ↔
    exists result, (runDeadmanCycle library.scanner library.reader
      (cycleOf library surroundings env) w.world).1 = .ok result
  /-- It exits with 0 or 1 and one line; what passes is not an `Exception`. -/
  reported : Reported w (runDeadmanProcess library surroundings env w).2
    (runDeadmanProcess library surroundings env w).1
  /-- It probes once and sends once at most, and what it sends it has logged. -/
  contacts : Contacts w 1 1 (runDeadmanProcess library surroundings env w).2
  /-- A line of success shows what the file holds. -/
  truthful : (runDeadmanProcess library surroundings env w).1 = .ok 0 ->
    exists state pending,
      Holds library.scanner library.reader state pending
        (runDeadmanProcess library surroundings env w).2.world.file ∧
      (runDeadmanProcess library surroundings env w).2.output =
        w.output ++ [completedLine state pending]

end Contract

section Processes

variable {library : StandardLibrary} {surroundings : Surroundings} {env : EnvironmentMapping}

/-- A process whose cycle did not complete has had no effect after it but a line. -/
structure Complained.Effect (w : OneshotWorld) (ended : Except Interruption Nat × OneshotWorld) :
    Prop where
  world : ended.2.world = w.world
  contacts : Contacts w 0 0 ended.2
  reported : Reported w ended.2 ended.1
  failed : ended.1 ≠ .ok 0

theorem Complained.effect {w : OneshotWorld} {ended : Except Interruption Nat × OneshotWorld}
    (complained : Complained w ended) : Complained.Effect w ended := by
  have quiet := Contacts.none w
  cases complained with
  | exits line bounded stream =>
      exact ⟨rfl, ⟨quiet.probes, quiet.wired⟩, ⟨line, rfl, bounded, .inr ⟨rfl, stream⟩⟩, nofun⟩
  | passes e notException => exact ⟨rfl, quiet, ⟨rfl, notException⟩, nofun⟩
  | killed => exact ⟨rfl, quiet, rfl, nofun⟩

/-- A cycle killed at its start does nothing. -/
theorem cycleOf_idle (unreached : reachesCycle library surroundings env = false) (v : World) :
    runDeadmanCycle library.scanner library.reader (cycleOf library surroundings env) v =
      (.error .crashed, v) := by
  rw [cycleOf, if_neg (Bool.eq_false_iff.mp unreached)]
  rfl

theorem Complained.contract {w : OneshotWorld}
    (unreached : reachesCycle library surroundings env = false)
    (complained : Complained w (runDeadmanProcess library surroundings env w)) :
    OneshotContract library surroundings env w := by
  have idle := cycleOf_idle unreached w.world
  have effect := complained.effect
  constructor
  case refines => rw [idle, effect.world]
  case alive => exact probe_healthy_iff library surroundings
  case delivered => exact send_returns_iff library surroundings
  case completes =>
    rw [idle]
    exact iff_of_false effect.failed nofun
  case reported => exact effect.reported
  case contacts => exact effect.contacts.mono (Nat.zero_le 1) (Nat.zero_le 1)
  case truthful => exact fun success => absurd success effect.failed

/-- Where both start in the same output, a report in one is a report in the other. -/
theorem Reported.from {w w' w'' : OneshotWorld} {ended : Except Interruption Nat}
    (reported : Reported w' w'' ended) (same : w'.output = w.output) : Reported w w'' ended := by
  unfold Reported at reported
  rw [same] at reported
  exact reported

/-- The cycle of a process that comes to it, and what is left to report. -/
structure Reached (library : StandardLibrary) (surroundings : Surroundings)
    (env : EnvironmentMapping) (w : OneshotWorld) (ended : Except Interruption DeadManCycleResult)
    (w' : OneshotWorld) : Prop where
  cycle : runDeadmanCycle library.scanner library.reader (cycleOf library surroundings env) w.world =
    (ended, w'.world)
  contacts : Contacts w 1 1 w'
  output : w'.output = w.output
  reports : runDeadmanProcess library surroundings env w = reportCycle ended w'

theorem process_reached {w : OneshotWorld} (reached : reachesCycle library surroundings env = true)
    {probeSettings : DeadManProbeFields} {telegram : TelegramFields}
    (accepted : telegram.postInit = .ok ())
    (run : runDeadmanProcess library surroundings env w =
      runReported library surroundings probeSettings telegram w) :
    exists ended w', Reached library surroundings env w ended w' := by
  have twin := @runCycle_twin library surroundings probeSettings telegram w w.world rfl
  have made := @makes_runCycle library surroundings probeSettings _ accepted w
  have reaches : cycleOf library surroundings env = cycleEnvironment library surroundings :=
    if_pos reached
  refine ⟨(runCycle library surroundings probeSettings telegram w).1,
    (runCycle library surroundings probeSettings telegram w).2, ?_, made.1, made.2, run⟩
  rw [reaches]
  exact Prod.ext twin.1.eq.symm twin.2.symm

theorem Reached.contract {w w' : OneshotWorld} {ended : Except Interruption DeadManCycleResult}
    (reached : Reached library surroundings env w ended w') :
    OneshotContract library surroundings env w := by
  have alive := probe_healthy_iff library surroundings
  have delivered := send_returns_iff library surroundings
  cases ended with
  | error i =>
      have effect := (reportCycle_complained i w').effect
      rw [<- reached.reports] at effect
      constructor
      case refines => rw [reached.cycle, effect.world]
      case alive => exact alive
      case delivered => exact delivered
      case completes =>
        rw [reached.cycle]
        exact iff_of_false effect.failed nofun
      case reported => exact effect.reported.from reached.output
      case contacts => exact reached.contacts.trans effect.contacts
      case truthful => exact fun success => absurd success effect.failed
  | ok result =>
      have printed : runDeadmanProcess library surroundings env w = (.ok 0,
          { w' with output := w'.output ++ [completedLine result.state result.pendingCount] }) :=
        reached.reports
      have output : w'.output ++ [completedLine result.state result.pendingCount] =
          w.output ++ [completedLine result.state result.pendingCount] :=
        congrArg (· ++ _) reached.output
      have holds := @cycle_holds library.scanner library.reader (cycleOf library surroundings env)
        w.world trivial
      rw [reached.cycle] at holds
      constructor
      case refines => rw [reached.cycle, printed]
      case alive => exact alive
      case delivered => exact delivered
      case completes =>
        rw [reached.cycle, printed]
        exact iff_of_true rfl ⟨result, rfl⟩
      case reported =>
        rw [printed]
        exact ⟨_, output, nofun, .inl ⟨rfl, rfl⟩⟩
      case contacts =>
        rw [printed]
        exact ⟨reached.contacts.probes, reached.contacts.wired⟩
      case truthful =>
        rw [printed]
        exact fun _ => ⟨_, _, holds, output⟩

/-- Every process keeps the contract of a process. -/
theorem process_contract (library : StandardLibrary) (surroundings : Surroundings)
    (env : EnvironmentMapping) (w : OneshotWorld) :
    OneshotContract library surroundings env w := by
  rcases process_cases library surroundings env w with
    ⟨reached, probeSettings, telegram, accepted, run⟩ | ⟨unreached, complained⟩
  · rcases process_reached reached accepted run with ⟨ended, w', cycle⟩
    exact cycle.contract
  · exact complained.contract unreached

end Processes

def OneshotWorld.initial : OneshotWorld where
  world := .initial
  probes := []
  deliveries := []
  output := []

/-- What a process is started with, and what it finds. -/
structure Started where
  env : EnvironmentMapping
  surroundings : Surroundings

section Timer

variable (library : StandardLibrary)

/-- The processes that a timer starts, one after the other. -/
def runProcesses (processes : List Started) : OneshotWorld :=
  processes.foldl
    (fun w process => (runDeadmanProcess library process.surroundings process.env w).2)
    OneshotWorld.initial

def Started.cycle (process : Started) : CycleEnvironment :=
  cycleOf library process.surroundings process.env

/-- A whole run of processes. -/
structure TimerRun (processes : List Started) : Prop where
  /-- The file and the log of the sender are those of a run of cycles. -/
  cycles : (runProcesses library processes).world =
    runCycles library.scanner library.reader (processes.map (Started.cycle library))
  probes : (runProcesses library processes).probes.countP ProbeEvent.opens ≤ processes.length
  /-- The requests to the Bot API carry notifications whose ids start at 1 and go
  on in order; one id may be carried again until it is acknowledged. -/
  wire : exists notifications : List DeadManNotification,
    List.Forall₂ Carries notifications (requests (runProcesses library processes).deliveries) ∧
    notifications.length ≤ processes.length ∧
    (forall first, (notifications.map (·.notificationId)).head? = some first -> first = 1) ∧
    (notifications.map (·.notificationId)).IsChain
      (fun previous next => next = previous ∨ next = previous + 1)

end Timer

section Runs

variable {library : StandardLibrary}

theorem sentIds_eq (log : List Event) :
    sentIds log = (sentNotifications log).map (·.notificationId) := by
  rw [sentIds, sentNotifications, List.map_filterMap]
  congr 1
  funext event
  cases event <;> rfl

theorem runProcesses_concat (processes : List Started) (process : Started) :
    runProcesses library (processes ++ [process]) =
      (runDeadmanProcess library process.surroundings process.env (runProcesses library processes)).2 :=
  List.foldl_concat ..

theorem runProcesses_contacts (processes : List Started) :
    Contacts OneshotWorld.initial processes.length processes.length
      (runProcesses library processes) := by
  induction processes using List.reverseRecOn with
  | nil => exact .none _
  | append_singleton earlier process inductionHypothesis =>
      have contract := process_contract library process.surroundings process.env
        (runProcesses library earlier)
      rw [runProcesses_concat, List.length_append]
      exact inductionHypothesis.trans contract.contacts

theorem runProcesses_cycles (processes : List Started) :
    (runProcesses library processes).world =
      runCycles library.scanner library.reader (processes.map (Started.cycle library)) := by
  induction processes using List.reverseRecOn with
  | nil => rfl
  | append_singleton earlier process inductionHypothesis =>
      have contract := process_contract library process.surroundings process.env
        (runProcesses library earlier)
      rw [runProcesses_concat, contract.refines, inductionHypothesis, List.map_append, runCycles,
        runCycles, List.foldl_append]
      rfl

/-- Each process is a cycle with a report, and a run of processes is a run of
cycles: what holds of every run of cycles holds of the file, the log and the
requests that a timer leaves. -/
theorem processes_refine_cycles (library : StandardLibrary) :
    (forall surroundings env w, OneshotContract library surroundings env w) ∧
      forall processes, TimerRun library processes := by
  refine ⟨process_contract library, fun processes => ?_⟩
  have contacts := @runProcesses_contacts library processes
  have cycles := @runProcesses_cycles library processes
  have ordered : (forall first, (sentIds (runProcesses library processes).world.log).head? =
      some first -> first = 1) ∧ (sentIds (runProcesses library processes).world.log).IsChain
        (fun previous next => next = previous ∨ next = previous + 1) := by
    rcases @runCycles_settled library.scanner library.reader
      (processes.map (Started.cycle library)) with ⟨_, persisted⟩
    rw [cycles]
    exact sentIds_ordered persisted.justified
  constructor
  case cycles => exact cycles
  case probes =>
    rcases contacts.probes with ⟨events, probes, once⟩
    rw [probes]
    exact once
  case wire =>
    rcases contacts.wired with ⟨notifications, made, logged, requested, carried, few⟩
    have sent : sentIds (runProcesses library processes).world.log =
        notifications.map (·.notificationId) := (sentIds_eq _).trans (congrArg _ logged)
    rw [sent] at ordered
    refine ⟨notifications, ?_, ?_, ordered⟩
    · rw [requested]
      exact carried
    · rw [carried.length_eq]
      exact few

end Runs

end Oneshot
end HermesSentinel
