import HermesSentinel.Host.Engine

namespace HermesSentinel
namespace Host

open Python
open Domain
open Foundation

/-!
# Incidents, notification and the monitoring cycle

A cycle visits the configured hosts in order.  For each it evaluates the host
and hands the incident of the transition, if there is one, to the sender; any
exception ends the cycle there.

The world keeps, next to the engine's memory, what an observer of many cycles
sees: the evaluations committed by the engine and the incidents handed to the
sender, both in order.
-/

inductive IncidentKind
  | down
  | recovered
  deriving DecidableEq, Repr

structure IncidentFields where
  kind : IncidentKind
  transition : HostTransition
  deriving DecidableEq

def IncidentFields.postInit (f : IncidentFields) : Fallible Unit :=
  match f.kind with
  | .down =>
      require (f.transition.isDownEvent = true) "IncidentKind.DOWN requires a transition into DOWN"
  | .recovered =>
      require (f.transition.isRecoveryEvent = true)
        "IncidentKind.RECOVERED requires a transition out of DOWN"

structure Incident extends IncidentFields where
  accepted : toIncidentFields.postInit = .ok ()
  deriving DecidableEq

namespace Incident

def make (fields : IncidentFields) : Fallible Incident :=
  construct IncidentFields.postInit Incident.mk fields

def host (incident : Incident) : PyStr :=
  incident.transition.host

def fromState (incident : Incident) : HostState :=
  incident.transition.fromState

def toState (incident : Incident) : HostState :=
  incident.transition.toState

end Incident

def incidentFromTransition (transition : HostTransition) : Fallible (Option Incident) :=
  if transition.isDownEvent = true then do
    let incident ← Incident.make { kind := .down, transition := transition }
    .ok (some incident)
  else if transition.isRecoveryEvent = true then do
    let incident ← Incident.make { kind := .recovered, transition := transition }
    .ok (some incident)
  else .ok none

structure MonitoringWorld where
  resolutions : Resolutions
  committed : List HostHealthEvaluation
  sent : List Incident

def MonitoringWorld.initial : MonitoringWorld where
  resolutions := fun _ => none
  committed := []
  sent := []

abbrev MonitoringProgram (α : Type) := Program Raised MonitoringWorld α

/-- `sender.send`: the incident is handed over before the call can raise. -/
def sendIncident (send : Incident -> Fallible Unit) (incident : Incident) : MonitoringProgram Unit := do
  Program.update fun w => { w with sent := w.sent ++ [incident] }
  Program.lift (send incident)

/-- `NotificationCoordinator.notify_transition`. -/
def notifyTransition (send : Incident -> Fallible Unit) (transition : Option HostTransition) :
    MonitoringProgram (Option Incident) :=
  match transition with
  | none => pure none
  | some transition => do
      let incident ← Program.lift (incidentFromTransition transition)
      match incident with
      | none => pure none
      | some incident => do
          sendIncident send incident
          pure (some incident)

/-- What the engine's collaborators do at each host, and the sender. -/
structure CycleCollaborators where
  engine : PyStr -> EngineCollaborators
  send : Incident -> Fallible Unit

structure HostMonitoringResult where
  evaluation : HostHealthEvaluation
  incident : Option Incident

section

variable (engineConfig : SentinelConfig)

/-- `self._engine.evaluate_host(host)` on the world. -/
def engineEvaluate (collaborators : EngineCollaborators) (host : PyStr) :
    MonitoringProgram HostHealthEvaluation := fun w =>
  match evaluateHost engineConfig collaborators host w.resolutions with
  | (.ok evaluation, resolutions) =>
      (.ok evaluation, { w with
        resolutions := resolutions, committed := w.committed ++ [evaluation] })
  | (.error e, resolutions) => (.error e, { w with resolutions := resolutions })

/-- The body of the loop over the hosts. -/
def visitHost (collaborators : CycleCollaborators) (host : HostConfig) :
    MonitoringProgram HostMonitoringResult := do
  let evaluation ← engineEvaluate engineConfig (collaborators.engine host.name) host.name
  let incident ← notifyTransition collaborators.send evaluation.transition
  pure { evaluation, incident }

def visitHosts (collaborators : CycleCollaborators) :
    List HostConfig -> MonitoringProgram (List HostMonitoringResult)
  | [] => pure []
  | host :: rest => do
      let result ← visitHost engineConfig collaborators host
      let results ← visitHosts collaborators rest
      pure (result :: results)

/-- `MonitoringCycle.run` over the hosts of `config`. -/
def runMonitoringCycle (config : SentinelConfig) (collaborators : CycleCollaborators) :
    MonitoringProgram (List HostMonitoringResult) :=
  visitHosts engineConfig collaborators config.hosts

/-- The world after a sequence of cycles, each of which may have been ended by
an exception. -/
def runMonitoring (config : SentinelConfig) (cycles : List CycleCollaborators) : MonitoringWorld :=
  cycles.foldl (fun w collaborators => (runMonitoringCycle engineConfig config collaborators w).2)
    MonitoringWorld.initial

end

/-- The incident of a transition: its kind says in which direction DOWN was crossed. -/
structure IncidentOf (transition : HostTransition) (incident : Incident) : Prop where
  carried : incident.transition = transition
  kind : incident.kind = if transition.toState = .down then .down else .recovered

theorem incidentFromTransition_total {transition : HostTransition}
    (crosses : ¬ (transition.fromState = .down ↔ transition.toState = .down)) :
    exists incident, incidentFromTransition transition = .ok (some incident) ∧
      IncidentOf transition incident := by
  unfold incidentFromTransition
  by_cases down : transition.toState = .down
  · have event : transition.isDownEvent = true := decide_eq_true down
    rw [if_pos event]
    have accepted : IncidentFields.postInit { kind := .down, transition := transition } = .ok () :=
      (require_eq_ok _ _).mpr event
    rw [Incident.make, construct_ok Incident.mk accepted, ok_bind]
    exact ⟨_, rfl, rfl, (if_pos down).symm⟩
  · have left : transition.fromState = .down := by
      by_contra notLeft
      exact crosses ⟨fun impossible => absurd impossible notLeft, fun impossible =>
        absurd impossible down⟩
    have event : transition.isRecoveryEvent = true := decide_eq_true ⟨left, down⟩
    have noEvent : ¬ transition.isDownEvent = true := fun impossible =>
      down (of_decide_eq_true impossible)
    rw [if_neg noEvent, if_pos event]
    have accepted : IncidentFields.postInit { kind := .recovered, transition := transition } =
        .ok () := (require_eq_ok _ _).mpr event
    rw [Incident.make, construct_ok Incident.mk accepted, ok_bind]
    exact ⟨_, rfl, rfl, (if_neg down).symm⟩

/-- The world after an evaluation has been committed. -/
def MonitoringWorld.commit (w : MonitoringWorld) (evaluation : HostHealthEvaluation) :
    MonitoringWorld :=
  { w with
    resolutions := Function.update w.resolutions evaluation.host (some evaluation.resolution)
    committed := w.committed ++ [evaluation] }

/-- An evaluation the engine can commit in this world. -/
def Committable (engineConfig : SentinelConfig) (w : MonitoringWorld)
    (evaluation : HostHealthEvaluation) : Prop :=
  exists evidence, engineConfig.host evaluation.host = some evidence.hostConfig ∧
    EvaluatedFrom evaluation.host evidence (w.resolutions evaluation.host) evaluation

/-- What a visit leaves behind, however it ends: nothing, a committed
evaluation without a transition, or one whose incident was handed over. -/
inductive Visited (engineConfig : SentinelConfig) (w : MonitoringWorld) : MonitoringWorld -> Prop
  | failed : Visited engineConfig w w
  | quiet (evaluation : HostHealthEvaluation) (committable : Committable engineConfig w evaluation)
      (steady : evaluation.transition = none) : Visited engineConfig w (w.commit evaluation)
  | alerted (evaluation : HostHealthEvaluation)
      (committable : Committable engineConfig w evaluation) (transition : HostTransition)
      (crossed : evaluation.transition = some transition) (incident : Incident)
      (mapped : IncidentOf transition incident) :
      Visited engineConfig w { w.commit evaluation with sent := w.sent ++ [incident] }

/-- The transition of a committable evaluation crosses DOWN. -/
theorem Committable.crosses {engineConfig : SentinelConfig} {w : MonitoringWorld}
    {evaluation : HostHealthEvaluation} (committable : Committable engineConfig w evaluation)
    {transition : HostTransition} (crossed : evaluation.transition = some transition) :
    ¬ (transition.fromState = .down ↔ transition.toState = .down) := by
  rcases committable with ⟨evidence, _, evaluated⟩
  have compares := evaluated.transition
  rcases compares.content transition crossed with ⟨before, established, fields⟩
  have present : evaluation.transition.isSome = true := by
    rw [crossed]
    rfl
  rcases compares.presence.mp present with ⟨other, same, differ⟩
  rw [established] at same
  cases same
  rw [fields]
  exact differ

theorem visitHost_visited (engineConfig : SentinelConfig) (collaborators : CycleCollaborators)
    (host : HostConfig) (w : MonitoringWorld) :
    Visited engineConfig w (visitHost engineConfig collaborators host w).2 := by
  cases acquired : acquireEvidence engineConfig (collaborators.engine host.name) host.name with
  | error e =>
      have failed := evaluateHost_failed acquired w.resolutions
      have ended : visitHost engineConfig collaborators host w = (.error e, w) := by
        simp only [visitHost, bind, Program.bind, engineEvaluate, failed]
      rw [ended]
      exact .failed
  | ok evidence =>
      rcases evaluateHost_committed acquired w.resolutions with ⟨evaluation, result, evaluated⟩
      have committable : Committable engineConfig w evaluation := by
        refine ⟨evidence, ?_, ?_⟩
        · rw [evaluated.evaluated]
          exact (acquireEvidence_valid acquired).1
        · rw [evaluated.evaluated]
          exact evaluated
      have committed : engineEvaluate engineConfig (collaborators.engine host.name) host.name w =
          (.ok evaluation, w.commit evaluation) := by
        simp only [engineEvaluate, result, MonitoringWorld.commit, evaluated.evaluated]
      cases crossed : evaluation.transition with
      | none =>
          have ended : visitHost engineConfig collaborators host w =
              (.ok { evaluation, incident := none }, w.commit evaluation) := by
            simp only [visitHost, bind, Program.bind, committed, crossed, notifyTransition, pure,
              Program.pure]
          rw [ended]
          exact .quiet evaluation committable crossed
      | some transition =>
          rcases incidentFromTransition_total (committable.crosses crossed) with
            ⟨incident, mappedTo, mapped⟩
          have left : (visitHost engineConfig collaborators host w).2 =
              { w.commit evaluation with sent := w.sent ++ [incident] } := by
            simp only [visitHost, bind, Program.bind, committed, crossed, notifyTransition, pure,
              Program.pure, Program.lift, mappedTo, sendIncident, Program.update]
            cases collaborators.send incident with
            | ok _ => rfl
            | error e => rfl
          rw [left]
          exact .alerted evaluation committable transition crossed incident mapped

/-- A property kept by every visit is kept by every run of cycles, wherever an
exception ends one of them. -/
theorem runMonitoring_keeps {engineConfig : SentinelConfig} {holds : MonitoringWorld -> Prop}
    (initially : holds MonitoringWorld.initial)
    (kept : forall w w', holds w -> Visited engineConfig w w' -> holds w')
    (config : SentinelConfig) (cycles : List CycleCollaborators) :
    holds (runMonitoring engineConfig config cycles) := by
  have visit (collaborators : CycleCollaborators) (host : HostConfig) :
      Program.Spec holds (visitHost engineConfig collaborators host) (fun _ => holds)
        (fun _ => holds) := by
    apply Program.Spec.iff_final.mpr
    intro w before
    exact kept w _ before (visitHost_visited engineConfig collaborators host w)
  have loop (collaborators : CycleCollaborators) (hosts : List HostConfig) :
      Program.Spec holds (visitHosts engineConfig collaborators hosts) (fun _ => holds)
        (fun _ => holds) := by
    induction hosts with
    | nil => exact Program.Spec.pure fun _ before => before
    | cons host rest inductionHypothesis =>
        apply Program.Spec.bind (visit collaborators host)
        intro result
        apply Program.Spec.bind inductionHypothesis
        intro results
        exact Program.Spec.pure fun _ before => before
  unfold runMonitoring
  induction cycles using List.reverseRecOn with
  | nil => exact initially
  | append_singleton earlier collaborators inductionHypothesis =>
      rw [List.foldl_append]
      exact Program.Spec.iff_final.mp (loop collaborators config.hosts) _ inductionHypothesis

end Host
end HermesSentinel
