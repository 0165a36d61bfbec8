import HermesSentinel.Foundation.Program
import HermesSentinel.Heartbeat.Record
import HermesSentinel.Host.Resolver

namespace HermesSentinel
namespace Host

open Python
open Domain
open Foundation
open Heartbeat

/-!
# The health engine

`evaluateHost` is a program on the engine's memory, which maps a host to its
last committed resolution.  The collaborators of one call (the clock, the
repository and the network) are given with the call and may do anything,
including raise.

Acquiring the evidence does not involve the memory; `acquireEvidence` is that
part of the source's function.  `evaluateHost_eq` says that an evaluation fails
exactly when the evidence cannot be acquired, and what it commits otherwise.
-/

structure HostHealthEvaluationFields where
  host : PyStr
  evaluatedAt : DateTime
  freshness : HeartbeatFreshnessResult
  resources : Option ResourceAssessment
  reachability : TcpReachability
  resolution : HostStateResolution
  transition : Option HostTransition
  deriving DecidableEq

def HostHealthEvaluationFields.postInit (f : HostHealthEvaluationFields) : Fallible Unit := do
  requireNonEmpty "host" f.host
  require (f.evaluatedAt.isAware = true)
    "evaluated_at must be timezone-aware (tzinfo is not None and utcoffset() is not None)"

structure HostHealthEvaluation extends HostHealthEvaluationFields where
  accepted : toHostHealthEvaluationFields.postInit = .ok ()
  deriving DecidableEq

namespace HostHealthEvaluation

def make (fields : HostHealthEvaluationFields) : Fallible HostHealthEvaluation :=
  construct HostHealthEvaluationFields.postInit HostHealthEvaluation.mk fields

/-- The evidence of the evaluation as the resolver consumed it. -/
def observation (evaluation : HostHealthEvaluation) : Observation where
  freshness := evaluation.freshness.status
  resources := evaluation.resources.getD ResourceAssessment.neutral
  reachability := evaluation.reachability

end HostHealthEvaluation

def buildTransition (host : PyStr) (previous : Option HostStateResolution)
    (resolution : HostStateResolution) (evaluatedAt : DateTime) :
    Fallible (Option HostTransition) :=
  match previous with
  | none => .ok none
  | some previous =>
      let enteringDown := previous.state ≠ .down ∧ resolution.state = .down
      let leavingDown := previous.state = .down ∧ resolution.state ≠ .down
      if ¬ (enteringDown ∨ leavingDown) then .ok none
      else do
        let transition ← HostTransition.make {
          host := host
          fromState := previous.state
          toState := resolution.state
          confirmedAt := evaluatedAt }
        .ok (some transition)

/-- What the collaborators do during one call. -/
structure EngineCollaborators where
  clock : Fallible ClockResult
  latestHeartbeat : PyStr -> Fallible (Option HeartbeatRecord)
  createConnection : CreateConnection

/-- The per-host resolver memory. -/
abbrev Resolutions := PyStr -> Option HostStateResolution

/-- The facts an evaluation has established before it consults the memory. -/
structure AcquiredEvidence where
  hostConfig : HostConfig
  evaluatedAt : DateTime
  freshness : HeartbeatFreshnessResult
  resources : Option ResourceAssessment
  reachability : TcpReachability

/-- `host_config = self._config.host(host)` and its check. -/
def requireHost (config : SentinelConfig) (host : PyStr) : Fallible HostConfig :=
  match config.host host with
  | none => raise .unknownHostError "unknown Sentinel host"
  | some hostConfig => .ok hostConfig

/-- The public resource assessment: none without a heartbeat. -/
def assessResources (latest : Option HeartbeatRecord) (thresholds : Thresholds) :
    Fallible (Option ResourceAssessment) :=
  match latest with
  | none => .ok none
  | some latest => do
      let assessment ← evaluateResourceThresholds latest.telemetry thresholds
      .ok (some assessment)

def acquireEvidence (config : SentinelConfig) (collaborators : EngineCollaborators)
    (host : PyStr) : Fallible AcquiredEvidence := do
  let hostConfig ← requireHost config host
  let reading ← collaborators.clock
  let evaluatedAt ← requireAwareClock .engineInvalidClockResultError
    "engine clock must return a timezone-aware datetime (tzinfo is not None and utcoffset() is not None)"
    reading
  let latest ← collaborators.latestHeartbeat host
  let freshness ← evaluateHeartbeatFreshness evaluatedAt
    (latest.map (fun record => record.receivedAt)) hostConfig.heartbeat
  let resources ← assessResources latest hostConfig.thresholds
  let reachability ← probeTcpReachability collaborators.createConnection hostConfig.external
  .ok { hostConfig, evaluatedAt, freshness, resources, reachability }

def evaluateHost (config : SentinelConfig) (collaborators : EngineCollaborators) (host : PyStr) :
    Program Raised Resolutions HostHealthEvaluation := do
  let evidence ← Program.lift (acquireEvidence config collaborators host)
  let resolutions ← Program.read
  let previous := resolutions host
  -- Without a heartbeat the resolver is given the neutral assessment.
  let resolution ← Program.lift (resolveHostState previous evidence.freshness.status
    (evidence.resources.getD ResourceAssessment.neutral) evidence.reachability
    evidence.hostConfig.external)
  let transition ← Program.lift (buildTransition host previous resolution evidence.evaluatedAt)
  let evaluation ← Program.lift (HostHealthEvaluation.make {
    host := host
    evaluatedAt := evidence.evaluatedAt
    freshness := evidence.freshness
    resources := evidence.resources
    reachability := evidence.reachability
    resolution := resolution
    transition := transition })
  Program.update (fun resolutions => Function.update resolutions host (some resolution))
  pure evaluation

theorem acquireEvidence_valid {config : SentinelConfig} {collaborators : EngineCollaborators}
    {host : PyStr} {evidence : AcquiredEvidence}
    (acquired : acquireEvidence config collaborators host = .ok evidence) :
    config.host host = some evidence.hostConfig ∧ evidence.evaluatedAt.isAware = true := by
  simp only [acquireEvidence, bind_eq_ok] at acquired
  rcases acquired with ⟨hostConfig, required, reading, _, now, clocked, _, _, _, _, _, _, _, _, built⟩
  cases built
  constructor
  · unfold requireHost at required
    split at required
    · exact absurd required (raise_ne_ok _ _ _)
    · rename_i found
      cases required
      exact found
  · exact (requireAwareClock_eq_ok.mp clocked).2

theorem acquireEvidence_unknown {config : SentinelConfig} (collaborators : EngineCollaborators)
    {host : PyStr} (unknown : config.host host = none) :
    acquireEvidence config collaborators host =
      raise .unknownHostError "unknown Sentinel host" := by
  unfold acquireEvidence requireHost
  rw [unknown]
  rfl

/-- Exactly one of the two resolutions is DOWN, the earlier one being established. -/
def CrossesDown (previous : Option HostStateResolution) (resolution : HostStateResolution) : Prop :=
  exists before, previous = some before ∧ ¬ (before.state = .down ↔ resolution.state = .down)

/-- The transition of an evaluation compares the two resolutions. -/
structure Compares (host : PyStr) (previous : Option HostStateResolution)
    (resolution : HostStateResolution) (evaluatedAt : DateTime)
    (transition : Option HostTransition) : Prop where
  presence : transition.isSome = true ↔ CrossesDown previous resolution
  content : forall t, transition = some t -> exists before, previous = some before ∧
    t.toHostTransitionFields = {
      host := host
      fromState := before.state
      toState := resolution.state
      confirmedAt := evaluatedAt }

theorem tzinfo_of_isAware {d : DateTime} (aware : d.isAware = true) : d.tzinfo.isSome = true := by
  unfold DateTime.isAware at aware
  cases zone : d.tzinfo with
  | none =>
      rw [zone] at aware
      cases aware
  | some tzinfo => rfl

/-- A transition is built without failing whenever it is due. -/
theorem buildTransition_total {host : PyStr} (named : host ≠ [])
    (previous : Option HostStateResolution) (resolution : HostStateResolution)
    {evaluatedAt : DateTime} (aware : evaluatedAt.isAware = true) :
    exists transition, buildTransition host previous resolution evaluatedAt = .ok transition ∧
      Compares host previous resolution evaluatedAt transition := by
  cases previous with
  | none =>
      refine ⟨none, rfl, ?_, ?_⟩
      · constructor
        · intro impossible
          cases impossible
        · rintro ⟨before, impossible, _⟩
          cases impossible
      · intro t impossible
        cases impossible
  | some before =>
      have crosses : CrossesDown (some before) resolution ↔
          (before.state ≠ .down ∧ resolution.state = .down) ∨
            (before.state = .down ∧ resolution.state ≠ .down) := by
        unfold CrossesDown
        constructor
        · rintro ⟨other, same, differ⟩
          cases same
          tauto
        · intro differ
          exact ⟨before, rfl, by tauto⟩
      unfold buildTransition
      dsimp only
      split
      · rename_i steady
        rw [<- crosses] at steady
        refine ⟨none, rfl, ?_, ?_⟩
        · constructor
          · intro impossible
            cases impossible
          · intro crossing
            exact absurd crossing steady
        · intro t impossible
          cases impossible
      · rename_i notSteady
        have crossing := crosses.mpr (not_not.mp notSteady)
        have differs : before.state ≠ resolution.state := by
          rcases crossing with ⟨other, same, differ⟩
          cases same
          intro equal
          exact differ (by rw [equal])
        have accepted : HostTransitionFields.postInit {
            host := host, fromState := before.state, toState := resolution.state,
            confirmedAt := evaluatedAt } = .ok () := by
          simp only [HostTransitionFields.postInit, requireNonEmpty, check_bind_eq_ok, require_eq_ok]
          exact ⟨named, tzinfo_of_isAware aware, differs⟩
        rw [HostTransition.make, construct_ok HostTransition.mk accepted, ok_bind]
        refine ⟨_, rfl, ?_, ?_⟩
        · exact ⟨fun _ => crossing, fun _ => rfl⟩
        · intro t same
          cases same
          exact ⟨before, rfl, rfl⟩

/-- What an evaluation from this evidence and this memory consists of. -/
structure EvaluatedFrom (host : PyStr) (evidence : AcquiredEvidence)
    (previous : Option HostStateResolution) (evaluation : HostHealthEvaluation) : Prop where
  evaluated : evaluation.host = host
  evaluatedAt : evaluation.evaluatedAt = evidence.evaluatedAt
  freshness : evaluation.freshness = evidence.freshness
  resources : evaluation.resources = evidence.resources
  reachability : evaluation.reachability = evidence.reachability
  resolved : resolveObservation evidence.hostConfig.external previous evaluation.observation =
    .ok evaluation.resolution
  transition : Compares host previous evaluation.resolution evidence.evaluatedAt
    evaluation.transition

section

variable {config : SentinelConfig} {collaborators : EngineCollaborators} {host : PyStr}

/-- Without the evidence nothing happens. -/
theorem evaluateHost_failed {e : Raised}
    (failed : acquireEvidence config collaborators host = .error e) (resolutions : Resolutions) :
    evaluateHost config collaborators host resolutions = (.error e, resolutions) := by
  show Program.bind (Program.lift (acquireEvidence config collaborators host)) _ resolutions = _
  rw [Program.bind, Program.lift, failed]

/-- With the evidence nothing fails: the new resolution is committed. -/
theorem evaluateHost_committed {evidence : AcquiredEvidence}
    (acquired : acquireEvidence config collaborators host = .ok evidence)
    (resolutions : Resolutions) :
    exists evaluation, evaluateHost config collaborators host resolutions =
        (.ok evaluation, Function.update resolutions host (some evaluation.resolution)) ∧
      EvaluatedFrom host evidence (resolutions host) evaluation := by
  rcases acquireEvidence_valid acquired with ⟨configured, aware⟩
  have named : host ≠ [] := by
    rcases SentinelConfig.host_eq_some configured with ⟨_, same⟩
    rw [<- same]
    exact evidence.hostConfig.name_ne_nil
  let observation : Observation := {
    freshness := evidence.freshness.status
    resources := evidence.resources.getD ResourceAssessment.neutral
    reachability := evidence.reachability }
  rcases resolve_step evidence.hostConfig.external (resolutions host) observation with
    ⟨resolution, resolved, _⟩
  rcases buildTransition_total named (resolutions host) resolution aware with
    ⟨transition, built, compares⟩
  have accepted : HostHealthEvaluationFields.postInit {
      host := host, evaluatedAt := evidence.evaluatedAt, freshness := evidence.freshness,
      resources := evidence.resources, reachability := evidence.reachability,
      resolution := resolution, transition := transition } = .ok () := by
    simp only [HostHealthEvaluationFields.postInit, requireNonEmpty, check_bind_eq_ok, require_eq_ok]
    exact ⟨named, aware⟩
  refine ⟨HostHealthEvaluation.mk _ accepted, ?_, ⟨rfl, rfl, rfl, rfl, rfl, resolved, compares⟩⟩
  have resolvedHere : resolveHostState (resolutions host) evidence.freshness.status
      (evidence.resources.getD ResourceAssessment.neutral) evidence.reachability
      evidence.hostConfig.external = .ok resolution := resolved
  simp only [evaluateHost, bind, pure, Program.bind, Program.pure, Program.lift, Program.read,
    Program.update, acquired, resolvedHere, built, HostHealthEvaluation.make, construct_ok HostHealthEvaluation.mk accepted]

end

end Host
end HermesSentinel
