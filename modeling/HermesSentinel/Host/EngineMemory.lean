import HermesSentinel.Host.Engine

namespace HermesSentinel
namespace Host

open Python
open Domain
open Foundation
open Heartbeat

/-!
# The memory of the health engine

A run is a sequence of calls on one engine, over any hosts and with any
collaborators.  After every run the resolution remembered for a host is the
fold of the resolver over the evidence of the calls that succeeded for it, and
nothing else has had an influence on it.
-/

structure EngineCall where
  host : PyStr
  collaborators : EngineCollaborators

abbrev EngineOutcome := Except Raised HostHealthEvaluation

/-- The memory after the calls so far and what they ended with, in order. -/
structure EngineRun where
  resolutions : Resolutions
  outcomes : List (PyStr × EngineOutcome)

namespace EngineRun

def initial : EngineRun where
  resolutions := fun _ => none
  outcomes := []

/-- What the calls for a host ended with. -/
def outcomesOf (run : EngineRun) (host : PyStr) : List EngineOutcome :=
  (run.outcomes.filter (fun entry => decide (entry.1 = host))).map Prod.snd

/-- The evaluations of a host that succeeded. -/
def committed (run : EngineRun) (host : PyStr) : List HostHealthEvaluation :=
  (run.outcomesOf host).filterMap Except.toOption

end EngineRun

section

variable (config : SentinelConfig)

def EngineCall.perform (call : EngineCall) : Program Raised Resolutions HostHealthEvaluation :=
  evaluateHost config call.collaborators call.host

def stepCall (run : EngineRun) (call : EngineCall) : EngineRun :=
  let result := call.perform config run.resolutions
  { resolutions := result.2, outcomes := run.outcomes ++ [(call.host, result.1)] }

def runCalls (calls : List EngineCall) : EngineRun :=
  calls.foldl (stepCall config) EngineRun.initial

theorem runCalls_concat (calls : List EngineCall) (call : EngineCall) :
    runCalls config (calls ++ [call]) = stepCall config (runCalls config calls) call := by
  unfold runCalls
  rw [List.foldl_append]
  rfl

variable {config}

/-- A call either fails without a trace or commits an evaluation of its evidence. -/
theorem perform_cases (config : SentinelConfig) (call : EngineCall) (resolutions : Resolutions) :
    (exists e, acquireEvidence config call.collaborators call.host = .error e ∧
      call.perform config resolutions = (.error e, resolutions)) ∨
    (exists evidence evaluation,
      acquireEvidence config call.collaborators call.host = .ok evidence ∧
      call.perform config resolutions =
        (.ok evaluation, Function.update resolutions call.host (some evaluation.resolution)) ∧
      EvaluatedFrom call.host evidence (resolutions call.host) evaluation) := by
  cases acquired : acquireEvidence config call.collaborators call.host with
  | error e => exact .inl ⟨e, rfl, evaluateHost_failed acquired resolutions⟩
  | ok evidence =>
      rcases evaluateHost_committed acquired resolutions with ⟨evaluation, result, evaluated⟩
      exact .inr ⟨evidence, evaluation, rfl, result, evaluated⟩

/-- The memory of the other hosts is left alone. -/
theorem perform_other (call : EngineCall) (resolutions : Resolutions) {other : PyStr}
    (different : other ≠ call.host) :
    (call.perform config resolutions).2 other = resolutions other := by
  rcases perform_cases config call resolutions with
    ⟨e, _, result⟩ | ⟨_, evaluation, _, result, _⟩
  · rw [result]
  · rw [result]
    exact Function.update_of_ne different _ _

/-- A call sees of the memory what is remembered for its own host. -/
theorem perform_congr (config : SentinelConfig) (call : EngineCall) {first second : Resolutions}
    (same : first call.host = second call.host) :
    (call.perform config first).1 = (call.perform config second).1 ∧
      (call.perform config first).2 call.host = (call.perform config second).2 call.host := by
  simp only [EngineCall.perform, evaluateHost, bind, pure, Program.bind, Program.pure,
    Program.lift, Program.read, Program.update]
  cases acquireEvidence config call.collaborators call.host with
  | error e => exact ⟨rfl, same⟩
  | ok evidence =>
      dsimp only
      rw [same]
      cases resolveHostState (second call.host) evidence.freshness.status
          (evidence.resources.getD ResourceAssessment.neutral) evidence.reachability
          evidence.hostConfig.external with
      | error e => exact ⟨rfl, same⟩
      | ok resolution =>
          dsimp only
          cases buildTransition call.host (second call.host) resolution evidence.evaluatedAt with
          | error e => exact ⟨rfl, same⟩
          | ok transition =>
              dsimp only
              cases HostHealthEvaluation.make _ with
              | error e => exact ⟨rfl, same⟩
              | ok evaluation =>
                  dsimp only
                  exact ⟨rfl, by rw [Function.update_self, Function.update_self]⟩

/-- With an aware clock that is not behind the store, everything but the probe
of a configured host succeeds. -/
theorem acquireEvidence_probe {collaborators : EngineCollaborators} {host : PyStr}
    {hostConfig : HostConfig} (configured : config.host host = some hostConfig) {now : DateTime}
    (clock : collaborators.clock = .ok (.datetime now)) (aware : now.isAware = true)
    {latest : Option HeartbeatRecord} (stored : collaborators.latestHeartbeat host = .ok latest)
    (consistent : forall record, latest = some record -> record.receivedAt.instant ≤ now.instant) :
    exists freshness resources, acquireEvidence config collaborators host =
      (probeTcpReachability collaborators.createConnection hostConfig.external >>= fun reachability =>
        .ok { hostConfig, evaluatedAt := now, freshness, resources, reachability }) := by
  have fresh : exists freshness, evaluateHeartbeatFreshness now
      (latest.map (fun record => record.receivedAt)) hostConfig.heartbeat = .ok freshness := by
    apply evaluateHeartbeatFreshness_total hostConfig.heartbeat aware
    intro received found
    rcases Option.map_eq_some_iff.mp found with ⟨record, present, rfl⟩
    exact ⟨record.valid.2.1, consistent record present⟩
  have assessed : exists resources, assessResources latest hostConfig.thresholds = .ok resources := by
    cases latest with
    | none => exact ⟨none, rfl⟩
    | some record =>
        rcases evaluateResourceThresholds_total record.telemetry hostConfig.thresholds with
          ⟨assessment, evaluated⟩
        exact ⟨some assessment, by rw [assessResources, evaluated, ok_bind]⟩
  rcases fresh with ⟨freshness, classified⟩
  rcases assessed with ⟨resources, assessed⟩
  have required : requireHost config host = .ok hostConfig := by
    rw [requireHost, configured]
  refine ⟨freshness, resources, ?_⟩
  simp only [acquireEvidence, required, clock, requireAwareClock_eq_ok.mpr ⟨rfl, aware⟩, stored,
    classified, assessed, ok_bind]

theorem acquireEvidence_total {collaborators : EngineCollaborators} {host : PyStr}
    {hostConfig : HostConfig} (configured : config.host host = some hostConfig) {now : DateTime}
    (clock : collaborators.clock = .ok (.datetime now)) (aware : now.isAware = true)
    {latest : Option HeartbeatRecord} (stored : collaborators.latestHeartbeat host = .ok latest)
    (consistent : forall record, latest = some record -> record.receivedAt.instant ≤ now.instant)
    (network : exists reachability,
      probeTcpReachability collaborators.createConnection hostConfig.external = .ok reachability) :
    exists evidence, acquireEvidence config collaborators host = .ok evidence := by
  rcases network with ⟨reachability, probed⟩
  rcases acquireEvidence_probe configured clock aware stored consistent with
    ⟨freshness, resources, acquired⟩
  rw [probed, ok_bind] at acquired
  exact ⟨_, acquired⟩

theorem outcomesOf_step (run : EngineRun) (call : EngineCall) (host : PyStr) :
    (stepCall config run call).outcomesOf host =
      if call.host = host then run.outcomesOf host ++ [(call.perform config run.resolutions).1]
      else run.outcomesOf host := by
  unfold EngineRun.outcomesOf stepCall
  dsimp only
  rw [List.filter_append, List.map_append]
  split
  · rename_i own
    rw [List.filter_cons_of_pos (by exact decide_eq_true own)]
    rfl
  · rename_i other
    rw [List.filter_cons_of_neg (by simpa using other)]
    exact List.append_nil _

theorem committed_step_failed {run : EngineRun} {call : EngineCall} {e : Raised}
    (failed : (call.perform config run.resolutions).1 = .error e) (host : PyStr) :
    (stepCall config run call).committed host = run.committed host := by
  unfold EngineRun.committed
  rw [outcomesOf_step, failed]
  split
  · rw [List.filterMap_append]
    exact List.append_nil _
  · rfl

theorem committed_step_ok {run : EngineRun} {call : EngineCall} {evaluation : HostHealthEvaluation}
    (ok : (call.perform config run.resolutions).1 = .ok evaluation) (host : PyStr) :
    (stepCall config run call).committed host =
      if call.host = host then run.committed host ++ [evaluation] else run.committed host := by
  unfold EngineRun.committed
  rw [outcomesOf_step, ok]
  split
  · rw [List.filterMap_append]
    rfl
  · rfl

/-! ## The memory as a fold -/

/-- What is remembered for a host follows from its committed evaluations. -/
def Folded (config : SentinelConfig) (run : EngineRun) : Prop :=
  forall host,
    match config.host host with
    | none => run.resolutions host = none ∧ run.committed host = []
    | some hostConfig =>
        resolveAll hostConfig.external
          ((run.committed host).map HostHealthEvaluation.observation) = .ok (run.resolutions host)

theorem folded_initial : Folded config EngineRun.initial := by
  intro host
  split
  · exact ⟨rfl, rfl⟩
  · rfl

theorem folded_step {run : EngineRun} (folded : Folded config run) (call : EngineCall) :
    Folded config (stepCall config run call) := by
  intro host
  have before := folded host
  rcases perform_cases config call run.resolutions with
    ⟨e, _, result⟩ | ⟨evidence, evaluation, acquired, result, evaluated⟩
  · have unchanged : (stepCall config run call).resolutions = run.resolutions := by
      rw [stepCall, result]
    rw [committed_step_failed (by rw [result]), unchanged]
    exact before
  · have configured := (acquireEvidence_valid acquired).1
    have updated : (stepCall config run call).resolutions =
        Function.update run.resolutions call.host (some evaluation.resolution) := by
      rw [stepCall, result]
    rw [committed_step_ok (by rw [result]), updated]
    by_cases own : call.host = host
    · rw [if_pos own, <- own, Function.update_self, configured]
      rw [<- own, configured] at before
      dsimp only at before ⊢
      rw [List.map_append, List.map_singleton, resolveAll_concat, before, ok_bind,
        evaluated.resolved, ok_bind]
    · rw [if_neg own, Function.update_of_ne (Ne.symm own)]
      exact before

theorem folded_run (config : SentinelConfig) (calls : List EngineCall) :
    Folded config (runCalls config calls) := by
  induction calls using List.reverseRecOn with
  | nil => exact folded_initial
  | append_singleton calls call inductionHypothesis =>
      rw [runCalls_concat]
      exact folded_step inductionHypothesis call

/-- Something is remembered of a host exactly when an evaluation of it succeeded. -/
theorem Folded.remembered_iff {run : EngineRun} (folded : Folded config run) (host : PyStr) :
    run.resolutions host = none ↔ run.committed host = [] := by
  have holds := folded host
  split at holds
  · exact ⟨fun _ => holds.2, fun _ => holds.1⟩
  · rename_i hostConfig _
    constructor
    · intro forgotten
      rw [forgotten] at holds
      exact List.map_eq_nil_iff.mp (resolveAll_eq_none hostConfig.external holds)
    · intro never
      rw [never] at holds
      exact (Except.ok.inj holds).symm

/-- The calls for one host. -/
def callsFor (host : PyStr) (calls : List EngineCall) : List EngineCall :=
  calls.filter (fun call => decide (call.host = host))

/-- A host's outcomes and memory are those of its own calls alone. -/
theorem runCalls_callsFor (config : SentinelConfig) (calls : List EngineCall) (host : PyStr) :
    (runCalls config calls).outcomesOf host =
        (runCalls config (callsFor host calls)).outcomesOf host ∧
      (runCalls config calls).resolutions host =
        (runCalls config (callsFor host calls)).resolutions host := by
  induction calls using List.reverseRecOn with
  | nil => exact ⟨rfl, rfl⟩
  | append_singleton calls call inductionHypothesis =>
      rcases inductionHypothesis with ⟨sameOutcomes, sameResolution⟩
      rw [runCalls_concat, outcomesOf_step]
      unfold callsFor at *
      rw [List.filter_append]
      by_cases own : call.host = host
      · rw [List.filter_cons_of_pos (by exact decide_eq_true own), List.filter_nil, runCalls_concat,
          outcomesOf_step, if_pos own, if_pos own, sameOutcomes]
        rw [<- own] at sameResolution ⊢
        have same := perform_congr config call sameResolution
        exact ⟨by rw [same.1], same.2⟩
      · rw [List.filter_cons_of_neg (by simpa using own), List.filter_nil, List.append_nil, if_neg own]
        exact ⟨sameOutcomes, (perform_other call _ (Ne.symm own)).trans sameResolution⟩

end

/-- The host is remembered as DOWN. -/
def RememberedDown (resolutions : Resolutions) (host : PyStr) : Prop :=
  exists r, resolutions host = some r ∧ r.state = .down

theorem crossesDown_iff {resolutions after : Resolutions} {host : PyStr}
    {resolution : HostStateResolution} (updated : after host = some resolution) :
    CrossesDown (resolutions host) resolution ↔
      resolutions host ≠ none ∧
        ¬ (RememberedDown resolutions host ↔ RememberedDown after host) := by
  have now : RememberedDown after host ↔ resolution.state = .down := by
    simp [RememberedDown, updated]
  rw [now]
  unfold CrossesDown RememberedDown
  cases resolutions host with
  | none => simp
  | some before => simp

/-- A connection attempt fails with an `OSError` at most, and closing works. -/
def NetworkAnswers (createConnection : CreateConnection) : Prop :=
  forall host port timeout,
    match createConnection host port timeout with
    | .error e => e.kind = .osError
    | .ok close => close = .ok ()

theorem NetworkAnswers.probe {createConnection : CreateConnection}
    (answers : NetworkAnswers createConnection) (settings : ExternalCheckSettings) :
    exists reachability, probeTcpReachability createConnection settings = .ok reachability := by
  have attempt := answers settings.tcpHost settings.tcpPort settings.timeoutSeconds
  unfold probeTcpReachability
  split
  · rename_i e failed
    rw [failed] at attempt
    exact ⟨.unreachable, if_pos attempt⟩
  · rename_i close connected
    rw [connected] at attempt
    dsimp only at attempt
    rw [attempt]
    exact ⟨.reachable, rfl⟩

/-- What holds after the calls of a run, and of one more call. -/
structure EngineContract (config : SentinelConfig) (calls : List EngineCall) (call : EngineCall)
    (before after : EngineRun) (outcome : EngineOutcome) : Prop where
  /-- The memory is the fold over the evidence of the successful calls. -/
  fold : forall host hostConfig, config.host host = some hostConfig ->
    resolveAll hostConfig.external ((before.committed host).map HostHealthEvaluation.observation) =
      .ok (before.resolutions host)
  unconfigured : forall host, config.host host = none ->
    before.resolutions host = none ∧ before.committed host = []
  independent : forall host,
    before.outcomesOf host = (runCalls config (callsFor host calls)).outcomesOf host ∧
      before.resolutions host = (runCalls config (callsFor host calls)).resolutions host
  evidence : forall evaluation, outcome = .ok evaluation -> exists evidence,
    acquireEvidence config call.collaborators call.host = .ok evidence ∧
      EvaluatedFrom call.host evidence (before.resolutions call.host) evaluation ∧
      after.resolutions call.host = some evaluation.resolution
  transition : forall evaluation, outcome = .ok evaluation ->
    (evaluation.transition.isSome = true ↔ before.committed call.host ≠ [] ∧
      ¬ (RememberedDown before.resolutions call.host ↔ RememberedDown after.resolutions call.host))
  failed : forall e, outcome = .error e -> after.resolutions = before.resolutions
  others : forall other, other ≠ call.host -> after.resolutions other = before.resolutions other
  unknown : config.host call.host = none ->
    outcome = raise .unknownHostError "unknown Sentinel host"
  /-- No constructor check fires once the evidence is acquired. -/
  checks : forall e, outcome = .error e ->
    acquireEvidence config call.collaborators call.host = .error e
  total : forall now latest, config.host call.host ≠ none ->
    call.collaborators.clock = .ok (.datetime now) -> now.isAware = true ->
    call.collaborators.latestHeartbeat call.host = .ok latest ->
    (forall record, latest = some record -> record.receivedAt.instant ≤ now.instant) ->
    NetworkAnswers call.collaborators.createConnection -> exists evaluation, outcome = .ok evaluation

/-- The engine's memory is the fold of its committed evaluations, after every
run and whatever the next call does. -/
theorem engine_memory_is_fold (config : SentinelConfig) (calls : List EngineCall)
    (call : EngineCall) :
    EngineContract config calls call (runCalls config calls) (runCalls config (calls ++ [call]))
      (call.perform config (runCalls config calls).resolutions).1 := by
  have folded := folded_run config calls
  rw [runCalls_concat]
  have either := perform_cases config call (runCalls config calls).resolutions
  -- What is left of the two cases where the outcome is known.
  have whenFailed : forall e, (call.perform config (runCalls config calls).resolutions).1 = .error e ->
      acquireEvidence config call.collaborators call.host = .error e ∧
        (stepCall config (runCalls config calls) call).resolutions =
          (runCalls config calls).resolutions := by
    intro e failed
    rcases either with ⟨raised, acquired, result⟩ | ⟨_, evaluation, _, result, _⟩
    · rw [result] at failed
      cases failed
      exact ⟨acquired, by rw [stepCall, result]⟩
    · rw [result] at failed
      cases failed
  have whenOk : forall evaluation,
      (call.perform config (runCalls config calls).resolutions).1 = .ok evaluation ->
      exists evidence, acquireEvidence config call.collaborators call.host = .ok evidence ∧
        EvaluatedFrom call.host evidence ((runCalls config calls).resolutions call.host) evaluation ∧
        (stepCall config (runCalls config calls) call).resolutions call.host =
          some evaluation.resolution := by
    intro evaluation ok
    rcases either with ⟨raised, _, result⟩ | ⟨evidence, committed, acquired, result, evaluated⟩
    · rw [result] at ok
      cases ok
    · rw [result] at ok
      cases ok
      refine ⟨evidence, acquired, evaluated, ?_⟩
      rw [stepCall, result]
      exact Function.update_self _ _ _
  constructor
  case fold =>
    intro host hostConfig configured
    have holds := folded host
    rw [configured] at holds
    exact holds
  case unconfigured =>
    intro host unconfigured
    have holds := folded host
    rw [unconfigured] at holds
    exact holds
  case independent => exact runCalls_callsFor config calls
  case evidence => exact whenOk
  case transition =>
    intro evaluation ok
    rcases whenOk evaluation ok with ⟨_, _, evaluated, updated⟩
    rw [evaluated.transition.presence, crossesDown_iff updated, ne_eq, folded.remembered_iff]
  case failed =>
    intro e failed
    exact (whenFailed e failed).2
  case others =>
    intro other different
    exact perform_other call _ different
  case unknown =>
    intro unknown
    have raised := acquireEvidence_unknown call.collaborators unknown
    rw [EngineCall.perform, evaluateHost_failed raised]
    rfl
  case checks =>
    intro e failed
    exact (whenFailed e failed).1
  case total =>
    intro now latest configured clock aware stored consistent network
    rcases Option.ne_none_iff_exists'.mp configured with ⟨hostConfig, found⟩
    rcases acquireEvidence_total found clock aware stored consistent
      (network.probe hostConfig.external) with ⟨evidence, acquired⟩
    rcases evaluateHost_committed acquired (runCalls config calls).resolutions with
      ⟨evaluation, result, _⟩
    exact ⟨evaluation, by rw [EngineCall.perform, result]⟩

end Host
end HermesSentinel
