import HermesSentinel.Central.Service
import HermesSentinel.Foundation.Binary64Order
import HermesSentinel.Host.AlarmWindows

namespace HermesSentinel
namespace Central

open Python
open Domain
open Foundation
open Heartbeat
open Host

/-!
# The grounds of an alarm

A DOWN alert says that a host is lost.  Seen from the database and the network
it says: in enough consecutive evaluations the probe failed, and whatever
heartbeat of the host the database held at each of them was too old by then.
The clock is steady, so of a heartbeat that was received earlier this can be
read off the rows afterwards.
-/

/-- A heartbeat that was received earlier is older. -/
theorem totalSeconds_mono {younger older : Int} (nonneg : 0 ≤ younger) (le : younger ≤ older)
    {limit : PyFloat} (within : (totalSeconds older).le limit = true) :
    (totalSeconds younger).le limit = true := by
  have seconds : Binary64.nearest ((younger : ℚ) / 1000000) ≤
      Binary64.nearest ((older : ℚ) / 1000000) := by
    apply Binary64.nearest_mono
    · exact div_nonneg (Int.cast_nonneg nonneg) (by norm_num)
    · exact div_le_div_of_nonneg_right (Int.cast_le.mpr le) (by norm_num)
  cases limit with
  | finite q =>
      have below : Binary64.nearest ((older : ℚ) / 1000000) ≤ q := of_decide_eq_true within
      exact decide_eq_true (seconds.trans below)
  | nan => cases within
  | infinity => rfl
  | negativeInfinity => cases within

/-- Of these heartbeats none of the host is recent enough for the evaluation. -/
def NoneRecent (hostConfig : HostConfig) (held : List HeartbeatRecord)
    (evaluation : HostHealthEvaluation) : Prop :=
  forall record, record ∈ held -> record.node = evaluation.host ->
    (totalSeconds (evaluation.evaluatedAt.instant - record.receivedAt.instant)).le
      hostConfig.heartbeat.staleAfterSeconds.exact = false

/-- No heartbeat of the host received before this evaluation was recent enough for it. -/
def Lost (hostConfig : HostConfig) (stored : List HeartbeatRecord)
    (evaluation : HostHealthEvaluation) : Prop :=
  forall record, record ∈ stored -> record.node = evaluation.host ->
    record.receivedAt.instant < evaluation.evaluatedAt.instant ->
    (totalSeconds (evaluation.evaluatedAt.instant - record.receivedAt.instant)).le
      hostConfig.heartbeat.staleAfterSeconds.exact = false

/-- What a committed evaluation has established, as it can be checked later. -/
structure Established (service : CentralService) (records : List HeartbeatRecord)
    (run : CentralRun) (evaluation : HostHealthEvaluation) : Prop where
  past : forall call now, run.world.ingestion.clockCalls ≤ call ->
    service.clock.result call = .ok (.datetime now) ->
    evaluation.evaluatedAt.instant ≤ now.instant
  lost : forall hostConfig, service.engineConfig.host evaluation.host = some hostConfig ->
    evaluation.freshness.status ≠ .fresh ->
    Lost hostConfig (records ++ run.accepted) evaluation

section

variable {service : CentralService} {records : List HeartbeatRecord} {run : CentralRun}

theorem evaluation_host {host : PyStr} {storage : Fallible Unit} {createConnection : CreateConnection}
    {result : HostHealthEvaluation}
    (returned : evaluation service run host storage createConnection = .ok result) :
    result.host = host := by
  unfold evaluation at returned
  cases acquired : acquireEvidence service.engineConfig
      (service.collaborators run.world.ingestion storage createConnection) host with
  | error e =>
      rw [evaluateHost_failed acquired] at returned
      cases returned
  | ok evidence =>
      rcases evaluateHost_committed acquired run.world.resolutions with ⟨committed, ended, evaluated⟩
      rw [ended] at returned
      cases returned
      exact evaluated.evaluated

/-- An evaluation that is not FRESH has found no recent heartbeat in the database. -/
theorem noneRecent_evaluation (timely : Timely service records run) {host : PyStr}
    {storage : Fallible Unit} {createConnection : CreateConnection} {result : HostHealthEvaluation}
    (returned : evaluation service run host storage createConnection = .ok result)
    {hostConfig : HostConfig} (configured : service.engineConfig.host result.host = some hostConfig)
    (notFresh : result.freshness.status ≠ .fresh) :
    NoneRecent hostConfig (records ++ run.accepted) result := by
  have named := evaluation_host returned
  rcases timely.uses_most_recent returned with ⟨own, now, ownConfigured, reading, uses⟩
  rw [named, ownConfigured] at configured
  cases configured
  intro record held node
  rcases uses.used ⟨record, held, node.trans named⟩ with ⟨latest, isLatest, _, _, fresh, _⟩
  have stale : (totalSeconds (now.instant - latest.receivedAt.instant)).le
      hostConfig.heartbeat.staleAfterSeconds.exact = false :=
    Bool.eq_false_iff.mpr fun within => notFresh (fresh.mpr within)
  rw [uses.evaluatedAt]
  apply Bool.eq_false_iff.mpr
  intro within
  have notLater : record.receivedAt.instant ≤ latest.receivedAt.instant := by
    rcases isLatest with ⟨before, after, shape, _, ahead, behind⟩
    rw [shape] at held
    rcases List.mem_append.mp held with older | rest
    · exact ahead record older (node.trans named)
    · rcases List.mem_cons.mp rest with same | newer
      · rw [same]
      · exact (behind record newer (node.trans named)).le
  have latestPast : latest.receivedAt.instant ≤ now.instant := by
    rcases isLatest with ⟨before, after, shape, _⟩
    refine timely.past latest ?_ _ now (Nat.le_refl _) reading
    rw [shape]
    exact List.mem_append_right _ List.mem_cons_self
  rw [totalSeconds_mono (by omega) (by omega) within] at stale
  cases stale

/-- The newest evaluation has established what it says. -/
theorem established_evaluation (timely : Timely service records run) {host : PyStr}
    {storage : Fallible Unit} {createConnection : CreateConnection} {result : HostHealthEvaluation}
    (returned : evaluation service run host storage createConnection = .ok result) :
    Established service records
      (stepCentral service run (.evaluate host storage createConnection)) result := by
  constructor
  case past =>
    rcases timely.uses_most_recent returned with ⟨hostConfig, now, configured, reading, uses⟩
    have counted : clockCallsOf service host = 1 := by
      rw [clockCallsOf, configured]
      rfl
    intro call later following read
    rw [uses.evaluatedAt]
    have atLeast : run.world.ingestion.clockCalls + clockCallsOf service host ≤ call := following
    exact service.clock.steady _ _ _ _ (by omega) reading read
  case lost =>
    intro hostConfig configured notFresh record member node _
    have unchanged : (stepCentral service run
        (.evaluate host storage createConnection)).accepted = run.accepted := List.append_nil _
    rw [unchanged] at member
    exact noneRecent_evaluation timely returned configured notFresh record member node

/-- A call made later does not undermine it. -/
theorem Established.step {result : HostHealthEvaluation}
    (established : Established service records run result) (call : CentralCall) :
    Established service records (stepCentral service run call) result := by
  cases call with
  | evaluate host storage createConnection =>
      constructor
      case past =>
        intro other now following read
        exact established.past other now (Nat.le_trans (Nat.le_add_right _ _) following) read
      case lost =>
        intro hostConfig configured notFresh
        rw [show (stepCentral service run (.evaluate host storage createConnection)).accepted =
          run.accepted from List.append_nil _]
        exact established.lost hostConfig configured notFresh
  | ingest telemetry storage =>
      rcases ingest_cases service.ingestor storage telemetry run.world.ingestion with
        ⟨e, after, ended, same, later⟩ | ⟨receipt, after, record, row, ended, ingested⟩
      · rw [stepCentral_ingest ended]
        constructor
        case past =>
          intro other now following read
          exact established.past other now (Nat.le_trans later following) read
        case lost =>
          intro hostConfig configured notFresh
          rw [show run.accepted ++ acceptedBy (.ingest telemetry storage) (.ingested (.error e)) =
            run.accepted from List.append_nil _]
          exact established.lost hostConfig configured notFresh
      · rw [stepCentral_ingest ended, acceptedBy_ingested ingested]
        have reading := ingested.clock
        constructor
        case past =>
          intro other now following read
          rw [ingested.world] at following
          exact established.past other now (Nat.le_of_succ_le following) read
        case lost =>
          intro hostConfig configured notFresh other member node earlier
          rw [<- List.append_assoc] at member
          rcases List.mem_append.mp member with older | newest
          · exact established.lost hostConfig configured notFresh other older node earlier
          · -- what is accepted now was received after the evaluation
            rw [List.mem_singleton.mp newest] at earlier
            have after := established.past _ _ (Nat.le_refl _) reading
            omega

theorem evaluation_of_committedBy {call : CentralCall} {result : HostHealthEvaluation}
    (committed : committedBy (perform service run.world call).1 = some result) :
    exists host storage createConnection, call = .evaluate host storage createConnection ∧
      evaluation service run host storage createConnection = .ok result := by
  cases call with
  | ingest telemetry storage => cases committed
  | evaluate host storage createConnection =>
      have ended : committedBy (.evaluated (evaluation service run host storage createConnection)) =
          some result := committed
      refine ⟨host, storage, createConnection, rfl, ?_⟩
      cases outcome : evaluation service run host storage createConnection with
      | error e =>
          rw [outcome] at ended
          cases ended
      | ok found =>
          rw [outcome] at ended
          exact congrArg Except.ok (Option.some.inj ended)

/-- An evaluation was committed before the last call, or by it. -/
theorem committed_concat {start : CentralStart service} {earlier : List CentralCall}
    {call : CentralCall} {result : HostHealthEvaluation}
    (committed : result ∈ (runCentral start (earlier ++ [call])).results.filterMap committedBy) :
    result ∈ (runCentral start earlier).results.filterMap committedBy ∨
      committedBy (perform service (runCentral start earlier).world call).1 = some result := by
  have split : (runCentral start (earlier ++ [call])).results = (runCentral start earlier).results ++
      [(perform service (runCentral start earlier).world call).1] := by
    rw [runCentral_concat]
    rfl
  rw [split, List.filterMap_append] at committed
  refine (List.mem_append.mp committed).imp id fun newest => ?_
  rcases List.mem_filterMap.mp newest with ⟨ended, member, returned⟩
  rwa [List.mem_singleton.mp member] at returned

/-- What the database held at a call of the run that committed this evaluation. -/
def HeldAt (start : CentralStart service) (calls : List CentralCall)
    (evaluation : HostHealthEvaluation) (held : List HeartbeatRecord) : Prop :=
  exists before call after, calls = before ++ call :: after ∧
    committedBy (perform service (runCentral start before).world call).1 = some evaluation ∧
    held = start.records ++ (runCentral start before).accepted

theorem exists_heldAt (start : CentralStart service) (calls : List CentralCall)
    {result : HostHealthEvaluation}
    (committed : result ∈ (runCentral start calls).results.filterMap committedBy) :
    exists held, HeldAt start calls result held := by
  induction calls using List.reverseRecOn with
  | nil => cases committed
  | append_singleton earlier call inductionHypothesis =>
      rcases committed_concat committed with older | newest
      · rcases inductionHypothesis older with ⟨held, before, own, after, shape, rest⟩
        refine ⟨held, before, own, after ++ [call], ?_, rest⟩
        rw [shape, List.append_assoc, List.cons_append]
      · exact ⟨_, earlier, call, [], rfl, newest, rfl⟩

/-- Whenever an evaluation that is not FRESH was committed, the database held no
recent heartbeat. -/
theorem noneRecent_heldAt {start : CentralStart service} {calls : List CentralCall}
    {result : HostHealthEvaluation} {held : List HeartbeatRecord}
    (heldAt : HeldAt start calls result held) {hostConfig : HostConfig}
    (configured : service.engineConfig.host result.host = some hostConfig)
    (notFresh : result.freshness.status ≠ .fresh) : NoneRecent hostConfig held result := by
  rcases heldAt with ⟨before, call, after, _, committed, rfl⟩
  rcases evaluation_of_committedBy committed with ⟨host, storage, createConnection, rfl, returned⟩
  exact noneRecent_evaluation (timely_run start before) returned configured notFresh

/-- Every committed evaluation of a run stays established. -/
theorem established_run (start : CentralStart service) (calls : List CentralCall)
    {result : HostHealthEvaluation}
    (committed : result ∈ (runCentral start calls).results.filterMap committedBy) :
    Established service start.records (runCentral start calls) result := by
  induction calls using List.reverseRecOn with
  | nil => cases committed
  | append_singleton earlier call inductionHypothesis =>
      rw [runCentral_concat]
      rcases committed_concat committed with older | newest
      · exact (inductionHypothesis older).step call
      · rcases evaluation_of_committedBy newest with ⟨host, storage, createConnection, rfl, returned⟩
        exact established_evaluation (timely_run start earlier) returned

end

/-! ## The alarms of a process -/

/-- What an evaluation contributes to a DOWN alert: the probe failed and the
database held no recent heartbeat. -/
structure FoundLost {service : CentralService} (start : CentralStart service)
    (calls : List CentralCall) (hostConfig : HostConfig) (evaluation : HostHealthEvaluation) : Prop where
  unreachable : evaluation.reachability = .unreachable
  notFresh : evaluation.freshness.status ≠ .fresh
  committed : exists held, HeldAt start calls evaluation held
  noneRecent : forall held, HeldAt start calls evaluation held -> NoneRecent hostConfig held evaluation
  /-- As it can be read off the rows that are there by now. -/
  lost : Lost hostConfig (start.records ++ (runCentral start calls).accepted) evaluation

/-- What the alerts of a process say, where it stands at the end of these calls. -/
structure AlarmContract {deployment : Deployment} (start : ServiceStart deployment)
    (calls : List CentralCall) (w : MonitoringWorld) : Prop where
  /-- A DOWN alert: enough evaluations in a row have found the host lost. -/
  down : forall incident, incident ∈ w.sent -> incident.kind = .down ->
    exists hostConfig earlier window newest later,
      deployment.config.host incident.host = some hostConfig ∧
      evaluationsOf w incident.host = earlier ++ window ++ later ∧
      window.getLast? = some newest ∧ newest.transition = some incident.transition ∧
      (window.length : Int) = hostConfig.external.downConfirmations ∧
      forall evaluation, evaluation ∈ window ->
        FoundLost start.central calls hostConfig evaluation
  /-- A RECOVERED alert: in enough evaluations in a row the probe succeeded. -/
  recovered : forall incident, incident ∈ w.sent -> incident.kind = .recovered ->
    exists hostConfig earlier window newest later,
      deployment.config.host incident.host = some hostConfig ∧
      evaluationsOf w incident.host = earlier ++ window ++ later ∧
      window.getLast? = some newest ∧ newest.transition = some incident.transition ∧
      (window.length : Int) = hostConfig.external.recoveryConfirmations ∧
      forall evaluation, evaluation ∈ window -> evaluation.reachability = .reachable
  /-- The last alert of a host is what its evaluations show by now. -/
  current : forall host kind, (kindsOf w host).getLast? = some kind ->
    exists hostConfig, deployment.config.host host = some hostConfig ∧
      (kind = .down ↔ DownShown hostConfig.external
        ((evaluationsOf w host).map HostHealthEvaluation.observation))

theorem mem_committed {w : MonitoringWorld} {host : PyStr} {earlier window later}
    (shape : evaluationsOf w host = earlier ++ window ++ later) {evaluation : HostHealthEvaluation}
    (member : evaluation ∈ window) : evaluation ∈ w.committed ∧ evaluation.host = host := by
  have within : evaluation ∈ evaluationsOf w host := by
    rw [shape]
    exact List.mem_append_left _ (List.mem_append_right _ member)
  rcases List.mem_filter.mp within with ⟨committed, own⟩
  exact ⟨committed, of_decide_eq_true own⟩

/-- For every process of the service, up to every point and however it ended:
each of its alerts has its grounds in the probes and in the heartbeats that the
database held, and the last one says how things are. -/
theorem alarms_are_grounded {deployment : Deployment} (start : ServiceStart deployment)
    (occurrences : List Occurrence) :
    exists calls, Refines start (runService start occurrences) calls ∧
      (exists entries, Kept {
        database := (runService start occurrences).ingestion.database
        inserted := start.records ++ (runCentral start.central calls).accepted } entries) ∧
      AlarmContract start calls (runService start occurrences).monitoring := by
  have kept := @runService_keeps deployment start (fun w =>
    (exists calls, Refines start w calls) ∧ WellFormed deployment.config w.monitoring ∧
      Windowed deployment.config w.monitoring)
  have holds := kept ⟨⟨[], refines_start⟩, wellFormed_initial _, windowed_initial _⟩ ?_ ?_ occurrences
  · rcases holds with ⟨⟨calls, refines⟩, wellFormed, windowed⟩
    have timely := timely_run start.central calls
    refine ⟨calls, refines, ?_, ?_⟩
    · rw [<- refines.ingestion]
      exact timely.kept
    constructor
    case down =>
      intro incident member kind
      rcases windowed.backed incident member with
        ⟨hostConfig, earlier, window, newest, later, configured, shape, last, crossed, length, all⟩
      rw [kind] at length all
      refine ⟨hostConfig, earlier, window, newest, later, configured, shape, last, crossed, length, ?_⟩
      intro evaluation inside
      rcases mem_committed shape inside with ⟨committed, own⟩
      rw [refines.committed] at committed
      rw [<- own] at configured
      rcases all evaluation inside with ⟨missingOrStale, unreachable⟩
      have notFresh : evaluation.freshness.status ≠ .fresh := by
        intro fresh
        rcases missingOrStale with missing | stale
        · cases missing.symm.trans fresh
        · cases stale.symm.trans fresh
      exact {
        unreachable := unreachable
        notFresh := notFresh
        committed := exists_heldAt start.central calls committed
        noneRecent := fun _ heldAt => noneRecent_heldAt heldAt configured notFresh
        lost := (established_run start.central calls committed).lost hostConfig configured notFresh }
    case recovered =>
      intro incident member kind
      rcases windowed.backed incident member with
        ⟨hostConfig, earlier, window, newest, later, configured, shape, last, crossed, length, all⟩
      rw [kind] at length all
      exact ⟨hostConfig, earlier, window, newest, later, configured, shape, last, crossed, length, all⟩
    case current =>
      intro host kind last
      exact last_alert wellFormed windowed last
  · intro w connection before
    rcases before with ⟨⟨calls, refines⟩, wellFormed, windowed⟩
    rcases refines.handleRequest connection with ⟨more, after⟩
    rw [handleRequest_left] at after ⊢
    exact ⟨⟨_, after⟩, wellFormed, windowed⟩
  · intro w surroundings host listed before
    rcases before with ⟨⟨calls, refines⟩, wellFormed, windowed⟩
    have visited := visitHost_visited deployment.config {
      engine := fun name => deployment.service.collaborators w.ingestion (surroundings.storage name)
        (surroundings.createConnection name)
      send := surroundings.send } host w.monitoring
    exact ⟨⟨_, refines.monitorHost surroundings listed⟩, wellFormed_visited wellFormed visited,
      windowed_visited windowed visited⟩

end Central
end HermesSentinel
