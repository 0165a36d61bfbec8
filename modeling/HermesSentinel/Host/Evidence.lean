import HermesSentinel.Domain.Telemetry
import Mathlib.Data.List.Sort

namespace HermesSentinel
namespace Host

open Python
open Domain

/-!
# Evidence about a host

What one evaluation observes: the freshness of the latest heartbeat on the
central clock, the breached resource thresholds and the external reachability.
None of it depends on earlier observations.
-/

def requireAware (name : String) (value : DateTime) : Fallible Unit :=
  require (value.isAware = true)
    s!"{name} must be timezone-aware (tzinfo is not None and utcoffset() is not None)"

inductive HeartbeatFreshness
  | missing
  | fresh
  | stale
  deriving DecidableEq, Repr

def HeartbeatFreshness.value : HeartbeatFreshness -> String
  | .missing => "missing"
  | .fresh => "fresh"
  | .stale => "stale"

structure HeartbeatFreshnessFields where
  status : HeartbeatFreshness
  ageSeconds : Option PyFloat
  deriving DecidableEq

def HeartbeatFreshnessFields.postInit (f : HeartbeatFreshnessFields) : Fallible Unit :=
  if f.status = .missing then
    require (f.ageSeconds = none) "age_seconds must be None when status is MISSING"
  else
    match f.ageSeconds with
    | none => raise .valueError s!"age_seconds must not be None when status is {f.status.value}"
    | some age => do
        require (age.isFinite = true) "age_seconds must be finite"
        require (age.lt PyFloat.zero = false) "age_seconds must be >= 0"

structure HeartbeatFreshnessResult extends HeartbeatFreshnessFields where
  accepted : toHeartbeatFreshnessFields.postInit = .ok ()
  deriving DecidableEq

def HeartbeatFreshnessResult.make (fields : HeartbeatFreshnessFields) :
    Fallible HeartbeatFreshnessResult :=
  construct HeartbeatFreshnessFields.postInit HeartbeatFreshnessResult.mk fields

def evaluateHeartbeatFreshness (now : DateTime) (latestReceivedAt : Option DateTime)
    (settings : HeartbeatSettings) : Fallible HeartbeatFreshnessResult := do
  requireAware "now" now
  match latestReceivedAt with
  | none => HeartbeatFreshnessResult.make { status := .missing, ageSeconds := none }
  | some latestReceivedAt =>
      requireAware "latest_received_at" latestReceivedAt
      require (¬ now.instant < latestReceivedAt.instant)
        "latest_received_at must not be in the future relative to now: inconsistent clock evidence fails closed"
      let ageSeconds := totalSeconds (now.instant - latestReceivedAt.instant)
      let status :=
        if ageSeconds.le settings.staleAfterSeconds.exact = true then HeartbeatFreshness.fresh
        else .stale
      HeartbeatFreshnessResult.make { status := status, ageSeconds := some ageSeconds }

theorem HeartbeatFreshnessFields.postInit_aged {status : HeartbeatFreshness}
    (present : status ≠ .missing) {age : PyFloat} (finite : age.isFinite = true)
    (nonneg : age.lt PyFloat.zero = false) :
    postInit { status := status, ageSeconds := some age } = .ok () := by
  unfold postInit
  rw [if_neg present]
  exact (check_bind_eq_ok _ _ ()).mpr ⟨(require_eq_ok _ _).mpr finite, (require_eq_ok _ _).mpr nonneg⟩

/-- A heartbeat that is not dated after the clock always has a classified age. -/
theorem evaluateHeartbeatFreshness_total {now : DateTime} {latest : Option DateTime}
    (settings : HeartbeatSettings) (aware : now.isAware = true)
    (consistent : forall received, latest = some received ->
      received.isAware = true ∧ received.instant ≤ now.instant) :
    exists result, evaluateHeartbeatFreshness now latest settings = .ok result := by
  unfold evaluateHeartbeatFreshness
  rw [requireAware, (require_eq_ok _ _).mpr aware, ok_bind]
  cases latest with
  | none => exact ⟨_, construct_ok HeartbeatFreshnessResult.mk rfl⟩
  | some received =>
      rcases consistent received rfl with ⟨receivedAware, notLater⟩
      dsimp only [requireAware]
      rw [(require_eq_ok _ _).mpr receivedAware, ok_bind,
        (require_eq_ok _ _).mpr (Int.not_lt.mpr notLater), ok_bind]
      have nonneg := totalSeconds_nonneg (Int.sub_nonneg.mpr notLater)
      refine ⟨_, construct_ok HeartbeatFreshnessResult.mk ?_⟩
      apply HeartbeatFreshnessFields.postInit_aged _ (totalSeconds_isFinite _) nonneg
      split
      · exact HeartbeatFreshness.noConfusion
      · exact HeartbeatFreshness.noConfusion

inductive ResourceMetric
  | cpu
  | ram
  | swap
  | disk
  | inodes
  | load5
  deriving DecidableEq, Repr

def canonicalMetricOrder : List ResourceMetric :=
  [.cpu, .ram, .swap, .disk, .inodes, .load5]

/-- The position of a metric in the canonical order. -/
def ResourceMetric.rank (metric : ResourceMetric) : Nat :=
  canonicalMetricOrder.idxOf metric

structure ResourceAssessmentFields where
  breaches : List ResourceMetric
  deriving DecidableEq

def ResourceAssessmentFields.postInit (f : ResourceAssessmentFields) : Fallible Unit := do
  let positions := f.breaches.map ResourceMetric.rank
  require (positions = positions.insertionSort (· ≤ ·))
    "breaches must follow the canonical order CPU, RAM, SWAP, DISK, INODES, LOAD5"
  require positions.Nodup "breaches must not contain duplicates"

structure ResourceAssessment extends ResourceAssessmentFields where
  accepted : toResourceAssessmentFields.postInit = .ok ()
  deriving DecidableEq

namespace ResourceAssessment

def make (fields : ResourceAssessmentFields) : Fallible ResourceAssessment :=
  construct ResourceAssessmentFields.postInit ResourceAssessment.mk fields

def isBreached (assessment : ResourceAssessment) : Bool :=
  decide (0 < assessment.breaches.length)

/-- `_NEUTRAL_RESOURCES`, what the resolver is given without a heartbeat. -/
def neutral : ResourceAssessment where
  breaches := []
  accepted := rfl

/-- Breaches picked from the canonical order are acceptable as they are. -/
theorem accepted_of_sublist {breaches : List ResourceMetric}
    (picked : breaches.Sublist canonicalMetricOrder) :
    ResourceAssessmentFields.postInit { breaches := breaches } = .ok () := by
  have positions := picked.map ResourceMetric.rank
  have increasing : (canonicalMetricOrder.map ResourceMetric.rank).Pairwise (· < ·) := by decide
  have sorted := increasing.sublist positions
  simp only [ResourceAssessmentFields.postInit, check_bind_eq_ok, require_eq_ok]
  constructor
  · exact (List.Pairwise.insertionSort_eq (sorted.imp Nat.le_of_lt)).symm
  · exact sorted.imp Nat.ne_of_lt

end ResourceAssessment

/-- The metric is reported where its value has reached the threshold. -/
def breachOf (metric : ResourceMetric) (value : PyFloat) (threshold : Number) :
    List ResourceMetric :=
  if threshold.exact.le value = true then [metric] else []

theorem breachOf_sublist (metric : ResourceMetric) (value : PyFloat) (threshold : Number) :
    (breachOf metric value threshold).Sublist [metric] := by
  unfold breachOf
  split
  · exact List.Sublist.refl _
  · exact List.nil_sublist _

def evaluateResourceThresholds (telemetry : HostTelemetry) (thresholds : Thresholds) :
    Fallible ResourceAssessment :=
  let breaches :=
    breachOf .cpu telemetry.cpuPercent thresholds.cpuPercent
      ++ breachOf .ram telemetry.ram.percent thresholds.ramPercent
      ++ breachOf .swap telemetry.swap.percent thresholds.swapPercent
      ++ breachOf .disk telemetry.rootFilesystem.percent thresholds.diskPercent
      ++ breachOf .inodes telemetry.rootInodes.percent thresholds.inodePercent
      ++ (match thresholds.load5Max with
        | none => []
        | some limit => breachOf .load5 telemetry.load.five limit)
  ResourceAssessment.make { breaches := breaches }

theorem evaluateResourceThresholds_total (telemetry : HostTelemetry) (thresholds : Thresholds) :
    exists assessment, evaluateResourceThresholds telemetry thresholds = .ok assessment := by
  refine ⟨_, construct_ok _ (ResourceAssessment.accepted_of_sublist ?_)⟩
  have load5 : (match thresholds.load5Max with
      | none => []
      | some limit => breachOf .load5 telemetry.load.five limit).Sublist [ResourceMetric.load5] := by
    split
    · exact List.nil_sublist _
    · exact breachOf_sublist _ _ _
  exact (((((breachOf_sublist .cpu _ _).append (breachOf_sublist .ram _ _)).append
    (breachOf_sublist .swap _ _)).append (breachOf_sublist .disk _ _)).append
    (breachOf_sublist .inodes _ _)).append load5

inductive TcpReachability
  | reachable
  | unreachable
  deriving DecidableEq, Repr

/-- `socket.create_connection((host, port), timeout=timeout)`: a connection,
given by what closing it does, or an exception. -/
abbrev CreateConnection := PyStr -> Int -> Number -> Fallible (Fallible Unit)

def probeTcpReachability (createConnection : CreateConnection) (settings : ExternalCheckSettings) :
    Fallible TcpReachability :=
  match createConnection settings.tcpHost settings.tcpPort settings.timeoutSeconds with
  | .error e => if e.kind = .osError then .ok .unreachable else .error e
  | .ok close => do
      close
      .ok .reachable

end Host
end HermesSentinel
