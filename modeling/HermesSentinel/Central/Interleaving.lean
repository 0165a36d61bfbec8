import HermesSentinel.Heartbeat.Ingestion
import HermesSentinel.Host.EngineMemory

namespace HermesSentinel
namespace Central

open Python
open Domain
open Foundation
open Heartbeat
open Host

/-!
# Ingestion and evaluation on one repository

Calls of the ingestor and of the health engine come in any order and share the
repository and the central clock.  The clock is steady: each of its readings is
aware and none is before an earlier one.  `Timely` is what this makes of the
store: no stored heartbeat is dated after a reading to come.
-/

/-- A clock whose readings are aware and never go back.  A call may also raise. -/
structure SteadyClock where
  result : Nat -> Fallible ClockResult
  aware : forall call reading, result call = .ok reading ->
    exists now, reading = .datetime now ∧ now.isAware = true
  steady : forall earlier later first second, earlier ≤ later ->
    result earlier = .ok (.datetime first) -> result later = .ok (.datetime second) ->
    first.instant ≤ second.instant

/-- A clock that has stopped is steady. -/
def SteadyClock.stopped (wall : WallClock) : SteadyClock where
  result := fun _ => .ok (.datetime (DateTime.utc wall))
  aware := by
    intro call reading read
    cases read
    exact ⟨_, rfl, rfl⟩
  steady := by
    intro earlier later first second _ atEarlier atLater
    cases atEarlier
    cases atLater
    exact Int.le_refl _

structure CentralService where
  ingestConfig : SentinelConfig
  engineConfig : SentinelConfig
  clock : SteadyClock
  reader : IsoReader

structure CentralWorld where
  ingestion : IngestWorld
  resolutions : Resolutions

/-- A call, with what the storage and the network do during it. -/
inductive CentralCall
  | ingest (telemetry : HostTelemetry) (storage : Fallible Unit)
  | evaluate (host : PyStr) (storage : Fallible Unit) (createConnection : CreateConnection)

inductive CentralResult
  | ingested (result : Fallible HeartbeatReceipt)
  | evaluated (result : Fallible HostHealthEvaluation)

def CentralService.ingestor (service : CentralService) : HeartbeatIngestor where
  config := service.ingestConfig
  clock := service.clock.result

/-- The repository's query, if the storage can be read. -/
def readLatest (service : CentralService) (database : Database) (storage : Fallible Unit)
    (node : PyStr) : Fallible (Option HeartbeatRecord) := do
  storage
  latestHeartbeat service.reader database node

def CentralService.collaborators (service : CentralService) (world : IngestWorld)
    (storage : Fallible Unit) (createConnection : CreateConnection) : EngineCollaborators where
  clock := service.clock.result world.clockCalls
  latestHeartbeat := readLatest service world.database storage
  createConnection := createConnection

/-- The engine reads the clock for a configured host. -/
def clockCallsOf (service : CentralService) (host : PyStr) : Nat :=
  if (service.engineConfig.host host).isSome = true then 1 else 0

def perform (service : CentralService) (world : CentralWorld) :
    CentralCall -> CentralResult × CentralWorld
  | .ingest telemetry storage =>
      let done := ingest service.ingestor storage telemetry world.ingestion
      (.ingested done.1, { world with ingestion := done.2 })
  | .evaluate host storage createConnection =>
      let done := evaluateHost service.engineConfig
        (service.collaborators world.ingestion storage createConnection) host world.resolutions
      (.evaluated done.1, {
        ingestion := { world.ingestion with
          clockCalls := world.ingestion.clockCalls + clockCallsOf service host }
        resolutions := done.2 })

/-- The record a call has made the repository accept. -/
def acceptedBy : CentralCall -> CentralResult -> List HeartbeatRecord
  | .ingest telemetry _, .ingested (.ok receipt) =>
      (HeartbeatRecord.make { telemetry, receivedAt := receipt.receivedAt }).toOption.toList
  | _, _ => []

/-- The world, the records accepted so far and the results, in order. -/
structure CentralRun where
  world : CentralWorld
  accepted : List HeartbeatRecord
  results : List CentralResult

def stepCentral (service : CentralService) (run : CentralRun) (call : CentralCall) : CentralRun :=
  let done := perform service run.world call
  { world := done.2
    accepted := run.accepted ++ acceptedBy call done.1
    results := run.results ++ [done.1] }

/-- Where a run starts: the records in the database are not later than any
reading of the clock. -/
structure CentralStart (service : CentralService) where
  world : CentralWorld
  records : List HeartbeatRecord
  kept : exists entries, Kept { database := world.ingestion.database, inserted := records } entries
  past : forall record, record ∈ records -> forall call now,
    service.clock.result call = .ok (.datetime now) -> record.receivedAt.instant ≤ now.instant

/-- A start without heartbeats. -/
def CentralStart.empty (service : CentralService) : CentralStart service where
  world := { ingestion := ⟨Database.empty, 0⟩, resolutions := fun _ => none }
  records := []
  kept := ⟨[], ⟨rfl, rfl, by simp, List.Pairwise.nil, by simp⟩⟩
  past := by
    intro record impossible
    cases impossible

def runCentral {service : CentralService} (start : CentralStart service) (calls : List CentralCall) :
    CentralRun :=
  calls.foldl (stepCentral service) { world := start.world, accepted := [], results := [] }

theorem runCentral_concat {service : CentralService} (start : CentralStart service)
    (calls : List CentralCall) (call : CentralCall) :
    runCentral start (calls ++ [call]) = stepCentral service (runCentral start calls) call := by
  unfold runCentral
  rw [List.foldl_append]
  rfl

/-- The rows hold the records, no record is later than a reading to come, and the
accepted ones were received in their order, after those there were. -/
structure Timely (service : CentralService) (records : List HeartbeatRecord) (run : CentralRun) :
    Prop where
  kept : exists entries, Kept {
    database := run.world.ingestion.database
    inserted := records ++ run.accepted } entries
  past : forall record, record ∈ records ++ run.accepted -> forall call now,
    run.world.ingestion.clockCalls ≤ call -> service.clock.result call = .ok (.datetime now) ->
    record.receivedAt.instant ≤ now.instant
  ordered : run.accepted.Pairwise
    (fun first second => first.receivedAt.instant ≤ second.receivedAt.instant)
  newer : forall old, old ∈ records -> forall new, new ∈ run.accepted ->
    old.receivedAt.instant ≤ new.receivedAt.instant

theorem timely_start {service : CentralService} (start : CentralStart service) :
    Timely service start.records { world := start.world, accepted := [], results := [] } := by
  constructor
  case kept =>
    rw [List.append_nil]
    exact start.kept
  case past =>
    intro record member call now _ read
    rw [List.append_nil] at member
    exact start.past record member call now read
  case ordered => exact List.Pairwise.nil
  case newer =>
    intro old _ new impossible
    cases impossible

/-- A call that stores nothing only lets time pass. -/
theorem timely_unchanged {service : CentralService} {records : List HeartbeatRecord}
    {run after : CentralRun} (timely : Timely service records run)
    (database : after.world.ingestion.database = run.world.ingestion.database)
    (calls : run.world.ingestion.clockCalls ≤ after.world.ingestion.clockCalls)
    (accepted : after.accepted = run.accepted) : Timely service records after := by
  constructor
  case kept =>
    rw [database, accepted]
    exact timely.kept
  case past =>
    rw [accepted]
    intro record member call now later read
    exact timely.past record member call now (Nat.le_trans calls later) read
  case ordered =>
    rw [accepted]
    exact timely.ordered
  case newer =>
    rw [accepted]
    exact timely.newer

/-- The receipt of an ingestion dates the record that was stored. -/
theorem acceptedBy_ingested {ingestor : HeartbeatIngestor} {telemetry : HostTelemetry}
    {before after : IngestWorld} {receipt : HeartbeatReceipt} {record : HeartbeatRecord}
    {row : StoredRow} (ingested : Ingested ingestor telemetry before after receipt record row)
    (storage : Fallible Unit) :
    acceptedBy (.ingest telemetry storage) (.ingested (.ok receipt)) = [record] := by
  have made : HeartbeatRecord.make record.toHeartbeatRecordFields = .ok record :=
    construct_ok HeartbeatRecord.mk record.accepted
  unfold acceptedBy
  rw [ingested.receipt, <- ingested.content]
  dsimp only
  rw [made]
  rfl

theorem stepCentral_ingest {service : CentralService} {run : CentralRun} {telemetry : HostTelemetry}
    {storage : Fallible Unit} {result : Fallible HeartbeatReceipt} {after : IngestWorld}
    (ended : ingest service.ingestor storage telemetry run.world.ingestion = (result, after)) :
    stepCentral service run (.ingest telemetry storage) = {
      world := { run.world with ingestion := after }
      accepted := run.accepted ++ acceptedBy (.ingest telemetry storage) (.ingested result)
      results := run.results ++ [.ingested result] } := by
  simp only [stepCentral, perform, ended]

theorem timely_step {service : CentralService} {records : List HeartbeatRecord} {run : CentralRun}
    (timely : Timely service records run) (call : CentralCall) :
    Timely service records (stepCentral service run call) := by
  cases call with
  | evaluate host storage createConnection =>
      apply timely_unchanged timely
      · rfl
      · exact Nat.le_add_right _ _
      · exact List.append_nil _
  | ingest telemetry storage =>
      rcases ingest_cases service.ingestor storage telemetry run.world.ingestion with
        ⟨e, after, ended, same, later⟩ | ⟨receipt, after, record, row, ended, ingested⟩
      · rw [stepCentral_ingest ended]
        exact timely_unchanged timely same later (List.append_nil _)
      · rw [stepCentral_ingest ended, acceptedBy_ingested ingested]
        have reading := ingested.clock
        have notBefore (old : HeartbeatRecord) (member : old ∈ records ++ run.accepted) :
            old.receivedAt.instant ≤ record.receivedAt.instant :=
          timely.past old member _ _ (Nat.le_refl _) reading
        constructor
        case kept =>
          rcases timely.kept with ⟨entries, kept⟩
          refine ⟨entries ++ [(row, record)], ?_⟩
          dsimp only
          rw [ingested.world, <- List.append_assoc]
          exact kept_append kept ingested.stores ingested.id
        case past =>
          dsimp only
          rw [ingested.world, <- List.append_assoc]
          intro old member later now atLeast read
          rcases List.mem_append.mp member with earlier | newest
          · exact timely.past old earlier later now (Nat.le_of_succ_le atLeast) read
          · rw [List.mem_singleton.mp newest]
            exact service.clock.steady _ _ _ _ (Nat.le_of_succ_le atLeast) reading read
        case ordered =>
          apply List.pairwise_append.mpr
          refine ⟨timely.ordered, List.pairwise_singleton _ _, ?_⟩
          intro old member new isNew
          rw [List.mem_singleton.mp isNew]
          exact notBefore old (List.mem_append_right _ member)
        case newer =>
          intro old member new accepted
          rcases List.mem_append.mp accepted with earlier | newest
          · exact timely.newer old member new earlier
          · rw [List.mem_singleton.mp newest]
            exact notBefore old (List.mem_append_left _ member)

theorem timely_run {service : CentralService} (start : CentralStart service)
    (calls : List CentralCall) : Timely service start.records (runCentral start calls) := by
  induction calls using List.reverseRecOn with
  | nil => exact timely_start start
  | append_singleton earlier call inductionHypothesis =>
      rw [runCentral_concat]
      exact timely_step inductionHypothesis call

/-- The last accepted record of a node. -/
def lastOf (accepted : List HeartbeatRecord) (node : PyStr) : Option HeartbeatRecord :=
  accepted.reverse.find? fun record => decide (record.node = node)

/-- The record accepted last is the one received last. -/
theorem Timely.lastOf_isLatest {service : CentralService} {records : List HeartbeatRecord}
    {run : CentralRun} (timely : Timely service records run) {node : PyStr}
    {record : HeartbeatRecord} (last : lastOf run.accepted node = some record) :
    IsLatest (records ++ run.accepted) node record := by
  rcases List.find?_eq_some_iff_append.mp last with ⟨own, later, earlier, shape, others⟩
  have forward : run.accepted = earlier.reverse ++ record :: later.reverse := by
    rw [<- List.reverse_reverse run.accepted, shape, List.reverse_append, List.reverse_cons,
      List.append_assoc, List.singleton_append]
  have ordered := timely.ordered
  rw [forward, List.pairwise_append] at ordered
  refine ⟨records ++ earlier.reverse, later.reverse, ?_, of_decide_eq_true own, ?_, ?_⟩
  · rw [forward, List.append_assoc]
  · intro other member _
    rcases List.mem_append.mp member with old | accepted
    · apply timely.newer other old record
      rw [forward]
      exact List.mem_append_right _ List.mem_cons_self
    · exact ordered.2.2 other accepted record List.mem_cons_self
  · intro other member same
    have different := others other (List.mem_reverse.mp member)
    rw [same, decide_eq_true rfl] at different
    cases different

end Central
end HermesSentinel
