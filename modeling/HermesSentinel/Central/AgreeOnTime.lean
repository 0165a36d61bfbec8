import HermesSentinel.Central.Evaluation
import HermesSentinel.Heartbeat.ClientErrors

namespace HermesSentinel
namespace Central

open Python
open Domain
open Foundation
open Heartbeat
open Host

/-!
# Ingestion and evaluation agree on time

Two runs whose reporters differ in nothing but the time they report have the
same results, as long as the repository can store the one time exactly if it
can store the other.  The contract puts this next to what every evaluation of
one run satisfies.  A time that cannot be stored keeps its heartbeat out of the
database, and the evaluations that follow miss it.
-/

/-- Two reported times that are both stored, or both refused for one reason. -/
structure StoredAlike (first second : DateTime) : Prop where
  aware : first.isAware = second.isAware
  representable : first.UtcRepresentable ↔ second.UtcRepresentable

/-- The same measurements of the same host, with reported times of their own. -/
structure SameButReport (first second : HostTelemetry) : Prop where
  host : first.host = second.host
  uptimeSeconds : first.uptimeSeconds = second.uptimeSeconds
  load : first.load = second.load
  cpuPercent : first.cpuPercent = second.cpuPercent
  ram : first.ram = second.ram
  swap : first.swap = second.swap
  rootFilesystem : first.rootFilesystem = second.rootFilesystem
  rootInodes : first.rootInodes = second.rootInodes

/-- The same call, up to reported times that are related. -/
inductive SameCall (Reported : DateTime -> DateTime -> Prop) : CentralCall -> CentralCall -> Prop
  | ingest {first second : HostTelemetry} (same : SameButReport first second)
      (reported : Reported first.timestamp second.timestamp) (storage : Fallible Unit) :
      SameCall Reported (.ingest first storage) (.ingest second storage)
  | evaluate (host : PyStr) (storage : Fallible Unit) (createConnection : CreateConnection) :
      SameCall Reported (.evaluate host storage createConnection)
        (.evaluate host storage createConnection)

theorem serializeTimestamp_unrepresentable {value : DateTime} (aware : value.isAware = true)
    (outside : ¬ value.UtcRepresentable) :
    serializeTimestamp value = raise .overflowError "date value out of range" := by
  unfold serializeTimestamp Heartbeat.requireAware DateTime.astimezoneUtc
  rw [(require_eq_ok _ _).mpr aware, ok_bind, dif_neg outside]
  rfl

theorem serializeTimestamp_representable {value : DateTime} (aware : value.isAware = true)
    (inside : value.UtcRepresentable) :
    exists wall, serializeTimestamp value = .ok (isoformat wall) := by
  rcases DateTime.astimezoneUtc_total inside with ⟨wall, converted, _⟩
  exact ⟨wall, serializeTimestamp_eq_ok.mpr ⟨aware, wall, converted, rfl⟩⟩

/-- The parameters of a record are bound exactly when its node is. -/
theorem bind_parameters {record : HeartbeatRecord} {parameters : List Parameter}
    (built : recordParameters record = .ok parameters) :
    (forall e, bindParameter (.text record.node) = .error e ->
      parameters.mapM bindParameter = .error e) ∧
    (forall value, bindParameter (.text record.node) = .ok value ->
      exists values, parameters.mapM bindParameter = .ok values) := by
  have whole := built
  simp only [recordParameters, bind_eq_ok, serializeTimestamp_eq_ok] at built
  rcases built with ⟨_, ⟨_, reportedAt, reported, _⟩, _, ⟨_, receivedAt, received, _⟩, same⟩
  constructor
  · intro e failed
    cases same
    rw [List.mapM_cons, failed]
    rfl
  · intro value bound
    cases encoded : Utf8.encode .strict record.node with
    | none =>
        rw [bindParameter, encoded] at bound
        cases bound
    | some bytes =>
        have inserted := recordParameters_bound encoded reported received
        rw [whole, ok_bind] at inserted
        exact ⟨_, inserted⟩

/-- The result of an insertion does not depend on the reported time. -/
theorem insertHeartbeat_congr {first second : HeartbeatRecord} {db other : Database}
    (node : first.node = second.node) (receivedAt : first.receivedAt = second.receivedAt)
    (representable : first.telemetry.timestamp.UtcRepresentable ↔
      second.telemetry.timestamp.UtcRepresentable)
    (lastId : db.lastId = other.lastId) (storage : Fallible Unit) :
    (insertHeartbeat storage first db).1 = (insertHeartbeat storage second other).1 ∧
      (insertHeartbeat storage first db).2.lastId = (insertHeartbeat storage second other).2.lastId := by
  have built : (exists e, recordParameters first = .error e ∧ recordParameters second = .error e) ∨
      (exists parameters parameters', recordParameters first = .ok parameters ∧
        recordParameters second = .ok parameters') := by
    unfold recordParameters
    dsimp only
    by_cases reported : first.telemetry.timestamp.UtcRepresentable
    · rcases serializeTimestamp_representable first.valid.2.2 reported with ⟨_, firstReport⟩
      rcases serializeTimestamp_representable second.valid.2.2 (representable.mp reported) with
        ⟨_, secondReport⟩
      rw [firstReport, secondReport, ok_bind, ok_bind, receivedAt]
      cases serializeTimestamp second.receivedAt with
      | error e => exact .inl ⟨e, rfl, rfl⟩
      | ok stored => exact .inr ⟨_, _, rfl, rfl⟩
    · have notSecond := fun inside => reported (representable.mpr inside)
      rw [serializeTimestamp_unrepresentable first.valid.2.2 reported,
        serializeTimestamp_unrepresentable second.valid.2.2 notSecond]
      exact .inl ⟨_, rfl, rfl⟩
  simp only [insertHeartbeat, executeInsert, bind, pure, Program.bind, Program.pure, Program.lift,
    Program.read, Program.update]
  rcases built with ⟨e, firstFailed, secondFailed⟩ | ⟨parameters, parameters', firstBuilt, secondBuilt⟩
  · rw [firstFailed, secondFailed]
    exact ⟨rfl, lastId⟩
  · rw [firstBuilt, secondBuilt]
    dsimp only
    cases bound : bindParameter (.text first.node) with
    | error e =>
        rw [(bind_parameters firstBuilt).1 e bound]
        rw [node] at bound
        rw [(bind_parameters secondBuilt).1 e bound]
        exact ⟨rfl, lastId⟩
    | ok value =>
        rcases (bind_parameters firstBuilt).2 value bound with ⟨values, firstBound⟩
        rw [node] at bound
        rcases (bind_parameters secondBuilt).2 value bound with ⟨values', secondBound⟩
        rw [firstBound, secondBound]
        cases storage with
        | error e => exact ⟨rfl, lastId⟩
        | ok _ =>
            dsimp only
            rw [lastId]
            exact ⟨rfl, rfl⟩

/-- Whether a record can be made does not depend on the report. -/
theorem make_congr {first second : HostTelemetry} (same : SameButReport first second)
    (aware : first.timestamp.isAware = second.timestamp.isAware) (receivedAt : DateTime) :
    (exists e, HeartbeatRecord.make ⟨first, receivedAt⟩ = .error e ∧
      HeartbeatRecord.make ⟨second, receivedAt⟩ = .error e) ∨
    (exists accepted accepted',
      HeartbeatRecord.make ⟨first, receivedAt⟩ = .ok ⟨⟨first, receivedAt⟩, accepted⟩ ∧
      HeartbeatRecord.make ⟨second, receivedAt⟩ = .ok ⟨⟨second, receivedAt⟩, accepted'⟩) := by
  have sameChecks : HeartbeatRecordFields.postInit ⟨first, receivedAt⟩ =
      HeartbeatRecordFields.postInit ⟨second, receivedAt⟩ := by
    unfold HeartbeatRecordFields.postInit
    dsimp only
    rw [same.host, Heartbeat.requireAware, Heartbeat.requireAware, Heartbeat.requireAware, aware]
  cases made : HeartbeatRecord.make ⟨first, receivedAt⟩ with
  | error e =>
      have refused := construct_eq_error.mp made
      exact .inl ⟨e, rfl, construct_eq_error.mpr (sameChecks.symm.trans refused)⟩
  | ok record =>
      rcases construct_eq_ok.mp made with ⟨accepted, built⟩
      refine .inr ⟨accepted, sameChecks.symm.trans accepted, ?_, construct_ok HeartbeatRecord.mk _⟩
      rw [built]

/-- Nor does the result of an ingestion. -/
theorem ingest_congr {ingestor : HeartbeatIngestor} {first second : HostTelemetry}
    (same : SameButReport first second)
    (reported : StoredAlike first.timestamp second.timestamp) {world other : IngestWorld}
    (clockCalls : world.clockCalls = other.clockCalls)
    (lastId : world.database.lastId = other.database.lastId) (storage : Fallible Unit) :
    (ingest ingestor storage first world).1 = (ingest ingestor storage second other).1 ∧
      (ingest ingestor storage first world).2.clockCalls =
        (ingest ingestor storage second other).2.clockCalls ∧
      (ingest ingestor storage first world).2.database.lastId =
        (ingest ingestor storage second other).2.database.lastId := by
  simp only [ingest, readClock, onDatabase, bind, pure, Program.bind, Program.pure, Program.lift,
    Program.read, Program.update, Program.zoom, same.host]
  cases ensure .unknownNodeError ((ingestor.config.host second.host).isSome = true)
      "unknown Sentinel node" with
  | error e => exact ⟨rfl, clockCalls, lastId⟩
  | ok _ =>
      dsimp only
      rw [clockCalls]
      cases ingestor.clock other.clockCalls with
      | error e => exact ⟨rfl, rfl, lastId⟩
      | ok reading =>
          dsimp only
          cases requireAwareClock .ingestionInvalidClockResultError
              "central clock must return a timezone-aware datetime (tzinfo is not None and utcoffset() is not None)"
              reading with
          | error e => exact ⟨rfl, rfl, lastId⟩
          | ok receivedAt =>
              dsimp only
              rcases make_congr same reported.aware receivedAt with
                ⟨e, refused, alsoRefused⟩ | ⟨accepted, accepted', made, alsoMade⟩
              · rw [refused, alsoRefused]
                exact ⟨rfl, rfl, lastId⟩
              · rw [made, alsoMade]
                dsimp only
                rcases @insertHeartbeat_congr ⟨⟨first, receivedAt⟩, accepted⟩
                  ⟨⟨second, receivedAt⟩, accepted'⟩ world.database other.database same.host rfl
                  reported.representable lastId storage with ⟨sameResult, sameId⟩
                rw [sameResult]
                cases (insertHeartbeat storage ⟨⟨second, receivedAt⟩, accepted'⟩ other.database).1 with
                | error e => exact ⟨rfl, rfl, sameId⟩
                | ok id => exact ⟨rfl, rfl, sameId⟩

/-- Two answers of the repository that an evaluation cannot tell apart. -/
inductive SameReading :
    Fallible (Option HeartbeatRecord) -> Fallible (Option HeartbeatRecord) -> Prop
  | failed (e : Raised) : SameReading (.error e) (.error e)
  | nothing : SameReading (.ok none) (.ok none)
  | stored {first second : HeartbeatRecord} (alike : Alike first second) :
      SameReading (.ok (some first)) (.ok (some second))

theorem acquireEvidence_congr {config : SentinelConfig} {first second : EngineCollaborators}
    {host : PyStr} (clock : first.clock = second.clock)
    (network : first.createConnection = second.createConnection)
    (reading : SameReading (first.latestHeartbeat host) (second.latestHeartbeat host)) :
    acquireEvidence config first host = acquireEvidence config second host := by
  unfold acquireEvidence
  rw [clock, network]
  generalize first.latestHeartbeat host = firstLatest at reading
  generalize second.latestHeartbeat host = secondLatest at reading
  cases reading with
  | failed e => rfl
  | nothing => rfl
  | stored alike =>
      have sameFreshness (now : DateTime) (settings : HeartbeatSettings) := alike.freshness now settings
      simp only [ok_bind, Option.map_some, sameFreshness, alike.resources]

theorem evaluateHost_congr {config : SentinelConfig} {first second : EngineCollaborators}
    {host : PyStr} (same : acquireEvidence config first host = acquireEvidence config second host)
    (resolutions : Resolutions) :
    evaluateHost config first host resolutions = evaluateHost config second host resolutions := by
  unfold evaluateHost
  rw [same]

/-- A name that is refused is refused whatever is stored. -/
theorem latestHeartbeat_refused (reader : IsoReader) {node : PyStr} (refused : ¬ Acceptable node)
    (db other : Database) : latestHeartbeat reader db node = latestHeartbeat reader other node := by
  unfold latestHeartbeat
  cases checked : Heartbeat.requireValidNode "node" node with
  | error e => rfl
  | ok _ =>
      cases bound : bindParameter (.text node) with
      | error e => rfl
      | ok value =>
          exfalso
          apply refused
          refine ⟨(require_eq_ok _ _).mp checked, ?_⟩
          cases encoded : Utf8.encode .strict node with
          | some bytes => rfl
          | none =>
              rw [bindParameter, encoded] at bound
              cases bound

/-! ## Two runs -/

theorem withoutReport_congr {first second : HeartbeatRecord}
    (same : SameButReport first.telemetry second.telemetry)
    (receivedAt : first.receivedAt = second.receivedAt) :
    withoutReport first = withoutReport second := by
  rcases first with ⟨⟨⟨⟨host, _, uptime, load, cpu, ram, swap, filesystem, inodes⟩, _⟩, received⟩, _⟩
  rcases second with ⟨⟨⟨⟨host', _, uptime', load', cpu', ram', swap', filesystem', inodes'⟩, _⟩,
    received'⟩, _⟩
  rcases same with ⟨sameHost, sameUptime, sameLoad, sameCpu, sameRam, sameSwap, sameFilesystem,
    sameInodes⟩
  dsimp only at sameHost sameUptime sameLoad sameCpu sameRam sameSwap sameFilesystem sameInodes receivedAt
  subst sameHost sameUptime sameLoad sameCpu sameRam sameSwap sameFilesystem sameInodes receivedAt
  rfl

/-- The runs agree, up to the reported times. -/
structure Parallel (first second : CentralRun) : Prop where
  clockCalls : first.world.ingestion.clockCalls = second.world.ingestion.clockCalls
  lastId : first.world.ingestion.database.lastId = second.world.ingestion.database.lastId
  resolutions : first.world.resolutions = second.world.resolutions
  accepted : first.accepted.map withoutReport = second.accepted.map withoutReport
  results : first.results = second.results

/-- The same result makes the repository accept the same, up to the reported time. -/
theorem acceptedBy_congr {first second : HostTelemetry} (same : SameButReport first second)
    (aware : first.timestamp.isAware = second.timestamp.isAware) (storage : Fallible Unit)
    (result : Fallible HeartbeatReceipt) :
    (acceptedBy (.ingest first storage) (.ingested result)).map withoutReport =
      (acceptedBy (.ingest second storage) (.ingested result)).map withoutReport := by
  cases result with
  | error e => rfl
  | ok receipt =>
      unfold acceptedBy
      dsimp only
      rcases make_congr same aware receipt.receivedAt with
        ⟨e, refused, alsoRefused⟩ | ⟨accepted, accepted', made, alsoMade⟩
      · rw [refused, alsoRefused]
      · rw [made, alsoMade]
        show [withoutReport _] = [withoutReport _]
        rw [@withoutReport_congr ⟨⟨first, receipt.receivedAt⟩, accepted⟩
          ⟨⟨second, receipt.receivedAt⟩, accepted'⟩ same rfl]

section

variable {service : CentralService} {records : List HeartbeatRecord} {first second : CentralRun}

/-- Both repositories answer alike. -/
theorem Parallel.sameReading (parallel : Parallel first second)
    (firstTimely : Timely service records first) (secondTimely : Timely service records second)
    (storage : Fallible Unit) (host : PyStr) :
    SameReading (readLatest service first.world.ingestion.database storage host)
      (readLatest service second.world.ingestion.database storage host) := by
  unfold readLatest
  cases storage with
  | error e => exact .failed e
  | ok _ =>
      rw [ok_bind, ok_bind]
      have whole : (records ++ first.accepted).map withoutReport =
          (records ++ second.accepted).map withoutReport := by
        rw [List.map_append, List.map_append, parallel.accepted]
      have nodes : (records ++ first.accepted).map HeartbeatRecord.node =
          (records ++ second.accepted).map HeartbeatRecord.node := by
        have mapped := congrArg (List.map HeartbeatRecord.node) whole
        rw [List.map_map, List.map_map] at mapped
        exact mapped
      rcases firstTimely.stored_cases host with ⟨absent, nothing, refused⟩ | ⟨record, restored, stored⟩
      · rcases secondTimely.stored_cases host with
          ⟨_, nothing', refused'⟩ | ⟨record', restored', stored'⟩
        · by_cases acceptable : Acceptable host
          · rw [nothing acceptable, nothing' acceptable]
            exact .nothing
          · rcases refused acceptable with ⟨e, failed⟩
            rw [latestHeartbeat_refused service.reader acceptable second.world.ingestion.database
              first.world.ingestion.database, failed]
            exact .failed e
        · exfalso
          rcases stored'.isLatest with ⟨earlier, later, shape, named, _⟩
          have member : host ∈ (records ++ second.accepted).map HeartbeatRecord.node := by
            rw [shape, <- named]
            exact List.mem_map_of_mem (List.mem_append_right _ List.mem_cons_self)
          rw [<- nodes] at member
          rcases List.mem_map.mp member with ⟨other, present, same⟩
          exact absent other present same
      · rcases secondTimely.stored_cases host with
          ⟨absent, nothing, refused⟩ | ⟨record', restored', stored'⟩
        · exfalso
          rcases stored.isLatest with ⟨earlier, later, shape, named, _⟩
          have member : host ∈ (records ++ first.accepted).map HeartbeatRecord.node := by
            rw [shape, <- named]
            exact List.mem_map_of_mem (List.mem_append_right _ List.mem_cons_self)
          rw [nodes] at member
          rcases List.mem_map.mp member with ⟨other, present, same⟩
          exact absent other present same
        · rw [stored.read, stored'.read]
          have firstLatest := IsLatest.withoutReport stored.isLatest
          rw [whole] at firstLatest
          have same := firstLatest.unique (IsLatest.withoutReport stored'.isLatest)
          exact .stored (((Alike.of_same stored.same).trans (Alike.of_withoutReport same)).trans
            (Alike.of_same stored'.same).symm)

theorem parallel_step (parallel : Parallel first second) (firstTimely : Timely service records first)
    (secondTimely : Timely service records second) {call call' : CentralCall}
    (same : SameCall StoredAlike call call') :
    Parallel (stepCentral service first call) (stepCentral service second call') := by
  cases same with
  | ingest telemetries reported storage =>
      rename_i t t'
      rcases @ingest_congr service.ingestor t t' telemetries reported first.world.ingestion
        second.world.ingestion parallel.clockCalls parallel.lastId storage with
          ⟨sameResult, sameCalls, sameId⟩
      constructor
      · exact sameCalls
      · exact sameId
      · exact parallel.resolutions
      · simp only [stepCentral, perform, List.map_append]
        rw [parallel.accepted, sameResult, acceptedBy_congr telemetries reported.aware]
      · simp only [stepCentral, perform]
        rw [parallel.results, sameResult]
  | evaluate host storage createConnection =>
      have evidence : acquireEvidence service.engineConfig
          (service.collaborators first.world.ingestion storage createConnection) host =
          acquireEvidence service.engineConfig
            (service.collaborators second.world.ingestion storage createConnection) host := by
        apply acquireEvidence_congr
        · show service.clock.result _ = service.clock.result _
          rw [parallel.clockCalls]
        · rfl
        · exact parallel.sameReading firstTimely secondTimely storage host
      have done := evaluateHost_congr evidence first.world.resolutions
      rw [parallel.resolutions] at done
      constructor
      · simp only [stepCentral, perform]
        rw [parallel.clockCalls]
      · exact parallel.lastId
      · simp only [stepCentral, perform]
        rw [parallel.resolutions, done]
      · simp only [stepCentral, perform, acceptedBy, List.append_nil]
        exact parallel.accepted
      · simp only [stepCentral, perform]
        rw [parallel.results, parallel.resolutions, done]

end

/-- Runs stay parallel whose calls differ in nothing but reported times that are
stored alike. -/
theorem parallel_run {service : CentralService} (start : CentralStart service)
    {calls calls' : List CentralCall} (same : List.Forall₂ (SameCall StoredAlike) calls calls') :
    Parallel (runCentral start calls) (runCentral start calls') := by
  have reversed := List.rel_reverse same
  rw [<- List.reverse_reverse calls, <- List.reverse_reverse calls']
  generalize calls.reverse = backward at reversed
  generalize calls'.reverse = backward' at reversed
  induction reversed with
  | nil => exact ⟨rfl, rfl, rfl, rfl, rfl⟩
  | @cons call call' earlier earlier' sameCall _ inductionHypothesis =>
      rw [List.reverse_cons, List.reverse_cons, runCentral_concat, runCentral_concat]
      exact parallel_step inductionHypothesis (timely_run start _) (timely_run start _) sameCall

/-- What holds at one point of a run, and of two runs. -/
structure CentralContract {service : CentralService} (start : CentralStart service)
    (calls : List CentralCall) : Prop where
  /-- The freshness check does not fail, whatever heartbeat the repository answers with. -/
  neverFuture : forall host now latest settings,
    service.clock.result (runCentral start calls).world.ingestion.clockCalls = .ok (.datetime now) ->
    latestHeartbeat service.reader (runCentral start calls).world.ingestion.database host =
      .ok latest ->
    exists freshness, evaluateHeartbeatFreshness now
      (latest.map (fun record => record.receivedAt)) settings = .ok freshness
  /-- An evaluation that fails is stopped by something else. -/
  stopped : forall host storage createConnection e,
    evaluation service (runCentral start calls) host storage createConnection = .error e ->
    Stopped service (runCentral start calls) host storage createConnection e
  /-- An evaluation that returns uses the heartbeat accepted last. -/
  uses : forall host storage createConnection result,
    evaluation service (runCentral start calls) host storage createConnection = .ok result ->
    exists hostConfig now, service.engineConfig.host host = some hostConfig ∧
      service.clock.result (runCentral start calls).world.ingestion.clockCalls =
        .ok (.datetime now) ∧
      UsesMostRecent start.records (runCentral start calls) host hostConfig now result
  /-- Reported times that are stored alike influence no result. -/
  reports : forall calls', List.Forall₂ (SameCall StoredAlike) calls calls' ->
    (runCentral start calls).results = (runCentral start calls').results

theorem ingestion_and_evaluation_agree {service : CentralService} (start : CentralStart service)
    (calls : List CentralCall) : CentralContract start calls := by
  have timely := timely_run start calls
  constructor
  case neverFuture =>
    intro host now latest settings reading read
    rcases service.clock.aware _ _ reading with ⟨same, isNow, aware⟩
    cases isNow
    apply evaluateHeartbeatFreshness_total settings aware
    intro received found
    rcases Option.map_eq_some_iff.mp found with ⟨record, present, rfl⟩
    exact ⟨record.valid.2.1, timely.never_future reading read record present⟩
  case stopped =>
    intro host storage createConnection e failed
    exact timely.stopped failed
  case uses =>
    intro host storage createConnection result returned
    exact timely.uses_most_recent returned
  case reports =>
    intro calls' same
    exact (parallel_run start same).results

def outpostService : CentralService where
  ingestConfig := outpostConfig
  engineConfig := outpostConfig
  clock := SteadyClock.stopped ⟨0, zero_inRange⟩
  reader := extendedFormat

def quietResourceFields : ResourceUsageFields :=
  ⟨PyFloat.zero, PyFloat.zero, PyFloat.zero⟩

theorem quietResource_accepted : quietResourceFields.postInit = .ok () := by
  decide

def quietResource : ResourceUsage :=
  ⟨quietResourceFields, quietResource_accepted⟩

def quietLoadFields : LoadAverageFields :=
  ⟨PyFloat.zero, PyFloat.zero, PyFloat.zero⟩

theorem quietLoad_accepted : quietLoadFields.postInit = .ok () := by
  decide

/-- A host at rest, as it may report at any time that carries a time zone. -/
def quietTelemetry (reportedAt : DateTime) (zoned : reportedAt.tzinfo.isSome = true) :
    HostTelemetry where
  host := text "a"
  timestamp := reportedAt
  uptimeSeconds := PyFloat.zero
  load := ⟨quietLoadFields, quietLoad_accepted⟩
  cpuPercent := PyFloat.zero
  ram := quietResource
  swap := quietResource
  rootFilesystem := quietResource
  rootInodes := quietResource
  accepted := by
    have named : text "a" ≠ [] := by decide
    simp only [HostTelemetryFields.postInit, requireNonEmpty, check_bind_eq_ok, require_eq_ok]
    exact ⟨named, zoned, by decide, by decide⟩

/-- The status that an evaluation of the host finds after the heartbeat was reported. -/
def statusAfter (telemetry : HostTelemetry) : Option HeartbeatFreshness :=
  let run := runCentral (CentralStart.empty outpostService) [.ingest telemetry (.ok ())]
  (evaluation outpostService run (text "a") (.ok ()) fun _ _ _ => .ok (.ok ())).toOption.map
    fun result => result.freshness.status

/-- Two heartbeats of one moment and one host.  The one whose reported time lies
before the years of UTC is missed, the other is found. -/
theorem reported_time_decides :
    SameButReport (quietTelemetry beforeUtcMoment rfl)
        (quietTelemetry (DateTime.utc ⟨0, zero_inRange⟩) rfl) ∧
      statusAfter (quietTelemetry beforeUtcMoment rfl) = some .missing ∧
      statusAfter (quietTelemetry (DateTime.utc ⟨0, zero_inRange⟩) rfl) = some .fresh := by
  refine ⟨⟨rfl, rfl, rfl, rfl, rfl, rfl, rfl, rfl⟩, ?_, ?_⟩
  · decide +kernel
  · decide +kernel

end Central
end HermesSentinel
