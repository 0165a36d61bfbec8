import HermesSentinel.Central.Interleaving

namespace HermesSentinel
namespace Central

open Python
open Domain
open Foundation
open Heartbeat
open Host

/-!
# Evaluations during a run

At every point of a run the heartbeat stored for a host is the one accepted
last, it is not later than the clock, and an evaluation uses nothing of it but
its measurements and its age.
-/

/-- A record with the reported time replaced by the time of receipt. -/
def withoutReport (record : HeartbeatRecord) : HeartbeatRecord where
  telemetry := {
    toHostTelemetryFields :=
      { record.telemetry.toHostTelemetryFields with timestamp := record.receivedAt }
    accepted := by
      have accepted := record.telemetry.accepted
      simp only [HostTelemetryFields.postInit, check_bind_eq_ok, require_eq_ok] at accepted ⊢
      exact ⟨accepted.1, tzinfo_of_isAware record.valid.2.1, accepted.2.2⟩ }
  receivedAt := record.receivedAt
  accepted := by
    simp only [HeartbeatRecordFields.postInit, Heartbeat.requireValidNode, Heartbeat.requireAware,
      check_bind_eq_ok, require_eq_ok]
    exact ⟨record.valid.1, record.valid.2.1, record.valid.2.1⟩

/-- The two records weigh the same in an evaluation. -/
structure Alike (first second : HeartbeatRecord) : Prop where
  receivedAt : first.receivedAt.instant = second.receivedAt.instant
  load : first.telemetry.load = second.telemetry.load
  cpuPercent : first.telemetry.cpuPercent = second.telemetry.cpuPercent
  ram : first.telemetry.ram = second.telemetry.ram
  swap : first.telemetry.swap = second.telemetry.swap
  rootFilesystem : first.telemetry.rootFilesystem = second.telemetry.rootFilesystem
  rootInodes : first.telemetry.rootInodes = second.telemetry.rootInodes

theorem Alike.of_same {restored record : HeartbeatRecord} (same : SameObservation restored record) :
    Alike restored record :=
  ⟨same.receivedAt, same.load, same.cpuPercent, same.ram, same.swap, same.rootFilesystem,
    same.rootInodes⟩

theorem Alike.symm {first second : HeartbeatRecord} (alike : Alike first second) :
    Alike second first :=
  ⟨alike.receivedAt.symm, alike.load.symm, alike.cpuPercent.symm, alike.ram.symm, alike.swap.symm,
    alike.rootFilesystem.symm, alike.rootInodes.symm⟩

theorem Alike.trans {first second third : HeartbeatRecord} (left : Alike first second)
    (right : Alike second third) : Alike first third :=
  ⟨left.receivedAt.trans right.receivedAt, left.load.trans right.load,
    left.cpuPercent.trans right.cpuPercent, left.ram.trans right.ram, left.swap.trans right.swap,
    left.rootFilesystem.trans right.rootFilesystem, left.rootInodes.trans right.rootInodes⟩

theorem Alike.withoutReport (record : HeartbeatRecord) :
    Alike record (Central.withoutReport record) :=
  ⟨rfl, rfl, rfl, rfl, rfl, rfl, rfl⟩

theorem Alike.of_withoutReport {first second : HeartbeatRecord}
    (same : Central.withoutReport first = Central.withoutReport second) : Alike first second := by
  have left := Alike.withoutReport first
  rw [same] at left
  exact left.trans (Alike.withoutReport second).symm

/-- An age is computed from instants. -/
theorem evaluateHeartbeatFreshness_congr (now : DateTime) {first second : DateTime}
    (firstAware : first.isAware = true) (secondAware : second.isAware = true)
    (same : first.instant = second.instant) (settings : HeartbeatSettings) :
    evaluateHeartbeatFreshness now (some first) settings =
      evaluateHeartbeatFreshness now (some second) settings := by
  unfold evaluateHeartbeatFreshness Host.requireAware
  dsimp only
  rw [(require_eq_ok _ _).mpr firstAware, (require_eq_ok _ _).mpr secondAware, same]

theorem Alike.freshness {first second : HeartbeatRecord} (alike : Alike first second)
    (now : DateTime) (settings : HeartbeatSettings) :
    evaluateHeartbeatFreshness now (some first.receivedAt) settings =
      evaluateHeartbeatFreshness now (some second.receivedAt) settings :=
  evaluateHeartbeatFreshness_congr now first.valid.2.1 second.valid.2.1 alike.receivedAt settings

theorem Alike.resources {first second : HeartbeatRecord} (alike : Alike first second)
    (thresholds : Thresholds) :
    assessResources (some first) thresholds = assessResources (some second) thresholds := by
  unfold assessResources evaluateResourceThresholds
  dsimp only
  rw [alike.cpuPercent, alike.ram, alike.swap, alike.rootFilesystem, alike.rootInodes, alike.load]

theorem IsLatest.withoutReport {inserted : List HeartbeatRecord} {node : PyStr}
    {latest : HeartbeatRecord} (isLatest : IsLatest inserted node latest) :
    IsLatest (inserted.map Central.withoutReport) node (Central.withoutReport latest) := by
  rcases isLatest with ⟨earlier, later, shape, named, before, after⟩
  refine ⟨earlier.map Central.withoutReport, later.map Central.withoutReport, ?_, named, ?_, ?_⟩
  · rw [shape, List.map_append, List.map_cons]
  · intro other member same
    rcases List.mem_map.mp member with ⟨record, present, rfl⟩
    exact before record present same
  · intro other member same
    rcases List.mem_map.mp member with ⟨record, present, rfl⟩
    exact after record present same

section

variable {service : CentralService} {records : List HeartbeatRecord} {run : CentralRun}

/-- The heartbeat an evaluation of the host gets to see. -/
structure StoredFor (service : CentralService) (records : List HeartbeatRecord) (run : CentralRun)
    (host : PyStr) (record restored : HeartbeatRecord) : Prop where
  isLatest : IsLatest (records ++ run.accepted) host record
  lastAccepted : forall last, lastOf run.accepted host = some last -> record = last
  read : latestHeartbeat service.reader run.world.ingestion.database host = .ok (some restored)
  same : SameObservation restored record

/-- The query gives the most recently accepted heartbeat, nothing where none
was accepted, and refuses only a name that no record can have. -/
theorem Timely.stored_cases (timely : Timely service records run) (host : PyStr) :
    ((forall record, record ∈ records ++ run.accepted -> record.node ≠ host) ∧
      (Acceptable host ->
        latestHeartbeat service.reader run.world.ingestion.database host = .ok none) ∧
      (¬ Acceptable host ->
        exists e, latestHeartbeat service.reader run.world.ingestion.database host = .error e)) ∨
    (exists record restored, StoredFor service records run host record restored) := by
  rcases timely.kept with ⟨entries, kept⟩
  have contract := kept_contract service.reader kept host
  by_cases present : exists record, record ∈ records ++ run.accepted ∧ record.node = host
  · rcases contract.present present with ⟨record, restored, isLatest, read, same, _⟩
    refine .inr ⟨record, restored, isLatest, ?_, read, same⟩
    intro last found
    exact isLatest.unique (timely.lastOf_isLatest found)
  · have absent : forall record, record ∈ records ++ run.accepted -> record.node ≠ host := by
      intro record member same
      exact present ⟨record, member, same⟩
    refine .inl ⟨absent, ?_, ?_⟩
    · intro acceptable
      exact (contract.absent acceptable).1.mpr absent
    · intro refused
      exact (contract.refused refused).2.1

/-- What is stored is not later than the clock. -/
theorem Timely.stored_past (timely : Timely service records run) {host : PyStr}
    {record restored : HeartbeatRecord} (stored : StoredFor service records run host record restored)
    {now : DateTime}
    (reading : service.clock.result run.world.ingestion.clockCalls = .ok (.datetime now)) :
    restored.receivedAt.instant ≤ now.instant := by
  rcases stored.isLatest with ⟨earlier, later, shape, _⟩
  have member : record ∈ records ++ run.accepted := by
    rw [shape]
    exact List.mem_append_right _ List.mem_cons_self
  rw [stored.same.receivedAt]
  exact timely.past record member _ now (Nat.le_refl _) reading

/-! ## One evaluation -/

/-- The result of the evaluation of a host at this point of the run. -/
def evaluation (service : CentralService) (run : CentralRun) (host : PyStr)
    (storage : Fallible Unit) (createConnection : CreateConnection) :
    Fallible HostHealthEvaluation :=
  (evaluateHost service.engineConfig
    (service.collaborators run.world.ingestion storage createConnection) host
    run.world.resolutions).1

/-- An evaluation that returned has acquired its evidence from the clock and the store. -/
theorem evaluation_eq_ok {host : PyStr} {storage : Fallible Unit}
    {createConnection : CreateConnection} {result : HostHealthEvaluation}
    (returned : evaluation service run host storage createConnection = .ok result) :
    exists hostConfig now latest, service.engineConfig.host host = some hostConfig ∧
      service.clock.result run.world.ingestion.clockCalls = .ok (.datetime now) ∧
      latestHeartbeat service.reader run.world.ingestion.database host = .ok latest ∧
      result.evaluatedAt = now ∧
      evaluateHeartbeatFreshness now (latest.map (fun record => record.receivedAt))
        hostConfig.heartbeat = .ok result.freshness ∧
      assessResources latest hostConfig.thresholds = .ok result.resources := by
  unfold evaluation at returned
  cases acquired : acquireEvidence service.engineConfig
      (service.collaborators run.world.ingestion storage createConnection) host with
  | error e =>
      rw [evaluateHost_failed acquired] at returned
      cases returned
  | ok evidence =>
      rcases evaluateHost_committed acquired run.world.resolutions with ⟨committed, done, from_⟩
      rw [done] at returned
      cases returned
      rcases acquireEvidence_valid acquired with ⟨configured, _⟩
      simp only [acquireEvidence, bind_eq_ok] at acquired
      rcases acquired with ⟨hostConfig, required, reading, read, now, clocked, latest, stored,
        freshness, classified, resources, assessed, reachability, _, built⟩
      cases built
      have isReading := (requireAwareClock_eq_ok.mp clocked).1
      unfold CentralService.collaborators readLatest at stored
      dsimp only at stored
      rw [check_bind_eq_ok] at stored
      refine ⟨hostConfig, now, latest, configured, ?_, stored.2, from_.evaluatedAt, ?_, ?_⟩
      · rw [<- isReading]
        exact read
      · rw [from_.freshness]
        exact classified
      · rw [from_.resources]
        exact assessed

/-- The status and the age of a heartbeat that is not from the future. -/
theorem freshness_of_stored {now : DateTime} {received : DateTime} {settings : HeartbeatSettings}
    {freshness : HeartbeatFreshnessResult}
    (classified : evaluateHeartbeatFreshness now (some received) settings = .ok freshness) :
    freshness.ageSeconds = some (totalSeconds (now.instant - received.instant)) ∧
      freshness.status ≠ .missing ∧
      (freshness.status = .fresh ↔
        (totalSeconds (now.instant - received.instant)).le settings.staleAfterSeconds.exact = true) := by
  simp only [evaluateHeartbeatFreshness, check_bind_eq_ok] at classified
  rcases construct_eq_ok.mp classified.2.2.2 with ⟨accepted, built⟩
  rw [built]
  refine ⟨rfl, ?_, ?_⟩
  · dsimp only
    split
    · exact HeartbeatFreshness.noConfusion
    · exact HeartbeatFreshness.noConfusion
  · dsimp only
    split
    · rename_i within
      exact ⟨fun _ => within, fun _ => rfl⟩
    · rename_i beyond
      constructor
      · intro impossible
        cases impossible
      · intro within
        exact absurd within beyond

theorem freshness_of_none {now : DateTime} {settings : HeartbeatSettings}
    {freshness : HeartbeatFreshnessResult}
    (classified : evaluateHeartbeatFreshness now none settings = .ok freshness) :
    freshness.status = .missing := by
  simp only [evaluateHeartbeatFreshness, check_bind_eq_ok] at classified
  rcases construct_eq_ok.mp classified.2 with ⟨accepted, built⟩
  rw [built]

/-- An evaluation uses the most recently accepted heartbeat and its age. -/
structure UsesMostRecent (records : List HeartbeatRecord) (run : CentralRun) (host : PyStr)
    (hostConfig : HostConfig) (now : DateTime) (result : HostHealthEvaluation) : Prop where
  evaluatedAt : result.evaluatedAt = now
  missing : result.freshness.status = .missing ↔
    forall record, record ∈ records ++ run.accepted -> record.node ≠ host
  used : (exists record, record ∈ records ++ run.accepted ∧ record.node = host) ->
    exists record, IsLatest (records ++ run.accepted) host record ∧
      (forall last, lastOf run.accepted host = some last -> record = last) ∧
      result.freshness.ageSeconds =
        some (totalSeconds (now.instant - record.receivedAt.instant)) ∧
      (result.freshness.status = .fresh ↔
        (totalSeconds (now.instant - record.receivedAt.instant)).le
          hostConfig.heartbeat.staleAfterSeconds.exact = true) ∧
      assessResources (some record) hostConfig.thresholds = .ok result.resources

theorem Timely.uses_most_recent (timely : Timely service records run) {host : PyStr}
    {storage : Fallible Unit} {createConnection : CreateConnection} {result : HostHealthEvaluation}
    (returned : evaluation service run host storage createConnection = .ok result) :
    exists hostConfig now, service.engineConfig.host host = some hostConfig ∧
      service.clock.result run.world.ingestion.clockCalls = .ok (.datetime now) ∧
      UsesMostRecent records run host hostConfig now result := by
  rcases evaluation_eq_ok returned with
    ⟨hostConfig, now, latest, configured, reading, read, evaluatedAt, classified, assessed⟩
  refine ⟨hostConfig, now, configured, reading, ?_⟩
  rcases timely.stored_cases host with ⟨absent, nothing, refused⟩ | ⟨record, restored, stored⟩
  · have acceptable : Acceptable host := by
      by_contra notAcceptable
      rcases refused notAcceptable with ⟨e, failed⟩
      rw [failed] at read
      cases read
    rw [nothing acceptable] at read
    cases read
    constructor
    · exact evaluatedAt
    · exact ⟨fun _ => absent, fun _ => freshness_of_none classified⟩
    · intro present
      rcases present with ⟨record, member, same⟩
      exact absurd same (absent record member)
  · have seen := stored.read
    rw [read] at seen
    cases seen
    have alike := Alike.of_same stored.same
    rw [Option.map_some, alike.freshness] at classified
    rcases freshness_of_stored classified with ⟨age, notMissing, fresh⟩
    rw [alike.resources] at assessed
    constructor
    · exact evaluatedAt
    · constructor
      · intro isMissing
        exact absurd isMissing notMissing
      · intro absent
        rcases stored.isLatest with ⟨earlier, later, shape, named, _⟩
        have member : record ∈ records ++ run.accepted := by
          rw [shape]
          exact List.mem_append_right _ List.mem_cons_self
        exact absurd named (absent record member)
    · intro _
      exact ⟨record, stored.isLatest, stored.lastAccepted, age, fresh, assessed⟩

/-- The freshness check never finds a heartbeat from the future. -/
theorem Timely.never_future (timely : Timely service records run) {host : PyStr} {now : DateTime}
    (reading : service.clock.result run.world.ingestion.clockCalls = .ok (.datetime now))
    {latest : Option HeartbeatRecord}
    (read : latestHeartbeat service.reader run.world.ingestion.database host = .ok latest) :
    forall record, latest = some record -> record.receivedAt.instant ≤ now.instant := by
  intro restored found
  rcases timely.stored_cases host with ⟨absent, nothing, refused⟩ | ⟨record, other, stored⟩
  · exfalso
    by_cases acceptable : Acceptable host
    · rw [nothing acceptable, found] at read
      cases read
    · rcases refused acceptable with ⟨e, failed⟩
      rw [failed] at read
      cases read
  · have seen := stored.read
    rw [read, found] at seen
    cases seen
    exact timely.stored_past stored reading

/-- What an evaluation that fails was stopped by: something before or after the
check of the freshness. -/
inductive Stopped (service : CentralService) (run : CentralRun) (host : PyStr)
    (storage : Fallible Unit) (createConnection : CreateConnection) (e : Raised) : Prop
  | unknownHost (unknown : service.engineConfig.host host = none)
  | clock (failed : service.clock.result run.world.ingestion.clockCalls = .error e)
  | repository
      (failed : readLatest service run.world.ingestion.database storage host = .error e)
  | network (hostConfig : HostConfig) (configured : service.engineConfig.host host = some hostConfig)
      (failed : probeTcpReachability createConnection hostConfig.external = .error e)

theorem Timely.stopped (timely : Timely service records run) {host : PyStr}
    {storage : Fallible Unit} {createConnection : CreateConnection} {e : Raised}
    (failed : evaluation service run host storage createConnection = .error e) :
    Stopped service run host storage createConnection e := by
  have unacquired {raised : Raised} (stopped : acquireEvidence service.engineConfig
      (service.collaborators run.world.ingestion storage createConnection) host = .error raised) :
      raised = e := by
    unfold evaluation at failed
    rw [evaluateHost_failed stopped] at failed
    cases failed
    rfl
  cases configured : service.engineConfig.host host with
  | none => exact .unknownHost configured
  | some hostConfig =>
      have required : requireHost service.engineConfig host = .ok hostConfig := by
        rw [requireHost, configured]
      cases reading : service.clock.result run.world.ingestion.clockCalls with
      | error raised =>
          have same := @unacquired raised (by
            simp only [acquireEvidence, CentralService.collaborators, required, ok_bind, reading,
              error_bind])
          exact .clock (by rw [reading, same])
      | ok result =>
          rcases service.clock.aware _ _ reading with ⟨now, isNow, aware⟩
          have clocked : requireAwareClock .engineInvalidClockResultError
              "engine clock must return a timezone-aware datetime (tzinfo is not None and utcoffset() is not None)"
              result = .ok now := requireAwareClock_eq_ok.mpr ⟨isNow, aware⟩
          cases stored : readLatest service run.world.ingestion.database storage host with
          | error raised =>
              have same := @unacquired raised (by
                simp only [acquireEvidence, CentralService.collaborators, required, ok_bind, reading,
                  clocked, stored, error_bind])
              exact .repository (by rw [stored, same])
          | ok latest =>
              rw [isNow] at reading
              have read := stored
              rw [readLatest, check_bind_eq_ok] at read
              have given : (service.collaborators run.world.ingestion storage
                  createConnection).latestHeartbeat host = .ok latest := stored
              have clock : (service.collaborators run.world.ingestion storage
                  createConnection).clock = .ok (.datetime now) := reading
              rcases acquireEvidence_probe configured clock aware given
                (timely.never_future reading read.2) with ⟨freshness, resources, acquired⟩
              have probing : (service.collaborators run.world.ingestion storage
                  createConnection).createConnection = createConnection := rfl
              rw [probing] at acquired
              cases probed : probeTcpReachability createConnection hostConfig.external with
              | error raised =>
                  rw [probed, error_bind] at acquired
                  exact .network hostConfig configured (by rw [probed, unacquired acquired])
              | ok reachability =>
                  exfalso
                  rw [probed, ok_bind] at acquired
                  rcases evaluateHost_committed acquired run.world.resolutions with
                    ⟨committed, done, _⟩
                  unfold evaluation at failed
                  rw [done] at failed
                  cases failed

end

end Central
end HermesSentinel
