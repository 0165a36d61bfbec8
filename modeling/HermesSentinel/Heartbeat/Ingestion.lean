import HermesSentinel.Heartbeat.LatestHeartbeat

namespace HermesSentinel
namespace Heartbeat

open Python
open Domain
open Foundation

/-!
# Ingestion

The ingestor accepts telemetry of a configured node, reads the central clock
once and inserts the record.  What happens to the world is summarized by
`ingest_cases`: the database is left as it was, or it has one more row, which
holds the telemetry and the reading of the clock.
-/

/-- What the ingestion works on.  The clock counts its calls. -/
structure IngestWorld where
  database : Database
  clockCalls : Nat

/-- The central clock is given by the result of each of its calls. -/
structure HeartbeatIngestor where
  config : SentinelConfig
  clock : Nat -> Fallible ClockResult

structure HeartbeatReceipt where
  node : PyStr
  observationId : Nat
  receivedAt : DateTime
  deriving DecidableEq

def readClock (clock : Nat -> Fallible ClockResult) : Program Raised IngestWorld ClockResult := do
  let world ← Program.read
  Program.update fun world => { world with clockCalls := world.clockCalls + 1 }
  Program.lift (clock world.clockCalls)

/-- A program on the database. -/
def onDatabase {α : Type} (program : Program Raised Database α) : Program Raised IngestWorld α :=
  Program.zoom IngestWorld.database (fun database world => { world with database := database })
    program

def ingest (ingestor : HeartbeatIngestor) (storage : Fallible Unit) (telemetry : HostTelemetry) :
    Program Raised IngestWorld HeartbeatReceipt := do
  let node := telemetry.host
  Program.lift (ensure .unknownNodeError ((ingestor.config.host node).isSome = true)
    "unknown Sentinel node")
  let result ← readClock ingestor.clock
  let receivedAt ← Program.lift (requireAwareClock .ingestionInvalidClockResultError
    "central clock must return a timezone-aware datetime (tzinfo is not None and utcoffset() is not None)"
    result)
  let record ← Program.lift (HeartbeatRecord.make { telemetry, receivedAt })
  let observationId ← onDatabase (insertHeartbeat storage record)
  pure { node, observationId, receivedAt }

/-- The telemetry was accepted: its record, made with the one reading of the
clock, is the new row. -/
structure Ingested (ingestor : HeartbeatIngestor) (telemetry : HostTelemetry)
    (before after : IngestWorld) (receipt : HeartbeatReceipt) (record : HeartbeatRecord)
    (row : StoredRow) : Prop where
  configured : (ingestor.config.host telemetry.host).isSome = true
  clock : ingestor.clock before.clockCalls = .ok (.datetime record.receivedAt)
  content : record.telemetry = telemetry
  stores : Stores row record
  id : row.id = before.database.lastId + 1
  receipt : receipt = ⟨telemetry.host, row.id, record.receivedAt⟩
  world : after = {
    database := { rows := before.database.rows ++ [row], lastId := row.id }
    clockCalls := before.clockCalls + 1 }

/-- An ingestion stores its telemetry, or leaves the database alone. -/
theorem ingest_cases (ingestor : HeartbeatIngestor) (storage : Fallible Unit)
    (telemetry : HostTelemetry) (world : IngestWorld) :
    (exists e after, ingest ingestor storage telemetry world = (.error e, after) ∧
      after.database = world.database ∧ world.clockCalls ≤ after.clockCalls) ∨
    (exists receipt after record row, ingest ingestor storage telemetry world = (.ok receipt, after) ∧
      Ingested ingestor telemetry world after receipt record row) := by
  simp only [ingest, readClock, onDatabase, bind, pure, Program.bind, Program.pure, Program.lift,
    Program.read, Program.update, Program.zoom]
  cases known : ensure .unknownNodeError ((ingestor.config.host telemetry.host).isSome = true)
      "unknown Sentinel node" with
  | error e => exact .inl ⟨e, world, rfl, rfl, Nat.le_refl _⟩
  | ok _ =>
      have configured := (ensure_eq_ok _ _ _).mp known
      dsimp only
      cases reading : ingestor.clock world.clockCalls with
      | error e => exact .inl ⟨e, _, rfl, rfl, Nat.le_succ _⟩
      | ok result =>
          dsimp only
          cases checked : requireAwareClock .ingestionInvalidClockResultError
              "central clock must return a timezone-aware datetime (tzinfo is not None and utcoffset() is not None)"
              result with
          | error e => exact .inl ⟨e, _, rfl, rfl, Nat.le_succ _⟩
          | ok receivedAt =>
              dsimp only
              rcases requireAwareClock_eq_ok.mp checked with ⟨same, _⟩
              cases made : HeartbeatRecord.make { telemetry, receivedAt } with
              | error e => exact .inl ⟨e, _, rfl, rfl, Nat.le_succ _⟩
              | ok record =>
                  dsimp only
                  rcases construct_eq_ok.mp made with ⟨accepted, built⟩
                  rcases insertHeartbeat_cases storage record world.database with
                    ⟨e, inserted⟩ | ⟨row, stores, id, inserted⟩
                  · rw [inserted]
                    exact .inl ⟨e, _, rfl, rfl, Nat.le_succ _⟩
                  · rw [inserted]
                    refine .inr ⟨_, _, record, row, rfl, configured, ?_, ?_, stores, id, ?_, rfl⟩
                    · rw [reading, same, built]
                    · rw [built]
                    · rw [built]

end Heartbeat
end HermesSentinel
