import HermesSentinel.Heartbeat.Repository
import Mathlib.Data.List.Induction

namespace HermesSentinel
namespace Heartbeat

open Python
open Domain
open Foundation

/-!
# The latest heartbeat

A row holds a record when its cells are the record's parameters; from such a
row the record is read back with its timestamps in UTC.  The rows of a database
hold, one by one, the records whose insertion returned.  The row selected for a
node holds the record received last: ids grow with the insertions, and the
texts compared are ordered like the instants.
-/

/-- The values of a row, in the order of `columns`. -/
def rowValues (node : List Utf8.Byte) (reportedAt receivedAt : WallClock)
    (telemetry : HostTelemetry) : List SqlValue :=
  [.text node,
    .text (timestampBytes reportedAt),
    .text (timestampBytes receivedAt),
    .real telemetry.uptimeSeconds,
    .real telemetry.load.one,
    .real telemetry.load.five,
    .real telemetry.load.fifteen,
    .real telemetry.cpuPercent,
    .real telemetry.ram.used,
    .real telemetry.ram.total,
    .real telemetry.ram.percent,
    .real telemetry.swap.used,
    .real telemetry.swap.total,
    .real telemetry.swap.percent,
    .real telemetry.rootFilesystem.used,
    .real telemetry.rootFilesystem.total,
    .real telemetry.rootFilesystem.percent,
    .real telemetry.rootInodes.used,
    .real telemetry.rootInodes.total,
    .real telemetry.rootInodes.percent]

/-- The row holds the record. -/
structure Holds (row : StoredRow) (record : HeartbeatRecord) (node : List Utf8.Byte)
    (reportedAt receivedAt : WallClock) : Prop where
  encoded : Utf8.encode .strict record.node = some node
  reported : record.telemetry.timestamp.astimezoneUtc = .ok reportedAt
  received : record.receivedAt.astimezoneUtc = .ok receivedAt
  cells : row.cells = columns.zip (rowValues node reportedAt receivedAt record.telemetry)

def Stores (row : StoredRow) (record : HeartbeatRecord) : Prop :=
  exists node reportedAt receivedAt, Holds row record node reportedAt receivedAt

/-- The timestamps have UTC values and the node has UTF-8 bytes. -/
def Storable (record : HeartbeatRecord) : Prop :=
  (Utf8.encode .strict record.node).isSome = true ∧
    record.telemetry.timestamp.UtcRepresentable ∧ record.receivedAt.UtcRepresentable

theorem recordParameters_bound {record : HeartbeatRecord} {node : List Utf8.Byte}
    {reportedAt receivedAt : WallClock} (encoded : Utf8.encode .strict record.node = some node)
    (reported : record.telemetry.timestamp.astimezoneUtc = .ok reportedAt)
    (received : record.receivedAt.astimezoneUtc = .ok receivedAt) :
    (recordParameters record >>= fun parameters => parameters.mapM bindParameter) =
      .ok (rowValues node reportedAt receivedAt record.telemetry) := by
  rcases record.valid with ⟨_, receivedAware, reportedAware⟩
  have storedReport := serializeTimestamp_eq_ok.mpr ⟨reportedAware, reportedAt, reported, rfl⟩
  have storedReceipt := serializeTimestamp_eq_ok.mpr ⟨receivedAware, receivedAt, received, rfl⟩
  simp only [recordParameters, storedReport, storedReceipt, ok_bind, List.mapM_cons, List.mapM_nil,
    bindParameter, encoded, encode_isoformat, pure_eq_ok, rowValues]

theorem recordParameters_storable {record : HeartbeatRecord} {parameters : List Parameter}
    {values : List SqlValue} (built : recordParameters record = .ok parameters)
    (bound : parameters.mapM bindParameter = .ok values) :
    exists node reportedAt receivedAt, Utf8.encode .strict record.node = some node ∧
      record.telemetry.timestamp.astimezoneUtc = .ok reportedAt ∧
      record.receivedAt.astimezoneUtc = .ok receivedAt := by
  simp only [recordParameters, bind_eq_ok, serializeTimestamp_eq_ok] at built
  rcases built with ⟨_, ⟨_, reportedAt, reported, _⟩, _, ⟨_, receivedAt, received, _⟩, same⟩
  cases same
  rw [List.mapM_cons, bind_eq_ok] at bound
  rcases bound with ⟨_, boundNode, _⟩
  unfold bindParameter at boundNode
  dsimp only at boundNode
  split at boundNode
  · rename_i node encoded
    exact ⟨node, reportedAt, receivedAt, encoded, reported, received⟩
  · exact absurd boundNode (raise_ne_ok _ _ _)

/-- An insertion stores one row that holds the record, or changes nothing. -/
theorem insertHeartbeat_cases (storage : Fallible Unit) (record : HeartbeatRecord)
    (db : Database) :
    (exists e, insertHeartbeat storage record db = (.error e, db)) ∨
    (exists row, Stores row record ∧ row.id = db.lastId + 1 ∧
      insertHeartbeat storage record db =
        (.ok row.id, { rows := db.rows ++ [row], lastId := row.id })) := by
  simp only [insertHeartbeat, executeInsert, bind, pure, Program.bind, Program.pure, Program.lift,
    Program.read, Program.update]
  cases built : recordParameters record with
  | error e => exact .inl ⟨e, rfl⟩
  | ok parameters =>
      dsimp only
      cases bound : parameters.mapM bindParameter with
      | error e => exact .inl ⟨e, rfl⟩
      | ok values =>
          dsimp only
          cases storage with
          | error e => exact .inl ⟨e, rfl⟩
          | ok _ =>
              rcases recordParameters_storable built bound with
                ⟨node, reportedAt, receivedAt, encoded, reported, received⟩
              have whole := recordParameters_bound encoded reported received
              rw [built, ok_bind, bound] at whole
              cases whole
              exact .inr ⟨{ id := db.lastId + 1, cells := columns.zip _ },
                ⟨node, reportedAt, receivedAt, encoded, reported, received, rfl⟩, rfl, rfl⟩

/-- Where the storage works, a storable record is stored. -/
theorem insertHeartbeat_total {record : HeartbeatRecord} (storable : Storable record)
    (db : Database) : exists id, (insertHeartbeat (.ok ()) record db).1 = .ok id := by
  rcases storable with ⟨encodable, reportable, receivable⟩
  rcases Option.isSome_iff_exists.mp encodable with ⟨node, encoded⟩
  rcases DateTime.astimezoneUtc_total reportable with ⟨reportedAt, reported, _⟩
  rcases DateTime.astimezoneUtc_total receivable with ⟨receivedAt, received, _⟩
  rcases bind_eq_ok.mp (recordParameters_bound encoded reported received) with
    ⟨parameters, built, bound⟩
  refine ⟨db.lastId + 1, ?_⟩
  simp only [insertHeartbeat, executeInsert, bind, pure, Program.bind, Program.pure, Program.lift,
    Program.read, Program.update, built, bound]

/-- Selecting the inserted columns in the inserted order gives the inserted values. -/
theorem map_lookup_zip {κ ν : Type} [DecidableEq κ] (default : ν) (keys : List κ)
    (values : List ν) (distinct : keys.Nodup) (sameLength : keys.length = values.length) :
    keys.map (fun key => ((keys.zip values).lookup key).getD default) = values := by
  induction keys generalizing values with
  | nil =>
      cases values with
      | nil => rfl
      | cons value rest => cases sameLength
  | cons key keys inductionHypothesis =>
      cases values with
      | nil => cases sameLength
      | cons value values =>
          rcases List.nodup_cons.mp distinct with ⟨absent, distinct⟩
          have rest := inductionHypothesis values distinct (Nat.succ.inj sameLength)
          rw [List.map_cons, List.zip_cons_cons, List.lookup_cons_self]
          congr 1
          apply Eq.trans _ rest
          apply List.map_congr_left
          intro other member
          have different : (other == key) = false := by
            apply beq_false_of_ne
            intro same
            rw [same] at member
            exact absent member
          rw [List.lookup_cons, different]

/-- Telemetry with its timestamp replaced by a UTC reading. -/
def telemetryInUtc (telemetry : HostTelemetry) (reportedAt : WallClock) : HostTelemetry where
  toHostTelemetryFields :=
    { telemetry.toHostTelemetryFields with timestamp := DateTime.utc reportedAt }
  accepted := by
    have accepted := telemetry.accepted
    simp only [HostTelemetryFields.postInit, check_bind_eq_ok, require_eq_ok] at accepted ⊢
    exact ⟨accepted.1, rfl, accepted.2.2⟩

/-- A record with both timestamps replaced by UTC readings. -/
def recordInUtc (record : HeartbeatRecord) (reportedAt receivedAt : WallClock) :
    HeartbeatRecord where
  telemetry := telemetryInUtc record.telemetry reportedAt
  receivedAt := DateTime.utc receivedAt
  accepted := by
    simp only [HeartbeatRecordFields.postInit, requireValidNode, requireAware, check_bind_eq_ok,
      require_eq_ok]
    exact ⟨record.valid.1, rfl, rfl⟩

/-- The restored record agrees with the stored one: the same values, and
timestamps of the same instants. -/
structure SameObservation (restored record : HeartbeatRecord) : Prop where
  node : restored.node = record.node
  reportedAt : restored.telemetry.timestamp.instant = record.telemetry.timestamp.instant
  receivedAt : restored.receivedAt.instant = record.receivedAt.instant
  uptimeSeconds : restored.telemetry.uptimeSeconds = record.telemetry.uptimeSeconds
  load : restored.telemetry.load = record.telemetry.load
  cpuPercent : restored.telemetry.cpuPercent = record.telemetry.cpuPercent
  ram : restored.telemetry.ram = record.telemetry.ram
  swap : restored.telemetry.swap = record.telemetry.swap
  rootFilesystem : restored.telemetry.rootFilesystem = record.telemetry.rootFilesystem
  rootInodes : restored.telemetry.rootInodes = record.telemetry.rootInodes

section

variable {row : StoredRow} {record : HeartbeatRecord} {node : List Utf8.Byte}
  {reportedAt receivedAt : WallClock} (holds : Holds row record node reportedAt receivedAt)

include holds

theorem select_eq : row.select = rowValues node reportedAt receivedAt record.telemetry := by
  unfold StoredRow.select StoredRow.cell
  rw [holds.cells]
  exact map_lookup_zip SqlValue.null columns _ (by decide) rfl

theorem cell_node : row.cell .node = .text node := by
  unfold StoredRow.cell
  rw [holds.cells]
  rfl

theorem cell_receivedAt : row.cell .receivedAt = .text (timestampBytes receivedAt) := by
  unfold StoredRow.cell
  rw [holds.cells]
  rfl

/-- The record is read back, with its timestamps in UTC. -/
theorem rowToRecord_select (reader : IsoReader) :
    rowToRecord reader row.select = .ok (recordInUtc record reportedAt receivedAt) := by
  have nodeRead : strOf (.text node) = .ok record.node := by
    rw [strOf, Utf8.decode_encode holds.encoded]
  have timestampRead (wall : WallClock) : strOf (.text (timestampBytes wall)) = .ok (isoformat wall) := by
    rw [strOf, Utf8.decode_encode (encode_isoformat wall)]
  have loadRead : readLoadAverage (.real record.telemetry.load.one)
      (.real record.telemetry.load.five) (.real record.telemetry.load.fifteen) =
        .ok record.telemetry.load :=
    construct_ok LoadAverage.mk record.telemetry.load.accepted
  have resourceRead (usage : ResourceUsage) :
      readResourceUsage (.real usage.used) (.real usage.total) (.real usage.percent) = .ok usage :=
    construct_ok ResourceUsage.mk usage.accepted
  rw [select_eq holds]
  simp only [rowToRecord, rowValues, nodeRead, timestampRead, parseTimestamp_isoformat, floatOf,
    loadRead, resourceRead, ok_bind]
  exact bind_eq_ok.mpr ⟨telemetryInUtc record.telemetry reportedAt, construct_ok HostTelemetry.mk _,
    construct_ok HeartbeatRecord.mk _⟩

/-- What is read back is the observation that was stored. -/
theorem recordInUtc_same : SameObservation (recordInUtc record reportedAt receivedAt) record := by
  constructor
  case reportedAt =>
    show (DateTime.utc reportedAt).instant = _
    rw [DateTime.instant_utc]
    exact (DateTime.astimezoneUtc_eq_ok _ _).mp holds.reported
  case receivedAt =>
    show (DateTime.utc receivedAt).instant = _
    rw [DateTime.instant_utc]
    exact (DateTime.astimezoneUtc_eq_ok _ _).mp holds.received
  all_goals rfl

end

/-! ## The selected row -/

/-- The selected row belongs to the node and no row of the node has a greater key. -/
theorem latestRow_eq_some {db : Database} {node : SqlValue} {row : StoredRow}
    (latest : latestRow db node = some row) :
    row ∈ db.rows ∧ row.cell .node = node ∧
      forall other, other ∈ db.rows -> other.cell .node = node -> other.key ≤ row.key := by
  unfold latestRow at latest
  rcases List.head?_eq_some_iff.mp latest with ⟨rest, shape⟩
  have member (other : StoredRow) : other ∈ row :: rest ↔
      other ∈ db.rows ∧ other.cell .node = node := by
    rw [<- shape, List.mem_insertionSort, List.mem_filter, decide_eq_true_eq]
  have own := (member row).mp List.mem_cons_self
  refine ⟨own.1, own.2, ?_⟩
  intro other present same
  have sorted := List.pairwise_insertionSort
    (fun first second : StoredRow => second.key ≤ first.key)
    (db.rows.filter fun row => decide (row.cell .node = node))
  rw [shape, List.pairwise_cons] at sorted
  rcases List.mem_cons.mp ((member other).mpr ⟨present, same⟩) with isRow | later
  · rw [isRow]
  · exact sorted.1 other later

theorem latestRow_eq_none {db : Database} {node : SqlValue} :
    latestRow db node = none ↔ forall row, row ∈ db.rows -> row.cell .node ≠ node := by
  unfold latestRow
  rw [List.head?_eq_none_iff, <- List.length_eq_zero_iff, List.length_insertionSort,
    List.length_eq_zero_iff, List.filter_eq_nil_iff]
  simp only [decide_eq_true_eq, ne_eq]

/-- A row of another node is not seen. -/
theorem latestRow_append_other {db : Database} {node : SqlValue} {row : StoredRow}
    (other : row.cell .node ≠ node) (lastId : Nat) :
    latestRow { rows := db.rows ++ [row], lastId := lastId } node = latestRow db node := by
  unfold latestRow
  rw [List.filter_append, List.filter_cons_of_neg (by simpa using other), List.filter_nil,
    List.append_nil]

/-- A call of `insert_heartbeat` with what the storage does. -/
structure Insertion where
  record : HeartbeatRecord
  storage : Fallible Unit

/-- The database and the records whose insertion returned, in order. -/
structure StoreRun where
  database : Database
  inserted : List HeartbeatRecord

def StoreRun.initial : StoreRun where
  database := Database.empty
  inserted := []

def stepInsert (run : StoreRun) (insertion : Insertion) : StoreRun :=
  match insertHeartbeat insertion.storage insertion.record run.database with
  | (.ok _, database) => { database, inserted := run.inserted ++ [insertion.record] }
  | (.error _, database) => { database, inserted := run.inserted }

def runInsertions (insertions : List Insertion) : StoreRun :=
  insertions.foldl stepInsert StoreRun.initial

/-- The rows hold the inserted records, with increasing ids. -/
structure Kept (run : StoreRun) (entries : List (StoredRow × HeartbeatRecord)) : Prop where
  rows : run.database.rows = entries.map Prod.fst
  records : run.inserted = entries.map Prod.snd
  stored : forall entry, entry ∈ entries -> Stores entry.1 entry.2
  increasing : entries.Pairwise (fun first second => first.1.id < second.1.id)
  bounded : forall entry, entry ∈ entries -> entry.1.id ≤ run.database.lastId

theorem stepInsert_cases (run : StoreRun) (insertion : Insertion) :
    stepInsert run insertion = run ∨
    exists row, Stores row insertion.record ∧ row.id = run.database.lastId + 1 ∧
      stepInsert run insertion = {
        database := { rows := run.database.rows ++ [row], lastId := row.id }
        inserted := run.inserted ++ [insertion.record] } := by
  unfold stepInsert
  rcases insertHeartbeat_cases insertion.storage insertion.record run.database with
    ⟨e, result⟩ | ⟨row, stores, id, result⟩
  · rw [result]
    exact .inl rfl
  · rw [result]
    exact .inr ⟨row, stores, id, rfl⟩

/-- A row with a new id that holds the record keeps the rows and records in step. -/
theorem kept_append {run : StoreRun} {entries : List (StoredRow × HeartbeatRecord)}
    (kept : Kept run entries) {row : StoredRow} {record : HeartbeatRecord}
    (stores : Stores row record) (id : row.id = run.database.lastId + 1) :
    Kept {
      database := { rows := run.database.rows ++ [row], lastId := row.id }
      inserted := run.inserted ++ [record] } (entries ++ [(row, record)]) := by
  constructor
  case rows => rw [List.map_append, kept.rows]; rfl
  case records => rw [List.map_append, kept.records]; rfl
  case stored =>
    intro entry member
    rcases List.mem_append.mp member with earlier | newest
    · exact kept.stored entry earlier
    · rw [List.mem_singleton.mp newest]
      exact stores
  case increasing =>
    apply List.pairwise_append.mpr
    refine ⟨kept.increasing, List.pairwise_singleton _ _, ?_⟩
    intro entry member newest isNewest
    rw [List.mem_singleton.mp isNewest]
    have bound := kept.bounded entry member
    show entry.1.id < row.id
    omega
  case bounded =>
    intro entry member
    show entry.1.id ≤ row.id
    rcases List.mem_append.mp member with earlier | newest
    · have bound := kept.bounded entry earlier
      omega
    · rw [List.mem_singleton.mp newest]

theorem kept_step {run : StoreRun} {entries : List (StoredRow × HeartbeatRecord)}
    (kept : Kept run entries) (insertion : Insertion) :
    exists more, Kept (stepInsert run insertion) (entries ++ more) := by
  rcases stepInsert_cases run insertion with unchanged | ⟨row, stores, id, changed⟩
  · rw [unchanged]
    exact ⟨[], by rw [List.append_nil]; exact kept⟩
  · rw [changed]
    exact ⟨[(row, insertion.record)], kept_append kept stores id⟩

theorem kept_run (insertions : List Insertion) :
    exists entries, Kept (runInsertions insertions) entries := by
  induction insertions using List.reverseRecOn with
  | nil => exact ⟨[], ⟨rfl, rfl, by simp, List.Pairwise.nil, by simp⟩⟩
  | append_singleton earlier insertion inductionHypothesis =>
      rcases inductionHypothesis with ⟨entries, kept⟩
      rcases kept_step kept insertion with ⟨more, keptAfter⟩
      refine ⟨entries ++ more, ?_⟩
      unfold runInsertions at keptAfter ⊢
      rw [List.foldl_append]
      exact keptAfter

/-- Among the inserted records of the node this one was received last; of those
received at one instant it was inserted last. -/
def IsLatest (inserted : List HeartbeatRecord) (node : PyStr) (latest : HeartbeatRecord) : Prop :=
  exists earlier later, inserted = earlier ++ latest :: later ∧ latest.node = node ∧
    (forall record, record ∈ earlier -> record.node = node ->
      record.receivedAt.instant ≤ latest.receivedAt.instant) ∧
    (forall record, record ∈ later -> record.node = node ->
      record.receivedAt.instant < latest.receivedAt.instant)

/-- There is no second one. -/
theorem IsLatest.unique {inserted : List HeartbeatRecord} {node : PyStr}
    {first second : HeartbeatRecord} (isFirst : IsLatest inserted node first)
    (isSecond : IsLatest inserted node second) : first = second := by
  rcases isFirst with ⟨earlier, later, shape, firstNode, firstBefore, firstAfter⟩
  rcases isSecond with ⟨earlier', later', shape', secondNode, secondBefore, secondAfter⟩
  rw [shape] at shape'
  rcases List.append_eq_append_iff.mp shape' with ⟨between, split, rest⟩ | ⟨between, split, rest⟩
  · cases between with
    | nil => exact (List.cons.inj rest).1
    | cons head tail =>
        have position := (List.cons.inj rest)
        have secondLater : second ∈ later := by
          rw [position.2]
          exact List.mem_append_right _ List.mem_cons_self
        have firstEarlier : first ∈ earlier' := by
          rw [split, position.1]
          exact List.mem_append_right _ List.mem_cons_self
        have below := firstAfter second secondLater secondNode
        have above := secondBefore first firstEarlier firstNode
        omega
  · cases between with
    | nil => exact (List.cons.inj rest).1.symm
    | cons head tail =>
        have position := (List.cons.inj rest)
        have firstLater : first ∈ later' := by
          rw [position.2]
          exact List.mem_append_right _ List.mem_cons_self
        have secondEarlier : second ∈ earlier := by
          rw [split, position.1]
          exact List.mem_append_right _ List.mem_cons_self
        have below := secondAfter first firstLater firstNode
        have above := firstBefore second secondEarlier secondNode
        omega

section

variable {run : StoreRun} {entries : List (StoredRow × HeartbeatRecord)}
  (kept : Kept run entries) {node : PyStr} {bytes : List Utf8.Byte}
  (encoded : Utf8.encode .strict node = some bytes)

/-- A row belongs to the node exactly when its record does. -/
theorem cell_node_iff {row : StoredRow} {record : HeartbeatRecord} (stores : Stores row record)
    (encoded : Utf8.encode .strict node = some bytes) :
    row.cell .node = .text bytes ↔ record.node = node := by
  rcases stores with ⟨own, reportedAt, receivedAt, holds⟩
  rw [cell_node holds, SqlValue.text.injEq]
  constructor
  · intro same
    apply Utf8.encode_injective holds.encoded
    rw [same]
    exact encoded
  · intro same
    have ownEncoded := holds.encoded
    rw [same, encoded] at ownEncoded
    exact (Option.some.inj ownEncoded).symm

/-- Rows of one node compare like the instants, and then like the ids. -/
theorem key_le_iff {first second : StoredRow} {firstRecord secondRecord : HeartbeatRecord}
    (firstStores : Stores first firstRecord) (secondStores : Stores second secondRecord) :
    first.key ≤ second.key ↔
      firstRecord.receivedAt.instant < secondRecord.receivedAt.instant ∨
        (firstRecord.receivedAt.instant = secondRecord.receivedAt.instant ∧
          first.id ≤ second.id) := by
  rcases firstStores with ⟨_, _, firstWall, firstHolds⟩
  rcases secondStores with ⟨_, _, secondWall, secondHolds⟩
  have firstInstant := (DateTime.astimezoneUtc_eq_ok _ _).mp firstHolds.received
  have secondInstant := (DateTime.astimezoneUtc_eq_ok _ _).mp secondHolds.received
  have forward := timestampBytes_le_iff firstWall secondWall
  have backward := timestampBytes_le_iff secondWall firstWall
  unfold StoredRow.key StoredRow.textBytes
  rw [cell_receivedAt firstHolds, cell_receivedAt secondHolds, Prod.Lex.le_iff]
  dsimp only [ofLex_toLex]
  rw [<- firstInstant, <- secondInstant, lt_iff_le_not_ge, le_antisymm_iff, forward, backward]
  omega

include kept encoded

theorem latestRow_none_iff :
    latestRow run.database (.text bytes) = none ↔
      forall record, record ∈ run.inserted -> record.node ≠ node := by
  rw [latestRow_eq_none, kept.rows, kept.records]
  constructor
  · intro absent record member
    rcases List.mem_map.mp member with ⟨entry, present, rfl⟩
    intro same
    apply absent entry.1 (List.mem_map_of_mem present)
    exact (cell_node_iff (kept.stored entry present) encoded).mpr same
  · intro absent row member
    rcases List.mem_map.mp member with ⟨entry, present, rfl⟩
    intro same
    apply absent entry.2 (List.mem_map_of_mem present)
    exact (cell_node_iff (kept.stored entry present) encoded).mp same

theorem latestRow_isLatest {row : StoredRow}
    (selected : latestRow run.database (.text bytes) = some row) :
    exists latest, Stores row latest ∧ IsLatest run.inserted node latest := by
  rcases latestRow_eq_some selected with ⟨member, own, greatest⟩
  rw [kept.rows] at member greatest
  rcases List.mem_map.mp member with ⟨entry, present, rfl⟩
  rcases List.append_of_mem present with ⟨before, after, shape⟩
  have stores := kept.stored entry present
  have ordered := kept.increasing
  rw [shape, List.pairwise_append] at ordered
  have below (other : StoredRow × HeartbeatRecord) (otherPresent : other ∈ entries)
      (same : other.2.node = node) :
      other.2.receivedAt.instant < entry.2.receivedAt.instant ∨
        (other.2.receivedAt.instant = entry.2.receivedAt.instant ∧ other.1.id ≤ entry.1.id) := by
    have otherStores := kept.stored other otherPresent
    apply (key_le_iff otherStores stores).mp
    exact greatest other.1 (List.mem_map_of_mem otherPresent)
      ((cell_node_iff otherStores encoded).mpr same)
  refine ⟨entry.2, stores, before.map Prod.snd, after.map Prod.snd, ?_, ?_, ?_, ?_⟩
  · rw [kept.records, shape, List.map_append, List.map_cons]
  · exact (cell_node_iff stores encoded).mp own
  · intro record earlier same
    rcases List.mem_map.mp earlier with ⟨other, position, rfl⟩
    have otherPresent : other ∈ entries := by
      rw [shape]
      exact List.mem_append_left _ position
    have order := below other otherPresent same
    omega
  · intro record later same
    rcases List.mem_map.mp later with ⟨other, position, rfl⟩
    have otherPresent : other ∈ entries := by
      rw [shape]
      exact List.mem_append_right _ (List.mem_cons_of_mem _ position)
    have newer := (List.pairwise_cons.mp ordered.2.1).1 other position
    have order := below other otherPresent same
    omega

end

/-! ## The contract of the repository -/

/-- A node the repository can be asked for. -/
def Acceptable (node : PyStr) : Prop :=
  isBlank node = false ∧ (Utf8.encode .strict node).isSome = true

/-- What the two queries say about a node after a run of insertions. -/
structure LatestContract (reader : IsoReader) (run : StoreRun) (node : PyStr) : Prop where
  absent : Acceptable node ->
    (latestHeartbeat reader run.database node = .ok none ↔
      forall record, record ∈ run.inserted -> record.node ≠ node) ∧
    (latestReceivedAt reader run.database node = .ok none ↔
      forall record, record ∈ run.inserted -> record.node ≠ node)
  present : (exists record, record ∈ run.inserted ∧ record.node = node) ->
    exists latest restored, IsLatest run.inserted node latest ∧
      latestHeartbeat reader run.database node = .ok (some restored) ∧
      SameObservation restored latest ∧
      latestReceivedAt reader run.database node = .ok (some restored.receivedAt)
  /-- A node that is blank or has no bytes is refused, and has no record. -/
  refused : ¬ Acceptable node -> (forall record, record ∈ run.inserted -> record.node ≠ node) ∧
    (exists e, latestHeartbeat reader run.database node = .error e) ∧
    (exists e, latestReceivedAt reader run.database node = .error e)
  /-- Another node's insertion changes neither answer. -/
  others : forall insertion : Insertion, insertion.record.node ≠ node ->
    latestHeartbeat reader (stepInsert run insertion).database node =
        latestHeartbeat reader run.database node ∧
      latestReceivedAt reader (stepInsert run insertion).database node =
        latestReceivedAt reader run.database node
  /-- Only a failing storage keeps a storable record out. -/
  inserts : forall record, Storable record ->
    (stepInsert run { record := record, storage := .ok () }).inserted = run.inserted ++ [record]

section

variable (reader : IsoReader)

/-- A node that is not acceptable is refused before the table is looked at. -/
theorem queries_refused {node : PyStr} (refused : ¬ Acceptable node) (db : Database) :
    (exists e, latestHeartbeat reader db node = .error e) ∧
      exists e, latestReceivedAt reader db node = .error e := by
  unfold latestHeartbeat latestReceivedAt requireValidNode require
  by_cases notBlank : isBlank node = false
  · rw [if_pos notBlank]
    have unencodable : Utf8.encode .strict node = none := by
      cases encoded : Utf8.encode .strict node with
      | none => rfl
      | some bytes =>
          exfalso
          apply refused
          refine ⟨notBlank, ?_⟩
          rw [encoded]
          rfl
    rw [ok_bind, ok_bind, bindParameter, unencodable]
    exact ⟨⟨_, rfl⟩, ⟨_, rfl⟩⟩
  · rw [if_neg notBlank]
    exact ⟨⟨_, rfl⟩, ⟨_, rfl⟩⟩

/-- The queries of an acceptable node look at the selected row. -/
theorem queries_accepted {node : PyStr} (notBlank : isBlank node = false)
    {bytes : List Utf8.Byte} (encoded : Utf8.encode .strict node = some bytes) (db : Database) :
    latestHeartbeat reader db node =
        (match latestRow db (.text bytes) with
        | none => .ok none
        | some row => do
            let record ← rowToRecord reader row.select
            .ok (some record)) ∧
      latestReceivedAt reader db node =
        (match latestRow db (.text bytes) with
        | none => .ok none
        | some row => do
            let receivedAt ← strOf (row.cell .receivedAt)
            let receivedAt ← parseTimestamp reader receivedAt
            .ok (some receivedAt)) := by
  have bound : bindParameter (.text node) = .ok (.text bytes) := by
    rw [bindParameter, encoded]
  unfold latestHeartbeat latestReceivedAt requireValidNode
  rw [(require_eq_ok _ _).mpr notBlank, ok_bind, ok_bind, bound, ok_bind, ok_bind]
  exact ⟨rfl, rfl⟩

/-- Both queries read the selected record. -/
theorem queries_selected {row : StoredRow} {record : HeartbeatRecord}
    (stores : Stores row record) :
    exists restored, rowToRecord reader row.select = .ok restored ∧
      SameObservation restored record ∧
      (strOf (row.cell .receivedAt) >>= fun stored => parseTimestamp reader stored) =
        .ok restored.receivedAt := by
  rcases stores with ⟨bytes, reportedAt, receivedAt, holds⟩
  refine ⟨_, rowToRecord_select holds reader, recordInUtc_same holds, ?_⟩
  have stored : strOf (.text (timestampBytes receivedAt)) = .ok (isoformat receivedAt) := by
    rw [strOf, Utf8.decode_encode (encode_isoformat receivedAt)]
  rw [cell_receivedAt holds, stored, ok_bind]
  exact parseTimestamp_isoformat reader receivedAt

/-- A stored record has an acceptable node. -/
theorem Stores.acceptable {row : StoredRow} {record : HeartbeatRecord}
    (stores : Stores row record) : Acceptable record.node := by
  rcases stores with ⟨bytes, _, _, holds⟩
  refine ⟨record.valid.1, ?_⟩
  rw [holds.encoded]
  rfl

/-- A row that holds another node's record is not seen by the queries of a node. -/
theorem queries_append_other (db : Database) {row : StoredRow} {record : HeartbeatRecord}
    {node : PyStr} (stores : Stores row record) (other : record.node ≠ node) (lastId : Nat) :
    latestHeartbeat reader { rows := db.rows ++ [row], lastId := lastId } node =
        latestHeartbeat reader db node ∧
      latestReceivedAt reader { rows := db.rows ++ [row], lastId := lastId } node =
        latestReceivedAt reader db node := by
  unfold latestHeartbeat latestReceivedAt
  have sameRow (bound : SqlValue) (accepted : bindParameter (.text node) = .ok bound) :
      latestRow { rows := db.rows ++ [row], lastId := lastId } bound = latestRow db bound := by
    apply latestRow_append_other
    unfold bindParameter at accepted
    dsimp only at accepted
    split at accepted
    · rename_i bytes encoded
      cases accepted
      intro same
      exact other ((cell_node_iff stores encoded).mp same)
    · exact absurd accepted (raise_ne_ok _ _ _)
  cases accepted : bindParameter (.text node) with
  | error e => exact ⟨rfl, rfl⟩
  | ok bound =>
      rw [ok_bind, ok_bind, ok_bind, ok_bind, sameRow bound accepted]
      exact ⟨rfl, rfl⟩

/-- Another node's insertion is not seen by the queries of a node. -/
theorem queries_others (run : StoreRun) {insertion : Insertion} {node : PyStr}
    (other : insertion.record.node ≠ node) :
    latestHeartbeat reader (stepInsert run insertion).database node =
        latestHeartbeat reader run.database node ∧
      latestReceivedAt reader (stepInsert run insertion).database node =
        latestReceivedAt reader run.database node := by
  rcases stepInsert_cases run insertion with unchanged | ⟨row, stores, _, changed⟩
  · rw [unchanged]
    exact ⟨rfl, rfl⟩
  · rw [changed]
    exact queries_append_other reader run.database stores other row.id

/-- Where rows and records are in step the queries answer with the record received last. -/
theorem kept_contract {run : StoreRun} {entries : List (StoredRow × HeartbeatRecord)}
    (kept : Kept run entries) (node : PyStr) : LatestContract reader run node := by
  have storedAcceptable : forall record, record ∈ run.inserted ->
      Acceptable record.node := by
    intro record member
    rw [kept.records] at member
    rcases List.mem_map.mp member with ⟨entry, present, rfl⟩
    exact (kept.stored entry present).acceptable
  constructor
  case absent =>
    rintro ⟨notBlank, encodable⟩
    rcases Option.isSome_iff_exists.mp encodable with ⟨bytes, encoded⟩
    rcases queries_accepted reader notBlank encoded run.database with
      ⟨heartbeat, receivedAt⟩
    rw [heartbeat, receivedAt, <- latestRow_none_iff kept encoded]
    cases selected : latestRow run.database (.text bytes) with
    | none => exact ⟨⟨fun _ => rfl, fun _ => rfl⟩, ⟨fun _ => rfl, fun _ => rfl⟩⟩
    | some row =>
        rcases latestRow_isLatest kept encoded selected with ⟨latest, stores, _⟩
        rcases queries_selected reader stores with ⟨restored, read, _, received⟩
        dsimp only
        rw [read, ok_bind, <- bind_assoc, received, ok_bind]
        constructor
        · constructor
          · intro impossible
            cases impossible
          · intro impossible
            cases impossible
        · constructor
          · intro impossible
            cases impossible
          · intro impossible
            cases impossible
  case present =>
    rintro ⟨record, member, same⟩
    rcases storedAcceptable record member with ⟨notBlank, encodable⟩
    rw [same] at notBlank encodable
    rcases Option.isSome_iff_exists.mp encodable with ⟨bytes, encoded⟩
    rcases queries_accepted reader notBlank encoded run.database with
      ⟨heartbeat, receivedAt⟩
    cases selected : latestRow run.database (.text bytes) with
    | none => exact absurd same ((latestRow_none_iff kept encoded).mp selected record member)
    | some row =>
        rcases latestRow_isLatest kept encoded selected with ⟨latest, stores, isLatest⟩
        rcases queries_selected reader stores with ⟨restored, read, sameObservation, received⟩
        refine ⟨latest, restored, isLatest, ?_, sameObservation, ?_⟩
        · rw [heartbeat, selected]
          dsimp only
          rw [read, ok_bind]
        · rw [receivedAt, selected]
          dsimp only
          rw [<- bind_assoc, received, ok_bind]
  case refused =>
    intro refused
    refine ⟨?_, queries_refused reader refused _⟩
    intro record member same
    apply refused
    rw [<- same]
    exact storedAcceptable record member
  case others =>
    intro insertion other
    exact queries_others reader _ other
  case inserts =>
    intro record storable
    rcases insertHeartbeat_total storable run.database with ⟨id, inserted⟩
    unfold stepInsert
    split
    · rfl
    · rename_i e db result
      rw [result] at inserted
      cases inserted

/-- After every run of insertions the queries answer with the record received last. -/
theorem latest_heartbeat_correct (insertions : List Insertion) (node : PyStr) :
    LatestContract reader (runInsertions insertions) node := by
  rcases kept_run insertions with ⟨entries, kept⟩
  exact kept_contract reader kept node

end

end Heartbeat
end HermesSentinel
