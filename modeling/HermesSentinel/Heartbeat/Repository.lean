import HermesSentinel.Foundation.Program
import HermesSentinel.Heartbeat.Timestamp
import Mathlib.Data.List.Sort
import Mathlib.Data.Prod.Lex

namespace HermesSentinel
namespace Heartbeat

open Python
open Domain
open Foundation

/-!
# The heartbeat repository

The table `heartbeat_observation` as SQLite keeps it: rows with increasing ids
whose cells are addressed by column.  The repository inserts a tuple of
parameters in the order of `columns` and selects a tuple in the same order.

Of SQLite this is used: a text is bound as its UTF-8 bytes, and refused if it
has none; texts are equal when their bytes are and are ordered by them; a REAL
column keeps a finite float; a statement either commits or leaves the table as
it was.  Whether the storage works is given with each call.
-/

inductive Column
  | node
  | reportedAt
  | receivedAt
  | uptimeSeconds
  | loadOne
  | loadFive
  | loadFifteen
  | cpuPercent
  | ramUsed
  | ramTotal
  | ramPercent
  | swapUsed
  | swapTotal
  | swapPercent
  | rootFsUsed
  | rootFsTotal
  | rootFsPercent
  | rootInodeUsed
  | rootInodeTotal
  | rootInodePercent
  deriving DecidableEq, Repr

/-- `_COLUMNS`. -/
def columns : List Column :=
  [.node, .reportedAt, .receivedAt, .uptimeSeconds, .loadOne, .loadFive, .loadFifteen,
    .cpuPercent, .ramUsed, .ramTotal, .ramPercent, .swapUsed, .swapTotal, .swapPercent,
    .rootFsUsed, .rootFsTotal, .rootFsPercent, .rootInodeUsed, .rootInodeTotal,
    .rootInodePercent]

/-- A parameter of a statement. -/
inductive Parameter
  | text (value : PyStr)
  | real (value : PyFloat)
  deriving DecidableEq

inductive SqlValue
  | null
  | real (value : PyFloat)
  | text (bytes : List Utf8.Byte)
  deriving DecidableEq

def bindParameter : Parameter -> Fallible SqlValue
  | .real value => .ok (.real value)
  | .text value =>
      match Utf8.encode .strict value with
      | some bytes => .ok (.text bytes)
      | none => raise .unicodeEncodeError "surrogates not allowed"

/-- `str(cell)` of a TEXT column.  Such a column holds nothing but texts. -/
def strOf : SqlValue -> Fallible PyStr
  | .text bytes =>
      match Utf8.decode .strict bytes with
      | some value => .ok value
      | none => raise (.foreign "sqlite3.OperationalError") "Could not decode to UTF-8 column"
  | _ => raise .typeError "not a TEXT value"

/-- `float(cell)` of a REAL column.  Such a column holds nothing but floats. -/
def floatOf : SqlValue -> Fallible PyFloat
  | .real value => .ok value
  | _ => raise .typeError "not a REAL value"

structure StoredRow where
  id : Nat
  cells : List (Column × SqlValue)

structure Database where
  rows : List StoredRow
  lastId : Nat

/-- A database whose table has no rows. -/
def Database.empty : Database where
  rows := []
  lastId := 0

namespace StoredRow

def cell (row : StoredRow) (column : Column) : SqlValue :=
  (row.cells.lookup column).getD .null

/-- The bytes of a TEXT cell. -/
def textBytes (row : StoredRow) (column : Column) : List Utf8.Byte :=
  match row.cell column with
  | .text bytes => bytes
  | _ => []

/-- `SELECT` of the columns. -/
def select (row : StoredRow) : List SqlValue :=
  columns.map row.cell

/-- What `ORDER BY received_at, id` compares. -/
def key (row : StoredRow) : Lex (List Utf8.Byte × Nat) :=
  toLex (row.textBytes .receivedAt, row.id)

end StoredRow

/-- `INSERT INTO heartbeat_observation`, committed. -/
def executeInsert (values : List SqlValue) : Program Raised Database Nat := do
  let db ← Program.read
  let id := db.lastId + 1
  Program.update fun db => {
    rows := db.rows ++ [{ id := id, cells := columns.zip values }]
    lastId := id }
  pure id

/-- `WHERE node = ? ORDER BY received_at DESC, id DESC LIMIT 1`. -/
def latestRow (db : Database) (node : SqlValue) : Option StoredRow :=
  ((db.rows.filter fun row => decide (row.cell .node = node)).insertionSort
    fun first second => second.key ≤ first.key).head?

def recordParameters (record : HeartbeatRecord) : Fallible (List Parameter) := do
  let telemetry := record.telemetry
  let reportedAt ← serializeTimestamp telemetry.timestamp
  let receivedAt ← serializeTimestamp record.receivedAt
  .ok [
    .text record.node,
    .text reportedAt,
    .text receivedAt,
    .real telemetry.uptimeSeconds,
    .real telemetry.load.one,
    .real telemetry.load.five,
    .real telemetry.load.fifteen,
    .real telemetry.cpuPercent,
    .real telemetry.ram.used,
    .real telemetry.ram.total,
    .real telemetry.ram.percent,
    .real telemetry.swap.used,
    .real telemetry.swap.total,
    .real telemetry.swap.percent,
    .real telemetry.rootFilesystem.used,
    .real telemetry.rootFilesystem.total,
    .real telemetry.rootFilesystem.percent,
    .real telemetry.rootInodes.used,
    .real telemetry.rootInodes.total,
    .real telemetry.rootInodes.percent]

def insertHeartbeat (storage : Fallible Unit) (record : HeartbeatRecord) :
    Program Raised Database Nat := do
  let parameters ← Program.lift (recordParameters record)
  let values ← Program.lift (parameters.mapM bindParameter)
  Program.lift storage
  executeInsert values

section

variable (reader : IsoReader)

def readLoadAverage (one five fifteen : SqlValue) : Fallible LoadAverage := do
  let one ← floatOf one
  let five ← floatOf five
  let fifteen ← floatOf fifteen
  LoadAverage.make { one, five, fifteen }

def readResourceUsage (used total percent : SqlValue) : Fallible ResourceUsage := do
  let used ← floatOf used
  let total ← floatOf total
  let percent ← floatOf percent
  ResourceUsage.make { used, total, percent }

def rowToRecord (row : List SqlValue) : Fallible HeartbeatRecord :=
  match row with
  | [node, reportedAt, receivedAt, uptimeSeconds, loadOne, loadFive, loadFifteen, cpuPercent,
      ramUsed, ramTotal, ramPercent, swapUsed, swapTotal, swapPercent, rootFsUsed, rootFsTotal,
      rootFsPercent, rootInodeUsed, rootInodeTotal, rootInodePercent] => do
      let host ← strOf node
      let reportedAt ← strOf reportedAt
      let timestamp ← parseTimestamp reader reportedAt
      let uptimeSeconds ← floatOf uptimeSeconds
      let load ← readLoadAverage loadOne loadFive loadFifteen
      let cpuPercent ← floatOf cpuPercent
      let ram ← readResourceUsage ramUsed ramTotal ramPercent
      let swap ← readResourceUsage swapUsed swapTotal swapPercent
      let rootFilesystem ← readResourceUsage rootFsUsed rootFsTotal rootFsPercent
      let rootInodes ← readResourceUsage rootInodeUsed rootInodeTotal rootInodePercent
      let telemetry ← HostTelemetry.make {
        host, timestamp, uptimeSeconds, load, cpuPercent, ram, swap, rootFilesystem, rootInodes }
      let receivedAt ← strOf receivedAt
      let receivedAt ← parseTimestamp reader receivedAt
      HeartbeatRecord.make { telemetry, receivedAt }
  | _ => raise .valueError "not enough values to unpack (expected 20)"

def latestHeartbeat (db : Database) (node : PyStr) : Fallible (Option HeartbeatRecord) := do
  requireValidNode "node" node
  let bound ← bindParameter (.text node)
  match latestRow db bound with
  | none => .ok none
  | some row => do
      let record ← rowToRecord reader row.select
      .ok (some record)

def latestReceivedAt (db : Database) (node : PyStr) : Fallible (Option DateTime) := do
  requireValidNode "node" node
  let bound ← bindParameter (.text node)
  match latestRow db bound with
  | none => .ok none
  | some row => do
      let receivedAt ← strOf (row.cell .receivedAt)
      let receivedAt ← parseTimestamp reader receivedAt
      .ok (some receivedAt)

end

end Heartbeat
end HermesSentinel
