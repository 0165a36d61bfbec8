import HermesSentinel.Sqlite.Connection

namespace HermesSentinel
namespace Heartbeat

open Python
open Sqlite
open Foundation

/-!
# The schema bootstrap

`initializeSchema` is the source's function of this name with the constants and
the introspection it uses: the version stamp, the column contract read through
`PRAGMA table_info`, and the index looked for through `PRAGMA index_list`.
-/

/-- `SCHEMA_VERSION`. -/
def supportedVersion : Int := 1

/-- `_TABLE_NAME`. -/
def tableName : Text := text "heartbeat_observation"

/-- `_INDEX_NAME`. -/
def indexName : Text := text "idx_heartbeat_node_received"

def required (name declaredType : String) : Sqlite.Column where
  name := text name
  declaredType := text declaredType
  notNull := true
  primaryKey := 0
  autoincrement := false
  defaultValue := none
  collation := binary
  constraints := []
  generated := false

/-- The table of `_CREATE_HEARTBEAT_TABLE`. -/
def heartbeatTable : Table where
  name := tableName
  columns :=
    [{ name := text "id", declaredType := text "INTEGER", notNull := false, primaryKey := 1,
       autoincrement := true, defaultValue := none, collation := binary, constraints := [],
       generated := false },
      required "node" "TEXT",
      required "reported_at" "TEXT",
      required "received_at" "TEXT",
      required "uptime_seconds" "REAL",
      required "load_one" "REAL",
      required "load_five" "REAL",
      required "load_fifteen" "REAL",
      required "cpu_percent" "REAL",
      required "ram_used" "REAL",
      required "ram_total" "REAL",
      required "ram_percent" "REAL",
      required "swap_used" "REAL",
      required "swap_total" "REAL",
      required "swap_percent" "REAL",
      required "root_fs_used" "REAL",
      required "root_fs_total" "REAL",
      required "root_fs_percent" "REAL",
      required "root_inode_used" "REAL",
      required "root_inode_total" "REAL",
      required "root_inode_percent" "REAL"]
  columnsDistinct := by decide +kernel

/-- What the contract records of a column. -/
structure ColumnContract where
  name : Text
  declaredType : Text
  notNull : Bool
  primaryKey : Nat
  deriving DecidableEq

/-- `_CANONICAL_COLUMNS`. -/
def canonicalColumns : List ColumnContract :=
  [⟨text "id", text "INTEGER", false, 1⟩,
    ⟨text "node", text "TEXT", true, 0⟩,
    ⟨text "reported_at", text "TEXT", true, 0⟩,
    ⟨text "received_at", text "TEXT", true, 0⟩,
    ⟨text "uptime_seconds", text "REAL", true, 0⟩,
    ⟨text "load_one", text "REAL", true, 0⟩,
    ⟨text "load_five", text "REAL", true, 0⟩,
    ⟨text "load_fifteen", text "REAL", true, 0⟩,
    ⟨text "cpu_percent", text "REAL", true, 0⟩,
    ⟨text "ram_used", text "REAL", true, 0⟩,
    ⟨text "ram_total", text "REAL", true, 0⟩,
    ⟨text "ram_percent", text "REAL", true, 0⟩,
    ⟨text "swap_used", text "REAL", true, 0⟩,
    ⟨text "swap_total", text "REAL", true, 0⟩,
    ⟨text "swap_percent", text "REAL", true, 0⟩,
    ⟨text "root_fs_used", text "REAL", true, 0⟩,
    ⟨text "root_fs_total", text "REAL", true, 0⟩,
    ⟨text "root_fs_percent", text "REAL", true, 0⟩,
    ⟨text "root_inode_used", text "REAL", true, 0⟩,
    ⟨text "root_inode_total", text "REAL", true, 0⟩,
    ⟨text "root_inode_percent", text "REAL", true, 0⟩]

/-- `_CANONICAL_INDEX_COLUMNS`. -/
def canonicalIndexColumns : List Text :=
  [text "node", text "received_at", text "id"]

def schemaVersion (c : Catalogue) : Int :=
  c.userVersion

def heartbeatTableExists (c : Catalogue) : Bool :=
  decide (c.countTables tableName = 1)

/-- A row of `PRAGMA table_info`, its declared type in upper case. -/
def contractOf (column : Sqlite.Column) : ColumnContract where
  name := column.name
  declaredType := upper column.declaredType
  notNull := column.notNull
  primaryKey := column.primaryKey

def observedColumns (c : Catalogue) : List ColumnContract :=
  (c.tableInfo tableName).map contractOf

def indexOnTable (c : Catalogue) : Bool :=
  (c.indexList tableName).any fun index => decide (index.name = indexName)

/-- `str(row[2])` is the text `None` for an expression. -/
def indexColumns (c : Catalogue) : List Text :=
  (c.indexInfo indexName).map fun column => column.getD (text "None")

/-- The writes of the bootstrap up to its commit. -/
def writeSchema (faults : Faults) (tablePresent indexPresent : Bool) :
    Program Raised Connection Unit := do
  Connection.execute faults .beginTransaction
  Program.onlyIf (!tablePresent) (Connection.execute faults (.createTable heartbeatTable))
  Program.onlyIf (!indexPresent)
    (Connection.execute faults (.createIndex indexName tableName canonicalIndexColumns))
  Connection.execute faults (.setUserVersion supportedVersion)

/-- `except BaseException: connection.rollback(); raise`. -/
def rollbackAndRaise (e : Raised) : Program Raised Connection Unit := do
  Connection.rollback
  Program.interrupt e

def initializeSchema (faults : Faults) : Program Raised Connection Unit := do
  let connection ← Program.read
  let database := connection.current
  let version := schemaVersion database
  Program.lift (ensure .unsupportedSchemaVersionError (version ≤ supportedVersion)
    s!"database schema version {version} is newer than the supported version 1; refusing to downgrade or modify the schema")
  let tablePresent := heartbeatTableExists database
  Program.lift (ensure .schemaCompatibilityError
    (tablePresent = true -> observedColumns database = canonicalColumns)
    "table 'heartbeat_observation' does not match the canonical B1 column contract (missing, extra, reordered or mistyped columns); refusing to accept the database")
  let indexPresent := tablePresent && indexOnTable database
  Program.lift (ensure .schemaCompatibilityError
    (indexPresent = true -> indexColumns database = canonicalIndexColumns)
    "index 'idx_heartbeat_node_received' does not match the canonical B1 index contract; refusing to accept the database")
  if version = supportedVersion then
    Program.lift (ensure .schemaCompatibilityError (tablePresent = true ∧ indexPresent = true)
      "user_version=1 but the canonical B1 schema objects are missing")
  else do
    Program.handle (writeSchema faults tablePresent indexPresent)
      (fun e => some (rollbackAndRaise e))
    Connection.execute faults .commit

end Heartbeat
end HermesSentinel
