import HermesSentinel.Python.Exceptions
import Mathlib.Data.List.Nodup

namespace HermesSentinel
namespace Sqlite

open Python
open Foundation

/-!
# The catalogue of a database

A catalogue holds the tables and indexes of a database and its `user_version`.
Tables and indexes share one name space, in which names compare without regard
to the case of ASCII letters, while every name is kept and reported as it was
written.

The pragmas and the statements below look names up by that comparison.  A
creation `IF NOT EXISTS` does nothing if an object of its kind has the name and
is refused if one of the other kind has it.
-/

/-- Upper-case ASCII letters as lower-case ones. -/
def foldChar (c : CodePoint) : CodePoint :=
  if 65 ≤ c.val ∧ c.val ≤ 90 then ⟨c.val % 32 + 96, by omega⟩ else c

def foldName (name : Text) : Text :=
  name.map foldChar

def SameName (a b : Text) : Prop :=
  foldName a = foldName b

instance (a b : Text) : Decidable (SameName a b) :=
  inferInstanceAs (Decidable (_ = _))

def Ascii (name : Text) : Prop :=
  forall letter, letter ∈ name -> letter.val < 128

theorem foldChar_ascii (c : CodePoint) : (foldChar c).val < 128 ↔ c.val < 128 := by
  unfold foldChar
  split
  · dsimp only
    omega
  · rfl

/-- A name is only spelled in ASCII if each of its spellings is. -/
theorem SameName.ascii {a b : Text} (same : SameName a b) (spelled : Ascii b) : Ascii a := by
  intro letter member
  have folded : foldChar letter ∈ foldName b := same ▸ List.mem_map_of_mem member
  rcases List.mem_map.mp folded with ⟨other, listed, equal⟩
  rw [<- foldChar_ascii, <- equal, foldChar_ascii]
  exact spelled other listed

/-- The collation of a column without a `COLLATE` clause. -/
def binary : Text := text "BINARY"

structure Column where
  name : Text
  declaredType : Text
  notNull : Bool
  /-- The position in the primary key, from 1 on; 0 outside of it. -/
  primaryKey : Nat
  autoincrement : Bool
  defaultValue : Option Text
  collation : Text
  /-- Its UNIQUE, CHECK and REFERENCES clauses. -/
  constraints : List Text
  /-- Generated columns are not listed by `PRAGMA table_info`. -/
  generated : Bool
  deriving DecidableEq

/-- Two definitions of one column: types and collations are words of SQLite,
whose spelling has no case. -/
structure SameColumn (a b : Column) : Prop where
  name : a.name = b.name
  declaredType : SameName a.declaredType b.declaredType
  notNull : a.notNull = b.notNull
  primaryKey : a.primaryKey = b.primaryKey
  autoincrement : a.autoincrement = b.autoincrement
  defaultValue : a.defaultValue = b.defaultValue
  collation : SameName a.collation b.collation
  constraints : a.constraints = b.constraints
  generated : a.generated = b.generated

theorem SameColumn.refl (column : Column) : SameColumn column column :=
  ⟨rfl, rfl, rfl, rfl, rfl, rfl, rfl, rfl, rfl⟩

structure Table where
  name : Text
  columns : List Column
  columnsDistinct : (columns.map fun column => foldName column.name).Nodup
  deriving DecidableEq

structure Index where
  name : Text
  /-- The name of its table, as the table is named. -/
  table : Text
  /-- The indexed columns; `none` is an expression. -/
  columns : List (Option Text)
  deriving DecidableEq

/-- The names in use, up to case. -/
def usedNames (tables : List Table) (indexes : List Index) : List Text :=
  tables.map (fun table => foldName table.name) ++ indexes.map (fun index => foldName index.name)

/-- An unused name stays unique wherever it is put among the others. -/
theorem used_insert {before after : List Text} {name : Text} (distinct : (before ++ after).Nodup)
    (unusedBefore : name ∉ before) (unusedAfter : name ∉ after) :
    (before ++ name :: after).Nodup := by
  apply List.nodup_middle.mpr
  refine List.nodup_cons.mpr ⟨?_, distinct⟩
  intro used
  rcases List.mem_append.mp used with first | second
  · exact unusedBefore first
  · exact unusedAfter second

structure Catalogue where
  userVersion : Int
  tables : List Table
  indexes : List Index
  namesDistinct : (usedNames tables indexes).Nodup
  indexed : forall index, index ∈ indexes -> exists table, table ∈ tables ∧ table.name = index.table

namespace Catalogue

def findTable (c : Catalogue) (name : Text) : Option Table :=
  c.tables.find? fun table => decide (SameName name table.name)

def findIndex (c : Catalogue) (name : Text) : Option Index :=
  c.indexes.find? fun index => decide (SameName name index.name)

/-- `SELECT COUNT(*) FROM sqlite_master WHERE type = 'table' AND name = ?`. -/
def countTables (c : Catalogue) (name : Text) : Nat :=
  c.tables.countP fun table => decide (table.name = name)

/-- `PRAGMA table_info`. -/
def tableInfo (c : Catalogue) (name : Text) : List Column :=
  match c.findTable name with
  | none => []
  | some table => table.columns.filter fun column => !column.generated

/-- `PRAGMA index_list`. -/
def indexList (c : Catalogue) (name : Text) : List Index :=
  match c.findTable name with
  | none => []
  | some table => c.indexes.filter fun index => decide (index.table = table.name)

/-- `PRAGMA index_info`. -/
def indexInfo (c : Catalogue) (name : Text) : List (Option Text) :=
  match c.findIndex name with
  | none => []
  | some index => index.columns

theorem findTable_eq_some {c : Catalogue} {name : Text} {table : Table}
    (found : c.findTable name = some table) : table ∈ c.tables ∧ SameName name table.name :=
  ⟨List.mem_of_find?_eq_some found, by simpa using List.find?_some found⟩

theorem findIndex_eq_some {c : Catalogue} {name : Text} {index : Index}
    (found : c.findIndex name = some index) : index ∈ c.indexes ∧ SameName name index.name :=
  ⟨List.mem_of_find?_eq_some found, by simpa using List.find?_some found⟩

theorem findTable_eq_none {c : Catalogue} {name : Text} :
    c.findTable name = none ↔ forall table, table ∈ c.tables -> ¬ SameName name table.name := by
  simp [findTable]

theorem findIndex_eq_none {c : Catalogue} {name : Text} :
    c.findIndex name = none ↔ forall index, index ∈ c.indexes -> ¬ SameName name index.name := by
  simp [findIndex]

theorem unused_table {c : Catalogue} {name : Text} (free : c.findTable name = none) :
    foldName name ∉ c.tables.map fun table => foldName table.name := by
  intro used
  rcases List.mem_map.mp used with ⟨table, member, same⟩
  exact findTable_eq_none.mp free table member same.symm

theorem unused_index {c : Catalogue} {name : Text} (free : c.findIndex name = none) :
    foldName name ∉ c.indexes.map fun index => foldName index.name := by
  intro used
  rcases List.mem_map.mp used with ⟨index, member, same⟩
  exact findIndex_eq_none.mp free index member same.symm

theorem tables_distinct (c : Catalogue) :
    (c.tables.map fun table => foldName table.name).Nodup :=
  (List.nodup_append.mp c.namesDistinct).1

theorem indexes_distinct (c : Catalogue) :
    (c.indexes.map fun index => foldName index.name).Nodup :=
  (List.nodup_append.mp c.namesDistinct).2.1

/-- No two tables share a name. -/
theorem table_unique (c : Catalogue) {a b : Table} (first : a ∈ c.tables) (second : b ∈ c.tables)
    (same : SameName a.name b.name) : a = b :=
  List.inj_on_of_nodup_map c.tables_distinct first second same

theorem index_unique (c : Catalogue) {a b : Index} (first : a ∈ c.indexes) (second : b ∈ c.indexes)
    (same : SameName a.name b.name) : a = b :=
  List.inj_on_of_nodup_map c.indexes_distinct first second same

theorem findTable_of_mem (c : Catalogue) {name : Text} {table : Table} (member : table ∈ c.tables)
    (same : SameName name table.name) : c.findTable name = some table := by
  cases found : c.findTable name with
  | none => exact absurd same (findTable_eq_none.mp found table member)
  | some other =>
      rcases findTable_eq_some found with ⟨present, named⟩
      rw [c.table_unique present member (named.symm.trans same)]

theorem findIndex_of_mem (c : Catalogue) {name : Text} {index : Index} (member : index ∈ c.indexes)
    (same : SameName name index.name) : c.findIndex name = some index := by
  cases found : c.findIndex name with
  | none => exact absurd same (findIndex_eq_none.mp found index member)
  | some other =>
      rcases findIndex_eq_some found with ⟨present, named⟩
      rw [c.index_unique present member (named.symm.trans same)]

/-- A table and an index cannot share a name. -/
theorem findIndex_of_table {c : Catalogue} {name : Text} {table : Table}
    (found : c.findTable name = some table) : c.findIndex name = none := by
  apply findIndex_eq_none.mpr
  intro index member same
  rcases findTable_eq_some found with ⟨present, named⟩
  have apart := (List.nodup_append.mp c.namesDistinct).2.2
  exact apart _ (List.mem_map.mpr ⟨table, present, rfl⟩) _ (List.mem_map.mpr ⟨index, member, rfl⟩)
    (named.symm.trans same)

theorem findTable_of_index {c : Catalogue} {name : Text} {index : Index}
    (found : c.findIndex name = some index) : c.findTable name = none := by
  cases taken : c.findTable name with
  | none => rfl
  | some table =>
      rw [findIndex_of_table taken] at found
      cases found

/-- One more table is found under its own name only. -/
theorem findTable_append {c after : Catalogue} {name : Text} {table : Table}
    (tables : after.tables = c.tables ++ [table]) (other : ¬ SameName name table.name) :
    after.findTable name = c.findTable name := by
  rw [findTable, findTable, tables, List.find?_append]
  simp [other]

theorem findIndex_congr {c after : Catalogue} {name : Text} (indexes : after.indexes = c.indexes) :
    after.findIndex name = c.findIndex name := by
  rw [findIndex, findIndex, indexes]

/-- Names are unique, so a name is listed once or not at all. -/
theorem countTables_eq_one (c : Catalogue) (name : Text) :
    c.countTables name = 1 ↔ exists table, table ∈ c.tables ∧ table.name = name := by
  have distinct : (c.tables.map Table.name).Nodup := by
    apply List.Nodup.of_map foldName
    rw [List.map_map]
    exact c.tables_distinct
  have counted : c.countTables name = (c.tables.map Table.name).count name := by
    rw [List.count, List.countP_map]
    exact List.countP_congr fun table _ => by simp
  have atMost : c.countTables name ≤ 1 := by
    rw [counted]
    exact List.nodup_iff_count_le_one.mp distinct name
  have present : 0 < c.countTables name ↔ exists table, table ∈ c.tables ∧ table.name = name := by
    rw [countTables, List.countP_pos_iff]
    simp only [decide_eq_true_eq]
  rw [<- present]
  omega

/-! ## Writing -/

def withVersion (c : Catalogue) (version : Int) : Catalogue :=
  { c with userVersion := version }

def operationalError {α : Type} (message : String) : Fallible α :=
  raise (.foreign "sqlite3.OperationalError") message

/-- `CREATE TABLE IF NOT EXISTS`. -/
def createTable (c : Catalogue) (table : Table) : Fallible Catalogue :=
  match noTable : c.findTable table.name with
  | some _ => .ok c
  | none =>
      match noIndex : c.findIndex table.name with
      | some _ => operationalError "there is already an index named"
      | none => .ok {
          userVersion := c.userVersion
          tables := c.tables ++ [table]
          indexes := c.indexes
          namesDistinct := by
            rw [usedNames, List.map_append, List.map_singleton, List.append_assoc]
            exact used_insert c.namesDistinct (unused_table noTable) (unused_index noIndex)
          indexed := by
            intro index member
            rcases c.indexed index member with ⟨owner, present, named⟩
            exact ⟨owner, List.mem_append_left _ present, named⟩ }

/-- The columns of a table with the given names, as the table names them. -/
def resolve (table : Table) (columns : List Text) : Option (List Text) :=
  columns.mapM fun name =>
    (table.columns.find? fun column => decide (SameName name column.name)).map Column.name

/-- A name that a column carries letter by letter resolves to that column. -/
theorem resolve_of_mem {table : Table} {columns : List Text}
    (present : forall name, name ∈ columns ->
      exists column, column ∈ table.columns ∧ column.name = name) :
    resolve table columns = some columns := by
  have single : forall name, name ∈ columns ->
      (table.columns.find? fun column => decide (SameName name column.name)).map Column.name =
        some name := by
    intro name member
    rcases present name member with ⟨column, listed, rfl⟩
    cases found : table.columns.find? fun other => decide (SameName column.name other.name) with
    | none =>
        have missing := List.find?_eq_none.mp found column listed
        simp [SameName] at missing
    | some other =>
        have same : SameName column.name other.name := by simpa using List.find?_some found
        have unique := List.inj_on_of_nodup_map table.columnsDistinct listed
          (List.mem_of_find?_eq_some found) same
        rw [Option.map_some, unique]
  unfold resolve
  induction columns with
  | nil => rfl
  | cons name rest inductionHypothesis =>
      have first := single name List.mem_cons_self
      have others := inductionHypothesis
        (fun other member => present other (List.mem_cons_of_mem _ member))
        (fun other member => single other (List.mem_cons_of_mem _ member))
      rw [List.mapM_cons, first, others]
      rfl

/-- `CREATE INDEX IF NOT EXISTS`. -/
def createIndex (c : Catalogue) (name tableName : Text) (columns : List Text) :
    Fallible Catalogue :=
  match owner : c.findTable tableName with
  | none => operationalError "no such table"
  | some table =>
      match noTable : c.findTable name with
      | some _ => operationalError "there is already a table named"
      | none =>
          match noIndex : c.findIndex name with
          | some _ => .ok c
          | none =>
              match resolve table columns with
              | none => operationalError "no such column"
              | some resolved => .ok {
                  userVersion := c.userVersion
                  tables := c.tables
                  indexes := c.indexes ++ [⟨name, table.name, resolved.map some⟩]
                  namesDistinct := by
                    rw [usedNames, List.map_append, List.map_singleton, <- List.append_assoc]
                    apply used_insert
                    · rw [List.append_nil]
                      exact c.namesDistinct
                    · intro used
                      rcases List.mem_append.mp used with first | second
                      · exact unused_table noTable first
                      · exact unused_index noIndex second
                    · exact List.not_mem_nil
                  indexed := by
                    intro index member
                    rcases List.mem_append.mp member with older | new
                    · exact c.indexed index older
                    · rw [List.mem_singleton.mp new]
                      exact ⟨table, (findTable_eq_some owner).1, rfl⟩ }

section Creation

variable {c : Catalogue} {name tableName : Text}

theorem createTable_present {table existing : Table} (found : c.findTable table.name = some existing) :
    c.createTable table = .ok c := by
  unfold createTable
  split
  · rfl
  · rename_i missing
    rw [found] at missing
    cases missing

theorem createTable_blocked {table : Table} {index : Index}
    (missing : c.findTable table.name = none) (blocking : c.findIndex table.name = some index) :
    c.createTable table = operationalError "there is already an index named" := by
  unfold createTable
  split
  · rename_i existing found
    rw [found] at missing
    cases missing
  · split
    · rfl
    · rename_i free
      rw [free] at blocking
      cases blocking

theorem createTable_new {table : Table} (missing : c.findTable table.name = none)
    (free : c.findIndex table.name = none) :
    exists after, c.createTable table = .ok after ∧ after.userVersion = c.userVersion ∧
      after.tables = c.tables ++ [table] ∧ after.indexes = c.indexes := by
  unfold createTable
  split
  · rename_i existing found
    rw [found] at missing
    cases missing
  · split
    · rename_i index blocking
      rw [blocking] at free
      cases free
    · exact ⟨_, rfl, rfl, rfl, rfl⟩

theorem createIndex_blocked {columns : List Text} {table blocking : Table}
    (owner : c.findTable tableName = some table) (found : c.findTable name = some blocking) :
    c.createIndex name tableName columns = operationalError "there is already a table named" := by
  unfold createIndex
  split
  · rename_i missing
    rw [owner] at missing
    cases missing
  · split
    · rfl
    · rename_i free
      rw [found] at free
      cases free

theorem createIndex_present {columns : List Text} {table : Table} {existing : Index}
    (owner : c.findTable tableName = some table) (free : c.findTable name = none)
    (found : c.findIndex name = some existing) :
    c.createIndex name tableName columns = .ok c := by
  unfold createIndex
  split
  · rename_i missing
    rw [owner] at missing
    cases missing
  · split
    · rename_i blocking taken
      rw [taken] at free
      cases free
    · split
      · rfl
      · rename_i missing
        rw [missing] at found
        cases found

theorem createIndex_unresolved {columns : List Text} {table : Table}
    (owner : c.findTable tableName = some table) (free : c.findTable name = none)
    (missing : c.findIndex name = none) (unresolved : resolve table columns = none) :
    c.createIndex name tableName columns = operationalError "no such column" := by
  unfold createIndex
  split
  · rename_i absent
    rw [owner] at absent
    cases absent
  · rename_i other found
    cases owner.symm.trans found
    split
    · rename_i blocking taken
      rw [taken] at free
      cases free
    · split
      · rename_i existing taken
        rw [taken] at missing
        cases missing
      · rw [unresolved]

theorem createIndex_new {columns resolved : List Text} {table : Table}
    (owner : c.findTable tableName = some table) (free : c.findTable name = none)
    (missing : c.findIndex name = none) (found : resolve table columns = some resolved) :
    exists after, c.createIndex name tableName columns = .ok after ∧
      after.userVersion = c.userVersion ∧ after.tables = c.tables ∧
      after.indexes = c.indexes ++ [⟨name, table.name, resolved.map some⟩] := by
  unfold createIndex
  split
  · rename_i absent
    rw [owner] at absent
    cases absent
  · rename_i other present
    cases owner.symm.trans present
    split
    · rename_i blocking taken
      rw [taken] at free
      cases free
    · split
      · rename_i existing taken
        rw [taken] at missing
        cases missing
      · rw [found]
        exact ⟨_, rfl, rfl, rfl, rfl⟩

end Creation

end Catalogue

end Sqlite
end HermesSentinel
