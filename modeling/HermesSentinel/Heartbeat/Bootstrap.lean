import HermesSentinel.Heartbeat.SchemaRuns

namespace HermesSentinel
namespace Heartbeat

open Python
open Sqlite
open Foundation

/-!
# What the bootstrap accepts

The checks of the bootstrap read the catalogue by exact names, its `IF NOT
EXISTS` statements by names up to case and over the whole database, and of a
column the checks see four properties only.  The contract of the bootstrap is
compared with the catalogues on which the views agree: it holds there, it holds
where the bootstrap refuses, and nowhere else.
-/

/-- The canonical schema is there, under its own names and with its own version:
the columns are those that the canonical statement defines. -/
structure Canonical (c : Catalogue) : Prop where
  table : exists table, table ∈ c.tables ∧ table.name = tableName ∧
    List.Forall₂ SameColumn table.columns heartbeatTable.columns
  index : exists index, index ∈ c.indexes ∧ index.name = indexName ∧ index.table = tableName ∧
    index.columns = canonicalIndexColumns.map some
  version : c.userVersion = supportedVersion

/-- The schema is there as far as the checks of the bootstrap measure columns. -/
structure Conforming (c : Catalogue) : Prop where
  table : exists table, table ∈ c.tables ∧ table.name = tableName ∧
    table.columns.map contractOf = canonicalColumns
  index : exists index, index ∈ c.indexes ∧ index.name = indexName ∧ index.table = tableName ∧
    index.columns = canonicalIndexColumns.map some
  version : c.userVersion = supportedVersion

structure BootstrapContract (database : Catalogue) : Prop where
  returned : forall faults connection,
    initializeSchema faults (Connection.opened database) = (.ok (), connection) ->
      Canonical connection.database ∧ database.tables ⊆ connection.database.tables ∧
        database.indexes ⊆ connection.database.indexes ∧
        forall faults', initializeSchema faults' connection = (.ok (), connection)
  raised : forall faults e connection,
    initializeSchema faults (Connection.opened database) = (.error e, connection) ->
      connection.database = database
  versions : database.userVersion ≠ 0 -> database.userVersion ≠ 1 ->
    forall faults connection,
      initializeSchema faults (Connection.opened database) ≠ (.ok (), connection)

/-- The table's name in another spelling, or the index's name in another
spelling or on another table. -/
def Misplaced (c : Catalogue) : Prop :=
  (exists table, table ∈ c.tables ∧ SameName tableName table.name ∧ table.name ≠ tableName) ∨
  (exists index, index ∈ c.indexes ∧ SameName indexName index.name ∧
    ¬ (index.name = indexName ∧ index.table = tableName))

/-- The table has columns that `PRAGMA table_info` does not list. -/
def Extended (c : Catalogue) : Prop :=
  exists table, table ∈ c.tables ∧ table.name = tableName ∧
    exists column, column ∈ table.columns ∧ column.generated = true

/-- A column with nothing about it that the checks do not see: no clause they do
not read, and a type whose capitals are those of its own letters. -/
structure PlainColumn (column : Sqlite.Column) : Prop where
  listed : column.generated = false
  noDefault : column.defaultValue = none
  unconstrained : column.constraints = []
  collation : SameName column.collation binary
  autoincrement : column.autoincrement = decide (column.primaryKey = 1)
  spelled : Ascii column.declaredType

/-- The table has a column that is not what the checks take it for. -/
def Disguised (c : Catalogue) : Prop :=
  exists table, table ∈ c.tables ∧ table.name = tableName ∧
    exists column, column ∈ table.columns ∧ ¬ PlainColumn column

theorem disguised_of_extended {c : Catalogue} (extended : Extended c) : Disguised c := by
  rcases extended with ⟨table, member, named, column, present, generated⟩
  refine ⟨table, member, named, column, present, fun plain => ?_⟩
  rw [plain.listed] at generated
  cases generated

/-- SQLite refuses to create what the bootstrap finds missing. -/
def Unbuildable (c : Catalogue) : Prop :=
  (c.findIndex tableName).isSome = true ∨
  (c.findTable indexName).isSome = true ∨
  (heartbeatTableExists c = false ∧ c.findIndex indexName = none ∧
    exists table, c.findTable tableName = some table ∧
      Catalogue.resolve table canonicalIndexColumns = none)

/-- A check of the bootstrap or SQLite refuses the catalogue. -/
def Refused (c : Catalogue) : Prop :=
  supportedVersion < c.userVersion ∨
  (heartbeatTableExists c = true ∧ observedColumns c ≠ canonicalColumns) ∨
  (heartbeatTableExists c = true ∧ indexOnTable c = true ∧
    indexColumns c ≠ canonicalIndexColumns) ∨
  (c.userVersion = supportedVersion ∧
    ¬ (heartbeatTableExists c = true ∧ indexOnTable c = true)) ∨
  (c.userVersion ≠ supportedVersion ∧ Unbuildable c)

section Introspection

variable {c : Catalogue}

theorem heartbeatTableExists_iff :
    heartbeatTableExists c = true ↔ exists table, table ∈ c.tables ∧ table.name = tableName := by
  rw [heartbeatTableExists, decide_eq_true_eq, Catalogue.countTables_eq_one]

theorem findTable_exact {table : Table} (member : table ∈ c.tables)
    (named : table.name = tableName) : c.findTable tableName = some table :=
  c.findTable_of_mem member (congrArg foldName named.symm)

theorem observedColumns_eq {table : Table} (member : table ∈ c.tables)
    (named : table.name = tableName) :
    observedColumns c = (table.columns.filter fun column => !column.generated).map contractOf := by
  rw [observedColumns, Catalogue.tableInfo, findTable_exact member named]

theorem indexOnTable_iff {table : Table} (member : table ∈ c.tables)
    (named : table.name = tableName) :
    indexOnTable c = true ↔
      exists index, index ∈ c.indexes ∧ index.name = indexName ∧ index.table = tableName := by
  rw [indexOnTable, Catalogue.indexList, findTable_exact member named]
  simp only [List.any_eq_true, List.mem_filter, decide_eq_true_eq, named]
  constructor
  · rintro ⟨index, ⟨listed, owned⟩, exact⟩
    exact ⟨index, listed, exact, owned⟩
  · rintro ⟨index, listed, exact, owned⟩
    exact ⟨index, ⟨listed, owned⟩, exact⟩

theorem indexColumns_eq {index : Index} (member : index ∈ c.indexes)
    (named : index.name = indexName) :
    indexColumns c = index.columns.map fun column => column.getD (text "None") := by
  rw [indexColumns, Catalogue.indexInfo,
    c.findIndex_of_mem member (congrArg foldName named.symm)]

/-- No canonical column is called `None`, so the index has no expressions. -/
theorem indexColumns_canonical {columns : List (Option Text)}
    (seen : (columns.map fun column => column.getD (text "None")) = canonicalIndexColumns) :
    columns = canonicalIndexColumns.map some := by
  have named : forall column, column ∈ columns -> some (column.getD (text "None")) = column := by
    intro column member
    cases column with
    | some name => rfl
    | none =>
        have listed : text "None" ∈ canonicalIndexColumns := by
          rw [<- seen]
          exact List.mem_map.mpr ⟨none, member, rfl⟩
        revert listed
        decide
  rw [<- seen, List.map_map]
  exact ((List.map_congr_left named).trans (List.map_id columns)).symm

/-- The indexed columns of a table that passed its check are found in it. -/
theorem resolve_observed {table : Table} (member : table ∈ c.tables)
    (named : table.name = tableName) (canonical : observedColumns c = canonicalColumns) :
    Catalogue.resolve table canonicalIndexColumns = some canonicalIndexColumns := by
  apply Catalogue.resolve_of_mem
  intro name listed
  have contracted : name ∈ canonicalColumns.map ColumnContract.name := by
    revert listed
    revert name
    decide +kernel
  rw [<- canonical, observedColumns_eq member named, List.map_map] at contracted
  rcases List.mem_map.mp contracted with ⟨column, visible, same⟩
  exact ⟨column, (List.mem_filter.mp visible).1, same⟩

end Introspection

/-! ## What a contract says of a column -/

/-- Capitals of ASCII letters are these letters. -/
theorem foldName_upper {s : Text} (spelled : Ascii s) : foldName (upper s) = foldName s := by
  induction s with
  | nil => rfl
  | cons c rest inductionHypothesis =>
      have others := inductionHypothesis fun letter member =>
        spelled letter (List.mem_cons_of_mem c member)
      have first : foldName (upperChar c) = [foldChar c] := by
        have small := spelled c List.mem_cons_self
        unfold upperChar
        split
        · rename_i letter
          rw [foldName, List.map_singleton, foldChar, foldChar, if_pos, if_neg]
          · congr 1
            apply Fin.ext
            dsimp only
            omega
          · omega
          · dsimp only
            omega
        · rfl
      have whole : foldName (upper (c :: rest)) = foldName (upperChar c) ++ foldName (upper rest) :=
        List.map_append
      rw [whole, first, others]
      rfl

theorem plain_canonical : forall column, column ∈ heartbeatTable.columns -> PlainColumn column := by
  have clauses : (heartbeatTable.columns.all fun column =>
      !column.generated && column.defaultValue.isNone && column.constraints.isEmpty &&
        decide (SameName column.collation binary) &&
        column.autoincrement == decide (column.primaryKey = 1) &&
        column.declaredType.all fun letter => decide (letter.val < 128)) = true := by
    decide +kernel
  intro column member
  have own := List.all_eq_true.mp clauses column member
  simp only [Bool.and_eq_true, Bool.not_eq_true', Option.isNone_iff_eq_none,
    List.isEmpty_iff, decide_eq_true_eq, beq_iff_eq, List.all_eq_true] at own
  rcases own with ⟨⟨⟨⟨⟨listed, noDefault⟩, unconstrained⟩, collation⟩, autoincrement⟩, spelled⟩
  exact ⟨listed, noDefault, unconstrained, collation, autoincrement, spelled⟩

theorem sameColumn_of_contract {a b : Sqlite.Column} (plain : PlainColumn a) (plain' : PlainColumn b)
    (same : contractOf a = contractOf b) : SameColumn a b := by
  unfold contractOf at same
  rcases ColumnContract.mk.inj same with ⟨name, capitals, notNull, primaryKey⟩
  constructor
  case name => exact name
  case declaredType =>
    calc foldName a.declaredType = foldName (upper a.declaredType) := (foldName_upper plain.spelled).symm
      _ = foldName (upper b.declaredType) := by rw [capitals]
      _ = foldName b.declaredType := foldName_upper plain'.spelled
  case notNull => exact notNull
  case primaryKey => exact primaryKey
  case autoincrement => rw [plain.autoincrement, plain'.autoincrement, primaryKey]
  case defaultValue => rw [plain.noDefault, plain'.noDefault]
  case collation => exact plain.collation.trans plain'.collation.symm
  case constraints => rw [plain.unconstrained, plain'.unconstrained]
  case generated => rw [plain.listed, plain'.listed]

theorem PlainColumn.of_sameColumn {a b : Sqlite.Column} (plain : PlainColumn b) (same : SameColumn a b) :
    PlainColumn a where
  listed := same.generated.trans plain.listed
  noDefault := same.defaultValue.trans plain.noDefault
  unconstrained := same.constraints.trans plain.unconstrained
  collation := same.collation.trans plain.collation
  autoincrement := by rw [same.autoincrement, plain.autoincrement, same.primaryKey]
  spelled := same.declaredType.ascii plain.spelled

/-- Plain columns with the contracts of plain columns are these columns. -/
theorem sameColumns_of_contracts {columns others : List Sqlite.Column}
    (plain : forall column, column ∈ columns -> PlainColumn column)
    (plain' : forall column, column ∈ others -> PlainColumn column)
    (same : columns.map contractOf = others.map contractOf) :
    List.Forall₂ SameColumn columns others := by
  induction columns generalizing others with
  | nil =>
      rw [List.map_nil] at same
      rw [List.map_eq_nil_iff.mp same.symm]
      exact .nil
  | cons column columns inductionHypothesis =>
      cases others with
      | nil => cases same
      | cons other others =>
          rw [List.map_cons, List.map_cons, List.cons.injEq] at same
          exact .cons
            (sameColumn_of_contract (plain _ List.mem_cons_self) (plain' _ List.mem_cons_self) same.1)
            (inductionHypothesis (fun _ member => plain _ (List.mem_cons_of_mem _ member))
              (fun _ member => plain' _ (List.mem_cons_of_mem _ member)) same.2)

theorem plain_of_sameColumns {columns others : List Sqlite.Column}
    (same : List.Forall₂ SameColumn columns others)
    (plain : forall column, column ∈ others -> PlainColumn column) :
    forall column, column ∈ columns -> PlainColumn column := by
  induction same with
  | nil =>
      intro column impossible
      cases impossible
  | cons first _ inductionHypothesis =>
      intro column member
      rcases List.mem_cons.mp member with rfl | later
      · exact (plain _ List.mem_cons_self).of_sameColumn first
      · exact inductionHypothesis (fun other listed => plain other (List.mem_cons_of_mem _ listed))
          column later

/-- The index the bootstrap creates. -/
def heartbeatIndex : Index where
  name := indexName
  table := tableName
  columns := canonicalIndexColumns.map some

/-- The outcomes of the writes on a vetted catalogue. -/
inductive Build (c : Catalogue) : Fallible Catalogue -> Prop
  | refused (e : Raised) (unbuildable : Unbuildable c) : Build c (.error e)
  | misplaced (after : Catalogue) (buildable : ¬ Unbuildable c) (misplaced : Misplaced c) :
      Build c (.ok after)
  | complete (buildable : ¬ Unbuildable c) (table : heartbeatTableExists c = true)
      (index : indexOnTable c = true) : Build c (.ok (c.withVersion supportedVersion))
  | indexed (after : Catalogue) (buildable : ¬ Unbuildable c)
      (table : heartbeatTableExists c = true) (tables : after.tables = c.tables)
      (indexes : after.indexes = c.indexes ++ [heartbeatIndex])
      (version : after.userVersion = supportedVersion) : Build c (.ok after)
  | created (after : Catalogue) (buildable : ¬ Unbuildable c)
      (tables : after.tables = c.tables ++ [heartbeatTable])
      (indexes : after.indexes = c.indexes ++ [heartbeatIndex])
      (version : after.userVersion = supportedVersion) : Build c (.ok after)

theorem buildable_of_exact {c : Catalogue} (table : heartbeatTableExists c = true)
    (free : c.findTable indexName = none) : ¬ Unbuildable c := by
  rcases heartbeatTableExists_iff.mp table with ⟨exact, member, named⟩
  rintro (taken | taken | ⟨missing, _⟩)
  · rw [Catalogue.findIndex_of_table (findTable_exact member named)] at taken
    cases taken
  · rw [free] at taken
    cases taken
  · rw [table] at missing
    cases missing

/-- The table is there: what is left to create is the index. -/
theorem build_index {c : Catalogue} (vetted : Vetted c) (table : heartbeatTableExists c = true) :
    Build c (built c true (indexOnTable c)) := by
  rcases heartbeatTableExists_iff.mp table with ⟨exact, member, named⟩
  have owner := findTable_exact member named
  cases index : indexOnTable c with
  | true =>
      rcases (indexOnTable_iff member named).mp index with ⟨existing, listed, spelled, _⟩
      have found := c.findIndex_of_mem listed (congrArg foldName spelled.symm)
      have free := Catalogue.findTable_of_index found
      exact .complete (buildable_of_exact table free) table index
  | false =>
      show Build c (c.createIndex indexName tableName canonicalIndexColumns >>= _)
      cases blocking : c.findTable indexName with
      | some other =>
          rw [Catalogue.createIndex_blocked owner blocking]
          exact .refused _ (Or.inr (Or.inl (by rw [blocking]; rfl)))
      | none =>
          have buildable := buildable_of_exact table blocking
          cases existing : c.findIndex indexName with
          | some other =>
              rw [Catalogue.createIndex_present owner blocking existing]
              refine .misplaced _ buildable (Or.inr ?_)
              rcases Catalogue.findIndex_eq_some existing with ⟨listed, same⟩
              refine ⟨other, listed, same, fun ⟨spelled, owned⟩ => ?_⟩
              have present := (indexOnTable_iff member named).mpr ⟨other, listed, spelled, owned⟩
              rw [index] at present
              cases present
          | none =>
              have resolved := resolve_observed member named (vetted.table table)
              rcases Catalogue.createIndex_new owner blocking existing resolved with
                ⟨after, made, _, tables, indexes⟩
              rw [made]
              refine .indexed _ buildable table tables ?_ rfl
              show after.indexes = _
              rw [indexes, named]
              rfl

/-- The table is not there under its own name. -/
theorem build_table {c : Catalogue} (missing : heartbeatTableExists c = false) :
    Build c (built c false false) := by
  have notExact : forall table, table ∈ c.tables -> table.name ≠ tableName := by
    intro table member named
    have present := heartbeatTableExists_iff.mpr ⟨table, member, named⟩
    rw [missing] at present
    cases present
  show Build c (c.createTable heartbeatTable >>= _ >>= _)
  cases variant : c.findTable tableName with
  | some table =>
      rcases Catalogue.findTable_eq_some variant with ⟨member, same⟩
      have misplaced : Misplaced c := Or.inl ⟨table, member, same, notExact table member⟩
      have free := Catalogue.findIndex_of_table variant
      have kept : c.createTable heartbeatTable = .ok c := Catalogue.createTable_present variant
      rw [kept]
      show Build c (c.createIndex indexName tableName canonicalIndexColumns >>= _)
      cases blocking : c.findTable indexName with
      | some other =>
          rw [Catalogue.createIndex_blocked variant blocking]
          exact .refused _ (Or.inr (Or.inl (by rw [blocking]; rfl)))
      | none =>
          cases existing : c.findIndex indexName with
          | some other =>
              rw [Catalogue.createIndex_present variant blocking existing]
              refine .misplaced _ ?_ misplaced
              rintro (taken | taken | ⟨_, absent, _⟩)
              · rw [free] at taken
                cases taken
              · rw [blocking] at taken
                cases taken
              · rw [absent] at existing
                cases existing
          | none =>
              cases resolved : Catalogue.resolve table canonicalIndexColumns with
              | none =>
                  rw [Catalogue.createIndex_unresolved variant blocking existing resolved]
                  exact .refused _ (Or.inr (Or.inr ⟨missing, existing, table, variant, resolved⟩))
              | some columns =>
                  rcases Catalogue.createIndex_new variant blocking existing resolved with
                    ⟨after, made, _⟩
                  rw [made]
                  refine .misplaced _ ?_ misplaced
                  rintro (taken | taken | ⟨_, _, other, found, unresolved⟩)
                  · rw [free] at taken
                    cases taken
                  · rw [blocking] at taken
                    cases taken
                  · cases variant.symm.trans found
                    rw [unresolved] at resolved
                    cases resolved
  | none =>
      cases blockingIndex : c.findIndex tableName with
      | some other =>
          have refused : c.createTable heartbeatTable = _ :=
            Catalogue.createTable_blocked variant blockingIndex
          rw [refused]
          exact .refused _ (Or.inl (by rw [blockingIndex]; rfl))
      | none =>
          have created := @Catalogue.createTable_new c heartbeatTable variant blockingIndex
          rcases created with ⟨middle, made, _, tables, indexes⟩
          rw [made]
          show Build c (middle.createIndex indexName tableName canonicalIndexColumns >>= _)
          have present : heartbeatTable ∈ middle.tables := by
            rw [tables]
            exact List.mem_append_right _ List.mem_cons_self
          have owner := findTable_exact present rfl
          have sameTable : middle.findTable indexName = c.findTable indexName :=
            Catalogue.findTable_append tables (by decide +kernel)
          have sameIndex : middle.findIndex indexName = c.findIndex indexName :=
            Catalogue.findIndex_congr indexes
          have resolved : Catalogue.resolve heartbeatTable canonicalIndexColumns =
              some canonicalIndexColumns := by decide +kernel
          cases blocking : c.findTable indexName with
          | some other =>
              rw [Catalogue.createIndex_blocked owner (sameTable.trans blocking)]
              exact .refused _ (Or.inr (Or.inl (by rw [blocking]; rfl)))
          | none =>
              have buildable : ¬ Unbuildable c := by
                rintro (taken | taken | ⟨_, _, other, found, _⟩)
                · rw [blockingIndex] at taken
                  cases taken
                · rw [blocking] at taken
                  cases taken
                · rw [variant] at found
                  cases found
              cases existing : c.findIndex indexName with
              | some other =>
                  rw [Catalogue.createIndex_present owner (sameTable.trans blocking)
                    (sameIndex.trans existing)]
                  refine .misplaced _ buildable (Or.inr ?_)
                  rcases Catalogue.findIndex_eq_some existing with ⟨listed, same⟩
                  refine ⟨other, listed, same, fun ⟨_, owned⟩ => ?_⟩
                  rcases c.indexed other listed with ⟨table, member, named⟩
                  exact notExact table member (named.trans owned)
              | none =>
                  rcases Catalogue.createIndex_new owner (sameTable.trans blocking)
                    (sameIndex.trans existing) resolved with ⟨after, written, _, kept, extended⟩
                  rw [written]
                  refine .created _ buildable (kept.trans tables) ?_ rfl
                  show after.indexes = _
                  rw [extended, indexes]
                  rfl

/-- What the writes of a run make of a vetted catalogue. -/
theorem build_vetted {c : Catalogue} (vetted : Vetted c) :
    Build c (built c (heartbeatTableExists c) (heartbeatTableExists c && indexOnTable c)) := by
  cases table : heartbeatTableExists c with
  | true => exact build_index vetted table
  | false => exact build_table table

/-! ## The databases left behind -/

section Settled

variable {c : Catalogue}

/-- The schema objects as the introspection must find them. -/
structure Objects (c : Catalogue) : Prop where
  table : exists table, table ∈ c.tables ∧ table.name = tableName ∧
    (table.columns.filter fun column => !column.generated).map contractOf = canonicalColumns
  index : exists index, index ∈ c.indexes ∧ index.name = indexName ∧ index.table = tableName ∧
    index.columns = canonicalIndexColumns.map some

theorem Objects.of_vetted (vetted : Vetted c) (table : heartbeatTableExists c = true)
    (index : indexOnTable c = true) : Objects c := by
  rcases heartbeatTableExists_iff.mp table with ⟨exact, member, named⟩
  rcases (indexOnTable_iff member named).mp index with ⟨existing, listed, spelled, owned⟩
  have columns := vetted.table table
  rw [observedColumns_eq member named] at columns
  have indexed := vetted.index (by rw [table, index]; rfl)
  rw [indexColumns_eq listed spelled] at indexed
  exact ⟨⟨exact, member, named, columns⟩,
    ⟨existing, listed, spelled, owned, indexColumns_canonical indexed⟩⟩

/-- A stamped catalogue with the schema objects passes every check. -/
theorem Objects.vetted (objects : Objects c) (version : c.userVersion = supportedVersion) :
    Vetted c := by
  rcases objects.table with ⟨table, member, named, columns⟩
  rcases objects.index with ⟨index, listed, spelled, owned, indexed⟩
  have present := heartbeatTableExists_iff.mpr ⟨table, member, named⟩
  have found := (indexOnTable_iff member named).mpr ⟨index, listed, spelled, owned⟩
  constructor
  · exact le_of_eq version
  · intro _
    rw [observedColumns_eq member named, columns]
  · intro _
    rw [indexColumns_eq listed spelled, indexed, List.map_map]
    exact List.map_id _
  · intro _
    rw [present, found]
    exact ⟨rfl, rfl⟩

theorem Objects.conforming (objects : Objects c) (version : c.userVersion = supportedVersion)
    (listed : ¬ Extended c) : Conforming c := by
  rcases objects.table with ⟨table, member, named, columns⟩
  have visible : (table.columns.filter fun column => !column.generated) = table.columns := by
    apply List.filter_eq_self.mpr
    intro column present
    cases generated : column.generated with
    | false => rfl
    | true => exact absurd ⟨table, member, named, column, present, generated⟩ listed
  rw [visible] at columns
  exact ⟨⟨table, member, named, columns⟩, objects.index, version⟩

/-- Without a disguise the columns that conform are the canonical ones. -/
theorem Conforming.canonical (conforming : Conforming c) (plain : ¬ Disguised c) : Canonical c := by
  rcases conforming.table with ⟨table, member, named, columns⟩
  refine ⟨⟨table, member, named, ?_⟩, conforming.index, conforming.version⟩
  have contracts : heartbeatTable.columns.map contractOf = canonicalColumns := by decide +kernel
  apply sameColumns_of_contracts _ plain_canonical (columns.trans contracts.symm)
  intro column present
  by_contra disguise
  exact plain ⟨table, member, named, column, present, disguise⟩

theorem Vetted.objects_of_stamped (vetted : Vetted c) (version : c.userVersion = supportedVersion) :
    Objects c := by
  rcases vetted.stamped version with ⟨table, index⟩
  exact .of_vetted vetted table (Bool.and_eq_true_iff.mp index).2

theorem Build.buildable {after : Catalogue} (build : Build c (.ok after)) : ¬ Unbuildable c := by
  cases build with
  | misplaced _ buildable _ => exact buildable
  | complete buildable _ _ => exact buildable
  | indexed _ buildable _ _ _ _ => exact buildable
  | created _ buildable _ _ _ => exact buildable

/-- Where no name is misplaced, the writes leave the schema objects beside
everything that was there. -/
theorem Build.objects {after : Catalogue} (build : Build c (.ok after)) (vetted : Vetted c)
    (placed : ¬ Misplaced c) :
    Objects after ∧ after.userVersion = supportedVersion ∧
      (exists more, after.tables = c.tables ++ more ∧ forall table, table ∈ more ->
        table = heartbeatTable) ∧ c.indexes ⊆ after.indexes := by
  cases build with
  | misplaced _ _ misplaced => exact absurd misplaced placed
  | complete _ table index =>
      refine ⟨?_, rfl, ⟨[], (List.append_nil _).symm, ?_⟩, fun _ member => member⟩
      · have objects := Objects.of_vetted vetted table index
        exact ⟨objects.table, objects.index⟩
      · intro table impossible
        cases impossible
  | indexed _ _ table tables indexes version =>
      refine ⟨⟨?_, heartbeatIndex, ?_, rfl, rfl, rfl⟩, version, ⟨[], ?_, ?_⟩, ?_⟩
      · rcases heartbeatTableExists_iff.mp table with ⟨exact, member, named⟩
        have columns := vetted.table table
        rw [observedColumns_eq member named] at columns
        exact ⟨exact, by rwa [tables], named, columns⟩
      · rw [indexes]
        exact List.mem_append_right _ List.mem_cons_self
      · rw [tables, List.append_nil]
      · intro table impossible
        cases impossible
      · rw [indexes]
        exact List.subset_append_left _ _
  | created _ _ tables indexes version =>
      refine ⟨⟨⟨heartbeatTable, ?_, rfl, ?_⟩, heartbeatIndex, ?_, rfl, rfl, rfl⟩, version,
        ⟨[heartbeatTable], tables, ?_⟩, ?_⟩
      · rw [tables]
        exact List.mem_append_right _ List.mem_cons_self
      · decide +kernel
      · rw [indexes]
        exact List.mem_append_right _ List.mem_cons_self
      · intro table member
        exact List.mem_singleton.mp member
      · rw [indexes]
        exact List.subset_append_left _ _

/-- The table of the bootstrap has plain columns. -/
theorem plain_of_more {after : Catalogue} {more : List Table} (plain : ¬ Disguised c)
    (tables : after.tables = c.tables ++ more)
    (new : forall table, table ∈ more -> table = heartbeatTable) : ¬ Disguised after := by
  rintro ⟨table, member, named, column, present, disguise⟩
  rw [tables] at member
  rcases List.mem_append.mp member with older | newer
  · exact plain ⟨table, older, named, column, present, disguise⟩
  · rw [new table newer] at present
    exact disguise (plain_canonical column present)

/-- The table of the bootstrap has no generated columns. -/
theorem listed_of_more {after : Catalogue} {more : List Table} (listed : ¬ Extended c)
    (tables : after.tables = c.tables ++ more)
    (new : forall table, table ∈ more -> table = heartbeatTable) : ¬ Extended after := by
  rintro ⟨table, member, named, column, present, generated⟩
  rw [tables] at member
  rcases List.mem_append.mp member with older | newer
  · exact listed ⟨table, older, named, column, present, generated⟩
  · rw [new table newer] at present
    rw [(plain_canonical column present).listed] at generated
    cases generated

end Settled

/-! ## The contract, exactly -/

/-- What is refused fails a check, or passes them all and fails a statement. -/
theorem refused_iff (c : Catalogue) :
    Refused c ↔ ¬ Vetted c ∨ (c.userVersion < supportedVersion ∧ Unbuildable c) := by
  constructor
  · rintro (newer | ⟨table, columns⟩ | ⟨table, index, columns⟩ | ⟨version, missing⟩ |
      ⟨version, unbuildable⟩)
    · exact Or.inl fun vetted => absurd vetted.version (not_le_of_gt newer)
    · exact Or.inl fun vetted => columns (vetted.table table)
    · exact Or.inl fun vetted => columns (vetted.index (by rw [table, index]; rfl))
    · refine Or.inl fun vetted => missing ?_
      rcases vetted.stamped version with ⟨table, both⟩
      exact ⟨table, (Bool.and_eq_true_iff.mp both).2⟩
    · rcases lt_or_gt_of_ne version with older | newer
      · exact Or.inr ⟨older, unbuildable⟩
      · exact Or.inl fun vetted => absurd vetted.version (not_le_of_gt newer)
  · rintro (unvetted | ⟨older, unbuildable⟩)
    · by_contra accepted
      apply unvetted
      constructor
      · exact le_of_not_gt fun newer => accepted (Or.inl newer)
      · intro table
        by_contra columns
        exact accepted (Or.inr (Or.inl ⟨table, columns⟩))
      · intro both
        rcases Bool.and_eq_true_iff.mp both with ⟨table, index⟩
        by_contra columns
        exact accepted (Or.inr (Or.inr (Or.inl ⟨table, index, columns⟩)))
      · intro current
        by_contra missing
        apply accepted
        refine Or.inr (Or.inr (Or.inr (Or.inl ⟨current, ?_⟩)))
        rintro ⟨table, index⟩
        exact missing ⟨table, by rw [table, index]; rfl⟩
    · exact Or.inr (Or.inr (Or.inr (Or.inr ⟨ne_of_lt older, unbuildable⟩)))

/-- Running again on a settled catalogue returns at once. -/
theorem initializeSchema_again {connection : Connection} (faults : Faults)
    (objects : Objects connection.current)
    (version : connection.current.userVersion = supportedVersion) :
    initializeSchema faults connection = (.ok (), connection) := by
  rcases initializeSchema_eq faults connection with ⟨_, run⟩ | ⟨refused, _⟩
  · rw [run, if_pos version]
  · exact absurd (objects.vetted version) refused

/-- A refused database makes every run raise and stays as it was. -/
theorem contract_of_refused {database : Catalogue} (refused : Refused database) :
    BootstrapContract database := by
  have raises : forall faults connection,
      initializeSchema faults (Connection.opened database) ≠ (.ok (), connection) := by
    intro faults connection run
    have ended := initializeSchema_ended faults database
    rw [run] at ended
    rcases (refused_iff database).mp refused with unvetted | ⟨older, unbuildable⟩
    · cases ended with
      | stamped vetted _ => exact unvetted vetted
      | written vetted _ _ _ _ => exact unvetted vetted
    · cases ended with
      | stamped _ version => exact absurd version (ne_of_lt older)
      | written vetted _ _ made _ =>
          have build := build_vetted vetted
          rw [made] at build
          exact build.buildable unbuildable
  refine ⟨fun faults connection run => absurd run (raises faults connection), ?_,
    fun _ _ => raises⟩
  intro faults e connection run
  have ended := initializeSchema_ended faults database
  rw [run] at ended
  cases ended with
  | failed _ _ same _ => exact same

/-- Where the two views of the names agree, what a run leaves conforms, and it
is what another run leaves alone. -/
theorem conforming_of_returned {database : Catalogue} (placed : ¬ Misplaced database)
    (listed : ¬ Extended database) {faults : Faults} {connection : Connection}
    (run : initializeSchema faults (Connection.opened database) = (.ok (), connection)) :
    Conforming connection.database ∧ database.tables ⊆ connection.database.tables ∧
      database.indexes ⊆ connection.database.indexes ∧
      (¬ Disguised database -> ¬ Disguised connection.database) ∧
      forall faults', initializeSchema faults' connection = (.ok (), connection) := by
  have ended := initializeSchema_ended faults database
  rw [run] at ended
  cases ended with
  | stamped vetted current =>
      have objects := vetted.objects_of_stamped current
      exact ⟨objects.conforming current listed, fun _ member => member, fun _ member => member, id,
        fun faults' => initializeSchema_again faults' objects current⟩
  | written vetted older _ made closed =>
      have build := build_vetted vetted
      rw [made] at build
      rcases build.objects vetted placed with ⟨objects, stamped, ⟨more, tables, new⟩, indexes⟩
      have seen : connection.current = connection.database := by
        rw [Connection.current, closed, Option.getD_none]
      refine ⟨objects.conforming stamped (listed_of_more listed tables new), ?_, indexes,
        fun plain => plain_of_more plain tables new, ?_⟩
      · rw [tables]
        exact List.subset_append_left _ _
      · intro faults'
        exact initializeSchema_again faults' (by rwa [seen]) (by rwa [seen])

/-- Where the views of names and columns agree, the bootstrap keeps its contract. -/
theorem contract_of_placed {database : Catalogue} (version : 0 ≤ database.userVersion)
    (placed : ¬ Misplaced database) (plain : ¬ Disguised database) :
    BootstrapContract database := by
  constructor
  · intro faults connection run
    have listed := fun extended => plain (disguised_of_extended extended)
    rcases conforming_of_returned placed listed run with ⟨conforming, tables, indexes, kept, again⟩
    exact ⟨conforming.canonical (kept plain), tables, indexes, again⟩
  · intro faults e connection run
    have ended := initializeSchema_ended faults database
    rw [run] at ended
    cases ended with
    | failed _ _ same _ => exact same
  · intro notZero notOne faults connection run
    have ended := initializeSchema_ended faults database
    rw [run] at ended
    cases ended with
    | stamped _ current => exact notOne current
    | written _ older _ _ _ =>
        unfold supportedVersion at older
        omega

/-- Without faults a database that is not refused is bootstrapped. -/
theorem exists_run {database : Catalogue} (accepted : ¬ Refused database) :
    Vetted database ∧ exists connection,
      initializeSchema (fun _ => none) (Connection.opened database) = (.ok (), connection) := by
  rw [refused_iff, not_or, not_not, not_and] at accepted
  rcases accepted with ⟨vetted, buildable⟩
  refine ⟨vetted, ?_⟩
  have ended := initializeSchema_ended (fun _ => none) database
  rcases run : initializeSchema (fun _ => none) (Connection.opened database) with
    ⟨e | value, connection⟩
  · rw [run] at ended
    cases ended with
    | failed _ _ _ reason =>
        rcases reason (fun _ => rfl) with unvetted | ⟨older, made⟩
        · exact absurd vetted unvetted
        · have build := build_vetted vetted
          rw [made] at build
          cases build with
          | refused _ unbuildable => exact absurd unbuildable (buildable older)
  · exact ⟨connection, rfl⟩

/-- The bootstrap keeps its contract exactly on the databases it refuses and on
those where its names and columns mean the same as SQLite's. -/
theorem bootstrap_contract_iff (database : Catalogue) :
    BootstrapContract database ↔ Refused database ∨
      (0 ≤ database.userVersion ∧ ¬ Misplaced database ∧ ¬ Disguised database) := by
  constructor
  · intro contract
    by_cases refused : Refused database
    · exact Or.inl refused
    rcases exists_run refused with ⟨vetted, connection, run⟩
    rcases contract.returned _ connection run with ⟨canonical, tables, indexes, _⟩
    rcases canonical.table with ⟨table, member, named, columns⟩
    rcases canonical.index with ⟨index, indexMember, spelled, owned, _⟩
    refine Or.inr ⟨?_, ?_, ?_⟩
    · by_contra negative
      have notZero : database.userVersion ≠ 0 := by omega
      have notOne : database.userVersion ≠ 1 := by omega
      exact contract.versions notZero notOne _ connection run
    · rintro (⟨other, present, same, different⟩ | ⟨other, present, same, different⟩)
      · have unique := connection.database.table_unique (tables present) member
          (same.symm.trans (congrArg foldName named.symm))
        exact different (by rw [unique, named])
      · have unique := connection.database.index_unique (indexes present) indexMember
          (same.symm.trans (congrArg foldName spelled.symm))
        exact different (by rw [unique]; exact ⟨spelled, owned⟩)
    · rintro ⟨other, present, exact, column, listed, disguise⟩
      have unique := connection.database.table_unique (tables present) member
        (congrArg foldName (exact.trans named.symm))
      exact disguise (plain_of_sameColumns columns plain_canonical column (unique ▸ listed))
  · rintro (refused | ⟨version, placed, plain⟩)
    · exact contract_of_refused refused
    · exact contract_of_placed version placed plain

def otherTable : Table where
  name := text "other"
  columns := [required "node" "TEXT"]
  columnsDistinct := by decide

/-- An unversioned database whose table `other` has the name of the index. -/
def foreignIndex : Catalogue where
  userVersion := 0
  tables := [otherTable]
  indexes := [⟨indexName, text "other", [some (text "node")]⟩]
  namesDistinct := by decide +kernel
  indexed := by
    intro index member
    rw [List.mem_singleton.mp member]
    exact ⟨otherTable, List.mem_cons_self, rfl⟩

theorem foreignIndex_accepted : ¬ Refused foreignIndex := by
  have tableMissing : heartbeatTableExists foreignIndex = false := by decide +kernel
  rintro (newer | ⟨table, _⟩ | ⟨table, _⟩ | ⟨version, _⟩ | ⟨_, taken | taken | ⟨_, absent, _⟩⟩)
  · revert newer
    decide
  · rw [tableMissing] at table
    cases table
  · rw [tableMissing] at table
    cases table
  · revert version
    decide
  · revert taken
    decide +kernel
  · revert taken
    decide +kernel
  · revert absent
    decide +kernel

/-- The bootstrap returns and stamps version 1, and refuses its own result. -/
theorem foreignIndex_stamped :
    exists connection,
      initializeSchema (fun _ => none) (Connection.opened foreignIndex) = (.ok (), connection) ∧
      connection.database.userVersion = 1 ∧
      (exists e, initializeSchema (fun _ => none) connection = (.error e, connection)) ∧
      ¬ BootstrapContract foreignIndex := by
  rcases exists_run foreignIndex_accepted with ⟨_, connection, run⟩
  have ended := initializeSchema_ended (fun _ => none) foreignIndex
  rw [run] at ended
  have result : (built foreignIndex (heartbeatTableExists foreignIndex)
      (heartbeatTableExists foreignIndex && indexOnTable foreignIndex)).toOption.map
        (fun after => (after.userVersion, indexOnTable after)) = some (1, false) := by decide +kernel
  cases ended with
  | stamped _ version =>
      have unversioned : foreignIndex.userVersion ≠ supportedVersion := by decide
      exact absurd version unversioned
  | written _ _ _ made closed =>
      rw [made] at result
      rcases Prod.mk.inj (Option.some.inj result) with ⟨version, missing⟩
      have seen : connection.current = connection.database := by
        rw [Connection.current, closed, Option.getD_none]
      have again : exists e, initializeSchema (fun _ => none) connection =
          (.error e, connection) := by
        rcases initializeSchema_eq (fun _ => none) connection with ⟨vetted, _⟩ | ⟨_, refused⟩
        · have both := (vetted.stamped (by rw [seen]; exact version)).2
          rw [seen, missing, Bool.and_false] at both
          cases both
        · exact refused
      refine ⟨connection, run, version, again, fun contract => ?_⟩
      rcases again with ⟨e, raised⟩
      have returned := (contract.returned _ connection run).2.2.2 (fun _ => none)
      rw [raised] at returned
      cases returned

end Heartbeat
end HermesSentinel
