import HermesSentinel.Heartbeat.Schema

namespace HermesSentinel
namespace Heartbeat

open Python
open Sqlite
open Foundation

/-!
# Runs of the bootstrap

A run first checks and then writes in one transaction.  `Ended` lists how a run
on a database just opened can end; what the writes make of the catalogue is the
plain function `built`, whatever statements fail on the way.
-/

/-- The checks before any write. -/
structure Vetted (c : Catalogue) : Prop where
  version : c.userVersion ≤ supportedVersion
  table : heartbeatTableExists c = true -> observedColumns c = canonicalColumns
  index : (heartbeatTableExists c && indexOnTable c) = true ->
    indexColumns c = canonicalIndexColumns
  stamped : c.userVersion = supportedVersion -> heartbeatTableExists c = true ∧
    (heartbeatTableExists c && indexOnTable c) = true

def withTable (tablePresent : Bool) (c : Catalogue) : Fallible Catalogue :=
  if tablePresent = true then .ok c else c.createTable heartbeatTable

def withIndex (indexPresent : Bool) (c : Catalogue) : Fallible Catalogue :=
  if indexPresent = true then .ok c
  else c.createIndex indexName tableName canonicalIndexColumns

/-- What the writes make of a catalogue. -/
def built (c : Catalogue) (tablePresent indexPresent : Bool) : Fallible Catalogue :=
  withTable tablePresent c >>= withIndex indexPresent >>= fun c =>
    .ok (c.withVersion supportedVersion)

def FaultFree (faults : Faults) : Prop :=
  forall statement, faults statement = none

/-- Within a transaction on `database`, whose working copy is what `call` made. -/
def Working (database : Catalogue) (call : Fallible Catalogue) (connection : Connection) : Prop :=
  connection.database = database ∧ exists work, call = .ok work ∧
    connection.transaction = some work

/-- The database is untouched, and if no statement failed by itself then `call` did. -/
def Aborted (faults : Faults) (database : Catalogue) (call : Fallible Catalogue) (e : Raised)
    (connection : Connection) : Prop :=
  connection.database = database ∧ (FaultFree faults -> call = .error e)

theorem Aborted.bind {faults : Faults} {database : Catalogue} {call : Fallible Catalogue}
    {e : Raised} {connection : Connection} (aborted : Aborted faults database call e connection)
    (next : Catalogue -> Fallible Catalogue) :
    Aborted faults database (call >>= next) e connection := by
  refine ⟨aborted.1, fun free => ?_⟩
  rw [aborted.2 free]
  rfl

/-- A statement inside the transaction, by its effect on the working copy. -/
theorem execute_spec {faults : Faults} {statement : Statement} {database : Catalogue}
    {before : Fallible Catalogue} {change : Catalogue -> Fallible Catalogue}
    (effect : forall (connection : Connection) (work : Catalogue),
      connection.transaction = some work ->
        connection.effect statement = change work >>= fun after =>
          .ok { connection with transaction := some after }) :
    Program.Spec (Working database before) (Connection.execute faults statement)
      (fun _ => Working database (before >>= change))
      (Aborted faults database (before >>= change)) := by
  rintro connection ⟨same, work, made, opened⟩
  unfold Connection.execute
  cases faulty : faults statement with
  | some e =>
      refine ⟨same, fun free => ?_⟩
      rw [free statement] at faulty
      cases faulty
  | none =>
      rw [effect connection work opened]
      cases changed : change work with
      | error e => exact ⟨same, fun _ => by rw [made]; exact changed⟩
      | ok after => exact ⟨same, after, by rw [made]; exact changed, rfl⟩

/-- A statement that is left out keeps the working copy. -/
theorem onlyIf_spec {faults : Faults} {statement : Statement} {database : Catalogue}
    {before : Fallible Catalogue} {change : Catalogue -> Fallible Catalogue} {present : Bool}
    (effect : forall (connection : Connection) (work : Catalogue),
      connection.transaction = some work ->
        connection.effect statement = change work >>= fun after =>
          .ok { connection with transaction := some after }) :
    Program.Spec (Working database before)
      (Program.onlyIf (!present) (Connection.execute faults statement))
      (fun _ => Working database (before >>= fun c => if present = true then .ok c else change c))
      (Aborted faults database (before >>= fun c => if present = true then .ok c else change c)) := by
  cases present with
  | false => exact execute_spec effect
  | true =>
      rintro connection ⟨same, work, made, opened⟩
      exact ⟨same, work, by rw [made]; rfl, opened⟩

theorem createTable_effect (connection : Connection) (work : Catalogue)
    (opened : connection.transaction = some work) (table : Table) :
    connection.effect (.createTable table) = work.createTable table >>= fun after =>
      .ok { connection with transaction := some after } := by
  simp only [Connection.effect, Connection.current, Connection.write, opened, Option.getD_some]

theorem createIndex_effect (connection : Connection) (work : Catalogue)
    (opened : connection.transaction = some work) (name owner : Text) (columns : List Text) :
    connection.effect (.createIndex name owner columns) =
      work.createIndex name owner columns >>= fun after =>
        .ok { connection with transaction := some after } := by
  simp only [Connection.effect, Connection.current, Connection.write, opened, Option.getD_some]

theorem setUserVersion_effect (connection : Connection) (work : Catalogue)
    (opened : connection.transaction = some work) (version : Int) :
    connection.effect (.setUserVersion version) =
      (.ok (work.withVersion version) : Fallible Catalogue) >>= fun after =>
        .ok { connection with transaction := some after } := by
  simp only [Connection.effect, Connection.current, Connection.write, opened, Option.getD_some,
    ok_bind]

theorem begin_spec (faults : Faults) (database : Catalogue) :
    Program.Spec (fun connection => connection.database = database ∧ connection.transaction = none)
      (Connection.execute faults .beginTransaction) (fun _ => Working database (.ok database))
      (fun _ connection => connection.database = database ∧ ¬ FaultFree faults) := by
  rintro connection ⟨same, closed⟩
  unfold Connection.execute
  cases faulty : faults .beginTransaction with
  | some e =>
      refine ⟨same, fun free => ?_⟩
      rw [free .beginTransaction] at faulty
      cases faulty
  | none =>
      simp only [Connection.effect, closed]
      exact ⟨same, database, rfl, congrArg some same⟩

/-- The writes build the catalogue in the working copy and leave the database
untouched. -/
theorem writeSchema_spec (faults : Faults) (database : Catalogue)
    (tablePresent indexPresent : Bool) :
    Program.Spec (fun connection => connection.database = database ∧ connection.transaction = none)
      (writeSchema faults tablePresent indexPresent)
      (fun _ => Working database (built database tablePresent indexPresent))
      (Aborted faults database (built database tablePresent indexPresent)) := by
  have first := (begin_spec faults database).mono (fun _ holds => holds) (fun _ _ holds => holds)
    (fun e connection (stopped : connection.database = database ∧ ¬ FaultFree faults) =>
      (⟨stopped.1, fun free => absurd free stopped.2⟩ :
        Aborted faults database (built database tablePresent indexPresent) e connection))
  have second := (@onlyIf_spec faults (.createTable heartbeatTable) database (.ok database)
    (fun c => c.createTable heartbeatTable) tablePresent
    (fun connection work opened => createTable_effect connection work opened _)).mono
      (fun _ holds => holds) (fun _ _ holds => holds)
      (fun _ _ aborted => (aborted.bind (withIndex indexPresent)).bind fun c =>
        .ok (c.withVersion supportedVersion))
  have third := (@onlyIf_spec faults (.createIndex indexName tableName canonicalIndexColumns)
    database (withTable tablePresent database)
    (fun c => c.createIndex indexName tableName canonicalIndexColumns) indexPresent
    (fun connection work opened => createIndex_effect connection work opened _ _ _)).mono
      (fun _ holds => holds) (fun _ _ holds => holds)
      (fun _ _ aborted => aborted.bind fun c => .ok (c.withVersion supportedVersion))
  have last := @execute_spec faults (.setUserVersion supportedVersion) database
    (withTable tablePresent database >>= withIndex indexPresent)
    (fun c => .ok (c.withVersion supportedVersion))
    (fun connection work opened => setUserVersion_effect connection work opened _)
  exact first.bind fun _ => second.bind fun _ => third.bind fun _ => last

/-- The part of the bootstrap after its checks. -/
def stampSchema (faults : Faults) (database : Catalogue) : Program Raised Connection Unit := do
  Program.handle (writeSchema faults (heartbeatTableExists database)
    (heartbeatTableExists database && indexOnTable database))
    (fun e => some (rollbackAndRaise e))
  Connection.execute faults .commit

theorem commit_spec (faults : Faults) (database : Catalogue) (call : Fallible Catalogue) :
    Program.Spec (Working database call) (Connection.execute faults .commit)
      (fun _ connection => connection.transaction = none ∧ call = .ok connection.database)
      (Aborted faults database call) := by
  rintro connection ⟨same, work, made, opened⟩
  unfold Connection.execute
  cases faulty : faults .commit with
  | some e =>
      refine ⟨same, fun free => ?_⟩
      rw [free .commit] at faulty
      cases faulty
  | none =>
      simp only [Connection.effect, Connection.current, opened, Option.getD_some]
      exact ⟨trivial, made⟩

/-- Rolling back leaves the database as it was, like the failed write before it. -/
theorem rollback_spec (faults : Faults) (database : Catalogue) (call : Fallible Catalogue)
    (e : Raised) {post : Unit -> Connection -> Prop} :
    Program.Spec (Aborted faults database call e) (rollbackAndRaise e) post
      (Aborted faults database call) :=
  fun _ aborted => aborted

theorem stampSchema_spec (faults : Faults) (database : Catalogue) :
    Program.Spec (fun connection => connection.database = database ∧ connection.transaction = none)
      (stampSchema faults database)
      (fun _ connection => connection.transaction = none ∧
        built database (heartbeatTableExists database)
          (heartbeatTableExists database && indexOnTable database) = .ok connection.database)
      (Aborted faults database (built database (heartbeatTableExists database)
        (heartbeatTableExists database && indexOnTable database))) := by
  have committed := commit_spec faults database (built database (heartbeatTableExists database)
    (heartbeatTableExists database && indexOnTable database))
  apply Program.Spec.bind _ fun _ => committed
  apply Program.Spec.handle (writeSchema_spec faults database _ _)
  · intro e next chosen
    cases chosen
    exact rollback_spec faults database _ e
  · intro e impossible
    cases impossible

theorem lift_ensure (kind : ExceptionClass) (condition : Prop) [Decidable condition]
    (message : String) (next : Program Raised Connection Unit) (connection : Connection) :
    (Program.lift (ensure kind condition message) >>= fun _ => next) connection =
      if condition then next connection
      else (.error { kind := kind, message := message }, connection) := by
  by_cases holds : condition
  · rw [if_pos holds, ensure, if_pos holds]
    rfl
  · rw [if_neg holds, ensure, if_neg holds]
    rfl

/-- The checks come before every write and touch nothing. -/
theorem initializeSchema_eq (faults : Faults) (connection : Connection) :
    (Vetted connection.current ∧ initializeSchema faults connection =
      if connection.current.userVersion = supportedVersion then (.ok (), connection)
      else stampSchema faults connection.current connection) ∨
    (¬ Vetted connection.current ∧ exists e, initializeSchema faults connection =
      (.error e, connection)) := by
  unfold initializeSchema
  show (_ ∧ (Program.lift _ >>= fun _ => _) connection = _) ∨
    (_ ∧ exists e, (Program.lift _ >>= fun _ => _) connection = _)
  rw [lift_ensure]
  by_cases version : schemaVersion connection.current ≤ supportedVersion
  · rw [if_pos version, lift_ensure]
    by_cases table : heartbeatTableExists connection.current = true ->
        observedColumns connection.current = canonicalColumns
    · rw [if_pos table, lift_ensure]
      by_cases index : (heartbeatTableExists connection.current &&
          indexOnTable connection.current) = true ->
            indexColumns connection.current = canonicalIndexColumns
      · rw [if_pos index]
        by_cases current : schemaVersion connection.current = supportedVersion
        · rw [if_pos current]
          by_cases objects : heartbeatTableExists connection.current = true ∧
              (heartbeatTableExists connection.current && indexOnTable connection.current) = true
          · rw [ensure, if_pos objects]
            refine Or.inl ⟨⟨version, table, index, fun _ => objects⟩, ?_⟩
            exact (if_pos current).symm
          · rw [ensure, if_neg objects]
            exact Or.inr ⟨fun vetted => objects (vetted.stamped current), _, rfl⟩
        · rw [if_neg current]
          refine Or.inl ⟨⟨version, table, index, fun stamped => absurd stamped current⟩, ?_⟩
          exact (if_neg current).symm
      · rw [if_neg index]
        exact Or.inr ⟨fun vetted => index vetted.index, _, rfl⟩
    · rw [if_neg table]
      exact Or.inr ⟨fun vetted => table vetted.table, _, rfl⟩
  · rw [if_neg version]
    exact Or.inr ⟨fun vetted => version vetted.version, _, rfl⟩

/-- How a run on a database ends: every check passed, or something refused. -/
inductive Ended (faults : Faults) (database : Catalogue) :
    Except Raised Unit × Connection -> Prop
  | stamped (vetted : Vetted database) (version : database.userVersion = supportedVersion) :
      Ended faults database (.ok (), Connection.opened database)
  | written (vetted : Vetted database) (version : database.userVersion < supportedVersion)
      (connection : Connection)
      (made : built database (heartbeatTableExists database)
        (heartbeatTableExists database && indexOnTable database) = .ok connection.database)
      (closed : connection.transaction = none) : Ended faults database (.ok (), connection)
  | failed (e : Raised) (connection : Connection) (same : connection.database = database)
      (reason : FaultFree faults -> ¬ Vetted database ∨
        (database.userVersion < supportedVersion ∧
          built database (heartbeatTableExists database)
            (heartbeatTableExists database && indexOnTable database) = .error e)) :
      Ended faults database (.error e, connection)

theorem initializeSchema_ended (faults : Faults) (database : Catalogue) :
    Ended faults database (initializeSchema faults (Connection.opened database)) := by
  rcases initializeSchema_eq faults (Connection.opened database) with ⟨vetted, run⟩ |
    ⟨refused, e, run⟩
  · have seen : (Connection.opened database).current = database := rfl
    rw [seen] at vetted run
    rw [run]
    by_cases version : database.userVersion = supportedVersion
    · rw [if_pos version]
      exact .stamped vetted version
    · have older : database.userVersion < supportedVersion :=
        lt_of_le_of_ne vetted.version version
      rw [if_neg version]
      have done := stampSchema_spec faults database (Connection.opened database) ⟨rfl, rfl⟩
      rcases stamping : stampSchema faults database (Connection.opened database) with
        ⟨e | value, connection⟩
      · rw [stamping] at done
        exact .failed e connection done.1 fun free => Or.inr ⟨older, done.2 free⟩
      · rw [stamping] at done
        exact .written vetted older connection done.2 done.1
  · rw [run]
    exact .failed e _ rfl fun _ => Or.inl refused

end Heartbeat
end HermesSentinel
