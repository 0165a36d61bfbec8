import HermesSentinel.Foundation.Program
import HermesSentinel.Sqlite.Catalogue

namespace HermesSentinel
namespace Sqlite

open Python
open Foundation

/-!
# Connections and transactions

A connection sees the committed database or, while a transaction is open, the
working copy that its statements change.  Committing puts the copy in the place
of the database, and rolling back drops it.

A writing statement can fail for reasons outside of the catalogue (a lock, a
full disk), which statements do is given as `Faults`.  What was executed is
recorded in order.
-/

inductive Statement
  | beginTransaction
  | createTable (table : Table)
  | createIndex (name tableName : Text) (columns : List Text)
  | setUserVersion (version : Int)
  | commit

abbrev Faults := Statement -> Option Raised

structure Connection where
  database : Catalogue
  transaction : Option Catalogue
  executed : List Statement

namespace Connection

/-- A connection just opened on a database. -/
def opened (database : Catalogue) : Connection where
  database := database
  transaction := none
  executed := []

def current (connection : Connection) : Catalogue :=
  connection.transaction.getD connection.database

/-- Change what the connection sees; outside a transaction this commits. -/
def write (connection : Connection) (after : Catalogue) : Connection :=
  match connection.transaction with
  | some _ => { connection with transaction := some after }
  | none => { connection with database := after }

def effect (connection : Connection) : Statement -> Fallible Connection
  | .beginTransaction =>
      match connection.transaction with
      | some _ => Catalogue.operationalError "cannot start a transaction within a transaction"
      | none => .ok { connection with transaction := some connection.database }
  | .createTable table => do
      let after ← connection.current.createTable table
      .ok (connection.write after)
  | .createIndex name tableName columns => do
      let after ← connection.current.createIndex name tableName columns
      .ok (connection.write after)
  | .setUserVersion version => .ok (connection.write (connection.current.withVersion version))
  | .commit => .ok { connection with database := connection.current, transaction := none }

/-- `connection.execute(statement)` and `connection.commit()`. -/
def execute (faults : Faults) (statement : Statement) : Program Raised Connection Unit :=
  fun connection =>
    match faults statement with
    | some e => (.error e, connection)
    | none =>
        match connection.effect statement with
        | .error e => (.error e, connection)
        | .ok after => (.ok (), { after with executed := connection.executed ++ [statement] })

def rollback : Program Raised Connection Unit :=
  Program.update fun connection => { connection with transaction := none }

end Connection

end Sqlite
end HermesSentinel
