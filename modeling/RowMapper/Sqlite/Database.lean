import RowMapper.Engine.Basic
import RowMapper.Sqlite.Table

/-!
# `RowMapper.Sqlite.Database`: a database of one table

The commands on a database with one table, and the driver that opens and closes it. A database in
memory ends with its session, and the next session finds an empty one; a database in a file stays.
The last key that a session has assigned is forgotten with the session.
-/

set_option autoImplicit false

namespace RowMapper.Sqlite

/-- The table, if it has been created, and the last key that the session has assigned, zero if it
has assigned none. -/
structure Database where
  table : Option Table := none
  lastKey : Nat := 0

/-- What can be asked of a database. Keys may be given as any stored value. -/
inductive Command where
  /-- Creates the table. -/
  | create
  /-- Stores a value in a new row. -/
  | insert (stored : Storage)
  /-- Stores another value in the row of a key. -/
  | update (id stored : Storage)
  /-- Removes the row of a key. -/
  | delete (id : Storage)
  /-- Reads all rows in the order of their keys. -/
  | rows
  /-- Reads one row of the values given here. -/
  | echo (columns : List (String × Storage))

namespace Database

/-- A configuration without a file. -/
def isInMemory (config : Config) : Bool :=
  config.url == Config.sqliteMemory.url

/-- The database as a new session finds it. -/
def opened (config : Config) (database : Database) : Database :=
  { table := if isInMemory config then none else database.table }

/-- The report of a command that wrote this many rows. SQLite does not tell rows that it met from
rows that it changed. -/
def report (database : Database) (count : Nat) : Output :=
  .write ⟨count, count, Table.keyNumber database.lastKey⟩

/-- The refusal of a command without its table. -/
def noTable : MapperError :=
  .engine (.rejected 1 "no such table: t")

/-- Creates the table, once. -/
def create (database : Database) : Except MapperError Output × Database :=
  match database.table with
  | some _ => (.error (.engine (.rejected 1 "table t already exists")), database)
  | none => (.ok (database.report 0), { database with table := some {} })

/-- Does something with the table, which must have been created. -/
def onTable (database : Database) (action : Table → Output × Database) :
    Except MapperError Output × Database :=
  match database.table with
  | some table => ((Except.ok (action table).1), (action table).2)
  | none => (.error noTable, database)

/-- Carries out a command. -/
def run (database : Database) : Command → Except MapperError Output × Database
  | .create => database.create
  | .insert stored => database.onTable fun table =>
    let table := table.insert stored
    let database := { table := some table, lastKey := table.lastKey }
    (report database 1, database)
  | .update id stored => database.onTable fun table =>
    (database.report (table.count id), { database with table := some (table.update id stored) })
  | .delete id => database.onTable fun table =>
    (database.report (table.count id), { database with table := some (table.erase id) })
  | .rows => database.onTable fun table => (.rows table.toRows, database)
  | .echo columns =>
    (.ok (.rows [⟨columns.map fun (name, stored) => (name, stored.toValue)⟩]), database)

/-- The driver of such databases. -/
def driver : Driver Unit Database where
  name _ := "sqlite"
  connect config := fun database => (.ok (), database.opened config)
  ping _ := return true
  close _ := return .ok ()

end Database

/-- A command as something to do in a session. -/
def Command.perform (command : Command) (_ : Unit) : StateM Database (Except MapperError Output) :=
  fun database => database.run command

end RowMapper.Sqlite
