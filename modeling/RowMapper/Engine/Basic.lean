import RowMapper.Config
import RowMapper.Error
import RowMapper.Row
import RowMapper.Sql.Statement

/-!
# `RowMapper.Engine.Basic`: database engines as state transitions

An engine is known by what it does. A `Driver` opens, checks and ends sessions; an `Engine` also
runs statements on them. All of it happens in a world `ω`, of which nothing is assumed: each
operation is a function on `ω` that answers with a value or an error. A session is a value of `σ`,
the handle that later operations name it by.
-/

set_option autoImplicit false

namespace RowMapper

/-- What a statement that writes reports: the rows it met, the rows it changed, and the last key
that was assigned. -/
structure WriteResult where
  affected : Nat
  changed : Nat
  lastInsertedId : Int64

/-- What a statement answers with. -/
inductive Output where
  | rows (found : List Row)
  | write (result : WriteResult)

namespace Output

/-- The rows of a reading statement, none of a writing one. -/
def toRows : Output → List Row
  | .rows found => found
  | .write _ => []

/-- The report of a writing statement. -/
def writeResult? : Output → Option WriteResult
  | .rows _ => none
  | .write result => some result

end Output

/-- How sessions are opened, checked and ended. -/
structure Driver (σ ω : Type) where
  /-- The name of the engine behind a session. -/
  name : σ → String
  /-- Opens a session. -/
  connect : Config → StateM ω (Except MapperError σ)
  /-- Whether the engine still answers. -/
  ping : σ → StateM ω Bool
  /-- Ends a session. -/
  close : σ → StateM ω (Except MapperError Unit)

/-- A driver whose sessions run statements. -/
structure Engine (σ ω : Type) extends Driver σ ω where
  /-- Runs a statement and answers with its rows. -/
  fetch : σ → Sql.Statement → StateM ω (Except MapperError (List Row))
  /-- Runs a statement that has no rows. -/
  execute : σ → Sql.Statement → StateM ω (Except MapperError WriteResult)

/-- Runs a statement in the way of its kind. -/
def Engine.run {σ ω : Type} (engine : Engine σ ω) (statement : Sql.Statement) (session : σ) :
    StateM ω (Except MapperError Output) :=
  match Sql.StatementKind.ofSql statement.sql with
  | .read => return (← engine.fetch session statement).map .rows
  | .write => return (← engine.execute session statement).map .write

end RowMapper
