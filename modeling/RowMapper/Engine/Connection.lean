import RowMapper.Engine.Basic

/-!
# `RowMapper.Engine.Connection`: one session, opened when needed

A connection has a configuration and at most one session. The session is opened by whatever needs
it first and stays until `close`; after that the next need opens another. A connection counts the
statements it has handed to a session, in 64 bits.

Each operation answers in the world of the driver with its result and the connection as it is
afterwards.
-/

set_option autoImplicit false

namespace RowMapper

/-- A connection: how to open its session, the session if one is open, and the number of
statements handed to sessions so far. -/
structure Connection (σ : Type) where
  config : Config
  session : Option σ
  statements : UInt64

namespace Connection

variable {σ ω α : Type}

/-- A connection whose session is still to be opened; the driver must be known. -/
def ofConfig (config : Config) : Except MapperError (Connection σ) :=
  if config.isSupported then .ok ⟨config, none, 0⟩
  else .error (.unsupportedDriver config.driver)

/-- A connection with a session that is open already. -/
def ofSession (config : Config) (session : σ) : Connection σ :=
  ⟨config, some session, 0⟩

/-- The session, opened if there is none. -/
def opened (driver : Driver σ ω) (connection : Connection σ) :
    StateM ω (Except MapperError σ × Connection σ) :=
  match connection.session with
  | some session => return (.ok session, connection)
  | none =>
    if connection.config.isSupported then do
      match ← driver.connect connection.config with
      | .ok session => return (.ok session, { connection with session := some session })
      | .error cause => return (.error cause, connection)
    else return (.error (.unsupportedDriver connection.config.driver), connection)

/-- Uses the session for something other than a statement. -/
def withSession (driver : Driver σ ω) (action : σ → StateM ω (Except MapperError α))
    (connection : Connection σ) : StateM ω (Except MapperError α × Connection σ) := do
  match ← connection.opened driver with
  | (.ok session, connection) => return (← action session, connection)
  | (.error cause, connection) => return (.error cause, connection)

/-- Hands the session one statement, which counts whether it succeeds or not. -/
def perform (driver : Driver σ ω) (statement : σ → StateM ω (Except MapperError α))
    (connection : Connection σ) : StateM ω (Except MapperError α × Connection σ) := do
  match ← connection.opened driver with
  | (.ok session, connection) =>
    return (← statement session, { connection with statements := connection.statements + 1 })
  | (.error cause, connection) => return (.error cause, connection)

/-- Opens the session if it is not open. -/
def connect (driver : Driver σ ω) (connection : Connection σ) :
    StateM ω (Except MapperError Unit × Connection σ) :=
  connection.withSession driver fun _ => return .ok ()

/-- Opens the session if it is not open, and asks whether the engine answers. -/
def isConnected (driver : Driver σ ω) (connection : Connection σ) :
    StateM ω (Bool × Connection σ) := do
  match ← connection.opened driver with
  | (.ok session, connection) => return (← driver.ping session, connection)
  | (.error _, connection) => return (false, connection)

/-- Ends the session, if one is open. It is given up even when the engine fails to end it. -/
def close (driver : Driver σ ω) (connection : Connection σ) :
    StateM ω (Except MapperError Unit × Connection σ) :=
  match connection.session with
  | some session => return (← driver.close session, { connection with session := none })
  | none => return (.ok (), connection)

/-- Runs a statement. -/
def query (engine : Engine σ ω) (statement : Sql.Statement) (connection : Connection σ) :
    StateM ω (Except MapperError Output × Connection σ) :=
  connection.perform engine.toDriver (engine.run statement)

/-- Runs a statement and answers with its rows. -/
def fetch (engine : Engine σ ω) (statement : Sql.Statement) (connection : Connection σ) :
    StateM ω (Except MapperError (List Row) × Connection σ) :=
  return (← connection.query engine statement).map (·.map Output.toRows) id

/-- All results, or the first error among them. -/
def collect : List (Except MapperError α) → Except MapperError (List α)
  | [] => .ok []
  | result :: rest => do
    let first ← result
    let others ← collect rest
    return first :: others

/-- Runs statements without parameters one after the other, each whatever became of the ones
before, and answers with the results. -/
def queryEach (engine : Engine σ ω) :
    List String → Connection σ → StateM ω (List (Except MapperError Output) × Connection σ)
  | [], connection => return ([], connection)
  | sql :: rest, connection => do
    -- An error is kept among the results, and the next statement runs all the same.
    let (result, connection) ← connection.query engine ⟨sql, []⟩
    let (results, connection) ← queryEach engine rest connection
    return (result :: results, connection)

/-- Runs statements without parameters one after the other, and answers with all results or with
the first error once all have run. -/
def queryMany (engine : Engine σ ω) (statements : List String) (connection : Connection σ) :
    StateM ω (Except MapperError (List Output) × Connection σ) := do
  let (results, connection) ← queryEach engine statements connection
  return (collect results, connection)

end Connection

end RowMapper
