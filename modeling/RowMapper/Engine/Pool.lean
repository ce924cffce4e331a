import RowMapper.Engine.Backend
import RowMapper.Engine.Connection

/-!
# `RowMapper.Engine.Pool`: connections that are shared

Several holders can share a connection, so connections are kept in one pool and named by their
number there. A `Factory` hands out one connection for its configuration, made at the first
request; a pool has a factory of its own, configured by the environment. `Pool.backend` is what
repositories and relations over the pool work with.
-/

set_option autoImplicit false

namespace RowMapper

/-- The name of a connection in its pool. -/
structure ConnectionId where
  number : Nat
deriving DecidableEq

/-- A source of one shared connection: its configuration, and the connection once it is made. -/
structure Factory where
  config : Config
  connection : Option ConnectionId := none

/-- Builders exist for the drivers that are known. -/
def Factory.ensureSupported (factory : Factory) : Except MapperError Unit :=
  if factory.config.isSupported then .ok () else .error (.unsupportedDriver factory.config.driver)

/-- The connections, the factory or the reason why there is none, and the world of the engine. -/
structure Pool (σ ω : Type) where
  connections : List (Connection σ)
  factory : Except ConfigError Factory
  world : ω

namespace Pool

variable {σ ω α : Type}

/-- A pool without connections, whose factory follows the environment. -/
def start (env : String → Option String) (world : ω) : Pool σ ω :=
  ⟨[], (Config.ofEnvironment env).map fun config => ⟨config, none⟩, world⟩

/-- Takes in a connection and names it. -/
def adopt (connection : Connection σ) : StateM (Pool σ ω) ConnectionId := do
  let pool ← get
  set { pool with connections := pool.connections ++ [connection] }
  return ⟨pool.connections.length⟩

/-- The connection of this name. -/
def connection? (pool : Pool σ ω) (id : ConnectionId) : Option (Connection σ) :=
  pool.connections[id.number]?

/-- Does something with a connection, and keeps the connection as it is afterwards. -/
def onConnection (id : ConnectionId)
    (action : Connection σ → StateM ω (Except MapperError α × Connection σ)) :
    StateM (Pool σ ω) (Except MapperError α) := do
  let pool ← get
  match pool.connection? id with
  | none => return .error .notConnected
  | some connection =>
    let ((answer, connection), world) := action connection pool.world
    set { pool with connections := pool.connections.set id.number connection, world }
    return answer

/-- The connection of a factory, made if there is none yet, and the factory as it is afterwards. -/
def request (factory : Factory) :
    StateM (Pool σ ω) (Except MapperError ConnectionId × Factory) :=
  match factory.connection with
  | some id => return (.ok id, factory)
  | none =>
    match Connection.ofConfig factory.config with
    | .error cause => return (.error cause, factory)
    | .ok connection => do
      -- The factory keeps the name, so that the next request finds the same connection.
      let id ← adopt connection
      return (.ok id, { factory with connection := some id })

/-- The connection of the factory of the pool. Without a factory there is none. -/
def shared : StateM (Pool σ ω) (Except MapperError ConnectionId) := do
  match (← get).factory with
  | .error _ => return .error .notConnected
  | .ok factory =>
    let (answer, factory) ← request factory
    modify fun pool => { pool with factory := .ok factory }
    return answer

/-- Statements on the connections of a pool, and dates in a zone. -/
def backend (zone : Calendar.Zone) (engine : Engine σ ω) : Backend ConnectionId (Pool σ ω) where
  query id statement := onConnection id (Connection.query engine statement)
  shared := shared
  zone := zone

end Pool

end RowMapper
