import RowMapper.Number.Integer
import RowMapper.Text.Case

/-!
# `RowMapper.Config`: how to reach a database

A configuration names a driver and what the driver needs. It has defaults, and variables of the
environment override them one by one (`Config.ofEnvironment`); of these only the port number can be
wrong. Driver names are kept in lower case.
-/

set_option autoImplicit false

namespace RowMapper

open RowMapper.Number

/-- Why a text is no port number. -/
inductive PortFault where
  | empty
  | invalidDigit
  | tooLarge
deriving DecidableEq

/-- The wording of the fault of a port number. -/
def PortFault.message : PortFault → String
  | .empty => "cannot parse integer from empty string"
  | .invalidDigit => "invalid digit found in string"
  | .tooLarge => "number too large to fit in target type"

/-- Reads the digits of a port number behind the number read so far; the first character that is no
digit or leads beyond 16 bits decides the fault. -/
def readPortDigits (soFar : Nat) : List Char → Except PortFault UInt16
  | [] => .ok (UInt16.ofNat soFar)
  | c :: rest =>
    if !c.isDigit then .error .invalidDigit
    else
      let next := 10 * soFar + (c.toNat - '0'.toNat)
      if next < 65536 then readPortDigits next rest else .error .tooLarge

/-- The port number a text denotes: digits, behind a plus sign or not. -/
def readPort (text : String) : Except PortFault UInt16 :=
  match text.toList with
  | [] => .error .empty
  | ['+'] => .error .invalidDigit
  | '+' :: digits => readPortDigits 0 digits
  | digits => readPortDigits 0 digits

/-- Why an environment has no configuration. -/
inductive ConfigError where
  | invalidPort (fault : PortFault)

/-- The wording of a configuration error. -/
def ConfigError.message : ConfigError → String
  | .invalidPort fault => "Invalid DB_PORT: " ++ fault.message

/-- The wording of the error when a process starts with it. -/
def ConfigError.startMessage (error : ConfigError) : String :=
  "Failed to load database configuration: " ++ error.message

/-- How to reach a database. A `url` takes precedence over the other fields. -/
structure Config where
  driver : String := "mysql"
  host : String := "localhost"
  port : UInt16 := 3306
  user : String := "root"
  pass : String := ""
  name : String := ""
  url : Option String := none
deriving DecidableEq

namespace Config

/-- The configuration that the variables of an environment describe. -/
def ofEnvironment (env : String → Option String) : Except ConfigError Config := do
  let defaults : Config := {}
  -- A port that is set must be a number; unset, the default stands.
  let port ← match env "DB_PORT" with
    | some text => (readPort text).mapError .invalidPort
    | none => .ok defaults.port
  return {
    driver := ((env "DB_DRIVER").map Text.lower).getD defaults.driver
    host := (env "DB_HOST").getD defaults.host
    port := port
    user := (env "DB_USER").getD defaults.user
    pass := (env "DB_PASS").getD defaults.pass
    name := (env "DB_NAME").getD defaults.name
    url := env "DATABASE_URL" }

/-- A private SQLite database in memory. -/
def sqliteMemory : Config :=
  { driver := "sqlite", url := some "sqlite::memory:" }

/-- A SQLite database in a file. -/
def sqliteFile (path : String) : Config :=
  { driver := "sqlite", name := path }

/-- The configuration with another driver. -/
def withDriver (config : Config) (driver : String) : Config :=
  { config with driver := Text.lower driver }

/-- The configuration with another URL. -/
def withUrl (config : Config) (url : String) : Config :=
  { config with url := some url }

/-- Whether there is a driver of the configured name. -/
def isSupported (config : Config) : Bool :=
  config.driver == "mysql" || config.driver == "sqlite"

end Config

end RowMapper
