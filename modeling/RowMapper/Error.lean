import RowMapper.Json.Printer

/-!
# `RowMapper.Error`: what can go wrong

`MapperError` has a constructor for every cause; `MapperError.message` is the one place that words
them.
-/

set_option autoImplicit false

namespace RowMapper

/-- What an engine reports. -/
inductive EngineError where
  /-- A row was asked for and there is none. -/
  | rowNotFound
  /-- The engine sent something that cannot be understood. -/
  | unexpectedData (detail : String)
  /-- The engine refused a statement. -/
  | rejected (code : Nat) (detail : String)

/-- Why a document is no filter. -/
inductive FilterFault where
  /-- It is neither an object nor a string. -/
  | wrongDocument (found : Json)
  /-- The conditions of a field are an object without members. -/
  | noOperators (field : String)

/-- The causes of failure of connections, builders and reading operations. -/
inductive MapperError where
  /-- The engine rejected a statement, or the connection to it failed. -/
  | engine (cause : EngineError)
  /-- No driver is known for the configured name. -/
  | unsupportedDriver (name : String)
  /-- A filter names an operator that does not exist. -/
  | unknownOperator (name : String)
  /-- A document is no filter. -/
  | invalidFilter (fault : FilterFault)
  /-- A conjunction or disjunction was asked for without parts. -/
  | emptyCriteria
  /-- An entity declares no relation of this name. -/
  | unknownRelation (table name : String)
  /-- A relation was loaded as an entity of another table. -/
  | relationMismatch (expected found : String)
  /-- An entity declares no primary key. -/
  | missingPrimaryKey (table : String)
  /-- There is no connection where one was expected. -/
  | notConnected

/-- The wording of an engine's report. -/
def EngineError.message : EngineError → String
  | .rowNotFound => "no rows returned by a query that expected to return at least one row"
  | .unexpectedData detail => "encountered unexpected or invalid data: " ++ detail
  | .rejected code detail =>
    "error returned from database: (code: " ++ Number.naturalText code ++ ") " ++ detail

/-- The wording of a filter's fault. -/
def FilterFault.message : FilterFault → String
  | .wrongDocument found => "expected an object or a string, got " ++ found.text
  | .noOperators field => "empty operator map for '" ++ field ++ "'"

/-- The wording of an error. -/
def MapperError.message : MapperError → String
  | .engine cause => "database error: " ++ cause.message
  | .unsupportedDriver name => "unsupported database driver '" ++ name ++ "'"
  | .unknownOperator name => "unknown filter operator '" ++ name ++ "'"
  | .invalidFilter fault => "invalid filter: " ++ fault.message
  | .emptyCriteria => "criteria composition requires at least one predicate"
  | .unknownRelation table name =>
    "entity '" ++ table ++ "' has no relation named '" ++ name ++ "'"
  | .relationMismatch expected found =>
    "relation targets table '" ++ expected ++ "' but was loaded as '" ++ found ++ "'"
  | .missingPrimaryKey table => "entity '" ++ table ++ "' declares no primary key"
  | .notConnected => "connection is not established"

end RowMapper
