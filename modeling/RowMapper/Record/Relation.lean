import RowMapper.Engine.Backend
import RowMapper.Record.Basic
import RowMapper.Sql.Select

/-!
# `RowMapper.Record.Relation`: loading related records

A relation is loaded by one statement, which compares a column of the other table with a value of
the snapshot. Every load asks the engine anew. A relation of an unknown kind, or to many through no
junction, has no statement and loads nothing.
-/

set_option autoImplicit false

namespace RowMapper

open RowMapper.Sql RowMapper.Calendar

/-- What a relation leads to. -/
inductive Related (ι κ : Type) where
  /-- For `hasMany` and `manyMany`. -/
  | many (records : List (Record ι κ))
  /-- For `hasOne` and `belongsTo`. -/
  | one (record : Option (Record ι κ))
  /-- For relations without a loader. -/
  | nothing

/-- The related records in order, whatever the shape. -/
def Related.toList {ι κ : Type} : Related ι κ → List (Record ι κ)
  | .many records => records
  | .one record => record.toList
  | .nothing => []

namespace Record

variable {ι κ ω : Type}

/-- The query for the rows of a table whose column equals a value. -/
def matching (table column : String) (value : Value) : Select :=
  ((({} : Select).fromTable table).set ["*"]).filter (.predicate (.compare column .eq value))

/-- The query for the rows of a table that a junction connects with a value. -/
def throughJunction (junction table column targetColumn : String) (value : Value) : Select :=
  let select := (({} : Select).fromTable junction).set [table ++ ".*"]
  let joined := select.join "INNER" table
    (junction ++ "." ++ targetColumn ++ " = " ++ table ++ ".id")
  joined.filter (.predicate (.compare (junction ++ "." ++ column) .eq value))

/-- The statement that loads a relation. -/
def relationStatement? (schema : Schema ι) (record : Record ι κ) (relation : Relation ι) :
    Option Statement :=
  let table := (schema relation.target).table
  let value := record.stored relation.field
  match relation.kind with
  | .hasMany => some (matching table relation.targetField value).statement
  | .hasOne => some ((matching table relation.targetField value).limitTo 1).statement
  | .belongsTo => some ((matching table relation.targetField value).limitTo 1).statement
  | .manyMany => relation.junction.map fun junction =>
    (throughJunction junction table relation.field relation.targetField
      (record.stored "id")).statement
  | .unknown _ => none

/-- The rows of a relation as records of the other entity, which share the connection. -/
def relatedOfRows (zone : Zone) (target : EntityType ι) (kind : RelationKind) (connection : κ)
    (rows : List Row) : Related ι κ :=
  let records := rows.map fun row => hydrate zone target row (some connection)
  match kind with
  | .hasOne => .one records.head?
  | .belongsTo => .one records.head?
  | _ => .many records

/-- The connection of the record, or else the shared one. -/
def relationConnection (backend : Backend κ ω) (record : Record ι κ) :
    StateM ω (Except MapperError κ) :=
  match record.connection with
  | some connection => return .ok connection
  | none => backend.shared

/-- Loads a relation by its name. -/
def related (backend : Backend κ ω) (schema : Schema ι) (record : Record ι κ) (name : String) :
    StateM ω (Except MapperError (Related ι κ)) :=
  match record.entity.relation? name with
  | none => return .error (.unknownRelation record.entity.table name)
  | some relation =>
    match record.relationStatement? schema relation with
    | none => return .ok .nothing
    | some statement => do
      match ← record.relationConnection backend with
      | .error cause => return .error cause
      | .ok connection =>
        return (← backend.fetch connection statement).map
          (relatedOfRows backend.zone (schema relation.target) relation.kind connection)

/-- The record, if it is one of the expected entity's table. -/
def ofTable (expected : EntityType ι) (record : Record ι κ) : Except MapperError (Record ι κ) :=
  if expected.table = record.entity.table then .ok record
  else .error (.relationMismatch expected.table record.entity.table)

/-- Loads a relation as a list of records of an entity. What leads to one record gives a list of one
at most, and what loads nothing the empty list. -/
def hasMany (backend : Backend κ ω) (schema : Schema ι) (expected : EntityType ι)
    (record : Record ι κ) (name : String) : StateM ω (Except MapperError (List (Record ι κ))) :=
  return (← record.related backend schema name).bind fun
    | .many records => records.mapM (ofTable expected)
    | .one record => record.toList.mapM (ofTable expected)
    | .nothing => .ok []

/-- Loads a relation as one record of an entity at most. What leads to many gives the first of
them, and only that one must be of the entity's table. -/
def hasOne (backend : Backend κ ω) (schema : Schema ι) (expected : EntityType ι)
    (record : Record ι κ) (name : String) :
    StateM ω (Except MapperError (Option (Record ι κ))) :=
  return (← record.related backend schema name).bind fun
    | .many records => records.head?.mapM (ofTable expected)
    | .one record => record.mapM (ofTable expected)
    | .nothing => .ok none

end Record

end RowMapper
