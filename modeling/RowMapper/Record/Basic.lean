import RowMapper.Entity.Basic
import RowMapper.Row
import RowMapper.SortedMap

/-!
# `RowMapper.Record.Basic`: the state of an entity

A record holds the current values of an entity by key, and what was read from storage, its
*snapshot*, by column name. The snapshot never changes; comparing the two tells what a save has to
write, and the primary key in it tells whether there is a stored row at all (`isNew`). A record may
have a connection, named by `κ`, for loading its relations.
-/

set_option autoImplicit false

namespace RowMapper

open RowMapper.Calendar

/-- The state of an entity: current values by key, and the values read from storage by column. -/
structure Record (ι κ : Type) where
  entity : EntityType ι
  values : SortedMap Value
  snapshot : Option (SortedMap Value)
  connection : Option κ

namespace Record

variable {ι κ : Type}

/-- A record without values or snapshot. -/
def blank (entity : EntityType ι) : Record ι κ :=
  ⟨entity, ∅, none, none⟩

/-- The values of the fields that a row has a column for, entered into current values and
snapshot. -/
def readFields (zone : Zone) (row : Row) (read : SortedMap Value × SortedMap Value)
    (field : Field) :
    SortedMap Value × SortedMap Value :=
  match row.get? field.name with
  | some raw =>
    let value := field.kind.coerce zone raw
    (read.1.insert field.key value, read.2.insert field.name value)
  | none => read

/-- The record of a stored row, with its dates in the local time of a zone. Columns that are not
declared leave no trace. -/
def hydrate (zone : Zone) (entity : EntityType ι) (row : Row) (connection : Option κ) :
    Record ι κ :=
  let read := entity.fields.foldl (readFields zone row) (∅, ∅)
  ⟨entity, read.1, some read.2, connection⟩

/-- The current value under a key, null if there is none. -/
def get (record : Record ι κ) (key : String) : Value :=
  (record.values.get? key).getD .null

/-- Whether there is a value under a key, even null. -/
def contains (record : Record ι κ) (key : String) : Bool :=
  record.values.contains key

/-- The record with a value under a key. -/
def set (record : Record ι κ) (key : String) (value : Value) : Record ι κ :=
  { record with values := record.values.insert key value }

/-- The value of a column in the snapshot, null if there is none. -/
def stored (record : Record ι κ) (column : String) : Value :=
  (record.snapshot.bind (·.get? column)).getD .null

/-- A record is new unless its snapshot has a truthy primary key; without a primary key, unless it
has a snapshot. -/
def isNew (record : Record ι κ) : Bool :=
  match record.entity.pk? with
  | some pk => !(record.stored pk.name).isTruthy
  | none => record.snapshot.isNone

/-- The record with a connection for its relations. -/
def attach (record : Record ι κ) (connection : κ) : Record ι κ :=
  { record with connection := some connection }

end Record

end RowMapper
