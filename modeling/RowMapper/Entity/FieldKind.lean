import RowMapper.Json.Reader
import RowMapper.Text.Case
import RowMapper.Value

/-!
# `RowMapper.Entity.FieldKind`: the kinds of fields

The kind of a field says how a stored value becomes the value of the field (`coerce`) and who
maintains it: keys come from the engine and timestamps from the repository.
-/

set_option autoImplicit false

namespace RowMapper

open RowMapper.Number RowMapper.Calendar

/-- The kind of a field. -/
inductive FieldKind where
  | pk
  | string
  | integer
  | boolean
  | date
  | json
  | createdAt
  | updatedAt
deriving DecidableEq

/-- There is no kind of this name. -/
structure UnknownFieldKind where
  name : String

/-- The wording of the error. -/
def UnknownFieldKind.message (error : UnknownFieldKind) : String :=
  "unknown field type '" ++ error.name ++ "'"

namespace FieldKind

/-- The name of a kind. -/
def name : FieldKind → String
  | .pk => "pk"
  | .string => "string"
  | .integer => "integer"
  | .boolean => "boolean"
  | .date => "date"
  | .json => "json"
  | .createdAt => "created_at"
  | .updatedAt => "updated_at"

/-- The kind of this name, in any case. -/
def read (name : String) : Except UnknownFieldKind FieldKind :=
  match Text.lower name with
  | "pk" => .ok .pk
  | "string" => .ok .string
  | "integer" => .ok .integer
  | "boolean" => .ok .boolean
  | "date" => .ok .date
  | "json" => .ok .json
  | "created_at" => .ok .createdAt
  | "updated_at" => .ok .updatedAt
  | _ => .error ⟨name⟩

/-- Whether the repository maintains the field. -/
def isTimestamp : FieldKind → Bool
  | .createdAt => true
  | .updatedAt => true
  | _ => false

/-- Whether a stored value counts as true: the integer 1 or the Boolean. -/
def isSet : Value → Bool
  | .int i => i == 1
  | .bool b => b
  | _ => false

/-- Seconds other than zero in milliseconds, null if there are none or they do not fit. -/
def millis (raw : Value) : Value :=
  match raw.asInt64? with
  | some seconds =>
    if seconds = 0 then .null
    else match toInt64? (seconds.toInt * 1000) with
      | some millis => .int millis
      | none => .null
  | none => .null

/-- The value of a field of this kind that is stored as `raw`. A date, in local time, or a document
that cannot be read stays as it is stored; a timestamp is stored in seconds and held in
milliseconds. -/
def coerce (kind : FieldKind) (zone : Zone) (raw : Value) : Value :=
  match kind with
  | .boolean => .bool (isSet raw)
  | .date =>
    match raw.toDateTime? zone with
    | some moment => .dateTime moment
    | none => raw
  | .json =>
    match raw with
    | .string text =>
      match Json.read? text with
      | some document => .json document
      | none => raw
    | _ => raw
  | .createdAt => millis raw
  | .updatedAt => millis raw
  | .pk => raw
  | .string => raw
  | .integer => raw

end FieldKind

end RowMapper
