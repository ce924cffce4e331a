import RowMapper.Calendar.Reading
import RowMapper.Json.Printer

/-!
# `RowMapper.Value`: the values of columns

Entities, filters and rows share one type of value, so that a value read from one engine can be
compared, written and bound again without knowing the type of its column. The readings of a value
as something else (`asInt64?`, `toDateTime?`, `length?`) are partial and say so in their type.
-/

set_option autoImplicit false

namespace RowMapper

open RowMapper.Number RowMapper.Calendar

/-- A value that can be bound to a statement or held by an entity. -/
inductive Value where
  | null
  | bool (b : Bool)
  | int (i : Int64)
  | float (x : Binary64)
  | string (s : String)
  | dateTime (moment : DateTime)
  | json (document : Json)

namespace Value

instance : Inhabited Value := ⟨.null⟩

/-- Whether the value is null. -/
def isNull : Value → Bool
  | .null => true
  | _ => false

/-- Null, false, zero, the empty string and the document null are falsy; all else is truthy. -/
def isTruthy : Value → Bool
  | .null => false
  | .bool b => b
  | .int i => i != 0
  | .float x => !x.isZero
  | .string s => !s.isEmpty
  | .dateTime _ => true
  | .json .null => false
  | .json _ => true

/-- Equality of values of one kind; values of different kinds differ. -/
def same : Value → Value → Bool
  | .null, .null => true
  | .bool a, .bool b => a == b
  | .int a, .int b => a == b
  | .float a, .float b => a.same b
  | .string a, .string b => a == b
  | .dateTime a, .dateTime b => a == b
  | .json a, .json b => a.same b
  | _, _ => false

/-- The integer of 64 bits a value stands for: a Boolean as 0 or 1, a floating-point number without
a fraction as the nearest in range, a string by its decimal text. -/
def asInt64? : Value → Option Int64
  | .int i => some i
  | .bool b => some (if b then 1 else 0)
  | .float x => if x.isIntegral then some (clampInt64 x.truncate) else none
  | .string s => (readInteger? (Text.trimChars s.toList)).bind toInt64?
  | _ => none

/-- The floating-point number a numeric value stands for. -/
def asBinary64? : Value → Option Binary64
  | .int i => some (.ofInteger i.toInt)
  | .float x => some x
  | _ => none

/-- The text of a string. -/
def asString? : Value → Option String
  | .string s => some s
  | _ => none

/-- The truth value of a Boolean. -/
def asBool? : Value → Option Bool
  | .bool b => some b
  | _ => none

/-- The moment of a date. -/
def asDateTime? : Value → Option DateTime
  | .dateTime moment => some moment
  | _ => none

/-- The document of a JSON value. -/
def asJson? : Value → Option Json
  | .json document => some document
  | _ => none

/-- The length that limits apply to: characters of a string, items of a JSON array. -/
def length? : Value → Option Nat
  | .string s => some s.length
  | .json (.array items) => some items.length
  | .json (.string s) => some s.length
  | _ => none

/-- The nearest integer of 64 bits towards zero; zero for a NaN. -/
def wholeMillis (x : Binary64) : Int64 :=
  if x.isNaN then 0 else clampInt64 x.truncate

/-- The moment a value stands for in a zone: a date, a string in one of the forms of a moment, or a
number of milliseconds since the beginning of 1970 in universal time. -/
def toDateTime? (zone : Zone) : Value → Option DateTime
  | .dateTime moment => some moment
  | .string s => DateTime.read? zone s
  | .int millis => (DateTime.ofEpochMillis? millis.toInt).map zone.localTime
  | .float millis => (DateTime.ofEpochMillis? (wholeMillis millis).toInt).map zone.localTime
  | _ => none

/-- Floating-point numbers outside documents: all digits are written out, a tie goes to the larger
digit, and an integral number has no point. -/
def floatLayout : Layout where
  tie := .up
  positional _ := true
  pointZero := false

/-- The plain text of a value. -/
def text : Value → String
  | .null => "null"
  | .bool b => if b then "true" else "false"
  | .int i => integerText i.toInt
  | .float x => floatLayout.text x
  | .string s => s
  | .dateTime moment => moment.text
  | .json document => document.text

/-- The value of a document: scalars become values of their own kinds, an integer beyond 64 signed
bits the nearest floating-point number, and arrays and objects stay documents. -/
def ofJson : Json → Value
  | .null => .null
  | .bool b => .bool b
  | .number (.integer i _) =>
    match toInt64? i with
    | some i => .int i
    | none => .float (.ofInteger i)
  | .number (.real x) => .float x
  | .string s => .string s
  | document => .json document

end Value

end RowMapper
