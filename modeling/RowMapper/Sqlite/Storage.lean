import RowMapper.Text.Hex
import RowMapper.Text.Utf8
import RowMapper.Value

/-!
# `RowMapper.Sqlite.Storage`: values as SQLite stores them

SQLite knows five kinds of stored values. A value of the mapper is stored as the nearest of them
(`ofValue`): Booleans as 0 or 1, dates and documents as text, and a NaN, which SQLite has no number
for, as null. Reading (`toValue`) goes by the stored kind alone, so that a date comes back as text;
bytes are read as text.
-/

set_option autoImplicit false

namespace RowMapper.Sqlite

open RowMapper.Number RowMapper.Text

/-- A stored value. -/
inductive Storage where
  | null
  | integer (i : Int64)
  | real (x : Binary64)
  | text (s : String)
  | blob (bytes : List UInt8)

namespace Storage

/-- The bytes that hexadecimal digits spell, two to a byte. -/
def hexBytes? : List Char → Option (List UInt8)
  | [] => some []
  | [_] => none
  | high :: low :: rest => do
    let byte := 16 * (← hexValue? high) + (← hexValue? low)
    return UInt8.ofNat byte :: (← hexBytes? rest)

/-- The bytes between the quotes of a literal such as `x'c3a9'`. -/
def blobOfHex? (digits : String) : Option Storage :=
  (hexBytes? digits.toList).map .blob

/-- A value as it is stored. -/
def ofValue : Value → Storage
  | .null => .null
  | .bool b => .integer (if b then 1 else 0)
  | .int i => .integer i
  | .float x => if x.isNaN then .null else .real x
  | .string s => .text s
  | .dateTime moment => .text moment.text
  | .json document => .text document.text

/-- A stored value as it is read. -/
def toValue : Storage → Value
  | .null => .null
  | .integer i => .int i
  | .real x => .float x
  | .text s => .string s
  | .blob bytes => .string (decodeLossy bytes)

/-- Whether a character may stand around a number in text. -/
def isSpace (c : Char) : Bool :=
  c == ' ' || (9 ≤ c.toNat && c.toNat ≤ 13)

/-- The number that a text spells, between spaces or not. -/
def readNumber? (text : String) : Option Binary64 :=
  let body := text.toList.dropWhile isSpace
  Numeral.readSigned? (body.reverse.dropWhile isSpace).reverse

/-- Whether a stored value equals a key. Keys are integers, and a real number or a text equals one
by its numeric value. -/
def isKey (key : Int64) : Storage → Bool
  | .integer i => i == key
  | .real x => x.same (.ofInteger key.toInt)
  | .text s => (readNumber? s).any fun x => x.same (.ofInteger key.toInt)
  | _ => false

end Storage

end RowMapper.Sqlite
