import RowMapper.Sql.FunctionCall
import RowMapper.Text.Join

/-!
# `RowMapper.Sql.Identifier`: names of columns in backticks

`escape` puts a column name into backticks. A list with commas is escaped item by item and a name
with dots segment by segment; function calls, stars and the two blank string literals are left as
they are.
-/

set_option autoImplicit false

namespace RowMapper.Sql

open RowMapper.Text

/-- One segment of a name, in backticks unless it stands for itself. -/
def escapeSegment (segment : String) : String :=
  if isFunctionCall segment ∨ segment.toList.contains '*' ∨ segment = "\" \"" ∨ segment = "' '" then
    segment
  else "`" ++ segment ++ "`"

/-- A name, its segments between dots escaped one by one. -/
def escapeName (name : String) : String :=
  if isFunctionCall name then name
  else if name.toList.contains '.' then joined "." ((splitAt '.' name).map escapeSegment)
  else escapeSegment name

/-- A column name or a comma list of them, escaped. -/
def escape (text : String) : String :=
  if isFunctionCall text then text
  else if text.toList.contains ',' then
    joined "," ((splitAt ',' text).map fun item => escapeName (trim item))
  else escapeName text

end RowMapper.Sql
