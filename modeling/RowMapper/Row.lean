import RowMapper.Value

/-!
# `RowMapper.Row`: rows of a result

A row is a list of named values in the order in which they were selected. Names may repeat, as they
do in a joined row, and then the last value counts.
-/

set_option autoImplicit false

namespace RowMapper

/-- A row: names and values in the order of selection. -/
structure Row where
  columns : List (String × Value)

namespace Row

/-- The value of a column, the last one of its name. -/
def get? (row : Row) (column : String) : Option Value :=
  row.columns.reverse.lookup column

/-- Whether the row has a column of this name. -/
def contains (row : Row) (column : String) : Bool :=
  row.columns.any (·.1 == column)

/-- The number of columns, repeated names included. -/
def size (row : Row) : Nat :=
  row.columns.length

/-- Whether the row has no columns. -/
def isEmpty (row : Row) : Bool :=
  row.columns.isEmpty

end Row

end RowMapper
