import RowMapper.Value
import RowMapper.Text.Blank

/-!
# `RowMapper.Sql.Statement`: statements and their kinds

A statement is a text with placeholders and the parameters for them, in order. Its first word tells
whether it reads or writes.
-/

set_option autoImplicit false

namespace RowMapper.Sql

/-- A text with placeholders, and the parameters for them. -/
structure Statement where
  sql : String
  params : List Value

/-- Whether a statement answers with rows. -/
inductive StatementKind where
  | read
  | write
deriving DecidableEq

/-- A statement that begins with the word `SELECT`, in any case of its ASCII letters, reads; every
other one writes. -/
def StatementKind.ofSql (sql : String) : StatementKind :=
  match Text.firstWord? sql with
  | some word => if Text.asciiLower word = "select" then .read else .write
  | none => .write

end RowMapper.Sql
