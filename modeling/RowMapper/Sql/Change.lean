import RowMapper.Sql.Filter
import RowMapper.Sql.Identifier
import RowMapper.Sql.Statement

/-!
# `RowMapper.Sql.Change`: INSERT, UPDATE and DELETE

Builders for the statements that write. Each is rendered in two ways: `sql` is the text with
literals, and `statement` the text with placeholders and the parameters for them, in the order of
the text.

Columns are assigned in the order of their first assignment; assigning a column again replaces its
value.
-/

set_option autoImplicit false

namespace RowMapper.Sql

open RowMapper.Text

/-- Escaped columns and the values assigned to them. -/
abbrev Assignments := List (String × Value)

namespace Assignments

/-- Assigns a value to a column that is escaped already. -/
def put (column : String) (value : Value) : Assignments → Assignments
  | [] => [(column, value)]
  | (held, old) :: rest =>
    if held = column then (held, value) :: rest else (held, old) :: put column value rest

/-- Assigns a value to a field. -/
def set (assignments : Assignments) (field : String) (value : Value) : Assignments :=
  put (escape field) value assignments

/-- Assigns values to fields one after the other. -/
def setAll (assignments : Assignments) (pairs : List (String × Value)) : Assignments :=
  pairs.foldl (fun assignments (field, value) => assignments.set field value) assignments

/-- The columns in order. -/
def columns (assignments : Assignments) : List String :=
  assignments.map (·.1)

/-- The values in the order of the columns. -/
def values (assignments : Assignments) : List Value :=
  assignments.map (·.2)

end Assignments

/-- The condition of a statement with literals, behind its keyword. -/
def whereSql (condition : Option Predicate) : String :=
  match condition with
  | some predicate => " WHERE " ++ predicate.sql
  | none => ""

/-- The condition of a statement with placeholders, behind its keyword, and the parameters so far
with its own behind them. -/
def bindWhere (condition : Option Predicate) (params : List Value) : String × List Value :=
  match condition with
  | some predicate =>
    let (text, params) := predicate.bind params
    (" WHERE " ++ text, params)
  | none => ("", params)

/-- A new row. -/
structure Insert where
  table : Option String := none
  assignments : Assignments := []

namespace Insert

/-- Sets the table. -/
def into (insert : Insert) (table : String) : Insert :=
  { insert with table := some table }

/-- Assigns a value to a field. -/
def set (insert : Insert) (field : String) (value : Value) : Insert :=
  { insert with assignments := insert.assignments.set field value }

/-- Assigns values to fields one after the other. -/
def setAll (insert : Insert) (pairs : List (String × Value)) : Insert :=
  { insert with assignments := insert.assignments.setAll pairs }

/-- A new row meets no condition, so that a filter changes nothing. -/
def filter (insert : Insert) (_ : Filter) : Insert :=
  insert

/-- Whether nothing is assigned. -/
def isEmpty (insert : Insert) : Bool :=
  insert.assignments.isEmpty

/-- The text with literals. -/
def sql (insert : Insert) : String :=
  "INSERT INTO " ++ insert.table.getD "" ++
    " (" ++ joined ", " insert.assignments.columns ++
    ") VALUES (" ++ joined ", " (insert.assignments.values.map Value.literal) ++ ");"

/-- The text with placeholders, and its parameters. -/
def statement (insert : Insert) : Statement :=
  let params := insert.assignments.values.map Value.bound
  ⟨"INSERT INTO " ++ insert.table.getD "" ++
    " (" ++ joined ", " insert.assignments.columns ++
    ") VALUES (" ++ joined ", " (List.replicate params.length placeholder) ++ ");", params⟩

end Insert

/-- New values for rows. -/
structure Update where
  table : Option String := none
  assignments : Assignments := []
  condition : Option Predicate := none

namespace Update

/-- Sets the table. -/
def into (update : Update) (table : String) : Update :=
  { update with table := some table }

/-- Assigns a value to a field. -/
def set (update : Update) (field : String) (value : Value) : Update :=
  { update with assignments := update.assignments.set field value }

/-- Assigns values to fields one after the other. -/
def setAll (update : Update) (pairs : List (String × Value)) : Update :=
  { update with assignments := update.assignments.setAll pairs }

/-- Sets the rows that are meant, in place of an earlier filter. -/
def filter (update : Update) (filter : Filter) : Update :=
  { update with condition := filter.toPredicate? }

/-- Whether nothing is assigned. -/
def isEmpty (update : Update) : Bool :=
  update.assignments.isEmpty

/-- The text with literals. -/
def sql (update : Update) : String :=
  "UPDATE " ++ update.table.getD "" ++ " SET " ++
    joined ", " (update.assignments.map fun (column, value) =>
      column ++ " = " ++ value.literal) ++
    whereSql update.condition ++ ";"

/-- The text with placeholders, and its parameters: those of the assignments, then those of the
condition. -/
def statement (update : Update) : Statement :=
  -- The condition stands last in the text, so its parameters follow those of the columns.
  let (whereText, params) :=
    bindWhere update.condition (update.assignments.values.map Value.bound)
  ⟨"UPDATE " ++ update.table.getD "" ++ " SET " ++
    joined ", " (update.assignments.map fun (column, _) => column ++ " = " ++ placeholder) ++
    whereText ++ ";", params⟩

end Update

/-- Rows to remove. -/
structure Delete where
  table : Option String := none
  condition : Option Predicate := none

namespace Delete

/-- Sets the table. -/
def fromTable (delete : Delete) (table : String) : Delete :=
  { delete with table := some table }

/-- Sets the rows that are meant, in place of an earlier filter. -/
def filter (delete : Delete) (filter : Filter) : Delete :=
  { delete with condition := filter.toPredicate? }

/-- The text with literals. -/
def sql (delete : Delete) : String :=
  "DELETE FROM " ++ delete.table.getD "" ++ whereSql delete.condition ++ ";"

/-- The text with placeholders, and its parameters. -/
def statement (delete : Delete) : Statement :=
  let (whereText, params) := bindWhere delete.condition []
  ⟨"DELETE FROM " ++ delete.table.getD "" ++ whereText ++ ";", params⟩

end Delete

end RowMapper.Sql
