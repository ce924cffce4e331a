import RowMapper.Sql.Change
import RowMapper.Text.Case

/-!
# `RowMapper.Sql.Select`: SELECT

A builder for queries. Columns, joins, groups and orders are collected in the order in which they
are given; of table, filters, limit and offset the last one counts. A limit or offset of zero is
none. Column names are escaped and, when the table is known, qualified with it.
-/

set_option autoImplicit false

namespace RowMapper.Sql

open RowMapper.Text

/-- A query. -/
structure Select where
  table : Option String := none
  condition : Option Predicate := none
  columns : List String := []
  joins : List String := []
  groups : List String := []
  having : Option Predicate := none
  orders : List String := []
  limit : Option Nat := none
  offset : Option Nat := none

namespace Select

/-- Sets the table. -/
def fromTable (select : Select) (table : String) : Select :=
  { select with table := some table }

/-- Sets the rows that are meant, in place of an earlier filter. -/
def filter (select : Select) (filter : Filter) : Select :=
  { select with condition := filter.toPredicate? }

/-- A column with the table in front, if the table is set and the column is neither qualified
already nor a function call. -/
def qualify (select : Select) (column : String) : String :=
  match select.table with
  | some table =>
    -- A point marks a name that is qualified already.
    if column.toList.contains '.' ∨ isFunctionCall column then column
    else escape table ++ "." ++ column
  | none => column

/-- Adds a column. -/
def column (select : Select) (field : String) : Select :=
  { select with columns := select.columns ++ [select.qualify (escape field)] }

/-- Adds columns one after the other. -/
def set (select : Select) (fields : List String) : Select :=
  fields.foldl column select

/-- Adds a column under another name. -/
def setAs (select : Select) (field label : String) : Select :=
  { select with columns := select.columns ++ [select.qualify (escape field) ++ " AS " ++ label] }

/-- Adds a table to be joined where a condition holds. -/
def join (select : Select) (kind table condition : String) : Select :=
  { select with joins := select.joins ++ [upper kind ++ " JOIN " ++ table ++ " ON " ++ condition] }

/-- Groups by a column. -/
def groupBy (select : Select) (field : String) : Select :=
  { select with groups := select.groups ++ [select.qualify field] }

/-- Groups by columns one after the other. -/
def group (select : Select) (fields : List String) : Select :=
  fields.foldl groupBy select

/-- Sets the groups that are meant, in place of an earlier filter of groups. -/
def filterGroups (select : Select) (filter : Filter) : Select :=
  { select with having := filter.toPredicate? }

/-- Orders by one more item. -/
def order (select : Select) (item : String) : Select :=
  { select with orders := select.orders ++ [item] }

/-- Orders by more items one after the other. -/
def orderAll (select : Select) (items : List String) : Select :=
  items.foldl order select

/-- Sets the greatest number of rows. -/
def limitTo (select : Select) (count : Nat) : Select :=
  { select with limit := some count }

/-- Sets the number of rows to pass over. -/
def skip (select : Select) (count : Nat) : Select :=
  { select with offset := some count }

/-- A clause that is a list behind a keyword, if there is anything in the list. -/
def listClause (keyword separator : String) (items : List String) : String :=
  if items.isEmpty then "" else keyword ++ joined separator items

/-- A clause that is a number behind a keyword, if the number is set and not zero. -/
def countClause (keyword : String) (count : Option Nat) : String :=
  match count with
  | some count => if count = 0 then "" else keyword ++ Number.naturalText count
  | none => ""

/-- The text of the filter of groups behind its keyword, if there is one. -/
def havingClause (text : Option String) : String :=
  match text with
  | some text => " HAVING " ++ text
  | none => ""

/-- The text of the statement, given the condition behind its keyword and the text of the filter of
groups. -/
def render (select : Select) (whereText : String) (havingText : Option String) : String :=
  "SELECT " ++ joined ", " select.columns ++ " FROM " ++ select.table.getD "" ++
    listClause " " " " select.joins ++
    whereText ++
    listClause " GROUP BY " ", " select.groups ++
    havingClause havingText ++
    listClause " ORDER BY " ", " select.orders ++
    countClause " LIMIT " select.limit ++
    countClause " OFFSET " select.offset ++ ";"

/-- The text with literals. -/
def sql (select : Select) : String :=
  select.render (whereSql select.condition) (select.having.map Predicate.sql)

/-- The text with placeholders, and its parameters: those of the filter of rows, then those of the
filter of groups. -/
def statement (select : Select) : Statement :=
  let (whereText, params) := bindWhere select.condition []
  match select.having with
  | some predicate =>
    let (havingText, params) := predicate.bind params
    ⟨select.render whereText (some havingText), params⟩
  | none => ⟨select.render whereText none, params⟩

end Select

end RowMapper.Sql
