import RowMapper.Sql.FunctionCall
import RowMapper.Value

/-!
# `RowMapper.Sql.Literal`: values in statements

A value enters a statement in one of two ways. As a *literal* it is written into the text: strings
in double quotes, except the placeholder and function calls, which stand for themselves. As a
*parameter* it stays outside and the text has a placeholder instead; `Value.bound` is the form in
which it is handed over, with dates and documents as text and Booleans as 0 or 1.
-/

set_option autoImplicit false

namespace RowMapper

open RowMapper.Number RowMapper.Sql

/-- The mark in a statement where a parameter belongs. -/
def Sql.placeholder : String := "?"

/-- A string as a literal. -/
def Sql.quoted (text : String) : String :=
  if text = placeholder ∨ isFunctionCall text then text else "\"" ++ text ++ "\""

namespace Value

/-- The text of a value without quotes. -/
def rawLiteral : Value → String
  | .bool b => if b then "1" else "0"
  | value => value.text

/-- A value as a literal. Only strings and dates are quoted. -/
def literal : Value → String
  | .string s => quoted s
  | .dateTime moment => quoted moment.text
  | value => value.rawLiteral

/-- A value as a literal, with or without quotes. -/
def literalWith (quote : Bool) (value : Value) : String :=
  if quote then value.literal else value.rawLiteral

/-- A value as a parameter. -/
def bound : Value → Value
  | .dateTime moment => .string moment.text
  | .json document => .string document.text
  | .bool b => .int (if b then 1 else 0)
  | value => value

end Value

end RowMapper
