import RowMapper.Sql.Literal
import RowMapper.Sql.Operator
import RowMapper.Text.Join

/-!
# `RowMapper.Sql.Predicate`: conditions

A condition is a tree of comparisons. It is rendered in two ways: `Predicate.sql` is the text that
is shown, with every value as a literal; `Predicate.bind` is the text that is sent, with a
placeholder for every value, together with the parameters for the placeholders. It takes the
parameters of what stands before the condition and adds its own behind them.

`compare` builds the comparisons that filters use. For `LIKE` it turns the value into a pattern.
-/

set_option autoImplicit false

namespace RowMapper.Sql

open RowMapper.Text

/-- A condition. Parts that must all hold are written in parentheses (`allOf`) or without
(`chain`). -/
inductive Predicate where
  /-- A field compared with a value. -/
  | comparison (field : String) (op : Operator) (value : Value)
  /-- All parts hold; written in parentheses. -/
  | allOf (parts : List Predicate)
  /-- One of the parts holds; written in parentheses. -/
  | anyOf (parts : List Predicate)
  /-- All parts hold; written without parentheses. -/
  | chain (parts : List Predicate)
  /-- A condition in the words of the caller. -/
  | raw (sql : String)

namespace Predicate

mutual

/-- The condition with its values as literals. -/
def sql : Predicate → String
  | .comparison field op value => field ++ " " ++ op.symbol ++ " " ++ value.literal
  | .allOf parts => "(" ++ joined " AND " (sqlAll parts) ++ ")"
  | .anyOf parts => "(" ++ joined " OR " (sqlAll parts) ++ ")"
  | .chain parts => joined " AND " (sqlAll parts)
  | .raw sql => sql

def sqlAll : List Predicate → List String
  | [] => []
  | part :: rest => sql part :: sqlAll rest

end

mutual

/-- The condition with placeholders for its values, and the parameters so far with the parameters
for these placeholders behind them. -/
def bind : Predicate → List Value → String × List Value
  | .comparison field op value, params =>
    (field ++ " " ++ op.symbol ++ " " ++ placeholder, params ++ [value.bound])
  | .allOf parts, params =>
    let (texts, params) := bindAll parts params
    ("(" ++ joined " AND " texts ++ ")", params)
  | .anyOf parts, params =>
    let (texts, params) := bindAll parts params
    ("(" ++ joined " OR " texts ++ ")", params)
  | .chain parts, params =>
    let (texts, params) := bindAll parts params
    (joined " AND " texts, params)
  | .raw sql, params => (sql, params)

def bindAll : List Predicate → List Value → List String × List Value
  | [], params => ([], params)
  | part :: rest, params =>
    let (text, params) := bind part params
    let (texts, params) := bindAll rest params
    (text :: texts, params)

end

/-- The condition with placeholders for its values. -/
def template (predicate : Predicate) : String :=
  (predicate.bind []).1

/-- The parameters for the placeholders, in order. -/
def params (predicate : Predicate) : List Value :=
  (predicate.bind []).2

/-- The value that `LIKE` compares with: a string that has a wildcard is a pattern, and all else
becomes one that matches it anywhere. -/
def pattern : Value → Value
  | .string s => if s.contains '%' then .string s else .string ("%" ++ s ++ "%")
  | value => .string ("%" ++ value.rawLiteral ++ "%")

/-- A field compared with a value, or with the pattern of the value for `LIKE`. -/
def compare (field : String) (op : Operator) (value : Value) : Predicate :=
  .comparison field op (if op = .like then pattern value else value)

/-- All parts hold. There must be one. -/
def allOf? (parts : List Predicate) : Except MapperError Predicate :=
  if parts.isEmpty then .error .emptyCriteria else .ok (.allOf parts)

/-- One of the parts holds. There must be one. -/
def anyOf? (parts : List Predicate) : Except MapperError Predicate :=
  if parts.isEmpty then .error .emptyCriteria else .ok (.anyOf parts)

end Predicate

end RowMapper.Sql
