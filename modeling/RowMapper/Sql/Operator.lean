import RowMapper.Error
import RowMapper.Text.Case

/-!
# `RowMapper.Sql.Operator`: the comparisons of filters

Seven comparisons, each with the name that filters use and the sign that statements use.
-/

set_option autoImplicit false

namespace RowMapper.Sql

/-- A comparison. -/
inductive Operator where
  | eq
  | neq
  | lt
  | lte
  | gt
  | gte
  | like
deriving DecidableEq

namespace Operator

/-- The sign of a comparison in a statement. -/
def symbol : Operator → String
  | .eq => "="
  | .neq => "<>"
  | .lt => "<"
  | .lte => "<="
  | .gt => ">"
  | .gte => ">="
  | .like => "LIKE"

/-- The comparison of this name, in any case. -/
def named? (name : String) : Option Operator :=
  match Text.lower name with
  | "eq" => some .eq
  | "neq" => some .neq
  | "lt" => some .lt
  | "lte" => some .lte
  | "gt" => some .gt
  | "gte" => some .gte
  | "like" => some .like
  | _ => none

/-- The comparison of this name, or the error that there is none. -/
def read (name : String) : Except MapperError Operator :=
  match named? name with
  | some op => .ok op
  | none => .error (.unknownOperator name)

end Operator

end RowMapper.Sql
