import RowMapper.Sql.Predicate

/-!
# `RowMapper.Sql.Filter`: which rows are meant

A filter is a condition in the words of the caller, a predicate, or a list of conditions on fields
that must all hold. Conditions on fields can be added to any filter (`eq`, `op`, `ops`) and can be
read from a document such as `{"active": 1, "age": {"gte": 18}}` (`ofJson`): a member is an
equality unless its value is a pair of an operator and a value, or an object from operators to
values. `toPredicate?` is the condition a filter stands for; an empty filter stands for none.
-/

set_option autoImplicit false

namespace RowMapper.Sql

open RowMapper.Text

/-- A condition on one field. -/
inductive Condition where
  | eq (value : Value)
  | op (operator : Operator) (value : Value)
  /-- Several comparisons, all of which hold. -/
  | ops (comparisons : List (Operator × Value))

/-- Which rows are meant. -/
inductive Filter where
  | raw (sql : String)
  | predicate (condition : Predicate)
  | fields (conditions : List (String × Condition))

/-- The predicate of a condition on a field. One comparison stands by itself, any other number of
them in a chain. -/
def Condition.toPredicate (field : String) : Condition → Predicate
  | .eq value => .compare field .eq value
  | .op operator value => .compare field operator value
  | .ops [(operator, value)] => .compare field operator value
  | .ops comparisons =>
    .chain (comparisons.map fun (operator, value) => .compare field operator value)

namespace Filter

/-- The filter without conditions. -/
def empty : Filter := .fields []

/-- Whether the filter leaves all rows in: blank words or no conditions on fields. -/
def isEmpty : Filter → Bool
  | .raw sql => (skipBlanks sql.toList).isEmpty
  | .predicate _ => false
  | .fields conditions => conditions.isEmpty

/-- The condition the filter stands for. -/
def toPredicate? (filter : Filter) : Option Predicate :=
  if filter.isEmpty then none
  else match filter with
    | .raw sql => some (.raw sql)
    | .predicate condition => some condition
    | .fields conditions =>
      some (.chain (conditions.map fun (field, condition) => condition.toPredicate field))

/-- The filter with one more condition, which must hold as well. -/
def add (filter : Filter) (field : String) (condition : Condition) : Filter :=
  match filter with
  | .fields conditions => .fields (conditions ++ [(field, condition)])
  | _ =>
    -- An empty filter in words stands for no predicate and leaves only the new condition.
    let added := Filter.fields [(field, condition)]
    .predicate (.chain (filter.toPredicate?.toList ++ added.toPredicate?.toList))

/-- The filter and an equality. -/
def eq (filter : Filter) (field : String) (value : Value) : Filter :=
  filter.add field (.eq value)

/-- The filter and a comparison. -/
def op (filter : Filter) (field : String) (operator : Operator) (value : Value) : Filter :=
  filter.add field (.op operator value)

/-- The filter and several comparisons of one field. -/
def ops (filter : Filter) (field : String) (comparisons : List (Operator × Value)) : Filter :=
  filter.add field (.ops comparisons)

end Filter

/-- The condition on a field that a document spells. -/
def Condition.ofJson (field : String) (document : Json) : Except MapperError Condition :=
  match document with
  | .array [first, second] =>
    -- A pair that does not begin with an operator is a value like any other array.
    match first.asString?.bind Operator.named? with
    | some operator => .ok (.op operator (.ofJson second))
    | none => .ok (.eq (.ofJson document))
  | .object [] => .error (.invalidFilter (.noOperators field))
  | .object members => do
    let comparisons ← members.mapM fun (name, value) => do
      let operator ← Operator.read name
      pure (operator, Value.ofJson value)
    pure (.ops comparisons)
  | _ => .ok (.eq (.ofJson document))

/-- The filter that a document spells: a string is a condition in its own words, null is the empty
filter, and the members of an object are conditions on fields. -/
def Filter.ofJson : Json → Except MapperError Filter
  | .string sql => .ok (.raw sql)
  | .null => .ok .empty
  | .object members => do
    let conditions ← members.mapM fun (field, value) => do
      let condition ← Condition.ofJson field value
      pure (field, condition)
    pure (.fields conditions)
  | document => .error (.invalidFilter (.wrongDocument document))

end RowMapper.Sql
