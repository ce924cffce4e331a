import RowMapper.Repository.Basic
import RowMapper.Sql.Select

/-!
# `RowMapper.Repository.Find`: reading records

A `Find` describes which records are wanted, in which order, and which part of them: a hundred from
the first on unless it says otherwise. Reading answers with an error where storing would add a
message.
-/

set_option autoImplicit false

namespace RowMapper

open RowMapper.Sql

/-- Which records are wanted. A limit of zero is none. -/
structure Find where
  filter : Filter := .empty
  orders : List String := []
  limit : Nat := 100
  offset : Nat := 0

namespace Find

/-- Sets the filter. -/
def matching (find : Find) (filter : Filter) : Find :=
  { find with filter }

/-- Orders by one more item. -/
def order (find : Find) (item : String) : Find :=
  { find with orders := find.orders ++ [item] }

/-- Orders by more items one after the other. -/
def orderAll (find : Find) (items : List String) : Find :=
  items.foldl order find

/-- Sets the greatest number of records. -/
def limitTo (find : Find) (count : Nat) : Find :=
  { find with limit := count }

/-- Sets the number of records to pass over. -/
def skip (find : Find) (count : Nat) : Find :=
  { find with offset := count }

/-- Sets both. -/
def paginate (find : Find) (limit offset : Nat) : Find :=
  (find.limitTo limit).skip offset

/-- The query for the rows of a table. -/
def select (find : Find) (table : String) : Select :=
  ((((((({} : Select).fromTable table).set ["*"]).filter find.filter).orderAll find.orders).limitTo
    find.limit).skip find.offset)

end Find

namespace Repository

variable {ι κ ω : Type}

/-- All records that are wanted. -/
def fetchAll (backend : Backend κ ω) (repository : Repository ι κ) (find : Find) :
    StateM ω (Except MapperError (List (Record ι κ))) :=
  let select := find.select repository.entity.table
  return (← backend.fetch repository.connection select.statement).map fun rows =>
    rows.map fun row =>
      Record.hydrate backend.zone repository.entity row (some repository.connection)

/-- The first of the records that are wanted. -/
def fetchOptional (backend : Backend κ ω) (repository : Repository ι κ) (find : Find) :
    StateM ω (Except MapperError (Option (Record ι κ))) :=
  return (← repository.fetchAll backend (find.limitTo 1)).map List.head?

/-- The first of the records that are wanted, which must exist. -/
def fetchOne (backend : Backend κ ω) (repository : Repository ι κ) (find : Find) :
    StateM ω (Except MapperError (Record ι κ)) :=
  return (← repository.fetchOptional backend find).bind fun
    | some record => .ok record
    | none => .error (.engine .rowNotFound)

/-- The record with this primary key. -/
def findById (backend : Backend κ ω) (repository : Repository ι κ) (id : Value) :
    StateM ω (Except MapperError (Option (Record ι κ))) :=
  match repository.pk with
  | .error cause => return .error cause
  | .ok pk =>
    repository.fetchOptional backend
      (({} : Find).matching (.predicate (.compare pk.name .eq id)))

/-- The query for the number of rows that a filter leaves. -/
def counting (repository : Repository ι κ) (filter : Filter) : Select :=
  ((({} : Select).setAs "COUNT(*)" "total").fromTable repository.entity.table).filter filter

/-- The number in the answer to a count; zero if there is none. -/
def totalOf (rows : List Row) : Int64 :=
  ((rows.head?.bind (·.get? "total")).bind Value.asInt64?).getD 0

/-- The number of rows that a filter leaves. -/
def count (backend : Backend κ ω) (repository : Repository ι κ) (filter : Filter) :
    StateM ω (Except MapperError Int64) :=
  return (← backend.fetch repository.connection (repository.counting filter).statement).map totalOf

end Repository

end RowMapper
