import RowMapper.Proofs.Record.Loading
import RowMapper.Proofs.Sql.Assignment
import RowMapper.Proofs.Sql.Steps
import RowMapper.Repository.Find

/-!
# `RowMapper.Proofs.Repository.Finding`: finding records

Which records are wanted is said in steps (`Find.Step`). `Find.ofSteps_eq` says what any steps come
to: the filter, the limit and the offset are those given last, and the items of the order are all
that were given. A `Find` is written as one SELECT (`Find.statement_select`), and to read is to send
it and to make records of the rows (`Repository.Reads`):

* `Repository.reads_fetchAll`: all records come from one statement. The other finders are this one
  with a limit of one, and it is what becomes of the answer that tells them apart.
* `Repository.finders_read`: what each finder sends after any steps, and what it answers with.
* `Repository.Reads.reaches_engine`: on a connection of a pool, the engine is asked once, to fetch.
-/

set_option autoImplicit false

namespace RowMapper

open RowMapper.Sql RowMapper.Text RowMapper.Calendar
open RowMapper.Sql.Select (conditionClause conditionParams qualified)

variable {ι κ ω σ α : Type}

namespace Find

/-! ### Steps -/

/-- A step of saying which records are wanted. -/
inductive Step where
  | matching (filter : Filter)
  | order (item : String)
  | orderAll (items : List String)
  | limitTo (count : Nat)
  | skip (count : Nat)
  | paginate (limit offset : Nat)

namespace Step

/-- Takes a step. -/
def perform (find : Find) : Step → Find
  | .matching filter => find.matching filter
  | .order item => find.order item
  | .orderAll items => find.orderAll items
  | .limitTo count => find.limitTo count
  | .skip count => find.skip count
  | .paginate limit offset => find.paginate limit offset

/-- The filter that a step sets. -/
def filter? : Step → Option Filter
  | .matching filter => some filter
  | _ => none

/-- The items that a step adds to the order. -/
def items : Step → List String
  | .order item => [item]
  | .orderAll items => items
  | _ => []

/-- The limit that a step sets. -/
def limit? : Step → Option Nat
  | .limitTo count => some count
  | .paginate limit _ => some limit
  | _ => none

/-- The offset that a step sets. -/
def offset? : Step → Option Nat
  | .skip count => some count
  | .paginate _ offset => some offset
  | _ => none

end Step

/-- What any steps come to. -/
def ofSteps (steps : List Step) : Find :=
  steps.foldl Step.perform {}

theorem orderAll_eq (find : Find) (items : List String) :
    find.orderAll items = { find with orders := find.orders ++ items } := by
  induction items generalizing find with
  | nil => simp [orderAll]
  | cons item rest ih =>
      rw [orderAll, List.foldl_cons, ← orderAll, ih]
      simp [order]

/-- After any steps, the last filter, limit and offset count, and all items of the order. Without a
step about it the limit is a hundred. -/
theorem ofSteps_eq (steps : List Step) : ofSteps steps =
    { filter := lastSet Step.filter? .empty steps
      orders := steps.flatMap Step.items
      limit := lastSet Step.limit? 100 steps
      offset := lastSet Step.offset? 0 steps } := by
  -- From the end: the last step is taken where the steps before it have led.
  induction steps using List.reverseRecOn with
  | nil => rfl
  | append_singleton steps step ih =>
      rw [ofSteps, List.foldl_append, ← ofSteps, ih]
      simp only [lastSet_concat, List.flatMap_append, List.flatMap_singleton]
      cases step with
      | orderAll items => exact orderAll_eq _ items
      | order item => rfl
      | matching | limitTo | skip | paginate => simp [Step.perform, Step.filter?, Step.items,
          Step.limit?, Step.offset?, matching, limitTo, skip, paginate]

/-! ### The statement -/

/-- The statement that asks for rows of a table: those that meet the condition, if there is one, in
the order of the items, if there are any, no more than the limit, unless it is zero, and without the
first ones up to the offset, unless it is zero. -/
def asking (table : String) (condition : Option Predicate) (items : List String)
    (limit offset : Nat) : Statement where
  sql := "SELECT `" ++ table ++ "`.* FROM " ++ table ++
    conditionClause " WHERE " Predicate.template condition ++
    (if items = [] then "" else " ORDER BY " ++ joined ", " items) ++
    (if limit = 0 then "" else " LIMIT " ++ Number.naturalText limit) ++
    (if offset = 0 then "" else " OFFSET " ++ Number.naturalText offset) ++ ";"
  params := conditionParams condition

/-- The query of a `Find`, clause by clause. -/
theorem select_eq (find : Find) (table : String) : find.select table =
    { table := some table
      condition := find.filter.toPredicate?
      columns := [qualified table (escape "*")]
      orders := find.orders
      limit := some find.limit
      offset := some find.offset } := by
  unfold select
  rw [Select.orderAll_eq]
  rfl

/-- All columns of a table with a plain name. -/
theorem qualified_star {table : String} (h : PlainName table) :
    qualified table (escape "*") = "`" ++ table ++ "`.*" := by
  have hstar : escape "*" = "*" := by decide +kernel
  have hcall : isFunctionCall "*" = false := by decide +kernel
  have hend : "`" ++ ("." ++ "*") = "`.*" := by decide
  rw [hstar, qualified, if_neg (by simp [hcall]), escape_of_plain h, backticked,
    String.append_assoc, String.append_assoc, hend]

theorem statement_select (find : Find) {table : String} (h : PlainName table) :
    (find.select table).statement
      = asking table find.filter.toPredicate? find.orders find.limit find.offset := by
  have hopen (rest : String) : "SELECT " ++ ("`" ++ rest) = "SELECT `" ++ rest := by
    rw [← String.append_assoc]
    rfl
  have hfrom (rest : String) : "`.*" ++ (" FROM " ++ rest) = "`.* FROM " ++ rest := by
    rw [← String.append_assoc]
    rfl
  have horders : Select.listClause " ORDER BY " ", " find.orders
      = if find.orders = [] then "" else " ORDER BY " ++ joined ", " find.orders := by
    simp only [Select.listClause, List.isEmpty_iff]
  have hjoins : Select.listClause " " " " [] = "" := rfl
  have hgroups : Select.listClause " GROUP BY " ", " [] = "" := rfl
  rw [Select.statement_eq_render, select_eq, qualified_star h]
  unfold Select.render asking
  simp only [joined, hjoins, hgroups, horders, Option.map_none, Select.havingClause,
    Select.countClause, Option.getD_some, conditionParams, Option.getD_none, List.append_nil,
    String.append_assoc, String.empty_append, hopen, hfrom]

/-- The statement begins as a query, so it is one to fetch. -/
theorem call_asking (table : String) (condition : Option Predicate) (items : List String)
    (limit offset : Nat) : Call.ofStatement (asking table condition items limit offset)
      = .fetch (asking table condition items limit offset) := by
  have hverb : "SELECT `" = "SELECT " ++ "`" := by decide
  have hread : StatementKind.ofSql (asking table condition items limit offset).sql = .read := by
    refine kind_of_select (List.isPrefixOf_iff_prefix.2 ?_)
    unfold asking
    simp only [hverb, String.append_assoc, String.toList_append]
    exact List.prefix_append _ _
  rw [Call.ofStatement, hread]

end Find

namespace Repository

/-! ### What the finders do -/

/-- A run sends one statement, to be fetched, and answers with what its rows yield. -/
structure Reads (repository : Repository ι κ) (backend : Backend κ ω) (world : ω)
    (statement : Statement) (yields : List Row → Except MapperError α)
    (run : StateM (ω × List Exchange) (Except MapperError α)) : Prop where
  /-- The statement is one to fetch. -/
  fetches : Call.ofStatement statement = .fetch statement
  /-- It is sent once, on the connection of the repository, and nothing else is sent. -/
  sends : let answered := backend.query repository.connection statement world
    (run (world, [])).2 = (answered.2, [⟨statement, answered.1⟩])
  /-- An error of the engine is passed on. -/
  error : ∀ cause, (backend.query repository.connection statement world).1 = .error cause →
    (run (world, [])).1 = .error cause
  /-- Rows yield the answer. -/
  rows : ∀ output, (backend.query repository.connection statement world).1 = .ok output →
    (run (world, [])).1 = yields output.toRows

/-- The record of a row, on the connection of the repository. -/
def recordOf (repository : Repository ι κ) (zone : Zone) (row : Row) : Record ι κ :=
  .hydrate zone repository.entity row (some repository.connection)

variable {repository : Repository ι κ} {backend : Backend κ ω} {world : ω} {statement : Statement}
  {yields : List Row → Except MapperError α}
  {run : StateM (ω × List Exchange) (Except MapperError α)}

/-- Fetching reads the rows as they are. -/
theorem reads_fetch (repository : Repository ι κ) (backend : Backend κ ω) (world : ω)
    (hfetch : Call.ofStatement statement = .fetch statement) :
    repository.Reads backend world statement .ok
      (backend.logged.fetch repository.connection statement) where
  fetches := hfetch
  sends := rfl
  error _ hcause := congrArg (Except.map Output.toRows) hcause
  rows _ houtput := congrArg (Except.map Output.toRows) houtput

/-- What is done with an answer is done with what the rows yield, if errors are left alone. -/
theorem Reads.changed {β : Type} (h : repository.Reads backend world statement yields run)
    (change : Except MapperError α → Except MapperError β)
    (hchange : ∀ cause, change (.error cause) = .error cause) :
    repository.Reads backend world statement (fun rows => change (yields rows))
      (return change (← run)) where
  fetches := h.fetches
  sends := h.sends
  error cause hcause := (congrArg change (h.error cause hcause)).trans (hchange cause)
  rows output houtput := congrArg change (h.rows output houtput)

/-- All records are read by one statement. -/
theorem reads_fetchAll (repository : Repository ι κ) (backend : Backend κ ω) (world : ω)
    (htable : PlainName repository.entity.table) (find : Find) :
    repository.Reads backend world
      (Find.asking repository.entity.table find.filter.toPredicate? find.orders find.limit
        find.offset)
      (fun rows => .ok (rows.map (repository.recordOf backend.zone)))
      (repository.fetchAll backend.logged find) := by
  have hfetch := repository.reads_fetch backend world
    (Find.call_asking repository.entity.table find.filter.toPredicate? find.orders find.limit
      find.offset)
  rw [← find.statement_select htable] at hfetch ⊢
  exact hfetch.changed (Except.map fun rows => rows.map (repository.recordOf backend.zone))
    fun _ => rfl

/-- The first record is read by the statement with a limit of one. -/
theorem reads_fetchOptional (repository : Repository ι κ) (backend : Backend κ ω) (world : ω)
    (htable : PlainName repository.entity.table) (find : Find) :
    repository.Reads backend world
      (Find.asking repository.entity.table find.filter.toPredicate? find.orders 1 find.offset)
      (fun rows => .ok (rows.map (repository.recordOf backend.zone)).head?)
      (repository.fetchOptional backend.logged find) :=
  (repository.reads_fetchAll backend world htable (find.limitTo 1)).changed
    (Except.map List.head?) fun _ => rfl

/-- The record that was found, which must exist. -/
def required (found : Option (Record ι κ)) : Except MapperError (Record ι κ) :=
  match found with
  | some record => .ok record
  | none => .error (.engine .rowNotFound)

theorem reads_fetchOne (repository : Repository ι κ) (backend : Backend κ ω) (world : ω)
    (htable : PlainName repository.entity.table) (find : Find) :
    repository.Reads backend world
      (Find.asking repository.entity.table find.filter.toPredicate? find.orders 1 find.offset)
      (fun rows => required (rows.map (repository.recordOf backend.zone)).head?)
      (repository.fetchOne backend.logged find) :=
  (repository.reads_fetchOptional backend world htable find).changed (Except.bind · required)
    fun _ => rfl

theorem reads_findById (repository : Repository ι κ) (backend : Backend κ ω) (world : ω)
    (htable : PlainName repository.entity.table) {pk : Field}
    (hpk : repository.entity.pk? = some pk) (id : Value) :
    repository.Reads backend world
      (Find.asking repository.entity.table (some (.compare pk.name .eq id)) [] 1 0)
      (fun rows => .ok (rows.map (repository.recordOf backend.zone)).head?)
      (repository.findById backend.logged id) := by
  have hkey : repository.pk = .ok pk := by rw [Repository.pk, hpk]
  have hfirst := repository.reads_fetchOptional backend world htable
    (({} : Find).matching (.predicate (.compare pk.name .eq id)))
  rw [findById, hkey]
  exact hfirst

/-- Let any steps say which records are wanted. All of them are read by one statement: it has the
condition of the last filter, all items of the order, the last limit, or a hundred, and the last
offset. It answers with a record for each row, in the order of the rows and on the connection of the
repository. The first of them is read by the same statement with a limit of one; where it must
exist, it is an error that it does not. A record is looked for by its primary key in the same way,
and without a primary key nothing is sent. -/
theorem finders_read (repository : Repository ι κ) (backend : Backend κ ω) (world : ω)
    (htable : PlainName repository.entity.table) (steps : List Find.Step) (id : Value) :
    let table := repository.entity.table
    let find := Find.ofSteps steps
    let condition := (lastSet Find.Step.filter? .empty steps).toPredicate?
    let items := steps.flatMap Find.Step.items
    let limit := lastSet Find.Step.limit? 100 steps
    let offset := lastSet Find.Step.offset? 0 steps
    repository.Reads backend world (Find.asking table condition items limit offset)
      (fun rows => .ok (rows.map (repository.recordOf backend.zone)))
      (repository.fetchAll backend.logged find) ∧
    repository.Reads backend world (Find.asking table condition items 1 offset)
      (fun rows => .ok (rows.map (repository.recordOf backend.zone)).head?)
      (repository.fetchOptional backend.logged find) ∧
    repository.Reads backend world (Find.asking table condition items 1 offset)
      (fun rows => required (rows.map (repository.recordOf backend.zone)).head?)
      (repository.fetchOne backend.logged find) ∧
    (∀ pk, repository.entity.pk? = some pk →
      repository.Reads backend world (Find.asking table (some (.compare pk.name .eq id)) [] 1 0)
        (fun rows => .ok (rows.map (repository.recordOf backend.zone)).head?)
        (repository.findById backend.logged id)) ∧
    (repository.entity.pk? = none → repository.findById backend.logged id (world, [])
      = (.error (.missingPrimaryKey table), world, [])) := by
  intro table find condition items limit offset
  have hfind := Find.ofSteps_eq steps
  have hcondition : find.filter.toPredicate? = condition := congrArg (·.filter.toPredicate?) hfind
  have hitems : find.orders = items := congrArg (·.orders) hfind
  have hlimit : find.limit = limit := congrArg (·.limit) hfind
  have hoffset : find.offset = offset := congrArg (·.offset) hfind
  have hall := repository.reads_fetchAll backend world htable find
  have hfirst := repository.reads_fetchOptional backend world htable find
  have hone := repository.reads_fetchOne backend world htable find
  rw [hcondition, hitems, hoffset] at hall hfirst hone
  rw [hlimit] at hall
  refine ⟨hall, hfirst, hone, fun pk hpk => repository.reads_findById backend world htable hpk id,
    fun hnone => ?_⟩
  have hkey : repository.pk = .error (.missingPrimaryKey table) := by rw [Repository.pk, hnone]
  rw [findById, hkey]
  rfl

/-- A repository of books. -/
def bookRepository : Repository String Unit :=
  ⟨books, (), {}, .empty⟩

/-- The second ten of an author's books. The filter and the limit that are set first do not
count. -/
def authoredBooks : List Find.Step :=
  [.order "year", .limitTo 5, .matching .empty, .paginate 10 10, .orderAll ["title", "id"],
    .matching (.predicate (.compare "author_id" .eq (.int 7)))]

/-- The books are read by one statement, and the first of them by the same one with a limit of
one. -/
theorem finders_read_books :
    let find := Find.ofSteps authoredBooks
    let backend := (Backend.answering Record.bookRows).logged
    let all := bookRepository.fetchAll backend find ((), [])
    let first := bookRepository.fetchOne backend find ((), [])
    all.1 = .ok (Record.bookRows.map (bookRepository.recordOf .universal)) ∧
    all.2.2.map (·.statement.sql) = ["SELECT `books`.* FROM books WHERE author_id = ? " ++
      "ORDER BY year, title, id LIMIT 10 OFFSET 10;"] ∧
    all.2.2.map (·.statement.params) = [[.int 7]] ∧
    first.1 = .ok (bookRepository.recordOf .universal ⟨[("id", .int 1), ("author_id", .int 7)]⟩) ∧
    first.2.2.map (·.statement.sql) = ["SELECT `books`.* FROM books WHERE author_id = ? " ++
      "ORDER BY year, title, id LIMIT 1 OFFSET 10;"] := by
  intro find backend all first
  have htable : PlainName bookRepository.entity.table := by simp [PlainName, bookRepository, books]
  obtain ⟨hall, -, hfirst, -, -⟩ := finders_read bookRepository (Backend.answering Record.bookRows)
    () htable authoredBooks (.int 1)
  have hsent := congrArg Prod.snd hall.sends
  have hsent' := congrArg Prod.snd hfirst.sends
  refine ⟨hall.rows _ rfl, ?_, ?_, hfirst.rows _ rfl, ?_⟩
  · refine (congrArg (List.map (·.statement.sql)) hsent).trans ?_
    decide +kernel
  · exact congrArg (List.map (·.statement.params)) hsent
  · refine (congrArg (List.map (·.statement.sql)) hsent').trans ?_
    decide +kernel

/-! ### On a pool -/

/-- On a connection of a pool, what is read is asked of the engine once, and fetched. Where no
session can be had, nothing is. -/
theorem Reads.reaches_engine {repository : Repository ι ConnectionId} {zone : Zone}
    {engine : Engine σ ω} {pool : Pool σ (ω × List Sending)}
    {run : StateM (Pool σ (ω × List Sending) × List Exchange) (Except MapperError α)}
    (h : repository.Reads (Pool.backend zone engine.recorded) pool statement yields run) :
    let after := (run (pool, [])).2.1
    (pool.Connects engine.recorded repository.connection ∧
      ∃ accepted, after.sent = pool.sent ++ [⟨.fetch statement, accepted⟩]) ∨
    (¬ pool.Connects engine.recorded repository.connection ∧ after.sent = pool.sent ∧
      (run (pool, [])).1.isOk = false) := by
  intro after
  cases hquery : (Pool.backend zone engine.recorded).query repository.connection statement pool with
  | mk answer reached =>
      have hafter : after = reached := (congrArg Prod.fst h.sends).trans (congrArg Prod.snd hquery)
      rw [hafter, ← h.fetches]
      rcases Pool.query_cases hquery with ⟨hconnects, hsent⟩ | ⟨hconnects, hsent, hanswer⟩
      · exact .inl ⟨hconnects, _, hsent⟩
      · cases answer with
        | ok output => cases hanswer
        | error cause =>
            refine .inr ⟨hconnects, hsent, ?_⟩
            rw [h.error cause (congrArg Prod.fst hquery)]
            rfl

end Repository

end RowMapper
