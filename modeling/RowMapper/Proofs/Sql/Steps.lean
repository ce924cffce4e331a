import Mathlib.Data.List.Induction
import RowMapper.Proofs.Sql.Rendering

/-!
# `RowMapper.Proofs.Sql.Steps`: queries that are built step by step

A query is built by steps, each about one of its clauses (`Select.Step.clause`). Once the table is
set, steps about different clauses do not get into each other's way: `Select.build_eq` says what is
in each clause after any steps, and it is a matter of the steps about this clause alone. A list has
what its steps gave, in the order of the steps; of conditions and counts the last one is left.

`Select.build_depends_on_clauses` draws the two conclusions: steps may be taken in another order as
long as those about one clause stay in theirs, and the text has the clauses in an order of its own,
whatever the order of the steps.
-/

set_option autoImplicit false

namespace RowMapper.Sql

variable {α β : Type}

/-- The last of what steps set, or what holds when none of them sets it. -/
def lastSet (sets? : α → Option β) (unset : β) (steps : List α) : β :=
  (steps.filterMap sets?).getLast?.getD unset

theorem lastSet_concat (sets? : α → Option β) (unset : β) (steps : List α) (step : α) :
    lastSet sets? unset (steps ++ [step]) = (sets? step).getD (lastSet sets? unset steps) := by
  unfold lastSet
  rw [List.filterMap_append]
  cases hstep : sets? step <;> simp [hstep]

end RowMapper.Sql

namespace RowMapper.Sql.Select

open RowMapper.Text

/-! ### Steps -/

/-- What a step of building is about. -/
inductive Clause where
  | columns
  | joins
  | rows
  | groups
  | having
  | orders
  | limit
  | offset
deriving DecidableEq

/-- A step of building a query whose table is set. -/
inductive Step where
  | set (fields : List String)
  | setAs (field label : String)
  | join (kind table condition : String)
  | filter (meant : Filter)
  | group (fields : List String)
  | filterGroups (meant : Filter)
  | order (item : String)
  | orderAll (items : List String)
  | limitTo (count : Nat)
  | skip (count : Nat)

namespace Step

/-- The clause that a step is about. -/
def clause : Step → Clause
  | .set _ => .columns
  | .setAs _ _ => .columns
  | .join _ _ _ => .joins
  | .filter _ => .rows
  | .group _ => .groups
  | .filterGroups _ => .having
  | .order _ => .orders
  | .orderAll _ => .orders
  | .limitTo _ => .limit
  | .skip _ => .offset

/-- Takes a step. -/
def perform (select : Select) : Step → Select
  | .set fields => select.set fields
  | .setAs field label => select.setAs field label
  | .join kind table condition => select.join kind table condition
  | .filter meant => select.filter meant
  | .group fields => select.group fields
  | .filterGroups meant => select.filterGroups meant
  | .order item => select.order item
  | .orderAll items => select.orderAll items
  | .limitTo count => select.limitTo count
  | .skip count => select.skip count

end Step

/-- The query that is built by steps from its table. -/
def build (table : String) (steps : List Step) : Select :=
  steps.foldl Step.perform (({} : Select).fromTable table)

/-! ### What a step gives to its clause -/

/-- A column with the table in front, unless it has a point or is a function call. -/
def qualified (table column : String) : String :=
  if column.toList.contains '.' ∨ isFunctionCall column then column
  else escape table ++ "." ++ column

/-- What a step gives to the clauses of a query: items of lists, and filters and counts to be
set. -/
structure Given where
  columns : List String := []
  joins : List String := []
  rows : List Filter := []
  groups : List String := []
  having : List Filter := []
  orders : List String := []
  limit : List Nat := []
  offset : List Nat := []

/-- What a step gives to the clauses of a query of this table. -/
def Step.given (table : String) : Step → Given
  | .set fields => { columns := fields.map fun field => qualified table (escape field) }
  | .setAs field label => { columns := [qualified table (escape field) ++ " AS " ++ label] }
  | .join kind table condition =>
    { joins := [upper kind ++ " JOIN " ++ table ++ " ON " ++ condition] }
  | .filter meant => { rows := [meant] }
  -- Unlike a column, a group is not escaped.
  | .group fields => { groups := fields.map (qualified table) }
  | .filterGroups meant => { having := [meant] }
  | .order item => { orders := [item] }
  | .orderAll items => { orders := items }
  | .limitTo count => { limit := [count] }
  | .skip count => { offset := [count] }

/-- What is given goes to this clause and no other. -/
structure Given.OnlyTo (given : Given) (clause : Clause) : Prop where
  columns : clause ≠ .columns → given.columns = []
  joins : clause ≠ .joins → given.joins = []
  rows : clause ≠ .rows → given.rows = []
  groups : clause ≠ .groups → given.groups = []
  having : clause ≠ .having → given.having = []
  orders : clause ≠ .orders → given.orders = []
  limit : clause ≠ .limit → given.limit = []
  offset : clause ≠ .offset → given.offset = []

/-- A step gives nothing to clauses that it is not about. -/
theorem Step.given_onlyTo (table : String) (step : Step) :
    (step.given table).OnlyTo step.clause := by
  cases step <;> constructor <;> simp [given, clause]

/-- The condition of the last filter, if there is a filter and it is not empty. -/
def lastCondition? (filters : List Filter) : Option Predicate :=
  filters.getLast?.bind Filter.toPredicate?

/-- The query whose clauses are put together from what the steps give to them. -/
def ofSteps (table : String) (steps : List Step) : Select where
  table := some table
  condition := lastCondition? (steps.flatMap fun step => (step.given table).rows)
  columns := steps.flatMap fun step => (step.given table).columns
  joins := steps.flatMap fun step => (step.given table).joins
  groups := steps.flatMap fun step => (step.given table).groups
  having := lastCondition? (steps.flatMap fun step => (step.given table).having)
  orders := steps.flatMap fun step => (step.given table).orders
  limit := (steps.flatMap fun step => (step.given table).limit).getLast?
  offset := (steps.flatMap fun step => (step.given table).offset).getLast?

/-! ### One step -/

theorem qualify_eq {select : Select} {table : String} (h : select.table = some table)
    (column : String) : select.qualify column = qualified table column := by
  rw [qualify, h]
  rfl

/-- Adding texts to a query one after the other adds to the items that it has collected. -/
theorem foldl_collected {add : Select → String → Select} {collected : List String → Select}
    {item : String → String}
    (hadd : ∀ items text, add (collected items) text = collected (items ++ [item text]))
    (items texts : List String) :
    texts.foldl add (collected items) = collected (items ++ texts.map item) := by
  induction texts generalizing items with
  | nil => rw [List.foldl_nil, List.map_nil, List.append_nil]
  | cons text rest ih =>
      rw [List.foldl_cons, hadd, ih, List.append_assoc, List.singleton_append, List.map_cons]

theorem set_eq {select : Select} {table : String} (h : select.table = some table)
    (fields : List String) : select.set fields =
      { select with
        columns := select.columns ++ fields.map fun field => qualified table (escape field) } := by
  have hadd (columns : List String) (field : String) : column { select with columns } field
      = { select with columns := columns ++ [qualified table (escape field)] } := by
    have htable : ({ select with columns } : Select).table = some table := h
    rw [column, qualify_eq htable]
  exact foldl_collected hadd select.columns fields

theorem group_eq {select : Select} {table : String} (h : select.table = some table)
    (fields : List String) : select.group fields =
      { select with groups := select.groups ++ fields.map (qualified table) } := by
  have hadd (groups : List String) (field : String) : groupBy { select with groups } field
      = { select with groups := groups ++ [qualified table field] } := by
    have htable : ({ select with groups } : Select).table = some table := h
    rw [groupBy, qualify_eq htable]
  exact foldl_collected hadd select.groups fields

theorem orderAll_eq (select : Select) (items : List String) :
    select.orderAll items = { select with orders := select.orders ++ items } := by
  have hadd (orders : List String) (item : String) : order { select with orders } item
      = { select with orders := orders ++ [id item] } := rfl
  have hcollected := foldl_collected hadd select.orders items
  rwa [List.map_id] at hcollected

theorem lastCondition?_concat (filters : List Filter) (last : Filter) :
    lastCondition? (filters ++ [last]) = last.toPredicate? := by
  rw [lastCondition?, List.getLast?_concat, Option.bind_some]

/-- A step adds to its clause and leaves the others alone. -/
theorem perform_ofSteps (table : String) (steps : List Step) (step : Step) :
    step.perform (ofSteps table steps) = ofSteps table (steps ++ [step]) := by
  -- No step takes the table away, so columns and groups get the same name wherever they are given.
  have htable : (ofSteps table steps).table = some table := rfl
  cases step with
  | set fields =>
      rw [Step.perform, set_eq htable]
      simp [ofSteps, Step.given]
  | setAs field label =>
      rw [Step.perform, setAs, qualify_eq htable]
      simp [ofSteps, Step.given]
  | group fields =>
      rw [Step.perform, group_eq htable]
      simp [ofSteps, Step.given]
  | orderAll items =>
      rw [Step.perform, orderAll_eq]
      simp [ofSteps, Step.given]
  | join => simp [ofSteps, Step.given, Step.perform, join]
  | order => simp [ofSteps, Step.given, Step.perform, order]
  | filter => simp [ofSteps, Step.given, Step.perform, filter, lastCondition?_concat]
  | filterGroups => simp [ofSteps, Step.given, Step.perform, filterGroups, lastCondition?_concat]
  | limitTo => simp [ofSteps, Step.given, Step.perform, limitTo]
  | skip => simp [ofSteps, Step.given, Step.perform, skip]

/-! ### Any steps -/

/-- After any steps each clause is put together from the steps about it. -/
theorem build_eq (table : String) (steps : List Step) :
    build table steps = ofSteps table steps := by
  -- From the end: the query that the last step finds is the one of the steps before it.
  induction steps using List.reverseRecOn with
  | nil => rfl
  | append_singleton steps step ih =>
      rw [build, List.foldl_append, ← build, ih]
      exact perform_ofSteps table steps step

/-- What steps give to one clause is given by the steps about this clause. -/
theorem flatMap_filter_clause {α : Type} {gives : Step → List α} {clause : Clause}
    (h : ∀ step : Step, step.clause ≠ clause → gives step = []) (steps : List Step) :
    (steps.filter (·.clause = clause)).flatMap gives = steps.flatMap gives := by
  induction steps with
  | nil => rfl
  | cons step rest ih =>
      by_cases habout : step.clause = clause
      · rw [List.filter_cons_of_pos (by simpa using habout), List.flatMap_cons, ih,
          List.flatMap_cons]
      · rw [List.filter_cons_of_neg (by simpa using habout), ih, List.flatMap_cons, h step habout,
          List.nil_append]

/-- Steps may change places with steps about other clauses. -/
theorem ofSteps_congr {first second : List Step}
    (h : ∀ clause, first.filter (·.clause = clause) = second.filter (·.clause = clause))
    (table : String) : ofSteps table first = ofSteps table second := by
  -- What a clause gets comes from the steps about it, and they are the same in both lists.
  have hgiven {α : Type} {gives : Step → List α} (clause : Clause)
      (hother : ∀ step : Step, step.clause ≠ clause → gives step = []) :
      first.flatMap gives = second.flatMap gives := by
    rw [← flatMap_filter_clause hother first, h, flatMap_filter_clause hother]
  have hcolumns := hgiven .columns fun step => (step.given_onlyTo table).columns
  have hjoins := hgiven .joins fun step => (step.given_onlyTo table).joins
  have hrows := hgiven .rows fun step => (step.given_onlyTo table).rows
  have hgroups := hgiven .groups fun step => (step.given_onlyTo table).groups
  have hhaving := hgiven .having fun step => (step.given_onlyTo table).having
  have horders := hgiven .orders fun step => (step.given_onlyTo table).orders
  have hlimit := hgiven .limit fun step => (step.given_onlyTo table).limit
  have hoffset := hgiven .offset fun step => (step.given_onlyTo table).offset
  simp only [ofSteps, hcolumns, hjoins, hrows, hgroups, hhaving, horders, hlimit, hoffset]

/-! ### Texts -/

/-- A condition behind its keyword, if there is one. -/
def conditionClause (keyword : String) (write : Predicate → String)
    (condition : Option Predicate) : String :=
  match condition with
  | some predicate => keyword ++ write predicate
  | none => ""

/-- The text of the query of these steps, given how a condition is written. The clauses stand in
this order. A list is left out when nothing is in it, and so are a condition that there is not and
a count of zero. -/
def textOfSteps (write : Predicate → String) (table : String) (steps : List Step) : String :=
  "SELECT " ++ joined ", " (steps.flatMap fun step => (step.given table).columns) ++
    " FROM " ++ table ++
    listClause " " " " (steps.flatMap fun step => (step.given table).joins) ++
    conditionClause " WHERE " write
      (lastCondition? (steps.flatMap fun step => (step.given table).rows)) ++
    listClause " GROUP BY " ", " (steps.flatMap fun step => (step.given table).groups) ++
    conditionClause " HAVING " write
      (lastCondition? (steps.flatMap fun step => (step.given table).having)) ++
    listClause " ORDER BY " ", " (steps.flatMap fun step => (step.given table).orders) ++
    countClause " LIMIT " (steps.flatMap fun step => (step.given table).limit).getLast? ++
    countClause " OFFSET " (steps.flatMap fun step => (step.given table).offset).getLast? ++ ";"

/-- The parameters of an optional condition. -/
def conditionParams (condition : Option Predicate) : List Value :=
  (condition.map Predicate.params).getD []

theorem havingClause_eq (write : Predicate → String) (condition : Option Predicate) :
    havingClause (condition.map write) = conditionClause " HAVING " write condition := by
  cases condition <;> rfl

theorem whereSql_eq (condition : Option Predicate) :
    whereSql condition = conditionClause " WHERE " Predicate.sql condition := by
  cases condition <;> rfl

/-- The parameters of a condition stand behind those that there are. -/
theorem bindWhere_append (condition : Option Predicate) (params : List Value) :
    bindWhere condition params = (conditionClause " WHERE " Predicate.template condition,
      params ++ conditionParams condition) := by
  cases condition with
  | none =>
      rw [bindWhere, conditionClause, conditionParams, Option.map_none, Option.getD_none,
        List.append_nil]
  | some predicate =>
      rw [bindWhere, predicate.bind_eq_template]
      rfl

theorem bindWhere_eq (condition : Option Predicate) : bindWhere condition []
    = (conditionClause " WHERE " Predicate.template condition, conditionParams condition) := by
  cases condition <;> rfl

/-- The statement of a query in one piece: its text with placeholders, and the parameters of both
filters. -/
theorem statement_eq_render (select : Select) : select.statement
    = ⟨select.render (conditionClause " WHERE " Predicate.template select.condition)
        (select.having.map Predicate.template),
      conditionParams select.condition ++ conditionParams select.having⟩ := by
  unfold statement
  rw [bindWhere_eq]
  cases select.having with
  | none => simp only [Option.map_none, conditionParams, Option.getD_none, List.append_nil]
  | some predicate =>
      simp only [predicate.bind_eq_template, Option.map_some, conditionParams, Option.getD_some]

theorem sql_ofSteps (table : String) (steps : List Step) :
    (ofSteps table steps).sql = textOfSteps Predicate.sql table steps := by
  unfold sql render textOfSteps
  rw [whereSql_eq, havingClause_eq]
  simp only [ofSteps, Option.getD_some]

theorem statement_ofSteps (table : String) (steps : List Step) :
    (ofSteps table steps).statement = ⟨textOfSteps Predicate.template table steps,
      conditionParams (ofSteps table steps).condition ++
        conditionParams (ofSteps table steps).having⟩ := by
  rw [statement_eq_render]
  unfold render textOfSteps
  rw [havingClause_eq]
  simp only [ofSteps, Option.getD_some]

/-- Steps of building a query whose table is set may be taken in any order, as long as those about
one clause stay in theirs: the text with literals, the text with placeholders and the parameters are
the same. The texts have the clauses in the order SELECT, FROM, joins, WHERE, GROUP BY, HAVING,
ORDER BY, LIMIT, OFFSET; items of lists stand in the order of the steps, and of filters, limits and
offsets only the last one counts. -/
theorem build_depends_on_clauses (table : String) (steps : List Step) :
    let query := build table steps
    (∀ other : List Step,
      (∀ clause, other.filter (·.clause = clause) = steps.filter (·.clause = clause)) →
        (build table other).sql = query.sql ∧ (build table other).statement = query.statement) ∧
    query.sql = textOfSteps Predicate.sql table steps ∧
    query.statement.sql = textOfSteps Predicate.template table steps ∧
    query.statement.params
      = conditionParams (lastCondition? (steps.flatMap fun step => (step.given table).rows)) ++
        conditionParams (lastCondition? (steps.flatMap fun step => (step.given table).having)) := by
  intro query
  have hquery : query = ofSteps table steps := build_eq table steps
  refine ⟨fun other hsame => ?_, ?_⟩
  · have hother : build table other = query := by
      rw [hquery, build_eq, ofSteps_congr hsame]
    exact ⟨congrArg sql hother, congrArg statement hother⟩
  · rw [hquery, statement_ofSteps]
    exact ⟨sql_ofSteps table steps, rfl, rfl⟩

/-- A query of open orders with the filters before and after the columns; the limit that is set
first does not count. -/
theorem build_depends_on_clauses_orders :
    let columns : List Step := [.set ["customer"], .setAs "SUM(total)" "spent"]
    let limits : List Step := [.limitTo 5, .limitTo 10]
    let rows : Step := .filter (.fields [("state", .eq (.string "open"))])
    let groups : Step := .filterGroups (.predicate (.compare "COUNT(*)" .gt (.int 3)))
    let steps := columns ++ [rows, .group ["customer"], groups] ++ limits
    let other := limits ++ [groups, .group ["customer"], rows] ++ columns
    (build "orders" other).sql = (build "orders" steps).sql ∧
      (build "orders" other).statement = (build "orders" steps).statement ∧
      (build "orders" steps).sql = "SELECT `orders`.`customer`, SUM(total) AS spent FROM orders" ++
        " WHERE state = \"open\" GROUP BY `orders`.customer HAVING COUNT(*) > 3 LIMIT 10;" ∧
      (build "orders" steps).statement.params = [.string "open", .int 3] := by
  intro columns limits rows groups steps other
  obtain ⟨hsame, hsql, -, hparams⟩ := build_depends_on_clauses "orders" steps
  obtain ⟨hsql', hstatement⟩ := hsame other fun clause => by cases clause <;> rfl
  exact ⟨hsql', hstatement, hsql.trans (by decide +kernel), hparams.trans (by rfl)⟩

end RowMapper.Sql.Select
