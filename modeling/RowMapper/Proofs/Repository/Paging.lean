import RowMapper.Proofs.Repository.Finding
import RowMapper.Proofs.Sql.Paging

/-!
# `RowMapper.Proofs.Repository.Paging`: pages of what is found

Builders of queries and finders both take a limit and an offset, in any order and as often as one
likes. `Sql.offsets_limited_by_steps` says which steps lead to texts in which an offset stands
behind a limit. A finder has a limit from the start and loses it only by a limit of zero; a builder
has none until it is given one.

`Sql.offset_without_limit` are steps that lead to an offset alone, which the engines refuse.
-/

set_option autoImplicit false

namespace RowMapper.Sql

theorem pages_ofSteps (table : String) (steps : List Find.Step) :
    ((Find.ofSteps steps).select table).Pages (lastSet Find.Step.limit? 100 steps)
      (lastSet Find.Step.offset? 0 steps) := by
  have hpages := ((Find.ofSteps steps).select table).pages
  rwa [Find.select_eq, Find.ofSteps_eq] at hpages ⊢

/-- The texts of a query that is built by any steps, and those of the query that any steps of a
finder come to, have a limit in front of any offset, if and only if the last offset is zero or the
last limit is not. Without a step about them, both numbers are zero for a builder, and a finder has
a limit of a hundred. -/
theorem offsets_limited_by_steps (moves : List Select.Move) (table : String)
    (steps : List Find.Step) :
    (Select.ofMoves moves).Pages (lastSet Select.Move.limit? 0 moves)
      (lastSet Select.Move.offset? 0 moves) ∧
    ((Find.ofSteps steps).select table).Pages (lastSet Find.Step.limit? 100 steps)
      (lastSet Find.Step.offset? 0 steps) :=
  ⟨Select.pages_ofMoves moves, pages_ofSteps table steps⟩

/-- The second page of a table of books, with the offset set before the limit. -/
theorem offsets_limited_of_books :
    let books := Select.ofMoves
      [.take (.skip 10), .fromTable "books", .take (.set ["*"]), .take (.limitTo 10)]
    let found := (Find.ofSteps [.order "id", .skip 10]).select "books"
    books.sql = "SELECT `books`.* FROM books LIMIT 10 OFFSET 10;" ∧ OffsetsLimited books.sql ∧
    found.statement.sql = "SELECT `books`.* FROM books ORDER BY id LIMIT 100 OFFSET 10;" ∧
    OffsetsLimited found.statement.sql := by
  intro books found
  obtain ⟨hbooks, hfound⟩ := offsets_limited_by_steps
    [.take (.skip 10), .fromTable "books", .take (.set ["*"]), .take (.limitTo 10)] "books"
    [.order "id", .skip 10]
  exact ⟨by decide +kernel, (hbooks.literals (by decide +kernel)).2 (by decide),
    by decide +kernel, (hfound.placeholders (by decide +kernel)).2 (by decide)⟩

/-- An offset is set and no limit, or a finder gives up its limit: then the offset stands alone. -/
theorem offset_without_limit :
    let rows := Select.ofMoves [.fromTable "t", .take (.set ["*"]), .take (.skip 5)]
    let found := (Find.ofSteps [.paginate 0 5]).select "t"
    rows.Unpaged Predicate.sql ∧ rows.sql = "SELECT `t`.* FROM t OFFSET 5;" ∧
    ¬ OffsetsLimited rows.sql ∧
    found.Unpaged Predicate.template ∧ found.statement.sql = "SELECT `t`.* FROM t OFFSET 5;" ∧
    ¬ OffsetsLimited found.statement.sql := by
  intro rows found
  have hrows : rows.Unpaged Predicate.sql := by decide +kernel
  have hfound : found.Unpaged Predicate.template := by decide +kernel
  refine ⟨hrows, by decide +kernel, fun h => ?_, hfound, by decide +kernel, fun h => ?_⟩
  · exact ((Select.pages_ofMoves _).literals hrows).1 h (by decide) (by decide)
  · exact ((pages_ofSteps _ _).placeholders hfound).1 h (by decide) (by decide)

end RowMapper.Sql
