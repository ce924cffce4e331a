import Mathlib.Data.List.Induction
import RowMapper.Proofs.Sql.Narrowing

/-!
# `RowMapper.Proofs.Sql.Chaining`: conditions added one after the other

Conditions can be added to any filter. A filter of fields takes a new condition into its list,
while words and predicates become the first part of a chain, which is then a predicate itself. In
the text the way does not show: `Filter.tokens_addAll` writes the filter and all conditions that are
added to it as rows of tokens with `AND` between each two, in the order in which they were added.

* `Filter.additions_follow_filter`: the texts and parameters of a filter with conditions added are
  its own, followed by the comparisons of these conditions.
-/

set_option autoImplicit false

namespace RowMapper.Sql

open RowMapper.Text Token

theorem Predicate.template_eq_textOf (predicate : Predicate) :
    predicate.template = textOf (fun _ => placeholder) predicate.tokens := by
  rw [template, bind_eq_textOf]

theorem Predicate.params_eq_map (predicate : Predicate) :
    predicate.params = predicate.comparisons.map (·.value.bound) := by
  rw [params, bind_eq_textOf, List.nil_append]

namespace Filter

theorem toPredicate?_eq_none_iff (filter : Filter) :
    filter.toPredicate? = none ↔ filter.isEmpty = true := by
  unfold toPredicate?
  split
  case isTrue h => simp [h]
  case isFalse h => cases filter <;> simp_all

/-! ### One condition -/

/-- A condition that is added to an empty filter is all that is written. -/
theorem exists_tokens_add_of_empty {filter : Filter} (h : filter.toPredicate? = none)
    (field : String) (condition : Condition) :
    ∃ extended, (filter.add field condition).toPredicate? = some extended ∧
      extended.tokens = (condition.toPredicate field).tokens := by
  cases filter with
  | fields conditions =>
      obtain rfl := (toPredicate?_fields_eq_none_iff conditions).1 h
      refine ⟨chainOf [(field, condition)], rfl, ?_⟩
      simp [chainOf, Predicate.tokens, Predicate.tokensAll_eq_map]
  | raw sql =>
      refine ⟨.chain [chainOf [(field, condition)]], ?_, ?_⟩
      · simp only [add, h]
        rfl
      · simp [chainOf, Predicate.tokens, Predicate.tokensAll_eq_map]
  | predicate condition => cases h

/-- The rows of tokens that a filter and the conditions added to it are written as. -/
def rows (filter : Filter) (steps : List (String × Condition)) : List (List Token) :=
  (filter.toPredicate?.map Predicate.tokens).toList ++
    steps.map fun step => conjunction (step.2.comparisons step.1)

/-- A condition is written behind the filter that it is added to. -/
theorem tokens_add (filter : Filter) (field : String) (condition : Condition) :
    (filter.add field condition).toPredicate?.map Predicate.tokens
      = some ([Token.and].intercalate (filter.rows [(field, condition)])) := by
  unfold rows
  rw [List.map_singleton, ← Condition.tokens_toPredicate]
  cases h : filter.toPredicate? with
  | none =>
      obtain ⟨extended, hextended, htokens⟩ := exists_tokens_add_of_empty h field condition
      simp [hextended, htokens]
  | some predicate =>
      obtain ⟨extended, hextended, htokens⟩ := exists_tokens_add h field condition
      simp [hextended, htokens]

/-! ### Any number of conditions -/

/-- However many conditions are added, they are written behind the filter and each other. -/
theorem tokens_addAll (filter : Filter) (steps : List (String × Condition)) :
    (filter.addAll steps).toPredicate?.map Predicate.tokens
      = if filter.rows steps = [] then none
        else some ([Token.and].intercalate (filter.rows steps)) := by
  -- The induction takes the last condition away, so that the filter it is added to is known.
  induction steps using List.reverseRecOn with
  | nil =>
      show filter.toPredicate?.map Predicate.tokens = _
      unfold rows
      cases filter.toPredicate? <;> simp
  | append_singleton steps step ih =>
      have hrows : filter.rows (steps ++ [step])
          = filter.rows steps ++ [conjunction (step.2.comparisons step.1)] := by
        simp [rows]
      have hstep := tokens_add (filter.addAll steps) step.1 step.2
      rw [addAll, List.foldl_append, List.foldl_cons, List.foldl_nil, ← addAll, hstep, hrows,
        if_neg (by simp), rows, ih]
      by_cases hempty : filter.rows steps = []
      · simp [hempty]
      · rw [if_neg hempty, intercalate_concat _ hempty]
        simp

/-- The texts of the rows, with all comparisons joined at once. -/
theorem textOf_rows (showValue : Value → String) (filter : Filter)
    {steps : List (String × Condition)} (hfilled : ∀ step ∈ steps, step.2 ≠ .ops []) :
    textOf showValue ([Token.and].intercalate (filter.rows steps))
      = joined " AND " (filter.toPredicate?.toList.map (fun own => textOf showValue own.tokens) ++
          (steps.flatMap fun step => step.2.comparisons step.1).map
            (Comparison.text showValue)) := by
  let own := filter.toPredicate?.toList.map fun own => textOf showValue own.tokens
  have hparts : (filter.rows steps).map (textOf showValue)
      = (own.map ([·]) ++ written showValue steps).map (joined " AND ") := by
    rw [rows, List.map_append, List.map_append]
    congr 1
    · cases h : filter.toPredicate? <;> simp [own, h, joined]
    · simp [written, Function.comp_def, textOf_conjunction]
  have hfull : ∀ parts ∈ own.map ([·]) ++ written showValue steps, parts ≠ [] := by
    intro parts hparts
    rcases List.mem_append.1 hparts with hmem | hmem
    · obtain ⟨text, -, rfl⟩ := List.mem_map.1 hmem
      exact List.cons_ne_nil _ _
    · obtain ⟨step, hstep, rfl⟩ := List.mem_map.1 hmem
      simpa [Condition.comparisons_eq_nil_iff] using hfilled step hstep
  have hflatten : (own.map ([·]) ++ written showValue steps).flatten
      = own ++ (steps.flatMap fun step => step.2.comparisons step.1).map
          (Comparison.text showValue) := by
    rw [List.flatten_append, ← List.flatMap_def, List.flatMap_singleton', List.map_flatMap, written,
      List.flatMap_def]
  rw [textOf_intercalate, hparts, Token.text, joined_map_joined (by decide) hfull, hflatten]

/-- The comparisons of the rows. -/
theorem comparisonsOf_rows (filter : Filter) (steps : List (String × Condition)) :
    comparisonsOf ([Token.and].intercalate (filter.rows steps))
      = filter.toPredicate?.toList.flatMap Predicate.comparisons ++
          steps.flatMap fun step => step.2.comparisons step.1 := by
  have hconjunction (comparisons : List Comparison) :
      comparisonsOf (conjunction comparisons) = comparisons := by
    rw [conjunction, comparisonsOf_intercalate .and rfl, List.flatMap_map]
    exact List.flatMap_singleton' _
  rw [comparisonsOf_intercalate .and rfl, rows, List.flatMap_append, List.flatMap_map]
  simp only [hconjunction]
  congr 1
  cases filter.toPredicate? <;> simp [Predicate.comparisonsOf_tokens]

/-! ### The filter and what is added to it -/

/-- Let any number of conditions be added to a filter, none of them empty. Whether the filter is
made of words, is a predicate or is made of fields, it is then written as itself, unless it is
empty, and the comparisons of all conditions in the order in which they were added, with `AND`
between each two; its parameters are its own and then the compared values. It stands for no
condition only if it is empty and nothing is added. -/
theorem additions_follow_filter (filter : Filter) (steps : List (String × Condition))
    (hfilled : ∀ step ∈ steps, step.2 ≠ .ops []) :
    let own := filter.toPredicate?.toList
    let added := steps.flatMap fun step => step.2.comparisons step.1
    let result := (filter.addAll steps).toPredicate?
    (own = [] ↔ filter.isEmpty = true) ∧
    (result = none ↔ filter.isEmpty = true ∧ steps = []) ∧
    ∀ predicate, result = some predicate →
      predicate.sql = joined " AND "
        (own.map Predicate.sql ++ added.map (Comparison.text Value.literal)) ∧
      ∀ params, predicate.bind params =
        (joined " AND "
          (own.map Predicate.template ++ added.map (Comparison.text fun _ => placeholder)),
        params ++ (own.flatMap Predicate.params ++ added.map (·.value.bound))) := by
  intro own added result
  have hrun := tokens_addAll filter steps
  have hown : own = [] ↔ filter.isEmpty = true := by
    rw [← toPredicate?_eq_none_iff, Option.toList_eq_nil_iff]
  refine ⟨hown, ?_, fun predicate hpredicate => ?_⟩
  · have hnone : result = none ↔ filter.rows steps = [] := by
      rw [← Option.map_eq_none_iff (f := Predicate.tokens), hrun]
      split <;> simp [*]
    rw [hnone, rows, List.append_eq_nil_iff, Option.toList_eq_nil_iff, Option.map_eq_none_iff,
      toPredicate?_eq_none_iff, List.map_eq_nil_iff]
  · have htokens : predicate.tokens = [Token.and].intercalate (filter.rows steps) := by
      rw [show (filter.addAll steps).toPredicate? = some predicate from hpredicate,
        Option.map_some] at hrun
      split at hrun
      case isTrue => contradiction
      case isFalse => exact Option.some.inj hrun
    refine ⟨?_, fun params => ?_⟩
    · rw [Predicate.sql_eq_textOf, htokens, textOf_rows Value.literal filter hfilled]
      simp only [← Predicate.sql_eq_textOf]
      rfl
    · have hparams : (own.flatMap Predicate.comparisons).map (·.value.bound)
          = own.flatMap Predicate.params := by
        rw [List.map_flatMap]
        simp only [← Predicate.params_eq_map]
      rw [Predicate.bind_eq_textOf, ← Predicate.comparisonsOf_tokens, htokens,
        textOf_rows (fun _ => placeholder) filter hfilled, comparisonsOf_rows, List.map_append,
        ← hparams]
      simp only [← Predicate.template_eq_textOf]
      rfl

/-- Words and predicates take conditions like any filter, and blank words leave nothing behind. -/
theorem additions_follow_words :
    let steps : List (String × Condition) :=
      [("id", .eq (.int 3)), ("name", .op .neq (.string "Jo")),
        ("age", .ops [(.gte, .int 18), (.lt, .int 65)])]
    let added := "id = 3 AND name <> \"Jo\" AND age >= 18 AND age < 65"
    (∃ predicate, ((Filter.raw "deleted_at IS NULL").addAll steps).toPredicate? = some predicate ∧
      predicate.sql = "deleted_at IS NULL AND " ++ added) ∧
    ∃ predicate, ((Filter.raw "  ").addAll steps).toPredicate? = some predicate ∧
      predicate.sql = added := by
  intro steps added
  have hfilled : ∀ step ∈ steps, step.2 ≠ .ops [] := by simp [steps]
  have hwritten (filter : Filter) : ∃ predicate,
      (filter.addAll steps).toPredicate? = some predicate ∧ predicate.sql = joined " AND "
        (filter.toPredicate?.toList.map Predicate.sql ++
          (steps.flatMap fun step => step.2.comparisons step.1).map
            (Comparison.text Value.literal)) := by
    obtain ⟨-, hnone, htext⟩ := additions_follow_filter filter steps hfilled
    obtain ⟨predicate, hpredicate⟩ := Option.ne_none_iff_exists'.1 fun h =>
      List.cons_ne_nil _ _ (hnone.1 h).2
    exact ⟨predicate, hpredicate, (htext predicate hpredicate).1⟩
  obtain ⟨behind, hbehind, htext⟩ := hwritten (.raw "deleted_at IS NULL")
  obtain ⟨alone, halone, htext'⟩ := hwritten (.raw "  ")
  exact ⟨⟨behind, hbehind, htext.trans (by decide +kernel)⟩,
    alone, halone, htext'.trans (by decide +kernel)⟩

end Filter

end RowMapper.Sql
