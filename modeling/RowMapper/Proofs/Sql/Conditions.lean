import RowMapper.Proofs.Sql.Token
import RowMapper.Sql.Select

/-!
# `RowMapper.Proofs.Sql.Conditions`: what the conditions of a filter are written as

A filter of fields stands for a chain of its conditions, and a condition for one comparison or a
chain of several. So the text of a filter is joined in two steps, each condition from its
comparisons and the filter from its conditions (`Filter.textOf_fields`). It reads as all the
comparisons with `AND` between each two, unless a condition has no comparison at all: such a one
leaves an `AND` without an operand, or a clause without a condition.

* `Filter.complete_iff_no_empty_condition`: conditions that are added in a program are written
  completely if and only if none of them is empty; those read from a document always are.
* `Filter.empty_condition_dangles`: with an empty one, a DELETE ends in its `WHERE`.
-/

set_option autoImplicit false

namespace RowMapper.Sql

open RowMapper.Text Token

/-! ### The comparisons of conditions -/

/-- The comparison of a field with a value that a filter makes. -/
def Comparison.ofFilter (field : String) (op : Operator) (value : Value) : Comparison :=
  ⟨field, op, if op = .like then Predicate.pattern value else value⟩

/-- The text of a comparison, given how to write a value. -/
def Comparison.text (showValue : Value → String) (comparison : Comparison) : String :=
  Token.text showValue (.comparison comparison)

/-- A comparison is never written as nothing: there are blanks around its sign. -/
theorem Comparison.text_ne_empty (showValue : Value → String) (comparison : Comparison) :
    comparison.text showValue ≠ "" := by
  intro h
  have hlength := congrArg String.length h
  simp [Comparison.text, Token.text] at hlength

/-- The comparisons of a condition on a field, in order. -/
def Condition.comparisons (field : String) : Condition → List Comparison
  | .eq value => [.ofFilter field .eq value]
  | .op operator value => [.ofFilter field operator value]
  | .ops pairs => pairs.map fun pair => .ofFilter field pair.1 pair.2

/-- There are no comparisons in an empty list of them only. -/
theorem Condition.comparisons_eq_nil_iff (field : String) (condition : Condition) :
    condition.comparisons field = [] ↔ condition = .ops [] := by
  cases condition <;> simp [Condition.comparisons]

/-- Comparisons with `AND` between each two. -/
def Token.conjunction (comparisons : List Comparison) : List Token :=
  [Token.and].intercalate (comparisons.map fun comparison => [.comparison comparison])

theorem Token.textOf_conjunction (showValue : Value → String) (comparisons : List Comparison) :
    textOf showValue (conjunction comparisons)
      = joined " AND " (comparisons.map (Comparison.text showValue)) := by
  have htext (comparison : Comparison) :
      textOf showValue [.comparison comparison] = comparison.text showValue := by
    simp [Comparison.text]
  rw [conjunction, textOf_intercalate, List.map_map]
  simp only [Function.comp_def, htext]
  rfl

/-- A condition is written as its comparisons with `AND` between each two. -/
theorem Condition.tokens_toPredicate (field : String) (condition : Condition) :
    (condition.toPredicate field).tokens = conjunction (condition.comparisons field) := by
  cases condition with
  | eq value => rfl
  | op operator value => rfl
  | ops pairs =>
      -- One comparison stands by itself, which a chain of one is written as, too.
      match pairs with
      | [] => rfl
      | [pair] => rfl
      | first :: second :: rest =>
          rw [Condition.toPredicate, Predicate.tokens, Predicate.tokensAll_eq_map, List.map_map]
          · rw [conjunction, Condition.comparisons, List.map_map]
            rfl
          · simp

theorem Condition.comparisons_toPredicate (field : String) (condition : Condition) :
    (condition.toPredicate field).comparisons = condition.comparisons field := by
  rw [← Predicate.comparisonsOf_tokens, tokens_toPredicate, conjunction,
    comparisonsOf_intercalate .and rfl, List.flatMap_map]
  exact List.flatMap_singleton' _

/-! ### The conditions of a filter -/

namespace Filter

/-- The filter with conditions added one after the other. -/
def addAll (filter : Filter) (conditions : List (String × Condition)) : Filter :=
  conditions.foldl (fun filter condition => filter.add condition.1 condition.2) filter

theorem addAll_fields (front back : List (String × Condition)) :
    (Filter.fields front).addAll back = .fields (front ++ back) := by
  induction back generalizing front with
  | nil => rw [List.append_nil]; rfl
  | cons condition rest ih =>
      show (Filter.fields (front ++ [condition])).addAll rest = _
      rw [ih, List.append_assoc, List.singleton_append]

/-- The chain of conditions on fields. -/
def chainOf (conditions : List (String × Condition)) : Predicate :=
  .chain (conditions.map fun condition => condition.2.toPredicate condition.1)

theorem toPredicate?_fields (conditions : List (String × Condition)) :
    (Filter.fields conditions).toPredicate?
      = if conditions = [] then none else some (chainOf conditions) := by
  cases conditions <;> rfl

/-- The comparisons of conditions as texts, condition by condition. -/
def written (showValue : Value → String) (conditions : List (String × Condition)) :
    List (List String) :=
  conditions.map fun condition =>
    (condition.2.comparisons condition.1).map (Comparison.text showValue)

/-- A chain of conditions is joined from conditions that are joined from comparisons. -/
theorem textOf_chainOf (showValue : Value → String) (conditions : List (String × Condition)) :
    textOf showValue (chainOf conditions).tokens
      = joined " AND " ((written showValue conditions).map (joined " AND ")) := by
  rw [chainOf, Predicate.tokens, Predicate.tokensAll_eq_map, textOf_intercalate, written]
  simp only [List.map_map, Function.comp_def, Condition.tokens_toPredicate, textOf_conjunction]
  rfl

theorem comparisons_chainOf (conditions : List (String × Condition)) :
    (chainOf conditions).comparisons
      = conditions.flatMap fun condition => condition.2.comparisons condition.1 := by
  rw [← Predicate.comparisonsOf_tokens, chainOf, Predicate.tokens, Predicate.tokensAll_eq_map,
    comparisonsOf_intercalate .and rfl, List.flatMap_map, List.flatMap_map]
  simp only [Predicate.comparisonsOf_tokens, Condition.comparisons_toPredicate]

theorem map_comparisons_chainOf (showValue : Value → String)
    (conditions : List (String × Condition)) :
    (chainOf conditions).comparisons.map (Comparison.text showValue)
      = (written showValue conditions).flatten := by
  rw [comparisons_chainOf, List.map_flatMap, written, List.flatMap_def]

end Filter

/-! ### Complete conditions -/

/-- The condition consists of comparisons, of one at least, and both of its texts are these with
`AND` between each two. -/
structure Predicate.Complete (predicate : Predicate) : Prop where
  exists_comparison : predicate.comparisons ≠ []
  literals : predicate.sql
    = joined " AND " (predicate.comparisons.map (Comparison.text Value.literal))
  placeholders : ∀ params, (predicate.bind params).1
    = joined " AND " (predicate.comparisons.map (Comparison.text fun _ => placeholder))

/-- A chain of conditions is complete if and only if each of them has a comparison. -/
theorem Filter.complete_chainOf_iff {conditions : List (String × Condition)}
    (hne : conditions ≠ []) :
    (chainOf conditions).Complete ↔ ∀ condition ∈ conditions, condition.2 ≠ .ops [] := by
  have hwritten (showValue : Value → String) :
      (∀ parts ∈ written showValue conditions, parts ≠ []) ↔
        ∀ condition ∈ conditions, condition.2 ≠ .ops [] := by
    rw [written, List.forall_mem_map]
    simp only [ne_eq, List.map_eq_nil_iff, Condition.comparisons_eq_nil_iff]
  constructor
  · intro hcomplete
    have hflatten : (written Value.literal conditions).flatten ≠ [] := by
      rw [← map_comparisons_chainOf]
      simpa using hcomplete.exists_comparison
    have hsql := hcomplete.literals
    rw [Predicate.sql_eq_textOf, textOf_chainOf, map_comparisons_chainOf] at hsql
    exact (hwritten _).1 ((joined_map_joined_iff (by decide) hflatten).1 hsql)
  · intro hfilled
    have hcomparisons : (chainOf conditions).comparisons ≠ [] := by
      obtain ⟨condition, rest, rfl⟩ := List.exists_cons_of_ne_nil hne
      have hfirst := hfilled condition List.mem_cons_self
      rw [comparisons_chainOf, List.flatMap_cons]
      simp [Condition.comparisons_eq_nil_iff, hfirst]
    have htext (showValue : Value → String) : textOf showValue (chainOf conditions).tokens
        = joined " AND " ((chainOf conditions).comparisons.map (Comparison.text showValue)) := by
      have hflatten : (written showValue conditions).flatten ≠ [] := by
        rw [← map_comparisons_chainOf]
        simpa using hcomparisons
      rw [textOf_chainOf, map_comparisons_chainOf]
      exact (joined_map_joined_iff (by decide) hflatten).2 ((hwritten showValue).2 hfilled)
    refine ⟨hcomparisons, ?_, fun params => ?_⟩
    · rw [Predicate.sql_eq_textOf, htext]
    · rw [Predicate.bind_eq_textOf, htext]

/-! ### Clauses -/

/-- A clause of comparisons, given as texts: nothing if there are none, and otherwise its keyword
and the comparisons with `AND` between each two. -/
def comparisonClause (keyword : String) (comparisons : List String) : String :=
  if comparisons = [] then "" else keyword ++ joined " AND " comparisons

/-- The comparisons of the condition that a filter stands for. -/
def Filter.comparisons (filter : Filter) : List Comparison :=
  (filter.toPredicate?.map Predicate.comparisons).getD []

/-- The condition that a filter stands for is complete, if there is one, and so are the clauses that
are written for it, as literals and with placeholders. -/
structure Filter.Complete (filter : Filter) : Prop where
  predicate : ∀ predicate, filter.toPredicate? = some predicate → predicate.Complete
  whereLiterals : whereSql filter.toPredicate?
    = comparisonClause " WHERE " (filter.comparisons.map (Comparison.text Value.literal))
  wherePlaceholders : ∀ params, (bindWhere filter.toPredicate? params).1
    = comparisonClause " WHERE " (filter.comparisons.map (Comparison.text fun _ => placeholder))
  havingLiterals : Select.havingClause (filter.toPredicate?.map Predicate.sql)
    = comparisonClause " HAVING " (filter.comparisons.map (Comparison.text Value.literal))
  havingPlaceholders : ∀ params,
    Select.havingClause (filter.toPredicate?.map fun predicate => (predicate.bind params).1)
      = comparisonClause " HAVING " (filter.comparisons.map (Comparison.text fun _ => placeholder))

theorem comparisonClause_of_ne {keyword : String} {showValue : Value → String}
    {comparisons : List Comparison} (h : comparisons ≠ []) :
    comparisonClause keyword (comparisons.map (Comparison.text showValue))
      = keyword ++ joined " AND " (comparisons.map (Comparison.text showValue)) := by
  rw [comparisonClause, if_neg (by simpa using h)]

/-- The clauses are complete when the condition is. -/
theorem Filter.Complete.of_predicate {filter : Filter}
    (h : ∀ predicate, filter.toPredicate? = some predicate → predicate.Complete) :
    filter.Complete := by
  cases hcondition : filter.toPredicate? with
  | none =>
      have hcomparisons : filter.comparisons = [] := by rw [Filter.comparisons, hcondition]; rfl
      constructor <;> rw [hcondition] <;> simp [hcomparisons, comparisonClause, whereSql, bindWhere,
        Select.havingClause]
  | some predicate =>
      obtain ⟨hne, hliterals, hplaceholders⟩ := h predicate hcondition
      have hcomparisons : filter.comparisons = predicate.comparisons := by
        rw [Filter.comparisons, hcondition]; rfl
      constructor
      · exact h
      · rw [hcondition, hcomparisons, comparisonClause_of_ne hne, ← hliterals]
        rfl
      · intro params
        rw [hcondition, hcomparisons, comparisonClause_of_ne hne, ← hplaceholders params]
        rfl
      · rw [hcondition, hcomparisons, comparisonClause_of_ne hne, ← hliterals]
        rfl
      · intro params
        rw [hcondition, hcomparisons, comparisonClause_of_ne hne, ← hplaceholders params]
        rfl

/-! ### Filters from documents -/

variable {α β ε : Type}

theorem exists_of_bind_eq_ok {action : Except ε α} {next : α → Except ε β} {result : β}
    (h : action >>= next = .ok result) : ∃ found, action = .ok found ∧ next found = .ok result := by
  cases action with
  | error cause => cases h
  | ok found => exact ⟨found, rfl, h⟩

/-- What is read of a list entry by entry begins with what is read of its first entry. -/
theorem mapM_cons_eq_ok {read : α → Except ε β} {item : α} {items : List α} {results : List β}
    (h : (item :: items).mapM read = .ok results) :
    ∃ first rest, read item = .ok first ∧ items.mapM read = .ok rest ∧
      results = first :: rest := by
  rw [List.mapM_cons] at h
  obtain ⟨first, hfirst, h⟩ := exists_of_bind_eq_ok h
  obtain ⟨rest, hrest, h⟩ := exists_of_bind_eq_ok h
  cases h
  exact ⟨first, rest, hfirst, hrest, rfl⟩

/-- All that is read of a list comes from one of its entries. -/
theorem exists_of_mem_of_mapM {read : α → Except ε β} {items : List α} {results : List β}
    (h : items.mapM read = .ok results) :
    ∀ result ∈ results, ∃ item ∈ items, read item = .ok result := by
  induction items generalizing results with
  | nil =>
      cases h
      simp
  | cons item items ih =>
      obtain ⟨first, rest, hfirst, hrest, rfl⟩ := mapM_cons_eq_ok h
      intro result hresult
      rcases List.mem_cons.1 hresult with rfl | hresult
      · exact ⟨item, List.mem_cons_self, hfirst⟩
      · obtain ⟨found, hfound, hread⟩ := ih hrest result hresult
        exact ⟨found, List.mem_cons_of_mem item hfound, hread⟩

/-- A document spells no condition without comparisons, since an object without operators is
refused. -/
theorem Condition.ne_empty_of_ofJson {field : String} {document : Json} {condition : Condition}
    (h : Condition.ofJson field document = .ok condition) : condition ≠ .ops [] := by
  rintro rfl
  unfold Condition.ofJson at h
  split at h
  case h_1 => split at h <;> cases h
  case h_2 => cases h
  case h_3 members hmembers =>
    obtain ⟨member, rest, rfl⟩ := List.exists_cons_of_ne_nil hmembers
    obtain ⟨comparisons, hread, h⟩ := exists_of_bind_eq_ok h
    obtain ⟨first, others, -, -, rfl⟩ := mapM_cons_eq_ok hread
    cases h
  case h_4 => cases h

/-- An object spells a filter of fields, with as many conditions as it has members and none of them
empty. -/
theorem Filter.exists_fields_of_ofJson {members : List (String × Json)} {filter : Filter}
    (h : Filter.ofJson (.object members) = .ok filter) :
    ∃ conditions, filter = .fields conditions ∧ (conditions = [] ↔ members = []) ∧
      ∀ condition ∈ conditions, condition.2 ≠ .ops [] := by
  obtain ⟨conditions, hread, h⟩ := exists_of_bind_eq_ok h
  cases h
  refine ⟨conditions, rfl, ?_, fun condition hcondition => ?_⟩
  · cases members with
    | nil =>
        cases hread
        simp
    | cons member rest =>
        obtain ⟨first, others, -, -, rfl⟩ := mapM_cons_eq_ok hread
        simp
  · obtain ⟨member, -, hmember⟩ := exists_of_mem_of_mapM hread condition hcondition
    obtain ⟨spelled, hspelled, h⟩ := exists_of_bind_eq_ok hmember
    cases h
    exact Condition.ne_empty_of_ofJson hspelled

/-! ### All filters of fields -/

namespace Filter

theorem toPredicate?_fields_eq_none_iff (conditions : List (String × Condition)) :
    (Filter.fields conditions).toPredicate? = none ↔ conditions = [] := by
  rw [toPredicate?_fields]
  split <;> simp [*]

/-- A filter of fields is complete if and only if each of its conditions has a comparison. -/
theorem complete_fields_iff (conditions : List (String × Condition)) :
    (Filter.fields conditions).Complete ↔ ∀ condition ∈ conditions, condition.2 ≠ .ops [] := by
  by_cases hne : conditions = []
  · subst hne
    refine ⟨fun _ => by simp, fun _ => .of_predicate fun predicate h => ?_⟩
    rw [(toPredicate?_fields_eq_none_iff []).2 rfl] at h
    cases h
  · have hpredicate : (Filter.fields conditions).toPredicate? = some (chainOf conditions) := by
      rw [toPredicate?_fields, if_neg hne]
    rw [← complete_chainOf_iff hne]
    refine ⟨fun h => h.predicate _ hpredicate, fun h => .of_predicate fun predicate hsome => ?_⟩
    rw [hpredicate] at hsome
    cases hsome
    exact h

/-- A filter to which conditions on fields are added stands for no condition if none was added, and
it is complete if and only if each of them has a comparison: an empty list of comparisons is written
as nothing, in its place between the others. A filter that is read from an object stands for no
condition if the object has no members, and is complete whatever its members are. -/
theorem complete_iff_no_empty_condition (conditions : List (String × Condition)) :
    ((empty.addAll conditions).toPredicate? = none ↔ conditions = []) ∧
    ((empty.addAll conditions).Complete ↔ ∀ condition ∈ conditions, condition.2 ≠ .ops []) ∧
    ∀ (members : List (String × Json)) (filter : Filter),
      Filter.ofJson (.object members) = .ok filter →
        (filter.toPredicate? = none ↔ members = []) ∧ filter.Complete := by
  have hfields : empty.addAll conditions = .fields conditions := addAll_fields [] conditions
  rw [hfields]
  refine ⟨toPredicate?_fields_eq_none_iff conditions, complete_fields_iff conditions, ?_⟩
  intro members filter hread
  obtain ⟨spelled, rfl, hempty, hfilled⟩ := exists_fields_of_ofJson hread
  rw [toPredicate?_fields_eq_none_iff, hempty]
  exact ⟨Iff.rfl, (complete_fields_iff spelled).2 hfilled⟩

/-- A filter of two limits, as it is read from a document, is written with both of them. -/
theorem complete_age_limits :
    let members : List (String × Json) :=
      [("age", .object [("gte", .number (.integer 18 (by decide))),
        ("lt", .number (.integer 65 (by decide)))])]
    ∃ filter, Filter.ofJson (.object members) = .ok filter ∧ filter.Complete ∧
      filter.toPredicate?.map Predicate.sql = some "age >= 18 AND age < 65" := by
  intro members
  have hread : Filter.ofJson (.object members)
      = .ok (.fields [("age", .ops [(.gte, .int 18), (.lt, .int 65)])]) := by rfl
  exact ⟨_, hread, ((complete_iff_no_empty_condition []).2.2 members _ hread).2, by decide +kernel⟩

/-- With an empty list of comparisons alone, a DELETE ends in its `WHERE`, and behind another
condition an `AND` comes last. -/
theorem empty_condition_dangles :
    let alone := empty.ops "age" []
    let behind := (empty.eq "id" (.int 4)).ops "age" []
    let delete := (({} : Delete).fromTable "users").filter alone
    alone.toPredicate?.map Predicate.sql = some "" ∧ alone.toPredicate?.map (·.template) = some "" ∧
    (∀ comparisons : List Comparison, comparisons ≠ [] →
      joined " AND " (comparisons.map (Comparison.text Value.literal)) ≠ "") ∧
    delete.sql = "DELETE FROM users WHERE ;" ∧ delete.statement.sql = "DELETE FROM users WHERE ;" ∧
    behind.toPredicate?.map Predicate.sql = some "id = 4 AND " ∧
    ¬ alone.Complete ∧ ¬ behind.Complete := by
  intro alone behind delete
  refine ⟨by decide +kernel, by decide +kernel, fun comparisons hne => ?_, by decide +kernel,
    by decide +kernel, by decide +kernel, fun h => ?_, fun h => ?_⟩
  · obtain ⟨first, rest, rfl⟩ := List.exists_cons_of_ne_nil hne
    have hfirst := first.text_ne_empty Value.literal
    cases rest <;> simp [joined, hfirst]
  · exact (complete_fields_iff [("age", .ops [])]).1 h _ List.mem_cons_self rfl
  · exact (complete_fields_iff [("id", .eq (.int 4)), ("age", .ops [])]).1 h ("age", .ops [])
      (by simp) rfl

end Filter

end RowMapper.Sql
