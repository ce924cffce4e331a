import RowMapper.Proofs.Number.Integer
import RowMapper.Proofs.Sql.Slots
import RowMapper.Sql.Select

/-!
# `RowMapper.Proofs.Sql.Rendering`: the two renderings of a statement agree

Each builder is rendered with literals (`sql`) and with placeholders and parameters (`statement`),
by two functions. `fragments` of a builder is what both write, and `Renders` ties the three
together; there is one lemma for each builder (`Insert.renders`, `Update.renders`,
`Delete.renders`, `Select.renders`).

`renderings_agree` is the result for all builders: the two texts are the same pieces around the
same values in the same order, the parameters are these values in the form for binding, and the
placeholders are as many as the parameters unless some text of the caller holds a question mark.
-/

set_option autoImplicit false

namespace RowMapper.Sql

open RowMapper.Text Fragment

/-- The text with literals and the statement with placeholders both come from these fragments. -/
structure Renders (fragments : List Fragment) (sql : String) (statement : Statement) : Prop where
  literals : sql = fill Value.literal fragments
  placeholders : statement.sql = fill (fun _ => placeholder) fragments
  params : statement.params = (slots fragments).map Value.bound

/-! ### The builders -/

/-- The fragments of an optional condition behind its keyword. -/
def conditionFragments (keyword : String) (condition : Option Predicate) : List Fragment :=
  match condition with
  | some predicate => .words keyword :: predicate.fragments
  | none => []

/-- The compared values of an optional condition, from left to right. -/
def conditionValues (condition : Option Predicate) : List Value :=
  (condition.map Predicate.values).getD []

theorem slots_conditionFragments (keyword : String) (condition : Option Predicate) :
    slots (conditionFragments keyword condition) = conditionValues condition := by
  cases condition with
  | none => rfl
  | some predicate => simp [conditionFragments, conditionValues, value?, predicate.slots_fragments]

theorem whereSql_eq_fill (condition : Option Predicate) :
    whereSql condition = fill Value.literal (conditionFragments " WHERE " condition) := by
  cases condition with
  | none => simp [whereSql, conditionFragments]
  | some predicate =>
      simp [whereSql, conditionFragments, Fragment.text, predicate.fill_fragments_literal]

theorem bindWhere_eq_fill (condition : Option Predicate) (params : List Value) :
    bindWhere condition params
      = (fill (fun _ => placeholder) (conditionFragments " WHERE " condition),
          params ++ (conditionValues condition).map Value.bound) := by
  cases condition with
  | none => simp [bindWhere, conditionFragments, conditionValues]
  | some predicate =>
      simp [bindWhere, conditionFragments, conditionValues, Fragment.text, predicate.bind_eq_fill]

/-- The fragments of an INSERT. -/
def Insert.fragments (insert : Insert) : List Fragment :=
  .words ("INSERT INTO " ++ insert.table.getD "" ++ " (" ++
      joined ", " insert.assignments.columns ++ ") VALUES (") ::
    ([Fragment.words ", "].intercalate (insert.assignments.values.map fun value => [.slot value])
      ++ [.words ");"])

theorem Insert.slots_fragments (insert : Insert) :
    slots insert.fragments = insert.assignments.values := by
  simp [Insert.fragments, slots_intercalate, value?, List.flatMap_map]

theorem Insert.renders (insert : Insert) :
    Renders insert.fragments insert.sql insert.statement where
  literals := by
    unfold Insert.sql
    simp only [Insert.fragments, fill_cons, fill_append, fill_nil, fill_intercalate,
      Fragment.text, String.append_assoc, String.append_empty, List.map_map, Function.comp_def]
  placeholders := by
    unfold Insert.statement
    simp only [Insert.fragments, fill_cons, fill_append, fill_nil, fill_intercalate,
      Fragment.text, String.append_assoc, String.append_empty, List.map_map, Function.comp_def,
      List.map_const', List.length_map]
  params := by rw [Insert.slots_fragments]; rfl

/-- The fragments of an UPDATE. -/
def Update.fragments (update : Update) : List Fragment :=
  .words ("UPDATE " ++ update.table.getD "" ++ " SET ") ::
    ([Fragment.words ", "].intercalate
        (update.assignments.map fun (column, value) => [.words (column ++ " = "), .slot value])
      ++ (conditionFragments " WHERE " update.condition ++ [.words ";"]))

theorem Update.slots_fragments (update : Update) :
    slots update.fragments = update.assignments.values ++ conditionValues update.condition := by
  -- An assignment is its column and one slot.
  have hassigned : (update.assignments.map fun (column, value) =>
      [Fragment.words (column ++ " = "), .slot value]).flatMap slots
        = update.assignments.values := by
    rw [List.flatMap_map, Assignments.values, List.map_eq_flatMap]
    rfl
  simp [Update.fragments, slots_intercalate, value?, hassigned, slots_conditionFragments]

theorem Update.renders (update : Update) :
    Renders update.fragments update.sql update.statement where
  literals := by
    unfold Update.sql
    simp only [Update.fragments, fill_cons, fill_append, fill_nil, fill_intercalate,
      Fragment.text, String.append_assoc, String.append_empty, List.map_map, Function.comp_def,
      whereSql_eq_fill]
  placeholders := by
    unfold Update.statement
    simp only [Update.fragments, fill_cons, fill_append, fill_nil, fill_intercalate,
      Fragment.text, String.append_assoc, String.append_empty, List.map_map, Function.comp_def,
      bindWhere_eq_fill]
  params := by
    unfold Update.statement
    rw [Update.slots_fragments, bindWhere_eq_fill, List.map_append]

/-- The fragments of a DELETE. -/
def Delete.fragments (delete : Delete) : List Fragment :=
  .words ("DELETE FROM " ++ delete.table.getD "") ::
    (conditionFragments " WHERE " delete.condition ++ [.words ";"])

theorem Delete.slots_fragments (delete : Delete) :
    slots delete.fragments = conditionValues delete.condition := by
  simp [Delete.fragments, value?, slots_conditionFragments]

theorem Delete.renders (delete : Delete) :
    Renders delete.fragments delete.sql delete.statement where
  literals := by
    unfold Delete.sql
    simp only [Delete.fragments, fill_cons, fill_append, fill_nil, Fragment.text,
      String.append_assoc, String.append_empty, whereSql_eq_fill]
  placeholders := by
    unfold Delete.statement
    simp only [Delete.fragments, fill_cons, fill_append, fill_nil, Fragment.text,
      String.append_assoc, String.append_empty, bindWhere_eq_fill]
  params := by
    unfold Delete.statement
    rw [Delete.slots_fragments, bindWhere_eq_fill, List.nil_append]

/-- The fragments of a SELECT. -/
def Select.fragments (select : Select) : List Fragment :=
  .words ("SELECT " ++ joined ", " select.columns ++ " FROM " ++ select.table.getD "" ++
      listClause " " " " select.joins) ::
    (conditionFragments " WHERE " select.condition ++
      .words (listClause " GROUP BY " ", " select.groups) ::
        (conditionFragments " HAVING " select.having ++
          [.words (listClause " ORDER BY " ", " select.orders ++
            countClause " LIMIT " select.limit ++ countClause " OFFSET " select.offset ++ ";")]))

theorem Select.slots_fragments (select : Select) :
    slots select.fragments = conditionValues select.condition ++ conditionValues select.having := by
  simp [Select.fragments, value?, slots_conditionFragments]

/-- Filling in the fragments of a SELECT renders it around its conditions. -/
theorem Select.fill_fragments (showValue : Value → String) (select : Select) :
    fill showValue select.fragments
      = select.render (fill showValue (conditionFragments " WHERE " select.condition))
          (select.having.map fun predicate => fill showValue predicate.fragments) := by
  have hhaving : fill showValue (conditionFragments " HAVING " select.having)
      = havingClause (select.having.map fun predicate => fill showValue predicate.fragments) := by
    cases select.having with
    | none => exact fill_nil _
    | some predicate => exact fill_cons ..
  unfold Select.render
  simp only [Select.fragments, fill_cons, fill_append, fill_nil, hhaving, Fragment.text,
    String.append_assoc, String.append_empty]

/-- The statement of a SELECT: the parameters of the filter of rows come before those of the filter
of groups. -/
theorem Select.statement_eq (select : Select) :
    select.statement = ⟨fill (fun _ => placeholder) select.fragments,
      (slots select.fragments).map Value.bound⟩ := by
  rw [Select.fill_fragments, Select.slots_fragments, List.map_append]
  unfold Select.statement
  rw [bindWhere_eq_fill, List.nil_append]
  cases select.having with
  | none => simp [conditionValues]
  | some predicate => simp [conditionValues, predicate.bind_eq_fill]

theorem Select.renders (select : Select) :
    Renders select.fragments select.sql select.statement where
  literals := by
    rw [Select.fill_fragments, Select.sql, whereSql_eq_fill]
    simp only [Predicate.fill_fragments_literal]
  placeholders := by rw [Select.statement_eq]
  params := by rw [Select.statement_eq]

/-! ### All builders -/

/-- A builder of one of the four kinds. -/
inductive Builder where
  | insert (builder : Insert)
  | update (builder : Update)
  | delete (builder : Delete)
  | select (builder : Select)

namespace Builder

/-- The text with literals. -/
def sql : Builder → String
  | .insert b => b.sql
  | .update b => b.sql
  | .delete b => b.sql
  | .select b => b.sql

/-- The text with placeholders, and its parameters. -/
def statement : Builder → Statement
  | .insert b => b.statement
  | .update b => b.statement
  | .delete b => b.statement
  | .select b => b.statement

/-- The values of a statement: those assigned, in the order of the columns, then those compared by
the filter of rows and those compared by the filter of groups, from left to right. -/
def values : Builder → List Value
  | .insert b => b.assignments.values
  | .update b => b.assignments.values ++ conditionValues b.condition
  | .delete b => conditionValues b.condition
  | .select b => conditionValues b.condition ++ conditionValues b.having

/-- The texts of an optional condition that come from the caller. -/
def conditionTexts (condition : Option Predicate) : List String :=
  (condition.map Predicate.texts).getD []

/-- The texts of a statement that come from the caller: its table, its columns, the fields and raw
parts of its conditions, and the items of its other clauses. -/
def texts : Builder → List String
  | .insert b => b.table.toList ++ b.assignments.columns
  | .update b => b.table.toList ++ b.assignments.columns ++ conditionTexts b.condition
  | .delete b => b.table.toList ++ conditionTexts b.condition
  | .select b => b.table.toList ++ b.columns ++ b.joins ++ conditionTexts b.condition ++
      b.groups ++ conditionTexts b.having ++ b.orders

/-- What both renderings of a builder fill in. -/
def fragments : Builder → List Fragment
  | .insert b => b.fragments
  | .update b => b.fragments
  | .delete b => b.fragments
  | .select b => b.fragments

theorem renders : ∀ builder : Builder,
    Renders builder.fragments builder.sql builder.statement
  | .insert b => b.renders
  | .update b => b.renders
  | .delete b => b.renders
  | .select b => b.renders

theorem slots_fragments : ∀ builder : Builder, slots builder.fragments = builder.values
  | .insert b => b.slots_fragments
  | .update b => b.slots_fragments
  | .delete b => b.slots_fragments
  | .select b => b.slots_fragments

/-! ### Texts without question marks -/

theorem unmarked_getD {table : Option String} (h : ∀ text ∈ table.toList, Unmarked text) :
    Unmarked (table.getD "") := by
  cases table with
  | none => decide
  | some text => exact h text (by simp)

theorem unmarked_listClause {keyword separator : String} {items : List String}
    (hkeyword : Unmarked keyword) (hseparator : Unmarked separator)
    (h : ∀ item ∈ items, Unmarked item) :
    Unmarked (Select.listClause keyword separator items) := by
  unfold Select.listClause
  split
  · decide
  · exact unmarked_append.2 ⟨hkeyword, unmarked_joined hseparator h⟩

/-- A clause with a number holds no question mark: its number is written in digits. -/
theorem unmarked_countClause {keyword : String} (hkeyword : Unmarked keyword)
    (count : Option Nat) : Unmarked (Select.countClause keyword count) := by
  have hdigits (n : Nat) : Unmarked (Number.naturalText n) := fun h =>
    absurd (Number.isDigit_of_mem_naturalText h) (by decide)
  unfold Select.countClause
  split
  · split
    · decide
    · exact unmarked_append.2 ⟨hkeyword, hdigits _⟩
  · decide

theorem unmarked_conditionFragments {keyword : String} {condition : Option Predicate}
    (hkeyword : Unmarked keyword) (h : ∀ text ∈ conditionTexts condition, Unmarked text) :
    ∀ fragment ∈ conditionFragments keyword condition, fragment.Unmarked := by
  cases condition with
  | none => simp [conditionFragments]
  | some predicate =>
      rintro fragment hfragment
      rcases List.mem_cons.1 hfragment with rfl | hfragment
      · exact hkeyword
      · exact predicate.unmarked_fragments h fragment hfragment

theorem unmarked_insert (b : Insert) (h : ∀ text ∈ (insert b).texts, Unmarked text) :
    ∀ fragment ∈ b.fragments, fragment.Unmarked := by
  obtain ⟨htable, hcolumns⟩ := List.forall_mem_append.1 h
  refine unmarked_parts (unmarked_words ?_)
    (unmarked_parts (unmarked_intercalate (by decide) ?_)
      (unmarked_words (by decide)))
  · have hlist := unmarked_joined (by decide : Unmarked ", ") hcolumns
    simp only [unmarked_append]
    exact ⟨⟨⟨⟨by decide, unmarked_getD htable⟩, by decide⟩, hlist⟩, by decide⟩
  · intro part hpart fragment hfragment
    obtain ⟨value, -, rfl⟩ := List.mem_map.1 hpart
    rw [List.mem_singleton.1 hfragment]
    trivial

theorem unmarked_update (b : Update) (h : ∀ text ∈ (update b).texts, Unmarked text) :
    ∀ fragment ∈ b.fragments, fragment.Unmarked := by
  obtain ⟨hfront, hcondition⟩ := List.forall_mem_append.1 h
  obtain ⟨htable, hcolumns⟩ := List.forall_mem_append.1 hfront
  refine unmarked_parts (unmarked_words ?_)
    (unmarked_parts (unmarked_intercalate (by decide) ?_)
      (unmarked_parts (unmarked_conditionFragments (by decide) hcondition)
        (unmarked_words (by decide))))
  · simp only [unmarked_append]
    exact ⟨⟨by decide, unmarked_getD htable⟩, by decide⟩
  · intro part hpart
    obtain ⟨⟨column, value⟩, hassigned, rfl⟩ := List.mem_map.1 hpart
    have hcolumn : Unmarked column :=
      hcolumns column (List.mem_map.2 ⟨(column, value), hassigned, rfl⟩)
    exact unmarked_parts
      (unmarked_words (unmarked_append.2 ⟨hcolumn, by decide⟩)) (by simp [Fragment.Unmarked])

theorem unmarked_delete (b : Delete) (h : ∀ text ∈ (delete b).texts, Unmarked text) :
    ∀ fragment ∈ b.fragments, fragment.Unmarked := by
  obtain ⟨htable, hcondition⟩ := List.forall_mem_append.1 h
  exact unmarked_parts
    (unmarked_words (unmarked_append.2 ⟨by decide, unmarked_getD htable⟩))
    (unmarked_parts (unmarked_conditionFragments (by decide) hcondition)
      (unmarked_words (by decide)))

theorem unmarked_select (b : Select) (h : ∀ text ∈ (select b).texts, Unmarked text) :
    ∀ fragment ∈ b.fragments, fragment.Unmarked := by
  -- The parts of a SELECT stand in the order of its texts.
  simp only [texts, List.forall_mem_append] at h
  obtain ⟨⟨⟨⟨⟨⟨htable, hcolumns⟩, hjoins⟩, hcondition⟩, hgroups⟩, hhaving⟩, horders⟩ := h
  refine unmarked_parts (unmarked_words ?_)
    (unmarked_parts (unmarked_conditionFragments (by decide) hcondition)
      (unmarked_parts
        (unmarked_words (unmarked_listClause (by decide) (by decide) hgroups))
        (unmarked_parts (unmarked_conditionFragments (by decide) hhaving)
          (unmarked_words ?_))))
  · have hlist := unmarked_joined (by decide : Unmarked ", ") hcolumns
    have hclause := unmarked_listClause (by decide : Unmarked " ") (by decide : Unmarked " ") hjoins
    simp only [unmarked_append]
    exact ⟨⟨⟨⟨by decide, hlist⟩, by decide⟩, unmarked_getD htable⟩, hclause⟩
  · have hclause :=
      unmarked_listClause (by decide : Unmarked " ORDER BY ") (by decide : Unmarked ", ") horders
    have hlimit := unmarked_countClause (by decide : Unmarked " LIMIT ") b.limit
    have hoffset := unmarked_countClause (by decide : Unmarked " OFFSET ") b.offset
    simp only [unmarked_append]
    exact ⟨⟨⟨hclause, hlimit⟩, hoffset⟩, by decide⟩

/-- The pieces of a statement hold no question mark, if the texts of the caller hold none. -/
theorem unmarked_fragments (builder : Builder) (h : ∀ text ∈ builder.texts, Unmarked text) :
    ∀ fragment ∈ builder.fragments, fragment.Unmarked := by
  cases builder with
  | insert b => exact unmarked_insert b h
  | update b => exact unmarked_update b h
  | delete b => exact unmarked_delete b h
  | select b => exact unmarked_select b h

/-- A parameter is never a Boolean, a date or a document. -/
theorem bound_ne_encoded (value : Value) :
    (∀ b, value.bound ≠ .bool b) ∧ (∀ moment, value.bound ≠ .dateTime moment) ∧
      ∀ document, value.bound ≠ .json document := by
  cases value <;> simp [Value.bound]

/-- The two renderings of a builder are the same statement: the same pieces stand around the
literals of its values and around placeholders, and the parameters are these values in the same
order. There is one placeholder for each parameter, if no text of the caller holds a question mark.
Every builder is covered, whether or not its steps can lead to it. -/
theorem renderings_agree (builder : Builder) :
    (∃ pieces : List String, pieces.length = builder.values.length + 1 ∧
      builder.sql = interleave pieces (builder.values.map Value.literal) ∧
      builder.statement.sql = interleave pieces (builder.values.map fun _ => placeholder)) ∧
    builder.statement.params = builder.values.map Value.bound ∧
    ((∀ text ∈ builder.texts, Unmarked text) →
      builder.statement.sql.toList.count '?' = builder.statement.params.length) ∧
    ∀ param ∈ builder.statement.params, (∀ b, param ≠ .bool b) ∧
      (∀ moment, param ≠ .dateTime moment) ∧ ∀ document, param ≠ .json document := by
  obtain ⟨hliterals, hplaceholders, hparams⟩ := builder.renders
  rw [slots_fragments] at hparams
  -- The pieces are those of the fragments that both renderings fill in.
  refine ⟨⟨pieces builder.fragments, ?_, ?_, ?_⟩, hparams, ?_, ?_⟩
  · rw [length_pieces, slots_fragments]
  · rw [hliterals, ← interleave_pieces, slots_fragments]
  · rw [hplaceholders, ← interleave_pieces, slots_fragments]
  · intro hunmarked
    rw [hplaceholders, hparams, count_fill _ (builder.unmarked_fragments hunmarked),
      slots_fragments, List.length_map]
  · intro param hparam
    rw [hparams] at hparam
    obtain ⟨value, -, rfl⟩ := List.mem_map.1 hparam
    exact bound_ne_encoded value

/-- A query with filters of rows and of groups has a placeholder for each of its parameters. -/
theorem renderings_agree_grouped :
    let query : Builder := .select
      ((((({} : Select).fromTable "orders").set ["customer"]).filter
        (.predicate (.compare "state" .eq (.string "paid")))).filterGroups
        (.predicate (.anyOf [.compare "COUNT(*)" .gt (.int 3), .compare "vip" .eq (.bool true)])))
    query.statement.sql.toList.count '?' = query.statement.params.length ∧
      query.statement.params = [.string "paid", .int 3, .int 1] :=
  ⟨(renderings_agree _).2.2.1 (by decide +kernel), by rfl⟩

end Builder

end RowMapper.Sql
