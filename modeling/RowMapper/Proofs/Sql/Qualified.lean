import RowMapper.Proofs.Sql.Assignment
import RowMapper.Proofs.Sql.NameList
import RowMapper.Proofs.Sql.Steps

/-!
# `RowMapper.Proofs.Sql.Qualified`: columns with their table in front

A query whose table is known puts it in front of each column that it is given. Columns may also be
given as a list in one text. The text is escaped name by name (`escape_words`), but the table is put
in front of the escaped text as a whole, so that of all the names in it only the first is qualified:
`Select.columns_set_list` beside `Select.columns_set`. `Select.list_qualified_once` compares the
statements that the two ways of giving columns lead to.
-/

set_option autoImplicit false

namespace RowMapper.Sql

open RowMapper.Text

/-! ### Lists of plain names -/

/-- A plain name without blanks of any kind. -/
structure PlainWord (name : String) : Prop where
  plain : PlainName name
  no_blank : ∀ c ∈ name.toList, isBlank c = false

/-- Letters, digits and underscores make plain names. -/
theorem plainWord_of_isNameChar {name : String} (h : ∀ c ∈ name.toList, isNameChar c = true) :
    PlainWord name where
  plain := by
    intro c hc hspecial
    have hnot : [' ', ',', '.', '*', '(', '`'].all (fun c => !isNameChar c) = true := by decide
    have hother := List.all_eq_true.1 hnot c hspecial
    rw [h c hc] at hother
    contradiction
  no_blank := fun c hc => isBlank_of_isNameChar (h c hc)

/-- A character with a meaning of its own is in no list of names in backticks, unless it separates
them. -/
theorem not_mem_columns {names : List String} {c : Char}
    (hwords : ∀ name ∈ names, PlainWord name) (hc : c ∈ [' ', '.', '*', '(']) :
    c ∉ (joined "," (names.map backticked)).toList := by
  refine not_mem_joined ?_ (List.forall_mem_map.2 fun name hname => ?_)
  · intro hcomma
    rw [List.mem_singleton.1 hcomma] at hc
    exact absurd hc (by decide)
  · refine (hwords name hname).plain.not_mem_backticked ?_
    rw [List.mem_cons] at hc ⊢
    exact hc.imp_right (List.mem_cons_of_mem ',')

/-- Blanks in front of plain names are gone when these are escaped. -/
theorem escape_padded {pad : String} {names : List String}
    (hpad : ∀ c ∈ pad.toList, isBlank c = true) (hwords : ∀ name ∈ names, PlainWord name) :
    (names.map fun name => pad ++ name).map (fun item => escape (trim item))
      = names.map backticked := by
  rw [List.map_map]
  refine List.map_congr_left fun name hname => ?_
  rw [Function.comp_apply, trim_append hpad (hwords name hname).no_blank,
    escape_of_plain (hwords name hname).plain]

theorem comma_not_mem_padded {pad : String} {names : List String} (hpad : ',' ∉ pad.toList)
    (hwords : ∀ name ∈ names, PlainWord name) :
    ∀ item ∈ names.map fun name => pad ++ name, ',' ∉ item.toList := by
  refine List.forall_mem_map.2 fun name hname hmem => ?_
  rw [String.toList_append, List.mem_append] at hmem
  rcases hmem with hmem | hmem
  · exact hpad hmem
  · exact (hwords name hname).plain ',' hmem (by simp)

/-- A list of plain names in one text is escaped name by name. -/
theorem escape_words {names : List String} (hne : names ≠ [])
    (hwords : ∀ name ∈ names, PlainWord name) :
    escape (joined ", " names) = joined "," (names.map backticked) := by
  obtain ⟨first, rest, rfl⟩ := List.exists_cons_of_ne_nil hne
  obtain ⟨hfirst, hrest⟩ := List.forall_mem_cons.1 hwords
  cases rest with
  | nil => exact escape_of_plain hfirst.plain
  | cons next rest =>
      -- Each name but the first has the blank in front of it that stands behind the comma.
      let items := first :: (next :: rest).map fun name => " " ++ name
      have hlist : joined ", " (first :: next :: rest) = joined "," items :=
        joined_append_pad "," " " first (next :: rest)
      have hcall : isFunctionCall (joined "," items) = false := by
        rw [← hlist]
        refine isFunctionCall_of_no_paren (not_mem_joined (by decide) fun name hname hmem => ?_)
        exact (hwords name hname).plain '(' hmem (by simp)
      have hcomma : ∀ item ∈ items, ',' ∉ item.toList :=
        List.forall_mem_cons.2 ⟨fun hmem => hfirst.plain ',' hmem (by simp),
          comma_not_mem_padded (by decide) hrest⟩
      have hescaped : items.map (fun item => escape (trim item))
          = backticked first :: (next :: rest).map backticked := by
        rw [List.map_cons, escape_padded (List.all_eq_true.1 (by decide)) hrest,
          trim_of_no_blank hfirst.no_blank, escape_of_plain hfirst.plain]
      rw [hlist, escape_list (by simp [items]) hcomma hcall, hescaped]
      rfl

end RowMapper.Sql

namespace RowMapper.Sql.Select

open RowMapper.Text

/-! ### Qualified columns -/

/-- The table is put in front of an escaped list once, as the first item of the list looks like any
column. -/
theorem qualified_words {table : String} (htable : PlainName table) {names : List String}
    (hne : names ≠ []) (hwords : ∀ name ∈ names, PlainWord name) :
    qualified table (escape (joined ", " names))
      = backticked table ++ "." ++ joined "," (names.map backticked) := by
  have hdot : '.' ∉ (joined "," (names.map backticked)).toList := not_mem_columns hwords (by simp)
  have hcall := isFunctionCall_of_no_paren (not_mem_columns hwords (by simp))
  rw [qualified, escape_words hne hwords, if_neg, escape_of_plain htable]
  rintro (h | h)
  · exact hdot (List.contains_iff_mem.1 h)
  · rw [hcall] at h
    contradiction

/-- A plain name is qualified by itself. -/
theorem qualified_word {table name : String} (htable : PlainName table) (hname : PlainWord name) :
    qualified table (escape name) = backticked table ++ "." ++ backticked name := by
  have h := qualified_words htable (List.cons_ne_nil name []) (List.forall_mem_singleton.2 hname)
  rwa [List.map_singleton, joined, joined] at h

section Columns

variable {select : Select} {table : String} {names : List String}

/-- Nothing but the columns changes when columns are given. -/
theorem set_columns (htable : select.table = some table) (fields : List String) :
    select.set fields = { select with columns := (select.set fields).columns } := by
  rw [set_eq htable]

/-- Columns given one by one are qualified one by one. -/
theorem columns_set (htable : select.table = some table) (hplain : PlainName table)
    (hwords : ∀ name ∈ names, PlainWord name) : (select.set names).columns
      = select.columns ++ names.map fun name => backticked table ++ "." ++ backticked name := by
  rw [set_eq htable]
  have hqualified : names.map (fun name => qualified table (escape name))
      = names.map fun name => backticked table ++ "." ++ backticked name :=
    List.map_congr_left fun name hname => qualified_word hplain (hwords name hname)
  exact congrArg (select.columns ++ ·) hqualified

/-- Columns given as a list in one text become one column, and the table is in front of the first
name only. -/
theorem columns_set_list (htable : select.table = some table) (hplain : PlainName table)
    (hne : names ≠ []) (hwords : ∀ name ∈ names, PlainWord name) :
    (select.set [joined ", " names]).columns
      = select.columns ++ [backticked table ++ "." ++ joined "," (names.map backticked)] := by
  rw [set_eq htable, ← qualified_words hplain hne hwords]
  rfl

/-- Behind the columns the text does not depend on them. -/
theorem render_columns (htable : select.table = some table) (whereText : String)
    (having : Option String) : ∃ rest, ∀ columns,
      { select with columns }.render whereText having
        = "SELECT " ++ joined ", " columns ++ (" FROM " ++ table ++ rest) := by
  refine ⟨listClause " " " " select.joins ++ (whereText ++
    (listClause " GROUP BY " ", " select.groups ++ (havingClause having ++
    (listClause " ORDER BY " ", " select.orders ++ (countClause " LIMIT " select.limit ++
    (countClause " OFFSET " select.offset ++ ";")))))), fun columns => ?_⟩
  unfold render
  simp only [htable, Option.getD_some, String.append_assoc]

/-- Columns with one point each add as many points to those that are there. -/
theorem count_points (front columns : List String)
    (hcolumns : ∀ column ∈ columns, column.toList.count '.' = 1) :
    (joined ", " (front ++ columns)).toList.count '.'
      = (joined ", " front).toList.count '.' + columns.length := by
  rw [count_joined_append (by decide), count_joined_of_once (by decide) hcolumns]

/-- A qualified column has one point, whether it is one name or a list of names. -/
theorem count_qualified {table column : String} (htable : PlainName table)
    (hcolumn : '.' ∉ column.toList) :
    (backticked table ++ "." ++ column).toList.count '.' = 1 := by
  have hfront : (backticked table).toList.count '.' = 0 :=
    List.count_eq_zero.2 (htable.not_mem_backticked (by simp))
  rw [String.toList_append, String.toList_append, List.count_append, List.count_append, hfront,
    List.count_eq_zero.2 hcolumn]
  rfl

/-- A list that is qualified once and names that are qualified one by one are the same up to blanks
if there is one name, and not otherwise. -/
theorem qualified_alike_iff (hplain : PlainName table) (hwords : ∀ name ∈ names, PlainWord name)
    (front : List String) :
    SameUpToBlanks
        (joined ", " (front ++ [backticked table ++ "." ++ joined "," (names.map backticked)]))
        (joined ", " (front ++ names.map fun name => backticked table ++ "." ++ backticked name))
      ↔ names.length = 1 := by
  constructor
  · intro hsame
    -- Both have the points of the columns before; the list adds one, the names one each.
    have hlist := count_points front
      [backticked table ++ "." ++ joined "," (names.map backticked)]
      (List.forall_mem_singleton.2 (count_qualified hplain (not_mem_columns hwords (by simp))))
    have heach := count_points front
      (names.map fun name => backticked table ++ "." ++ backticked name)
      (List.forall_mem_map.2 fun name hname =>
        count_qualified hplain ((hwords name hname).plain.not_mem_backticked (by simp)))
    have hpoints := hsame.count_eq (c := '.') (by decide)
    rw [hlist, heach, List.length_singleton, List.length_map] at hpoints
    omega
  · intro hlength
    obtain ⟨name, rfl⟩ := List.length_eq_one_iff.1 hlength
    rfl

/-- Columns may be given one by one or as a list in one text. The statements that come of it differ
in their columns only. One by one each column is qualified, and of a list the first name alone, so
the columns are the same up to blanks if and only if there is only one. -/
theorem list_qualified_once (htable : select.table = some table) (hplain : PlainName table)
    (hne : names ≠ []) (hwords : ∀ name ∈ names, PlainWord name) :
    let one := select.set [joined ", " names]
    let each := select.set names
    (∃ rest, ∀ query ∈ [one, each],
      query.sql = "SELECT " ++ joined ", " query.columns ++ (" FROM " ++ table ++ rest)) ∧
    (∃ rest params, ∀ query ∈ [one, each], query.statement
      = ⟨"SELECT " ++ joined ", " query.columns ++ (" FROM " ++ table ++ rest), params⟩) ∧
    one.columns
      = select.columns ++ [backticked table ++ "." ++ joined "," (names.map backticked)] ∧
    each.columns
      = select.columns ++ names.map (fun name => backticked table ++ "." ++ backticked name) ∧
    (SameUpToBlanks (joined ", " one.columns) (joined ", " each.columns) ↔ names.length = 1) := by
  intro one each
  have hone : one.columns
      = select.columns ++ [backticked table ++ "." ++ joined "," (names.map backticked)] :=
    columns_set_list htable hplain hne hwords
  have heach : each.columns
      = select.columns ++ names.map fun name => backticked table ++ "." ++ backticked name :=
    columns_set htable hplain hwords
  -- Either query is the one before it with other columns.
  have hquery : ∀ query ∈ [one, each], query = { select with columns := query.columns } :=
    List.forall_mem_cons.2 ⟨set_columns htable _,
      List.forall_mem_singleton.2 (set_columns htable names)⟩
  refine ⟨?_, ?_, hone, heach, ?_⟩
  · obtain ⟨rest, hrest⟩ := render_columns htable (whereSql select.condition)
      (select.having.map Predicate.sql)
    refine ⟨rest, fun query hmem => ?_⟩
    rw [← hrest query.columns, hquery query hmem]
    rfl
  · obtain ⟨rest, hrest⟩ := render_columns htable
      (conditionClause " WHERE " Predicate.template select.condition)
      (select.having.map Predicate.template)
    refine ⟨rest, conditionParams select.condition ++ conditionParams select.having,
      fun query hmem => ?_⟩
    rw [← hrest query.columns, hquery query hmem, statement_eq_render]
  · rw [hone, heach]
    exact qualified_alike_iff hplain hwords select.columns

/-- Three columns of users, of which the list leaves two without the table. -/
theorem list_qualified_once_of_users :
    let users := ({} : Select).fromTable "users"
    let one := users.set ["id, name, born"]
    let each := users.set ["id", "name", "born"]
    one.sql = "SELECT `users`.`id`,`name`,`born` FROM users;" ∧
      each.sql = "SELECT `users`.`id`, `users`.`name`, `users`.`born` FROM users;" ∧
      ¬ SameUpToBlanks (joined ", " one.columns) (joined ", " each.columns) := by
  intro users one each
  have hwords : ∀ name ∈ ["id", "name", "born"], name.toList.all isNameChar = true := by decide
  obtain ⟨-, -, -, -, hsame⟩ := @list_qualified_once users "users" ["id", "name", "born"] rfl
    (by simp [PlainName]) (by simp)
    fun name hname => plainWord_of_isNameChar (List.all_eq_true.1 (hwords name hname))
  refine ⟨by decide +kernel, by decide +kernel, fun h => ?_⟩
  exact absurd (hsame.1 h) (by decide)

/-- Two columns in one text are not what they are one by one: the second has no table in front. -/
theorem list_of_two_columns :
    let query := ({} : Select).fromTable "t"
    let one := query.set ["a, b"]
    let each := query.set ["a", "b"]
    one.sql = "SELECT `t`.`a`,`b` FROM t;" ∧ one.statement.sql = one.sql ∧
      each.sql = "SELECT `t`.`a`, `t`.`b` FROM t;" ∧ each.statement.sql = each.sql ∧
      ¬ SameUpToBlanks (joined ", " one.columns) (joined ", " each.columns) := by
  decide +kernel

end Columns

end RowMapper.Sql.Select
