import RowMapper.Proofs.Sql.Assignment

/-!
# `RowMapper.Proofs.Sql.Insertion`: what an INSERT puts into a table

A database that gets an INSERT reads the columns from its text and takes their values from the
parameters (`inserted?`). From the statement of an `Insert` with plain column names it reads these
names and the assigned values in the form for binding (`inserted?_statement`).
-/

set_option autoImplicit false

namespace RowMapper.Sql

open RowMapper.Text

/-- The text of an INSERT of these columns, with a placeholder for each. -/
def insertText (table : String) (columns : List String) : String :=
  "INSERT INTO " ++ table ++ " (" ++ joined ", " (columns.map backticked) ++ ") VALUES (" ++
    joined ", " (List.replicate columns.length placeholder) ++ ");"

/-- Of the pieces of a text between its backticks, those that stand in backticks. -/
def quotedPieces : List String → List String
  | _ :: quoted :: rest => quoted :: quotedPieces rest
  | _ => []

/-- The columns of the table that a statement inserts values into, with these values; none if it is
not an INSERT into the table of one placeholder for each column. -/
def inserted? (table : String) (statement : Statement) : Option (List (String × Value)) :=
  let opening := "INSERT INTO " ++ table ++ " ("
  let columns := quotedPieces
    (splitAt '`' (String.ofList (statement.sql.toList.drop opening.toList.length)))
  if statement.sql = insertText table columns ∧ columns.length = statement.params.length then
    some (columns.zip statement.params)
  else none

/-- A backtick cuts off what stands before it. -/
theorem splitAt_backtick {piece : String} (h : '`' ∉ piece.toList) (rest : String) :
    splitAt '`' (piece ++ ("`" ++ rest)) = piece :: splitAt '`' rest := by
  have hmark : "`" = String.singleton '`' := by decide
  rw [hmark, splitAt_append h]

/-- The columns are read back from a list of names in backticks, with something before and behind it
that has no backticks. -/
theorem quotedPieces_columns {ending : String} (hending : '`' ∉ ending.toList) :
    ∀ (columns : List String) (front : String), (∀ column ∈ columns, PlainName column) →
      '`' ∉ front.toList →
      quotedPieces (splitAt '`' (front ++ (joined ", " (columns.map backticked) ++ ending)))
        = columns
  | [], front, _, hfront => by
      have hnone : '`' ∉ (front ++ ("" ++ ending)).toList := by simp [hfront, hending]
      rw [List.map_nil, joined, splitAt_of_not_mem hnone, quotedPieces]
      simp
  | [column], front, hplain, hfront => by
      have hcolumn : '`' ∉ column.toList :=
        fun hmem => hplain column List.mem_cons_self _ hmem (by simp)
      rw [List.map_singleton, joined, backticked, String.append_assoc, String.append_assoc,
        splitAt_backtick hfront, splitAt_backtick hcolumn, splitAt_of_not_mem hending,
        quotedPieces, quotedPieces]
      simp
  | column :: next :: rest, front, hplain, hfront => by
      obtain ⟨hfirst, hrest⟩ := List.forall_mem_cons.1 hplain
      have hcolumn : '`' ∉ column.toList := fun hmem => hfirst _ hmem (by simp)
      have ih := quotedPieces_columns hending (next :: rest) ", " hrest (by decide)
      -- The separator becomes what stands before the next column.
      rw [List.map_cons] at ih
      rw [List.map_cons, List.map_cons, joined, backticked, String.append_assoc,
        String.append_assoc, String.append_assoc, String.append_assoc, splitAt_backtick hfront,
        splitAt_backtick hcolumn, quotedPieces, ih]

theorem backtick_not_mem_placeholders (n : Nat) :
    '`' ∉ (") VALUES (" ++ joined ", " (List.replicate n placeholder) ++ ");").toList := by
  have hmarks : '`' ∉ (joined ", " (List.replicate n placeholder)).toList := by
    refine not_mem_joined (by decide) fun mark hmark => ?_
    rw [(List.mem_replicate.1 hmark).2]
    decide
  intro hmem
  simp only [String.toList_append, List.mem_append] at hmem
  rcases hmem with (hmem | hmem) | hmem
  · exact absurd hmem (by decide)
  · exact hmarks hmem
  · exact absurd hmem (by decide)

/-- The columns of an INSERT are read back from its text. -/
theorem quotedPieces_insertText (table : String) {columns : List String}
    (hplain : ∀ column ∈ columns, PlainName column) :
    quotedPieces (splitAt '`' (String.ofList ((insertText table columns).toList.drop
      ("INSERT INTO " ++ table ++ " (").toList.length))) = columns := by
  have hcolumns := quotedPieces_columns (backtick_not_mem_placeholders columns.length) columns ""
    hplain (by decide)
  have htext : insertText table columns = "INSERT INTO " ++ table ++ " (" ++
      ("" ++ (joined ", " (columns.map backticked) ++ (") VALUES (" ++
        joined ", " (List.replicate columns.length placeholder) ++ ");"))) := by
    unfold insertText
    simp only [String.append_assoc, String.empty_append]
  rw [htext, String.toList_append (s := "INSERT INTO " ++ table ++ " ("), List.drop_left,
    String.ofList_toList, hcolumns]

/-- From the statement of an INSERT with plain columns, a database reads these columns and the
values in the form for binding. -/
theorem inserted?_statement {table : String} {pairs : List (String × Value)}
    (hplain : ∀ pair ∈ pairs, PlainName pair.1) :
    inserted? table (Insert.statement
        ⟨some table, pairs.map fun (name, value) => (backticked name, value)⟩)
      = some (pairs.map fun (name, value) => (name, value.bound)) := by
  have hplain : ∀ column ∈ pairs.map (·.1), PlainName column := by
    simpa using fun name value h => hplain (name, value) h
  have hstatement : Insert.statement ⟨some table, pairs.map fun (name, value) =>
      (backticked name, value)⟩
      = ⟨insertText table (pairs.map (·.1)), pairs.map (·.2.bound)⟩ := by
    unfold Insert.statement insertText
    simp [Assignments.columns, Assignments.values, Function.comp_def]
  have hzip := zip_map_append (·.1) (·.2.bound) pairs []
  rw [List.append_nil] at hzip
  unfold inserted?
  dsimp only
  rw [hstatement, quotedPieces_insertText table hplain, if_pos ⟨rfl, by simp⟩, hzip]

end RowMapper.Sql
