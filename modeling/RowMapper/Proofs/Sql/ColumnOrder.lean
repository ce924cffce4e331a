import Mathlib.Data.List.Induction
import Mathlib.Data.List.Nodup
import RowMapper.Proofs.Sql.Steps
import RowMapper.Proofs.Sql.Shape

/-!
# `RowMapper.Proofs.Sql.ColumnOrder`: assigned columns in the order of insertion

The columns that an INSERT or UPDATE assigns are a map that keeps its order: `Assignments.MapOf`
says which map the assignments to fields leave. Fields are told apart by their escaped names, a
column stands where it was assigned first, and it has the value that it was assigned last.

* `Assignments.MapOf.set` is one assignment, and `Assignments.mapOf_setAll` any number of them.
* `Assignments.rendered_in_order`: what the builders write and bind are the entries of this map, in
  their order.
-/

set_option autoImplicit false

namespace RowMapper.Sql

open RowMapper.Text

namespace Assignments

/-! ### The map that assignments leave -/

/-- The value is that of the last assignment to a field whose escaped name is the column. -/
def LastAssigned (pairs : List (String × Value)) (column : String) (value : Value) : Prop :=
  ∃ front field back, pairs = front ++ (field, value) :: back ∧ escape field = column ∧
    ∀ pair ∈ back, escape pair.1 ≠ column

/-- The entries that assignments to fields leave, one after the other. -/
structure MapOf (pairs entries : List (String × Value)) : Prop where
  /-- The columns are the escaped names of the fields, each where it occurs first. -/
  columns : entries.map (·.1) = (pairs.map fun pair => escape pair.1).eraseDups
  /-- No column occurs twice. -/
  distinct : (entries.map (·.1)).Nodup
  /-- A column has the value that was assigned last. -/
  last : ∀ entry ∈ entries, LastAssigned pairs entry.1 entry.2

theorem LastAssigned.concat {pairs : List (String × Value)} {column : String} {value : Value}
    (h : LastAssigned pairs column value) {pair : String × Value}
    (hother : escape pair.1 ≠ column) :
    LastAssigned (pairs ++ [pair]) column value := by
  obtain ⟨front, field, back, rfl, hfield, hback⟩ := h
  refine ⟨front, field, back ++ [pair], by simp, hfield, fun later hlater => ?_⟩
  rcases List.mem_append.1 hlater with hlater | hlater
  · exact hback later hlater
  · rwa [List.mem_singleton.1 hlater]

theorem eraseDups_concat (columns : List String) (column : String) :
    (columns ++ [column]).eraseDups = addColumn columns.eraseDups column := by
  rw [List.eraseDups_append, addColumn]
  by_cases hmem : column ∈ columns
  · simp [List.removeAll, hmem]
  · simp [List.removeAll, hmem, List.eraseDups_cons]

theorem nodup_addColumn {columns : List String} (h : columns.Nodup) (column : String) :
    (addColumn columns column).Nodup := by
  unfold addColumn
  split
  · exact h
  · rename_i hnew
    rw [← List.concat_eq_append]
    exact List.Nodup.concat hnew h

/-- Putting a value into a column leaves the entries of all other columns alone. -/
theorem mem_put {column : String} {value : Value} {entries : Assignments}
    (hdistinct : entries.columns.Nodup) {entry : String × Value}
    (h : entry ∈ put column value entries) :
    entry = (column, value) ∨ (entry ∈ entries ∧ entry.1 ≠ column) := by
  induction entries with
  | nil => exact .inl (List.mem_singleton.1 h)
  | cons first rest ih =>
      obtain ⟨held, old⟩ := first
      obtain ⟨hfresh, hrest⟩ := List.nodup_cons.1 hdistinct
      rw [put] at h
      by_cases hsame : held = column
      · subst hsame
        rw [if_pos rfl] at h
        rcases List.mem_cons.1 h with rfl | hmem
        · exact .inl rfl
        · -- The columns are distinct, so the one that was found is not among the rest.
          refine .inr ⟨List.mem_cons_of_mem _ hmem, fun hname => hfresh ?_⟩
          exact List.mem_map.2 ⟨entry, hmem, hname⟩
      · rw [if_neg hsame] at h
        rcases List.mem_cons.1 h with rfl | hmem
        · exact .inr ⟨List.mem_cons_self, hsame⟩
        · rcases ih hrest hmem with rfl | ⟨hmem, hother⟩
          · exact .inl rfl
          · exact .inr ⟨List.mem_cons_of_mem _ hmem, hother⟩

theorem mapOf_nil : MapOf [] [] :=
  ⟨rfl, List.nodup_nil, fun _ h => absurd h List.not_mem_nil⟩

/-- One more assignment to a field. -/
theorem MapOf.set {pairs : List (String × Value)} {entries : Assignments}
    (h : MapOf pairs entries) (pair : String × Value) :
    MapOf (pairs ++ [pair]) (entries.set pair.1 pair.2) := by
  have hcolumns : (entries.set pair.1 pair.2).map (·.1)
      = addColumn (entries.map (·.1)) (escape pair.1) :=
    columns_put (escape pair.1) pair.2 entries
  refine ⟨?_, ?_, fun entry hentry => ?_⟩
  · rw [hcolumns, h.columns, List.map_append, List.map_singleton, eraseDups_concat]
  · rw [hcolumns]
    exact nodup_addColumn h.distinct (escape pair.1)
  · rcases mem_put h.distinct hentry with rfl | ⟨hmem, hother⟩
    · exact ⟨pairs, pair.1, [], rfl, rfl, fun _ hnone => absurd hnone List.not_mem_nil⟩
    · exact (h.last entry hmem).concat hother.symm

/-- Any number of assignments to fields. -/
theorem mapOf_setAll (pairs : List (String × Value)) :
    MapOf pairs (Assignments.setAll [] pairs) := by
  -- From the end: the map that the last assignment finds is the one of those before it.
  induction pairs using List.reverseRecOn with
  | nil => exact mapOf_nil
  | append_singleton pairs pair ih =>
      rw [setAll, List.foldl_append, ← setAll]
      exact ih.set pair

/-- Nothing is left only where nothing was assigned. -/
theorem MapOf.eq_nil_iff {pairs entries : List (String × Value)} (h : MapOf pairs entries) :
    entries = [] ↔ pairs = [] := by
  constructor
  · rintro rfl
    cases pairs with
    | nil => rfl
    | cons pair rest =>
        have hcolumns := h.columns
        rw [List.map_cons, List.eraseDups_cons] at hcolumns
        contradiction
  · rintro rfl
    exact List.map_eq_nil_iff.1 h.columns

/-! ### Calls of the builders -/

/-- A call of a builder that assigns values. -/
inductive Setting where
  | set (field : String) (value : Value)
  | setAll (pairs : List (String × Value))

/-- The assignments that a call makes, in order. -/
def Setting.pairs : Setting → List (String × Value)
  | .set field value => [(field, value)]
  | .setAll pairs => pairs

/-- A way to make assignments makes them one after the other. -/
structure InTurn {β : Type} (assign : β → List (String × Value) → β) : Prop where
  nil : ∀ builder, assign builder [] = builder
  append : ∀ builder front back, assign builder (front ++ back) = assign (assign builder front) back

variable {β : Type} {assign : β → List (String × Value) → β}

/-- Calls make their assignments one after the other. -/
theorem InTurn.foldl_perform (h : InTurn assign) {perform : β → Setting → β}
    (hcall : ∀ builder call, perform builder call = assign builder call.pairs)
    (calls : List Setting) (builder : β) :
    calls.foldl perform builder = assign builder (calls.flatMap Setting.pairs) := by
  induction calls generalizing builder with
  | nil => exact (h.nil builder).symm
  | cons call rest ih => rw [List.foldl_cons, ih, hcall, List.flatMap_cons, h.append]

/-- Several assignments are so many single ones. -/
theorem InTurn.eq_foldl (h : InTurn assign) {set : β → String → Value → β}
    (hset : ∀ builder field value, set builder field value = assign builder [(field, value)])
    (builder : β) (pairs : List (String × Value)) :
    assign builder pairs = pairs.foldl (fun builder pair => set builder pair.1 pair.2) builder := by
  induction pairs generalizing builder with
  | nil => exact h.nil builder
  | cons pair rest ih =>
      rw [← List.singleton_append, h.append, List.singleton_append, List.foldl_cons, hset]
      exact ih (assign builder [pair])

theorem inTurn_setAll : InTurn Assignments.setAll :=
  ⟨fun _ => rfl, fun _ _ _ => List.foldl_append⟩

end Assignments

open Assignments (Setting InTurn)

/-- An INSERT with one more call. -/
def Insert.perform (insert : Insert) : Setting → Insert
  | .set field value => insert.set field value
  | .setAll pairs => insert.setAll pairs

/-- An UPDATE with one more call. -/
def Update.perform (update : Update) : Setting → Update
  | .set field value => update.set field value
  | .setAll pairs => update.setAll pairs

theorem Insert.inTurn : InTurn Insert.setAll where
  nil _ := rfl
  append insert front back := by
    unfold Insert.setAll
    rw [Assignments.inTurn_setAll.append]

theorem Update.inTurn : InTurn Update.setAll where
  nil _ := rfl
  append update front back := by
    unfold Update.setAll
    rw [Assignments.inTurn_setAll.append]

/-! ### What is written -/

open Select (conditionClause conditionParams)

/-- What an INSERT of these entries writes: the columns, and in the same order the literals of the
values, or placeholders with the values as parameters. -/
structure Insert.Writes (insert : Insert) (table : String) (entries : List (String × Value)) :
    Prop where
  literals : insert.sql = "INSERT INTO " ++ table ++ " (" ++ joined ", " (entries.map (·.1)) ++
    ") VALUES (" ++ joined ", " (entries.map (·.2.literal)) ++ ");"
  placeholders : insert.statement.sql = "INSERT INTO " ++ table ++ " (" ++
    joined ", " (entries.map (·.1)) ++ ") VALUES (" ++ joined ", " (entries.map fun _ => "?") ++
    ");"
  params : insert.statement.params = entries.map (·.2.bound)

/-- What an UPDATE of these entries writes: each column with the literal of its value, or with a
placeholder and the value as a parameter. -/
structure Update.Writes (update : Update) (table : String) (entries : List (String × Value))
    (condition : Option Predicate) : Prop where
  literals : update.sql = "UPDATE " ++ table ++ " SET " ++
    joined ", " (entries.map fun entry => entry.1 ++ " = " ++ entry.2.literal) ++
    conditionClause " WHERE " Predicate.sql condition ++ ";"
  placeholders : update.statement.sql = "UPDATE " ++ table ++ " SET " ++
    joined ", " (entries.map fun entry => entry.1 ++ " = ?") ++
    conditionClause " WHERE " Predicate.template condition ++ ";"
  params : update.statement.params = entries.map (·.2.bound) ++ conditionParams condition

theorem Insert.writes (table : Option String) (entries : Assignments) :
    Insert.Writes ⟨table, entries⟩ (table.getD "") entries where
  literals := by
    unfold Insert.sql Assignments.columns Assignments.values
    rw [List.map_map]
    rfl
  placeholders := by
    have hmarks : List.replicate (entries.values.map Value.bound).length placeholder
        = entries.map fun _ => "?" := by
      rw [List.map_const', List.length_map, Assignments.values, List.length_map]
      rfl
    unfold Insert.statement Assignments.columns
    dsimp only
    rw [hmarks]
  params := by
    unfold Insert.statement Assignments.values
    rw [List.map_map]
    rfl

theorem Update.writes (table : Option String) (entries : Assignments)
    (condition : Option Predicate) :
    Update.Writes ⟨table, entries, condition⟩ (table.getD "") entries condition where
  literals := by
    unfold Update.sql
    rw [Select.whereSql_eq]
  placeholders := by
    have hmark (entry : String × Value) :
        entry.1 ++ " = " ++ placeholder = entry.1 ++ " = ?" := by
      rw [String.append_assoc]
      rfl
    unfold Update.statement
    simp only [Select.bindWhere_append, hmark]
  params := by
    unfold Update.statement Assignments.values
    rw [Select.bindWhere_append, List.map_map]
    rfl

/-- Let any calls be made that assign values, on a new INSERT or UPDATE of any table and with any
condition. What is written are the entries of the map that the assignments leave: the columns are
the escaped names of the fields, each once and where it was assigned first, and in the same order
stand the values that were assigned last, as literals or as parameters. The builder is empty if and
only if nothing was assigned, and assigning several values is assigning them one by one. -/
theorem Assignments.rendered_in_order (table : Option String) (condition : Option Predicate)
    (calls : List Setting) :
    let pairs := calls.flatMap Setting.pairs
    let insert := calls.foldl Insert.perform { table }
    let update := calls.foldl Update.perform { table, condition }
    (∃ entries : List (String × Value), MapOf pairs entries ∧
      insert.Writes (table.getD "") entries ∧
      update.Writes (table.getD "") entries condition) ∧
    (insert.isEmpty = true ↔ pairs = []) ∧
    (update.isEmpty = true ↔ pairs = []) ∧
    (∀ (builder : Insert) (assigned : List (String × Value)), builder.setAll assigned
      = assigned.foldl (fun builder pair => builder.set pair.1 pair.2) builder) ∧
    ∀ (builder : Update) (assigned : List (String × Value)), builder.setAll assigned
      = assigned.foldl (fun builder pair => builder.set pair.1 pair.2) builder := by
  intro pairs insert update
  have hmap := mapOf_setAll pairs
  have hinsert : insert = ⟨table, Assignments.setAll [] pairs⟩ :=
    Insert.inTurn.foldl_perform (fun _ call => by cases call <;> rfl) calls { table }
  have hupdate : update = ⟨table, Assignments.setAll [] pairs, condition⟩ :=
    Update.inTurn.foldl_perform (fun _ call => by cases call <;> rfl) calls { table, condition }
  have hempty : (Assignments.setAll [] pairs).isEmpty = true ↔ pairs = [] := by
    rw [List.isEmpty_iff, hmap.eq_nil_iff]
  rw [hinsert, hupdate]
  exact ⟨⟨_, hmap, Insert.writes table _, Update.writes table _ condition⟩, hempty, hempty,
    Insert.inTurn.eq_foldl fun _ _ _ => rfl, Update.inTurn.eq_foldl fun _ _ _ => rfl⟩

/-- A name that is assigned again stays in its place and has the new value. -/
example : Assignments.setAll [] [("name", .string "Ada"), ("born", .int 1815),
    ("name", .string "Grace")] = [("`name`", .string "Grace"), ("`born`", .int 1815)] := by
  rfl

end RowMapper.Sql
