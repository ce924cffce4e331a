import RowMapper.Sql.Change
import RowMapper.Sql.Select

/-!
# `RowMapper.Proofs.Sql.Shape`: what the text of a statement depends on

With placeholders, the text of a condition depends on its shape only: the tree, fields, operators
and words of the caller, but not the values (`Predicate.bind_text_eq`). The text of a statement
depends on the shape of its condition and on names: INSERT and UPDATE on the columns
that are assigned (`Insert.text_eq`, `Update.text_eq`), DELETE and SELECT on nothing else.
-/

set_option autoImplicit false

namespace RowMapper.Sql

open RowMapper.Text

namespace Predicate

mutual

/-- The condition with null for every value. -/
def shape : Predicate → Predicate
  | .comparison field op _ => .comparison field op .null
  | .allOf parts => .allOf (shapeAll parts)
  | .anyOf parts => .anyOf (shapeAll parts)
  | .chain parts => .chain (shapeAll parts)
  | .raw sql => .raw sql

def shapeAll : List Predicate → List Predicate
  | [] => []
  | part :: rest => shape part :: shapeAll rest

end

mutual

/-- A condition and its shape have the same text, whatever parameters stand before them. -/
theorem bind_shape (params params' : List Value) : ∀ predicate : Predicate,
    (predicate.shape.bind params').1 = (predicate.bind params).1
  | .comparison field op value => rfl
  | .allOf parts => by
      have h := bindAll_shape params params' parts
      simp only [shape, bind, h]
  | .anyOf parts => by
      have h := bindAll_shape params params' parts
      simp only [shape, bind, h]
  | .chain parts => by
      have h := bindAll_shape params params' parts
      simp only [shape, bind, h]
  | .raw sql => rfl

theorem bindAll_shape (params params' : List Value) : ∀ parts : List Predicate,
    (bindAll (shapeAll parts) params').1 = (bindAll parts params).1
  | [] => rfl
  | part :: rest => by
      -- The parameters before the rest differ too, which is why they are not fixed.
      have hpart := bind_shape params params' part
      have hrest := bindAll_shape (part.bind params).2 (part.shape.bind params').2 rest
      simp only [shapeAll, bindAll, hpart, hrest]

end

/-- Conditions of one shape have one text. -/
theorem bind_text_eq {first second : Predicate} (h : first.shape = second.shape)
    (params params' : List Value) : (first.bind params).1 = (second.bind params').1 := by
  rw [← bind_shape params [] first, h, bind_shape params' [] second]

end Predicate

/-- The text of a condition behind its keyword depends on the shape of the condition. -/
theorem bindWhere_text_eq {first second : Option Predicate}
    (h : first.map Predicate.shape = second.map Predicate.shape) (params params' : List Value) :
    (bindWhere first params).1 = (bindWhere second params').1 := by
  cases first <;> cases second
  case none.none => rfl
  case some.some first second =>
    have htext := Predicate.bind_text_eq (Option.some.inj h) params params'
    simp only [bindWhere, htext]
  all_goals contradiction

/-! ### The columns that are assigned -/

namespace Assignments

/-- The columns with one more, unless it is among them. -/
def addColumn (columns : List String) (column : String) : List String :=
  if column ∈ columns then columns else columns ++ [column]

theorem columns_put (column : String) (value : Value) (assignments : Assignments) :
    (put column value assignments).columns = addColumn assignments.columns column := by
  induction assignments with
  | nil => rfl
  | cons entry rest ih =>
      obtain ⟨held, old⟩ := entry
      rw [put]
      by_cases hsame : held = column
      · subst hsame
        simp [columns, addColumn]
      · rw [if_neg hsame]
        show held :: Assignments.columns (put column value rest) = _
        rw [ih]
        show held :: addColumn (Assignments.columns rest) column
          = addColumn (held :: Assignments.columns rest) column
        unfold addColumn
        by_cases hmem : column ∈ Assignments.columns rest
        · rw [if_pos hmem, if_pos (List.mem_cons_of_mem _ hmem)]
        · have hnew : column ∉ held :: Assignments.columns rest := by
            simp [hmem, Ne.symm hsame]
          rw [if_neg hmem, if_neg hnew, List.cons_append]

/-- Which columns are assigned depends on the names of the fields and not on the values. -/
theorem columns_setAll_eq {first second : Assignments} {pairs pairs' : List (String × Value)}
    (hcolumns : first.columns = second.columns) (hnames : pairs.map (·.1) = pairs'.map (·.1)) :
    (first.setAll pairs).columns = (second.setAll pairs').columns := by
  induction pairs generalizing first second pairs' with
  | nil =>
      obtain rfl := List.map_eq_nil_iff.1 hnames.symm
      exact hcolumns
  | cons pair rest ih =>
      cases pairs' with
      | nil => contradiction
      | cons pair' rest' =>
          obtain ⟨hname, hrest⟩ := List.cons.inj hnames
          have hname : pair.1 = pair'.1 := hname
          show ((first.set pair.1 pair.2).setAll rest).columns
            = ((second.set pair'.1 pair'.2).setAll rest').columns
          refine ih ?_ hrest
          rw [set, set, columns_put, columns_put, hcolumns, hname]

end Assignments

/-! ### The texts of statements -/

theorem Insert.text_eq {first second : Insert} (htable : first.table = second.table)
    (hcolumns : first.assignments.columns = second.assignments.columns) :
    first.statement.sql = second.statement.sql := by
  have hlength : first.assignments.length = second.assignments.length := by
    simpa [Assignments.columns] using congrArg List.length hcolumns
  unfold statement
  simp only [htable, hcolumns, Assignments.values, List.length_map, hlength]

theorem Update.text_eq {first second : Update} (htable : first.table = second.table)
    (hcolumns : first.assignments.columns = second.assignments.columns)
    (hshape : first.condition.map Predicate.shape = second.condition.map Predicate.shape) :
    first.statement.sql = second.statement.sql := by
  have hassigned (update : Update) :
      update.assignments.map (fun pair => pair.1 ++ " = " ++ placeholder)
        = update.assignments.columns.map (· ++ " = " ++ placeholder) := by
    rw [Assignments.columns, List.map_map]
    rfl
  have hwhere := bindWhere_text_eq hshape (first.assignments.values.map Value.bound)
    (second.assignments.values.map Value.bound)
  unfold statement
  simp only [htable, hassigned, hcolumns, hwhere]

theorem Delete.text_eq {first second : Delete} (htable : first.table = second.table)
    (hshape : first.condition.map Predicate.shape = second.condition.map Predicate.shape) :
    first.statement.sql = second.statement.sql := by
  have hwhere := bindWhere_text_eq hshape [] []
  unfold statement
  simp only [htable, hwhere]

/-- Two queries with the same clauses but for the values in their conditions have one text. -/
theorem Select.text_eq {first second : Select}
    (hclauses : { first with condition := none } = { second with condition := none })
    (hshape : first.condition.map Predicate.shape = second.condition.map Predicate.shape) :
    first.statement.sql = second.statement.sql := by
  obtain ⟨table, condition, columns, joins, groups, having, orders, limit, offset⟩ := first
  obtain ⟨table', condition', columns', joins', groups', having', orders', limit', offset'⟩ :=
    second
  cases hclauses
  have hwhere := bindWhere_text_eq hshape [] []
  unfold statement
  cases having with
  | none =>
      simp only [hwhere]
      rfl
  | some predicate =>
      have hhaving := Predicate.bind_text_eq (rfl : predicate.shape = predicate.shape)
        (bindWhere condition []).2 (bindWhere condition' []).2
      simp only [hwhere, hhaving]
      rfl

end RowMapper.Sql
