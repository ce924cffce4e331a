import RowMapper.Proofs.Engine.Sending
import RowMapper.Record.Relation

/-!
# `RowMapper.Proofs.Record.RelationText`: the statement of a relation

A relation is loaded by one text (`Relation.loadingText?`) and the stored value of one column
(`Relation.keyColumn?`): `Record.relationStatement?_eq`. A relation of an unknown kind, or to many
on both sides without a junction, has no statement (`Relation.Unloadable`).
-/

set_option autoImplicit false

namespace RowMapper

open RowMapper.Sql

variable {ι κ : Type}

/-! ### The text of a relation -/

namespace Relation

/-- The column by whose value in the snapshot a relation is loaded, if it has a statement at all. -/
def keyColumn? (relation : Relation ι) : Option String :=
  match relation.kind with
  | .hasMany => some relation.field
  | .hasOne => some relation.field
  | .belongsTo => some relation.field
  -- The column of the junction is compared with the column of this name, whatever the key is.
  | .manyMany => relation.junction.map fun _ => "id"
  | .unknown _ => none

/-- There is no statement that loads the relation. -/
def Unloadable (relation : Relation ι) : Prop :=
  (∃ kind, relation.kind = .unknown kind) ∨
    (relation.kind = .manyMany ∧ relation.junction = none)

theorem keyColumn?_eq_none_iff (relation : Relation ι) :
    relation.keyColumn? = none ↔ relation.Unloadable := by
  obtain ⟨name, kind, target, field, targetField, junction⟩ := relation
  cases kind <;> simp [keyColumn?, Unloadable]

theorem not_unloadable {relation : Relation ι} {column : String}
    (h : relation.keyColumn? = some column) : ¬ relation.Unloadable := by
  rw [← keyColumn?_eq_none_iff, h]
  exact Option.some_ne_none column

/-- The text that loads a relation. It asks for the rows of the other table in which a column equals
the parameter, or for the rows of the other table that the junction connects with it. Where the
relation is to one, it asks for the first of them. -/
def loadingText? (schema : Schema ι) (relation : Relation ι) : Option String :=
  let table := (schema relation.target).table
  let whole := "SELECT " ++ escape table ++ ".* FROM " ++ table ++ " WHERE " ++ relation.targetField
  match relation.kind with
  | .hasMany => some (whole ++ " = ?;")
  | .hasOne => some (whole ++ " = ? LIMIT 1;")
  | .belongsTo => some (whole ++ " = ? LIMIT 1;")
  | .manyMany => relation.junction.map fun junction =>
    "SELECT " ++ (({} : Select).fromTable junction).qualify (escape (table ++ ".*")) ++
      " FROM " ++ junction ++
      " INNER JOIN " ++ table ++ " ON " ++ junction ++ "." ++ relation.targetField ++
        " = " ++ table ++ ".id" ++
      " WHERE " ++ junction ++ "." ++ relation.field ++ " = ?;"
  | .unknown _ => none

variable {schema : Schema ι} {relation : Relation ι} {text : String}

/-- A relation has a text if it has a column. -/
theorem exists_loadingText {column : String} (h : relation.keyColumn? = some column)
    (schema : Schema ι) : ∃ text, relation.loadingText? schema = some text := by
  obtain ⟨name, kind, target, field, targetField, junction⟩ := relation
  cases kind with
  | hasMany | hasOne | belongsTo => exact ⟨_, rfl⟩
  | manyMany =>
      cases junction with
      | none => cases h
      | some junction => exact ⟨_, rfl⟩
  | unknown kind => cases h

/-- Relations are loaded by queries. -/
theorem kind_loadingText (h : relation.loadingText? schema = some text) :
    StatementKind.ofSql text = .read := by
  refine kind_of_select (List.isPrefixOf_iff_prefix.2 ?_)
  obtain ⟨name, kind, target, field, targetField, junction⟩ := relation
  cases kind with
  | hasMany | hasOne | belongsTo =>
      obtain rfl := Option.some.inj h
      simp only [String.append_assoc, String.toList_append]
      exact List.prefix_append _ _
  | manyMany =>
      cases junction with
      | none => cases h
      | some junction =>
          obtain rfl := Option.some.inj h
          simp only [String.append_assoc, String.toList_append]
          exact List.prefix_append _ _
  | unknown kind => cases h

/-- What ends with the placeholder has no limit. -/
theorem not_limit_of_suffix {chars : List Char} (h : " = ?;".toList <:+ chars) :
    ¬ " LIMIT 1;".toList <:+ chars := by
  intro hlimit
  -- Of two ends of a text, the shorter is an end of the longer.
  have hends := List.suffix_of_suffix_length_le h hlimit (by decide)
  revert hends
  decide

/-- The relations to one are those that ask for one row. -/
theorem limit_loadingText (h : relation.loadingText? schema = some text) :
    " LIMIT 1;".toList <:+ text.toList ↔ relation.kind = .hasOne ∨ relation.kind = .belongsTo := by
  obtain ⟨name, kind, target, field, targetField, junction⟩ := relation
  cases kind with
  | hasOne | belongsTo =>
      obtain rfl := Option.some.inj h
      refine iff_of_true ?_ (by simp)
      rw [String.toList_append]
      exact List.IsSuffix.trans (by decide) (List.suffix_append _ " = ? LIMIT 1;".toList)
  | hasMany =>
      obtain rfl := Option.some.inj h
      refine iff_of_false (not_limit_of_suffix ?_) (by simp)
      rw [String.toList_append]
      exact List.suffix_append _ _
  | manyMany =>
      cases junction with
      | none => cases h
      | some junction =>
          obtain rfl := Option.some.inj h
          refine iff_of_false (not_limit_of_suffix ?_) (by simp)
          rw [String.toList_append]
          exact List.suffix_append _ _
  | unknown kind => cases h

end Relation

/-! ### The statement of a relation -/

namespace Sql.Select

/-- The text of a query that shows one item, with neither groups nor an order. -/
theorem render_item (table item whereText : String) (joins : List String) (limit : Option Nat)
    (condition : Option Predicate) :
    render { table := some table, columns := [item], joins, limit, condition } whereText none
      = "SELECT " ++ item ++ " FROM " ++ table ++ listClause " " " " joins ++ whereText ++
          countClause " LIMIT " limit ++ ";" := by
  have hgroups : listClause " GROUP BY " ", " [] = "" := rfl
  have horders : listClause " ORDER BY " ", " [] = "" := rfl
  have hoffset : countClause " OFFSET " none = "" := rfl
  have hhaving : havingClause none = "" := rfl
  unfold render
  dsimp only
  rw [hgroups, horders, hoffset, hhaving]
  simp only [Text.joined, Option.getD_some, String.append_empty]

/-- The statement of such a query, where a column equals a value. -/
theorem statement_item (table item column : String) (joins : List String) (limit : Option Nat)
    (value : Value) :
    statement { table := some table, columns := [item], joins, limit,
                condition := some (.compare column .eq value) }
      = ⟨"SELECT " ++ item ++ " FROM " ++ table ++ listClause " " " " joins ++
          (" WHERE " ++ (column ++ " = ?")) ++ countClause " LIMIT " limit ++ ";",
          [value.bound]⟩ := by
  have hequals : column ++ " = ?" = column ++ " " ++ "=" ++ " " ++ placeholder := by
    simp only [String.append_assoc]
    congr 1
  rw [← render_item table item _ joins limit (some (.compare column .eq value)), hequals]
  rfl

end Sql.Select

namespace Record

theorem matching_eq (table column : String) (value : Value) :
    matching table column value
      = { table := some table, columns := [escape table ++ ".*"],
          condition := some (.compare column .eq value) } := by
  have hstar : escape "*" = "*" := by decide
  have hdot : ".*" = "." ++ "*" := by decide
  simp only [matching, Select.fromTable, Select.set, Select.filter, List.foldl, Select.column,
    Select.qualify, hstar, List.nil_append, hdot, String.append_assoc]
  rfl

theorem throughJunction_eq (junction table column targetColumn : String) (value : Value) :
    throughJunction junction table column targetColumn value
      = { table := some junction,
          columns := [(({} : Select).fromTable junction).qualify (escape (table ++ ".*"))],
          joins := ["INNER JOIN " ++ table ++ " ON " ++
            (junction ++ "." ++ targetColumn ++ " = " ++ table ++ ".id")],
          condition := some (.compare (junction ++ "." ++ column) .eq value) } := by
  have hinner : "INNER JOIN " = Text.upper "INNER" ++ " JOIN " := by decide
  rw [hinner]
  rfl

/-- The statement that loads a relation has the text of the relation, and one parameter: the stored
value of its column. -/
theorem relationStatement?_eq (schema : Schema ι) (record : Record ι κ) (relation : Relation ι) :
    record.relationStatement? schema relation =
      (relation.loadingText? schema).bind fun text =>
        relation.keyColumn?.map fun column => ⟨text, [(record.stored column).bound]⟩ := by
  -- The text is cut where the clauses of the query meet.
  have hfrom : ".* FROM " = ".*" ++ " FROM " := by decide
  have hmark : " = ?;" = " = ?" ++ ";" := by decide
  have hone : " = ? LIMIT 1;" = " = ?" ++ (Select.countClause " LIMIT " (some 1) ++ ";") := by
    decide
  have hall : Select.countClause " LIMIT " none = "" := rfl
  have hjoin : " INNER JOIN " = " " ++ "INNER JOIN " := by decide
  obtain ⟨name, kind, target, field, targetField, junction⟩ := relation
  cases kind with
  | hasMany =>
      refine congrArg some ?_
      dsimp only
      rw [matching_eq, Select.statement_item]
      simp only [Select.listClause, List.isEmpty_nil, if_true, hfrom, hmark, hall,
        String.append_empty, String.append_assoc]
  | hasOne | belongsTo =>
      refine congrArg some ?_
      dsimp only
      rw [matching_eq, Select.limitTo, Select.statement_item]
      simp only [Select.listClause, List.isEmpty_nil, if_true, hfrom, hone, String.append_empty,
        String.append_assoc]
  | manyMany =>
      cases junction with
      | none => rfl
      | some junction =>
          refine congrArg some ?_
          dsimp only
          rw [throughJunction_eq, Select.statement_item]
          simp only [Select.listClause, List.isEmpty_cons, Bool.false_eq_true, if_false,
            Text.joined, hjoin, hmark, hall, String.append_empty, String.append_assoc]
  | unknown kind => rfl

end Record

end RowMapper
