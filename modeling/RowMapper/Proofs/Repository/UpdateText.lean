import RowMapper.Proofs.Repository.Changes
import RowMapper.Proofs.Repository.Clients
import RowMapper.Proofs.Repository.Run

/-!
# `RowMapper.Proofs.Repository.UpdateText`: the UPDATE of a save, written out

`Repository.diff` says which fields a save of a stored record has to write, without regard to how
the update is built. `Repository.update_is_diff` says that the UPDATE is exactly this: its text, its
parameters in their order, and that there is none if nothing is to be written.

What a save sends is a list of statements with at most one element
(`Effect.statements_of_stored`), so that the text is all there is to say about it.
-/

set_option autoImplicit false

namespace RowMapper

open RowMapper.Sql RowMapper.Text

variable {ι κ ω : Type}

/-! ### The statement -/

/-- An assignment in the text with placeholders. -/
theorem Sql.backticked_placeholder (column : String) :
    backticked column ++ " = " ++ placeholder = "`" ++ column ++ "` = ?" := by
  have hend : "`" ++ (" = " ++ placeholder) = "` = ?" := by decide
  rw [backticked, String.append_assoc, String.append_assoc, hend]

/-- A key compared for equality, between its keyword and the end of the statement. -/
theorem Sql.where_key (opening key : String) :
    opening ++ (" WHERE " ++ (key ++ " " ++ Operator.eq.symbol ++ " " ++ placeholder)) ++ ";"
      = opening ++ " WHERE " ++ key ++ " = ?;" := by
  have hend : " " ++ (Operator.eq.symbol ++ (" " ++ (placeholder ++ ";"))) = " = ?;" := by decide
  simp only [String.append_assoc, hend]

/-- The text and the parameters of an UPDATE at one row, whose columns are in backticks and whose
key is not. -/
theorem Sql.Update.statement_at_key (table key : String) (pairs : List (String × Value))
    (value : Value) :
    Update.statement ⟨some table, pairs.map fun pair => (backticked pair.1, pair.2),
        some (.compare key .eq value)⟩
      = ⟨"UPDATE " ++ table ++ " SET "
          ++ joined ", " ((pairs.map (·.1)).map fun column => "`" ++ column ++ "` = ?")
          ++ " WHERE " ++ key ++ " = ?;", pairs.map (·.2.bound) ++ [value.bound]⟩ := by
  have hbind : bindWhere (some (.compare key .eq value)) (pairs.map (·.2.bound))
      = (" WHERE " ++ (key ++ " " ++ Operator.eq.symbol ++ " " ++ placeholder),
        pairs.map (·.2.bound) ++ [value.bound]) := rfl
  unfold Update.statement
  simp only [Assignments.values, List.map_map, Function.comp_def, hbind, Option.getD_some,
    backticked_placeholder, where_key]

theorem FieldKind.isTimestamp_eq_false_iff {kind : FieldKind} :
    kind.isTimestamp = false ↔ kind ≠ .createdAt ∧ kind ≠ .updatedAt := by
  cases kind <;> simp [isTimestamp]

namespace Repository

variable (repository : Repository ι κ) (record : Record ι κ)

/-! ### What is to be written -/

/-- The fields of a stored record that a save has to write: with defaults filled in, they have
another literal than what was read from storage. Keys and times are not compared. -/
def diff : List Field :=
  repository.entity.fields.filter fun field =>
    field.kind ≠ .pk ∧ field.kind ≠ .createdAt ∧ field.kind ≠ .updatedAt ∧
      ((repository.prepare record).get field.key).literal ≠ (record.stored field.name).literal

/-- The fields that an update writes: those that are to be written, and the time of the change
behind them, if the entity keeps it. -/
def assignedFields : List Field :=
  repository.diff record ++ (repository.entity.fieldOfKind? .updatedAt).toList

variable {repository record}

theorem mem_diff {field : Field} : field ∈ repository.diff record ↔
    field ∈ repository.entity.fields ∧ field.kind ≠ .pk ∧ field.kind ≠ .createdAt ∧
      field.kind ≠ .updatedAt ∧
      ((repository.prepare record).get field.key).literal
        ≠ (record.stored field.name).literal := by
  simp only [diff, List.mem_filter, decide_eq_true_eq]

variable (repository record) in
/-- Defaults leave the snapshot alone, so the fields to write are those that differ from it. -/
theorem filter_differs_prepare :
    repository.entity.fields.filter (differs (repository.prepare record))
      = repository.diff record := by
  refine List.filter_congr fun field _ => ?_
  rw [Bool.eq_iff_iff, differs, (kin_prepare repository record).stored_eq]
  simp only [Bool.and_eq_true, Bool.not_eq_true', FieldKind.isTimestamp_eq_false_iff,
    decide_eq_true_eq, and_assoc]

/-- A primary key and the time of creation are never assigned. -/
theorem not_mem_assignedFields (hnames : (repository.entity.fields.map Field.name).Nodup)
    {field : Field} (hfield : field ∈ repository.entity.fields)
    (hkept : field.kind = .pk ∨ field.kind = .createdAt) :
    field.name ∉ (repository.assignedFields record).map Field.name := by
  intro hmem
  obtain ⟨other, hother, hname⟩ := List.mem_map.1 hmem
  -- A field that is assigned and has this column is the field itself, by its kind.
  rcases List.mem_append.1 hother with hdiff | htime
  · obtain ⟨hmember, hpk, hcreated, -⟩ := mem_diff.1 hdiff
    obtain rfl := List.inj_on_of_nodup_map hnames hmember hfield hname
    exact hkept.elim hpk hcreated
  · obtain ⟨hmember, hupdated⟩ := EntityType.of_fieldOfKind? (Option.mem_toList.1 htime)
    obtain rfl := List.inj_on_of_nodup_map hnames hmember hfield hname
    rw [hupdated] at hkept
    rcases hkept with hkept | hkept <;> contradiction

/-! ### What is sent -/

/-- Of a stored record the UPDATE of what differs is sent, or nothing. -/
theorem Effect.statements_of_stored {backend : Backend κ ω} {now : Int64}
    {world after : ω × List Exchange} {outcome : Outcome ι κ} {pk : Field}
    (h : Effect repository record backend.logged now world outcome after)
    (hstored : record.isNew = false) (hpk : repository.entity.pk? = some pk) :
    after.2.map (·.statement) = world.2.map (·.statement) ++
      if (repository.changes pk record).isEmpty then []
      else [repository.updateStatement record pk now] := by
  cases h with
  | inserted hnew | insertRejected hnew => exact absurd hnew (Bool.eq_false_iff.1 hstored)
  | keyless _ hkeyless =>
      rw [hpk] at hkeyless
      contradiction
  | unchanged _ hkey hempty =>
      obtain rfl := Option.some.inj (hpk.symm.trans hkey)
      rw [if_pos hempty, List.append_nil]
  | updated _ hkey hchanges hquery | updateRejected _ hkey hchanges hquery =>
      obtain rfl := Option.some.inj (hpk.symm.trans hkey)
      rw [if_neg (Bool.eq_false_iff.1 hchanges), Backend.logged_query hquery, List.map_append]
      rfl

/-- Repositories of one entity send the same update. -/
theorem updateStatement_congr {other : Repository ι κ} (hentity : other.entity = repository.entity)
    (pk : Field) (now : Int64) :
    other.updateStatement record pk now = repository.updateStatement record pk now := by
  unfold updateStatement stampUpdate changes
  rw [hentity]

/-- Of a stored record that is not refused the UPDATE of what differs is sent, or nothing. -/
theorem statements_of_store {pk : Field} (backend : Backend κ ω) (now : Int64) (validated : Bool)
    (world : ω) (hstored : record.isNew = false) (hpk : repository.entity.pk? = some pk)
    (hallowed : ¬ repository.Refuses (repository.prepare record) validated) :
    (repository.store backend.logged now validated record (world, [])).2.2.map (·.statement)
      = if (repository.diff record).isEmpty then []
        else [repository.updateStatement (repository.prepare record) pk now] := by
  have heffect := store_effect repository record backend.logged now (world, [])
    ((allow_eq_true_iff ..).2 hallowed)
  have hprepared := (kin_prepare repository record).isNew_eq.trans hstored
  -- Validation and hooks add messages to the repository, and the update is that of its entity.
  have hentity := (kin_allow repository (repository.prepare record) validated).entity
  have hsent := heffect.statements_of_stored hprepared (hentity ▸ hpk)
  rw [isEmpty_changes, changed, hentity, filter_differs_prepare, List.isEmpty_map,
    updateStatement_congr hentity, List.map_nil, List.nil_append] at hsent
  exact hsent

/-- The UPDATE of a save assigns the fields that are to be written and the time of the change. -/
theorem updateStatement_prepare (pk : Field) (now : Int64)
    (hplain : PlainFields repository.entity.fields)
    (hnames : (repository.entity.fields.map Field.name).Nodup) :
    repository.updateStatement (repository.prepare record) pk now
      = ⟨"UPDATE " ++ repository.entity.table ++ " SET "
          ++ joined ", " (((repository.assignedFields record).map Field.name).map fun column =>
            "`" ++ column ++ "` = ?")
          ++ " WHERE " ++ pk.name ++ " = ?;",
        (repository.diff record).map (fun field =>
            ((repository.prepare record).get field.key).bound)
          ++ ((repository.entity.fieldOfKind? .updatedAt).map fun _ => Value.int now).toList
          ++ [((repository.prepare record).get pk.key).bound]⟩ := by
  have hcolumns : (repository.written (repository.prepare record) now).map (·.1)
      = (repository.assignedFields record).map Field.name := by
    rw [written, changed, filter_differs_prepare, changeTime, assignedFields, List.map_append,
      List.map_append, List.map_map]
    cases repository.entity.fieldOfKind? .updatedAt <;> rfl
  have hparams : (repository.written (repository.prepare record) now).map (·.2.bound)
      = (repository.diff record).map (fun field =>
          ((repository.prepare record).get field.key).bound)
        ++ ((repository.entity.fieldOfKind? .updatedAt).map fun _ => Value.int now).toList := by
    rw [written, changed, filter_differs_prepare, changeTime, List.map_append, List.map_map]
    cases repository.entity.fieldOfKind? .updatedAt <;> rfl
  have hstatement := Update.statement_at_key repository.entity.table pk.name
    (repository.written (repository.prepare record) now) ((repository.prepare record).get pk.key)
  rw [hparams, hcolumns] at hstatement
  rw [updateStatement, stampUpdate_changes pk now hplain hnames]
  exact hstatement

/-! ### A save -/

/-- Let a record of a stored row be saved, and not be refused. If no field is to be written, nothing
is sent. Otherwise one UPDATE is sent: it assigns the fields that are to be written, in the order of
the entity, and behind them the time of the change, if the entity keeps it; its parameters are the
values in this order and then the primary key, by which it finds the row. No primary key and no
time of creation is among the columns that are assigned. -/
theorem update_is_diff (repository : Repository ι κ) {record : Record ι κ} {pk : Field}
    (hpk : repository.entity.pk? = some pk) (hplain : PlainFields repository.entity.fields)
    (hnames : (repository.entity.fields.map Field.name).Nodup) (hstored : record.isNew = false)
    {validated : Bool} (hallowed : ¬ repository.Refuses (repository.prepare record) validated)
    (backend : Backend κ ω) (now : Int64) (world : ω) :
    let prepared := repository.prepare record
    let diff := repository.diff record
    let columns := (repository.assignedFields record).map Field.name
    let sent := (repository.store backend.logged now validated record (world, [])).2.2.map
      (·.statement)
    (diff = [] → sent = []) ∧
    (diff ≠ [] → sent =
      [⟨"UPDATE " ++ repository.entity.table ++ " SET "
          ++ joined ", " (columns.map fun column => "`" ++ column ++ "` = ?")
          ++ " WHERE " ++ pk.name ++ " = ?;",
        diff.map (fun field => (prepared.get field.key).bound)
          ++ ((repository.entity.fieldOfKind? .updatedAt).map fun _ => Value.int now).toList
          ++ [(prepared.get pk.key).bound]⟩]) ∧
    ∀ field ∈ repository.entity.fields, field.kind = .pk ∨ field.kind = .createdAt →
      field.name ∉ columns := by
  intro prepared diff columns sent
  have hsent := statements_of_store backend now validated world hstored hpk hallowed
  refine ⟨fun hnone => ?_, fun hsome => ?_, fun field => not_mem_assignedFields hnames⟩
  · rw [if_pos (List.isEmpty_iff.2 hnone)] at hsent
    exact hsent
  · rw [if_neg (mt List.isEmpty_iff.1 hsome), updateStatement_prepare pk now hplain hnames] at hsent
    exact hsent

/-- A guest with another score and another name: the columns stand in the order of the entity, and
the time of the change behind them. -/
theorem update_is_diff_guest :
    let loaded : Record Unit Unit :=
      .hydrate .universal guestRepository.entity Client.graceRow none
    let record := (loaded.set "score" (.int 3)).set "name" (.string "Ada")
    let saved := guestRepository.saveUnvalidated (Backend.accepting 1).logged 60 record ((), [])
    saved.2.2.map (·.statement)
      = [⟨"UPDATE guests SET `full_name` = ?, `score` = ?, `updated_at` = ? WHERE id = ?;",
          [.string "Ada", .int 3, .int 60, .int 7]⟩] := by
  intro loaded record saved
  have hnot : ¬ guestRepository.Refuses (guestRepository.prepare record) false :=
    (allow_eq_true_iff ..).1 (by decide +kernel)
  have hdiff : guestRepository.diff record ≠ [] :=
    List.isEmpty_eq_false_iff.1 (by decide +kernel)
  obtain ⟨-, hsent, -⟩ := update_is_diff guestRepository loadsFrom_guestRow.keyed
    (by simp [PlainFields, PlainName, guestRepository, guests]) loadsFrom_guestRow.distinct.names
    (by decide +kernel : record.isNew = false) hnot (Backend.accepting 1) 60 ()
  have hsaved :
      saved = guestRepository.store (Backend.accepting 1).logged 60 false record ((), []) := rfl
  rw [hsaved, hsent hdiff, List.singleton_inj, Sql.Statement.mk.injEq]
  exact ⟨by decide +kernel, by rfl⟩

end Repository

end RowMapper
