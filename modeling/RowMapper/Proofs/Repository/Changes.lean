import RowMapper.Proofs.Record.Hydrate
import RowMapper.Proofs.Repository.Store
import RowMapper.Proofs.Sql.Assignment

/-!
# `RowMapper.Proofs.Repository.Changes`: what an update writes

`Repository.written` is what the UPDATE of a save assigns: the fields that differ from the
snapshot, and behind them the time of the change, if the entity keeps it.
`assigned?_updateStatement` says that a database reads exactly this from the statement, if the
columns have plain names and no two fields share one.
-/

set_option autoImplicit false

namespace RowMapper

open RowMapper.Sql

variable {ι κ : Type}

/-- The columns of the fields have plain names. -/
def PlainFields (fields : List Field) : Prop :=
  ∀ field ∈ fields, PlainName field.name

namespace Repository

variable (repository : Repository ι κ) (pk : Field) (record : Record ι κ) (now : Int64)

/-- The fields that differ from the snapshot, with their values. -/
def changed : List (String × Value) :=
  (repository.entity.fields.filter (differs record)).map fun field =>
    (field.name, record.get field.key)

/-- The time of the change, if the entity keeps it. -/
def changeTime : List (String × Value) :=
  ((repository.entity.fieldOfKind? .updatedAt).map fun field => (field.name, .int now)).toList

/-- The columns that the UPDATE of a save assigns, with their values. -/
def written : List (String × Value) :=
  repository.changed record ++ repository.changeTime now

variable {repository record}

theorem mem_changed {column : String} {value : Value} :
    (column, value) ∈ repository.changed record ↔
      ∃ field ∈ repository.entity.fields, differs record field = true ∧
        field.name = column ∧ record.get field.key = value := by
  simp only [changed, List.mem_map, List.mem_filter, Prod.mk.injEq, and_assoc]

theorem mem_changeTime {column : String} {value : Value} :
    (column, value) ∈ repository.changeTime now ↔
      ∃ field, repository.entity.fieldOfKind? .updatedAt = some field ∧
        field.name = column ∧ .int now = value := by
  simp only [changeTime, Option.mem_toList, Option.map_eq_some_iff, Prod.mk.injEq]

/-- Each written column is that of a field. -/
theorem exists_field_of_mem_written {column : String} {value : Value}
    (h : (column, value) ∈ repository.written record now) :
    ∃ field ∈ repository.entity.fields, field.name = column := by
  rcases List.mem_append.1 h with h | h
  · obtain ⟨field, hfield, -, hname, -⟩ := mem_changed.1 h
    exact ⟨field, hfield, hname⟩
  · obtain ⟨field, hfield, hname, -⟩ := (mem_changeTime now).1 h
    exact ⟨field, List.mem_of_find?_eq_some hfield, hname⟩

theorem plain_written (hplain : PlainFields repository.entity.fields) :
    ∀ pair ∈ repository.written record now, PlainName pair.1 := by
  rintro ⟨column, value⟩ hmem
  obtain ⟨field, hfield, rfl⟩ := exists_field_of_mem_written now hmem
  exact hplain field hfield

/-- A field that does not differ is not among the changed ones. -/
theorem not_mem_changed (hnames : (repository.entity.fields.map Field.name).Nodup) {field : Field}
    (hfield : field ∈ repository.entity.fields) (hsame : differs record field = false) :
    field.name ∉ (repository.changed record).map (·.1) := by
  intro hmem
  obtain ⟨⟨_, value⟩, hchanged, rfl⟩ := List.mem_map.1 hmem
  obtain ⟨other, hother, hdiffers, hname, -⟩ := mem_changed.1 hchanged
  -- The column belongs to this field only.
  rw [List.inj_on_of_nodup_map hnames hother hfield hname, hsame] at hdiffers
  contradiction

/-- The time of the change is in the column of a timestamp. -/
theorem not_mem_changeTime (hnames : (repository.entity.fields.map Field.name).Nodup)
    {field : Field} (hfield : field ∈ repository.entity.fields)
    (htime : field.kind.isTimestamp = false) :
    field.name ∉ (repository.changeTime now).map (·.1) := by
  intro hmem
  obtain ⟨⟨_, value⟩, hstamp, rfl⟩ := List.mem_map.1 hmem
  obtain ⟨stamped, hstamped, hname, -⟩ := (mem_changeTime now).1 hstamp
  obtain ⟨hmember, hkind⟩ := EntityType.of_fieldOfKind? hstamped
  rw [← List.inj_on_of_nodup_map hnames hmember hfield hname, hkind] at htime
  contradiction

/-- A field that neither differs nor keeps a time is not written. -/
theorem not_mem_written (hnames : (repository.entity.fields.map Field.name).Nodup) {field : Field}
    (hfield : field ∈ repository.entity.fields) (htime : field.kind.isTimestamp = false)
    (hsame : differs record field = false) :
    field.name ∉ (repository.written record now).map (·.1) := by
  rw [written, List.map_append, List.mem_append, not_or]
  exact ⟨not_mem_changed hnames hfield hsame, not_mem_changeTime now hnames hfield htime⟩

/-- No column is written twice: a timestamp is not among the fields that are compared. -/
theorem distinct_written (hnames : (repository.entity.fields.map Field.name).Nodup) :
    ((repository.written record now).map (·.1)).Nodup := by
  have hchanged : ((repository.changed record).map (·.1)).Nodup := by
    have hsome := hnames.sublist ((List.filter_sublist (p := differs record)).map Field.name)
    simpa only [changed, List.map_map, Function.comp_def] using hsome
  have htime : ((repository.changeTime now).map (·.1)).Nodup := by
    unfold changeTime
    cases repository.entity.fieldOfKind? .updatedAt <;> simp
  rw [written, List.map_append]
  refine List.nodup_append.2 ⟨hchanged, htime, ?_⟩
  rintro _ hfirst _ hsecond rfl
  obtain ⟨⟨_, value⟩, hmem, rfl⟩ := List.mem_map.1 hfirst
  obtain ⟨field, hfield, hdiffers, rfl, -⟩ := mem_changed.1 hmem
  have hkind : field.kind.isTimestamp = false := by
    cases hstamp : field.kind.isTimestamp <;> simp [differs, hstamp] at hdiffers ⊢
  exact not_mem_changeTime now hnames hfield hkind hsecond

/-- Stamping an UPDATE is one more assignment. -/
theorem stampUpdate_eq (update : Update) :
    repository.stampUpdate now update = update.setAll (repository.changeTime now) := by
  unfold stampUpdate changeTime
  cases repository.entity.fieldOfKind? .updatedAt <;> rfl

/-- The UPDATE of a save, written out. -/
theorem stampUpdate_changes (hplain : PlainFields repository.entity.fields)
    (hnames : (repository.entity.fields.map Field.name).Nodup) :
    repository.stampUpdate now (repository.changes pk record) = ⟨some repository.entity.table,
      (repository.written record now).map fun (name, value) => (backticked name, value),
      some (.compare pk.name .eq (record.get pk.key))⟩ := by
  have hfresh : ∀ pair ∈ repository.written record now,
      backticked pair.1 ∉ Assignments.columns [] := by
    simp [Assignments.columns]
  have hassigned :=
    setAll_of_plain (plain_written now hplain) (distinct_written now hnames) hfresh
  rw [List.nil_append] at hassigned
  -- The fields and the time are assigned one behind the other, which is one row of assignments.
  rw [stampUpdate_eq, ← hassigned, written, Assignments.setAll, List.foldl_append]
  rfl

theorem put_ne_nil (column : String) (value : Value) (assignments : Assignments) :
    Assignments.put column value assignments ≠ [] := by
  cases assignments with
  | nil => exact List.cons_ne_nil _ _
  | cons entry rest =>
      rw [Assignments.put]
      split <;> exact List.cons_ne_nil _ _

theorem setAll_ne_nil (pairs : List (String × Value)) {assignments : Assignments}
    (h : assignments ≠ []) : assignments.setAll pairs ≠ [] := by
  induction pairs generalizing assignments with
  | nil => exact h
  | cons pair rest ih => exact ih (put_ne_nil _ _ assignments)

variable (repository record) in
/-- An update has nothing to send when nothing differs from the snapshot. -/
theorem isEmpty_changes :
    (repository.changes pk record).isEmpty = (repository.changed record).isEmpty := by
  show (Assignments.setAll [] (repository.changed record)).isEmpty = _
  cases repository.changed record with
  | nil => rfl
  | cons pair rest =>
      have hne := setAll_ne_nil rest (put_ne_nil (escape pair.1) pair.2 [])
      exact List.isEmpty_eq_false_iff.2 hne

/-- Nothing is sent exactly when no field differs. -/
theorem isEmpty_changes_iff : (repository.changes pk record).isEmpty = true ↔
    ∀ field ∈ repository.entity.fields, differs record field = false := by
  rw [isEmpty_changes, List.isEmpty_iff, changed, List.map_eq_nil_iff, List.filter_eq_nil_iff]
  simp only [Bool.not_eq_true]

/-- A database reads from the UPDATE of a save what the save writes. -/
theorem assigned?_updateStatement (hplain : PlainFields repository.entity.fields)
    (hnames : (repository.entity.fields.map Field.name).Nodup)
    (hchanges : (repository.changes pk record).isEmpty = false) :
    assigned? repository.entity.table (repository.updateStatement record pk now)
      = some ((repository.written record now).map fun (name, value) => (name, value.bound)) := by
  have hne : repository.written record now ≠ [] := by
    rw [isEmpty_changes, List.isEmpty_eq_false_iff] at hchanges
    rw [written]
    exact List.append_ne_nil_of_left_ne_nil hchanges _
  rw [updateStatement, stampUpdate_changes pk now hplain hnames]
  exact assigned?_statement _ hne (plain_written now hplain)

/-! ### The time of a save on the record -/

variable (record) in
theorem get_stamp_self {kind : FieldKind} {field : Field}
    (h : repository.entity.fieldOfKind? kind = some field) (now : Int64) :
    (repository.stamp kind now record).get field.key = .int now := by
  rw [stamp, h]
  exact Record.get_set_self record field.key _

theorem get_stamp_of_ne {kind : FieldKind} {now : Int64} {key : String}
    (h : ∀ field, repository.entity.fieldOfKind? kind = some field → key ≠ field.key) :
    (repository.stamp kind now record).get key = record.get key := by
  unfold stamp
  split
  · rename_i field hfield
    exact Record.get_set_of_ne record _ (h field hfield)
  · rfl

variable (record) in
/-- A time is not under the key of a field that is no timestamp. -/
theorem get_stamp {kind : FieldKind} (hkind : kind.isTimestamp = true) (now : Int64)
    (hdistinct : DistinctFields repository.entity.fields) {field : Field}
    (hfield : field ∈ repository.entity.fields) (htime : field.kind.isTimestamp = false) :
    (repository.stamp kind now record).get field.key = record.get field.key := by
  refine get_stamp_of_ne fun stamped hstamped => ?_
  obtain ⟨hmember, hsame⟩ := EntityType.of_fieldOfKind? hstamped
  refine (hdistinct.ne_of_kind hfield hmember ?_).1
  intro hequal
  rw [hequal, hsame, hkind] at htime
  contradiction

/-- A save of a stored record leaves its values alone, except for the time of the change. -/
theorem Effect.get_of_stored {ω : Type} {backend : Backend κ ω} {now : Int64} {world after : ω}
    {outcome : Outcome ι κ}
    (h : Effect repository record backend now world outcome after) (hold : record.isNew = false)
    (hdistinct : DistinctFields repository.entity.fields) {field : Field}
    (hfield : field ∈ repository.entity.fields) (htime : field.kind.isTimestamp = false) :
    outcome.record.get field.key = record.get field.key := by
  cases h with
  | inserted hnew | insertRejected hnew => exact absurd hnew (Bool.eq_false_iff.1 hold)
  | keyless | unchanged => rfl
  | updated | updateRejected => exact get_stamp record (by rfl) now hdistinct hfield htime

end Repository

end RowMapper
