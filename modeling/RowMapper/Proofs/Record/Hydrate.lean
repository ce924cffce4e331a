import Mathlib.Data.List.Nodup
import RowMapper.Record.Basic

/-!
# `RowMapper.Proofs.Record.Hydrate`: what a record has of its row

If no two fields share a key or a column, each field of a hydrated record is its own column, read
in the way of its kind (`Field.readFrom`), among the current values (`Record.get_hydrate_eq`) and in
the snapshot (`Record.stored_hydrate_eq`). Current values are entered by key and the snapshot by
column, in one pass over the fields; `Record.get?_foldl_enterField` is the one lemma for both.
-/

set_option autoImplicit false

namespace RowMapper

open RowMapper.Calendar

variable {ι κ : Type}

/-- No two fields have the same key, and no two the same column. -/
structure DistinctFields (fields : List Field) : Prop where
  keys : (fields.map Field.key).Nodup
  names : (fields.map Field.name).Nodup

/-- A field is known by its column. -/
theorem DistinctFields.eq_of_name {fields : List Field} {first second : Field}
    (h : DistinctFields fields) (hfirst : first ∈ fields) (hsecond : second ∈ fields)
    (hname : first.name = second.name) : first = second :=
  List.inj_on_of_nodup_map h.names hfirst hsecond hname

/-- Fields of different kinds have different keys and columns. -/
theorem DistinctFields.ne_of_kind {fields : List Field} {first second : Field}
    (h : DistinctFields fields) (hfirst : first ∈ fields) (hsecond : second ∈ fields)
    (hkind : first.kind ≠ second.kind) : first.key ≠ second.key ∧ first.name ≠ second.name :=
  ⟨fun hkey => hkind (congrArg Field.kind (List.inj_on_of_nodup_map h.keys hfirst hsecond hkey)),
    fun hname => hkind (congrArg Field.kind (h.eq_of_name hfirst hsecond hname))⟩

/-- A field that is looked up by its kind is one of the fields and of this kind. -/
theorem EntityType.of_fieldOfKind? {entity : EntityType ι} {kind : FieldKind} {field : Field}
    (h : entity.fieldOfKind? kind = some field) : field ∈ entity.fields ∧ field.kind = kind :=
  ⟨List.mem_of_find?_eq_some h, by simpa using List.find?_some h⟩

/-- The value with which a field is read from a row, null if the row does not have its column. -/
def Field.readFrom (field : Field) (zone : Zone) (row : Row) : Value :=
  ((row.get? field.name).map (field.kind.coerce zone)).getD .null

theorem Field.readFrom_of_get? {field : Field} {row : Row} {raw : Value} (zone : Zone)
    (h : row.get? field.name = some raw) :
    field.readFrom zone row = field.kind.coerce zone raw := by
  rw [readFrom, h]
  rfl

namespace Record

/-- Enters a field under a label, if the row has its column. Current values are labelled by key and
the snapshot by column. -/
def enterField (label : Field → String) (zone : Zone) (row : Row) (entries : SortedMap Value)
    (field : Field) : SortedMap Value :=
  match row.get? field.name with
  | some raw => entries.insert (label field) (field.kind.coerce zone raw)
  | none => entries

/-- Current values and snapshot are entered side by side, and neither depends on the other. -/
theorem foldl_readFields (zone : Zone) (row : Row) (fields : List Field)
    (read : SortedMap Value × SortedMap Value) :
    fields.foldl (readFields zone row) read
      = (fields.foldl (enterField Field.key zone row) read.1,
          fields.foldl (enterField Field.name zone row) read.2) := by
  induction fields generalizing read with
  | nil => rfl
  | cons field rest ih =>
      have hstep : readFields zone row read field
          = (enterField Field.key zone row read.1 field,
            enterField Field.name zone row read.2 field) := by
        unfold readFields enterField
        cases row.get? field.name <;> rfl
      rw [List.foldl_cons, ih, hstep, List.foldl_cons, List.foldl_cons]

theorem get?_enterField_of_ne (zone : Zone) (row : Row) {label : Field → String} {field : Field}
    {name : String} (h : name ≠ label field) (entries : SortedMap Value) :
    (enterField label zone row entries field).get? name = entries.get? name := by
  unfold enterField
  split
  · exact SortedMap.get?_insert_of_ne _ _ h
  · rfl

/-- Fields with other labels leave an entry as it is. -/
theorem get?_foldl_enterField_of_not_mem (zone : Zone) (row : Row) {label : Field → String}
    {fields : List Field} {name : String} (h : name ∉ fields.map label)
    (entries : SortedMap Value) :
    (fields.foldl (enterField label zone row) entries).get? name = entries.get? name := by
  induction fields generalizing entries with
  | nil => rfl
  | cons field rest ih =>
      rw [List.map_cons, List.mem_cons, not_or] at h
      rw [List.foldl_cons, ih h.2, get?_enterField_of_ne zone row h.1]

/-- The entry of a field that is entered once is what the row has in its column. -/
theorem get?_foldl_enterField (zone : Zone) (row : Row) {label : Field → String}
    {fields : List Field} {field : Field} (hdistinct : (fields.map label).Nodup)
    (hfield : field ∈ fields) (entries : SortedMap Value) :
    (fields.foldl (enterField label zone row) entries).get? (label field)
      = ((row.get? field.name).map (field.kind.coerce zone)).or (entries.get? (label field)) := by
  induction fields generalizing entries with
  | nil => cases hfield
  | cons first rest ih =>
      obtain ⟨hfresh, hrest⟩ := List.nodup_cons.1 hdistinct
      rw [List.foldl_cons]
      rcases List.mem_cons.1 hfield with rfl | hfield
      · -- The fields behind have other labels, so the entry stays as it is made here.
        rw [get?_foldl_enterField_of_not_mem zone row hfresh]
        unfold enterField
        cases row.get? field.name <;> simp
      · have hne : label field ≠ label first := fun hsame =>
          hfresh (hsame ▸ List.mem_map_of_mem hfield)
        rw [ih hrest hfield, get?_enterField_of_ne zone row hne]

@[simp]
theorem get_set_self (record : Record ι κ) (key : String) (value : Value) :
    (record.set key value).get key = value := by
  rw [get, set, SortedMap.get?_insert_self, Option.getD_some]

theorem get_set_of_ne (record : Record ι κ) {key other : String} (value : Value)
    (h : other ≠ key) : (record.set key value).get other = record.get other := by
  rw [get, set, SortedMap.get?_insert_of_ne _ _ h, ← get]

variable {entity : EntityType ι} {row : Row} {field : Field} {raw : Value}

/-- The current value of a field is what is read for it from the row. -/
theorem get_hydrate_eq (zone : Zone) (row : Row) (connection : Option κ)
    (hkeys : (entity.fields.map Field.key).Nodup) (hfield : field ∈ entity.fields) :
    (hydrate zone entity row connection).get field.key = field.readFrom zone row := by
  have h := get?_foldl_enterField zone row hkeys hfield ∅
  rw [get, hydrate]
  dsimp only
  rw [foldl_readFields, h, Field.readFrom]
  exact congrArg (Option.getD · Value.null) Option.or_none

/-- The value of a field in the snapshot is what is read for it from the row. -/
theorem stored_hydrate_eq (zone : Zone) (row : Row) (connection : Option κ)
    (hnames : (entity.fields.map Field.name).Nodup) (hfield : field ∈ entity.fields) :
    (hydrate zone entity row connection).stored field.name = field.readFrom zone row := by
  have h := get?_foldl_enterField zone row hnames hfield ∅
  rw [stored, hydrate]
  dsimp only
  rw [Option.bind_some, foldl_readFields, h, Field.readFrom]
  exact congrArg (Option.getD · Value.null) Option.or_none

/-- Snapshot and current value of a field are one reading of the row. -/
theorem stored_hydrate_eq_get (zone : Zone) (row : Row) (connection : Option κ)
    (hdistinct : DistinctFields entity.fields) (hfield : field ∈ entity.fields) :
    (hydrate zone entity row connection).stored field.name
      = (hydrate zone entity row connection).get field.key := by
  rw [stored_hydrate_eq zone row connection hdistinct.names hfield,
    get_hydrate_eq zone row connection hdistinct.keys hfield]

theorem get_hydrate (zone : Zone) (connection : Option κ)
    (hdistinct : DistinctFields entity.fields) (hfield : field ∈ entity.fields)
    (hraw : row.get? field.name = some raw) :
    (hydrate zone entity row connection).get field.key = field.kind.coerce zone raw := by
  rw [get_hydrate_eq zone row connection hdistinct.keys hfield, Field.readFrom_of_get? zone hraw]

theorem stored_hydrate (zone : Zone) (connection : Option κ)
    (hdistinct : DistinctFields entity.fields) (hfield : field ∈ entity.fields)
    (hraw : row.get? field.name = some raw) :
    (hydrate zone entity row connection).stored field.name = field.kind.coerce zone raw := by
  rw [stored_hydrate_eq zone row connection hdistinct.names hfield,
    Field.readFrom_of_get? zone hraw]

/-- A record that is read from a row is new unless its primary key is truthy. -/
theorem isNew_hydrate_eq {pk : Field} (zone : Zone) (row : Row) (connection : Option κ)
    (hnames : (entity.fields.map Field.name).Nodup) (hpk : entity.pk? = some pk) :
    (hydrate zone entity row connection).isNew = !(pk.readFrom zone row).isTruthy := by
  have hstored := stored_hydrate_eq zone row connection hnames (EntityType.of_fieldOfKind? hpk).1
  have hentity : (hydrate zone entity row connection).entity.pk? = some pk := hpk
  rw [isNew, hentity]
  dsimp only
  rw [hstored]

/-- The record of a row with a truthy primary key is not new. -/
theorem isNew_hydrate {pk : Field} (zone : Zone) (connection : Option κ)
    (hdistinct : DistinctFields entity.fields) (hpk : entity.pk? = some pk)
    (hraw : row.get? pk.name = some raw) (htruthy : raw.isTruthy = true) :
    (hydrate zone entity row connection).isNew = false := by
  -- A primary key is held as it is stored, so it is as truthy in the snapshot as in the row.
  have hkind := (EntityType.of_fieldOfKind? hpk).2
  rw [isNew_hydrate_eq zone row connection hdistinct.names hpk, Field.readFrom_of_get? zone hraw,
    hkind, FieldKind.coerce, htruthy]
  rfl

end Record

end RowMapper
