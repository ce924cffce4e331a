import RowMapper.Proofs.Repository.Loaded

/-!
# `RowMapper.Proofs.Record.Mapping`: a record and its row, column by column

A row may have a column twice and columns that no field declares, and may lack columns that one
does. The last value of a column counts (`Row.LastValue`, `Row.get?_eq_some_iff`).
`Record.isSome_foldl_enterField` says what is entered at all, and `Record.hydrate_restrict` that no
more of a row matters than the declared columns. `Record.hydrate_maps_row` is the whole of it: which
keys and columns a record has, with which values, and when it counts as new.
-/

set_option autoImplicit false

namespace RowMapper

open RowMapper.Calendar

variable {ι κ : Type}

/-! ### Rows -/

namespace Row

variable {row : Row} {name : String} {raw : Value}

/-- The row has this value in the last of its columns of this name. -/
def LastValue (row : Row) (name : String) (raw : Value) : Prop :=
  ∃ front back, row.columns = front ++ (name, raw) :: back ∧ ∀ column ∈ back, column.1 ≠ name

theorem get?_eq_some_iff : row.get? name = some raw ↔ row.LastValue name raw := by
  rw [get?, List.lookup_eq_some_iff]
  constructor
  -- The search goes from the end, so what it has passed stands behind the value in the row.
  · rintro ⟨behind, front, hcolumns, hbehind⟩
    refine ⟨front.reverse, behind.reverse, ?_, fun column hcolumn => ?_⟩
    · rw [← List.reverse_reverse row.columns, hcolumns]
      simp
    · exact (bne_iff_ne.1 (hbehind column (List.mem_reverse.1 hcolumn))).symm
  · rintro ⟨front, back, hcolumns, hback⟩
    refine ⟨back.reverse, front.reverse, by simp [hcolumns], fun column hcolumn => ?_⟩
    exact bne_iff_ne.2 (hback column (List.mem_reverse.1 hcolumn)).symm

theorem contains_eq_isSome (row : Row) (name : String) :
    row.contains name = (row.get? name).isSome := by
  cases hraw : row.get? name with
  | none =>
      rw [get?, List.lookup_eq_none_iff] at hraw
      refine List.any_eq_false.2 fun column hcolumn hsame => ?_
      exact bne_iff_ne.1 (hraw column (List.mem_reverse.2 hcolumn)) (beq_iff_eq.1 hsame).symm
  | some raw =>
      obtain ⟨front, back, hcolumns, -⟩ := get?_eq_some_iff.1 hraw
      exact List.any_eq_true.2 ⟨(name, raw), by simp [hcolumns], beq_self_eq_true name⟩

/-- The row without the columns of other names. -/
def restrict (row : Row) (names : List String) : Row :=
  ⟨row.columns.filter fun column => column.1 ∈ names⟩

theorem get?_restrict {names : List String} (h : name ∈ names) (row : Row) :
    (row.restrict names).get? name = row.get? name := by
  unfold get? restrict
  rw [← List.filter_reverse]
  induction row.columns.reverse with
  | nil => rfl
  | cons column rest ih =>
      by_cases hsame : name = column.1
      -- A column of this name is kept; any other is passed over, kept or not.
      · rw [List.filter_cons_of_pos (by simpa [← hsame] using h), List.lookup_cons,
          List.lookup_cons, ih]
      · rw [List.lookup_cons, beq_false_of_ne hsame, List.filter_cons]
        split
        · rw [List.lookup_cons, beq_false_of_ne hsame]
          exact ih
        · exact ih

end Row

/-! ### Records -/

namespace Record

/-- A field is entered under its label if the row has its column. -/
theorem isSome_enterField (label : Field → String) (zone : Zone) (row : Row)
    (entries : SortedMap Value) (field : Field) (name : String) :
    ((enterField label zone row entries field).get? name).isSome = true ↔
      (entries.get? name).isSome = true ∨
        (label field = name ∧ row.contains field.name = true) := by
  unfold enterField
  rw [Row.contains_eq_isSome]
  cases row.get? field.name with
  | none => simp
  | some raw =>
      by_cases hname : name = label field
      · simp [hname]
      · simp [SortedMap.get?_insert_of_ne _ _ hname, Ne.symm hname]

/-- What is entered under a name: a field with this label of which the row has the column. -/
theorem isSome_foldl_enterField (label : Field → String) (zone : Zone) (row : Row)
    (fields : List Field) (entries : SortedMap Value) (name : String) :
    ((fields.foldl (enterField label zone row) entries).get? name).isSome = true ↔
      (entries.get? name).isSome = true ∨
        ∃ field ∈ fields, label field = name ∧ row.contains field.name = true := by
  -- Over any entries, since the first field has left its own when the others are entered.
  induction fields generalizing entries with
  | nil => simp
  | cons field rest ih =>
      rw [List.foldl_cons, ih, isSome_enterField, or_assoc]
      simp only [List.mem_cons, exists_eq_or_imp]

variable {entity : EntityType ι} {row : Row} {field : Field}

/-- The snapshot has the declared columns of the row. -/
theorem exists_snapshot_hydrate (zone : Zone) (entity : EntityType ι) (row : Row)
    (connection : Option κ) :
    ∃ snapshot, (hydrate zone entity row connection).snapshot = some snapshot ∧
      ∀ name, snapshot.contains name = true ↔
        row.contains name = true ∧ ∃ field ∈ entity.fields, field.name = name := by
  refine ⟨_, rfl, fun name => ?_⟩
  rw [foldl_readFields, SortedMap.contains, isSome_foldl_enterField]
  constructor
  · rintro (hentries | ⟨field, hfield, rfl, hcolumn⟩)
    · cases hentries
    · exact ⟨hcolumn, field, hfield, rfl⟩
  · rintro ⟨hcolumn, field, hfield, rfl⟩
    exact .inr ⟨field, hfield, rfl, hcolumn⟩

/-- A record has the keys of the fields of which the row has the column. -/
theorem contains_hydrate (zone : Zone) (entity : EntityType ι) (row : Row)
    (connection : Option κ) (key : String) :
    (hydrate zone entity row connection).contains key = true ↔
      ∃ field ∈ entity.fields, field.key = key ∧ row.contains field.name = true := by
  rw [contains, hydrate]
  dsimp only
  rw [foldl_readFields, SortedMap.contains, isSome_foldl_enterField]
  exact or_iff_right (by simp [EmptyCollection.emptyCollection])

theorem get_of_not_contains {record : Record ι κ} {key : String}
    (h : record.contains key = false) : record.get key = .null := by
  rw [get, Option.not_isSome_iff_eq_none.1 (Bool.eq_false_iff.1 h), Option.getD_none]

/-- Only the declared columns of a row matter. -/
theorem hydrate_restrict (zone : Zone) (entity : EntityType ι) (row : Row)
    (connection : Option κ) :
    hydrate zone entity (row.restrict (entity.fields.map Field.name)) connection
      = hydrate zone entity row connection := by
  have hread : entity.fields.foldl (readFields zone (row.restrict (entity.fields.map Field.name)))
        (∅, ∅)
      = entity.fields.foldl (readFields zone row) (∅, ∅) := by
    refine List.foldl_ext _ _ _ fun read field hfield => ?_
    rw [readFields, readFields, Row.get?_restrict (List.mem_map_of_mem hfield)]
  rw [hydrate, hydrate, hread]

/-- A record without a primary key is never new once it has been read. -/
theorem isNew_hydrate_of_keyless (hpk : entity.pk? = none) (zone : Zone) (row : Row)
    (connection : Option κ) :
    (hydrate zone entity row connection).isNew = false := by
  have hentity : (hydrate zone entity row connection).entity.pk? = none := hpk
  rw [isNew, hentity]
  rfl

/-- A record of a row is new if the primary key is not in the row or is falsy there. -/
theorem isNew_hydrate_iff (zone : Zone) (row : Row) (connection : Option κ)
    (hnames : (entity.fields.map Field.name).Nodup) :
    (hydrate zone entity row connection).isNew = true ↔ ∃ pk, entity.pk? = some pk ∧
      (row.contains pk.name = false ∨
        ∃ raw, row.LastValue pk.name raw ∧ (pk.kind.coerce zone raw).isTruthy = false) := by
  cases hpk : entity.pk? with
  | none => simp [isNew_hydrate_of_keyless hpk]
  | some pk =>
      rw [isNew_hydrate_eq zone row connection hnames hpk]
      simp only [← Row.get?_eq_some_iff, Row.contains_eq_isSome, Option.some.injEq,
        exists_eq_left']
      cases hraw : row.get? pk.name with
      | none => simp [Field.readFrom, hraw, Value.isTruthy]
      | some raw => simp [Field.readFrom_of_get? zone hraw]

/-- Let no two fields share a key or a column. The record of a row has in its snapshot the columns
that are declared and in the row, and has the keys of their fields; both hold the last value of the
column, read in the way of the field's kind. All other keys and columns read as null, and columns
that are not declared leave no trace. The record is new if a primary key is declared that is not in
the row or is falsy there. -/
theorem hydrate_maps_row (zone : Zone) (row : Row) (connection : Option κ)
    (hdistinct : DistinctFields entity.fields) :
    let record := hydrate zone entity row connection
    (∃ snapshot, record.snapshot = some snapshot ∧ ∀ name, snapshot.contains name = true ↔
      row.contains name = true ∧ ∃ field ∈ entity.fields, field.name = name) ∧
    (∀ key, record.contains key = true ↔
      ∃ field ∈ entity.fields, field.key = key ∧ row.contains field.name = true) ∧
    (∀ field ∈ entity.fields, ∀ raw, row.LastValue field.name raw →
      record.get field.key = field.kind.coerce zone raw ∧
      record.stored field.name = field.kind.coerce zone raw) ∧
    (∀ key, (∀ field ∈ entity.fields, row.contains field.name = true → field.key ≠ key) →
      record.get key = .null) ∧
    (∀ name, (∀ field ∈ entity.fields, row.contains field.name = true → field.name ≠ name) →
      record.stored name = .null) ∧
    hydrate zone entity (row.restrict (entity.fields.map Field.name)) connection = record ∧
    (record.isNew = true ↔ ∃ pk, entity.pk? = some pk ∧ (row.contains pk.name = false ∨
      ∃ raw, row.LastValue pk.name raw ∧ (pk.kind.coerce zone raw).isTruthy = false)) := by
  intro record
  obtain ⟨snapshot, hsnapshot, hcolumns⟩ := exists_snapshot_hydrate zone entity row connection
  refine ⟨⟨snapshot, hsnapshot, hcolumns⟩, contains_hydrate zone entity row connection,
    fun field hfield raw hraw => ?_, fun key hother => ?_, fun name hother => ?_,
    hydrate_restrict zone entity row connection,
    isNew_hydrate_iff zone row connection hdistinct.names⟩
  · have hget := Row.get?_eq_some_iff.2 hraw
    exact ⟨get_hydrate zone connection hdistinct hfield hget,
      stored_hydrate zone connection hdistinct hfield hget⟩
  · refine get_of_not_contains (Bool.eq_false_iff.2 fun hcontains => ?_)
    obtain ⟨field, hfield, hkey, hcolumn⟩ := (contains_hydrate ..).1 hcontains
    exact hother field hfield hcolumn hkey
  · have hnone : snapshot.contains name = false := by
      refine Bool.eq_false_iff.2 fun hcontains => ?_
      obtain ⟨hcolumn, field, hfield, rfl⟩ := (hcolumns name).1 hcontains
      exact hother field hfield hcolumn rfl
    rw [stored, hsnapshot, Option.bind_some,
      Option.not_isSome_iff_eq_none.1 (Bool.eq_false_iff.1 hnone), Option.getD_none]

/-- The record of a row with a column twice, one that is not declared, and none for the room. -/
theorem hydrate_maps_row_guest :
    let guest : Record Unit Unit := .hydrate .universal Repository.guests Repository.guestRow none
    guest.get "id" = .int 7 ∧ guest.get "name" = .string "Grace" ∧
      guest.stored "full_name" = .string "Grace" ∧ guest.get "full_name" = .null ∧
      guest.stored "visits" = .null ∧ guest.contains "room" = false ∧ guest.isNew = false := by
  intro guest
  obtain ⟨-, hkeys, hvalues, hothers, hcolumns, -, hnew⟩ := hydrate_maps_row .universal
    Repository.guestRow (none : Option Unit) Repository.loadsFrom_guestRow.distinct
  -- The second of the two columns counts.
  have hid : Repository.guestRow.LastValue "id" (.int 7) := ⟨[("id", .int 0)], _, rfl, by simp⟩
  have hname : Repository.guestRow.LastValue "full_name" (.string "Grace") :=
    ⟨[("id", .int 0), ("id", .int 7)], _, rfl, by simp⟩
  have hkey := hvalues { kind := .pk, name := "id" } (by simp [Repository.guests]) _ hid
  have hnamed := hvalues
    { kind := .string, name := "full_name", aliasName := some "name",
      default := some (.string "nobody") } (by simp [Repository.guests]) _ hname
  refine ⟨hkey.1, hnamed.1, hnamed.2, hothers _ ?_, hcolumns _ ?_, Bool.eq_false_iff.2 ?_,
    Bool.eq_false_iff.2 ?_⟩
  · simp [Repository.guests, Field.key]
  · simp [Repository.guests]
  · rw [Ne, hkeys]
    simp [Repository.guests, Field.key, Repository.guestRow, Row.contains]
  · rw [Ne, hnew]
    rintro ⟨pk, hpk, hfalsy⟩
    obtain rfl := Option.some.inj hpk
    rcases hfalsy with hmissing | ⟨raw, hraw, hfalsy⟩
    · simp [Repository.guestRow, Row.contains] at hmissing
    · obtain rfl := Option.some.inj
        ((Row.get?_eq_some_iff.2 hraw).symm.trans (Row.get?_eq_some_iff.2 hid))
      simp [FieldKind.coerce, Value.isTruthy] at hfalsy

end Record

end RowMapper
