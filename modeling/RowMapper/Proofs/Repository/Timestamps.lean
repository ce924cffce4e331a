import RowMapper.Proofs.Entity.Timestamp
import RowMapper.Proofs.Repository.Document

/-!
# `RowMapper.Proofs.Repository.Timestamps`: the unit of times

A timestamp is stored in seconds, and a record that is loaded holds it in milliseconds
(`FieldKind.coerce_seconds`). The time that a save puts in is in seconds again, but a time that the
record holds is bound as it is. So the unit depends on which timestamps a statement writes:

* An UPDATE writes the time of the change and no other timestamp
  (`Repository.given?_updateStatement_time`).
* An INSERT writes the time of creation (`Repository.given?_insertStatement_created`) and of every
  other timestamp what the record holds (`Repository.given?_insertStatement_held`).

`Repository.timestamps_of_save` says what this comes to for a record that is loaded from a row. The
case of an INSERT arises from a row without a primary key, as its record is new.
-/

set_option autoImplicit false

namespace RowMapper

open RowMapper.Sql RowMapper.Calendar

variable {ι κ ω : Type}

/-! ### Seconds and milliseconds -/

theorem FieldKind.ne_pk_of_isTimestamp {kind : FieldKind} (h : kind.isTimestamp = true) :
    kind ≠ .pk := by
  rintro rfl
  contradiction

/-- A timestamp is read as milliseconds; zero is none. -/
theorem FieldKind.coerce_seconds {kind : FieldKind} (htime : kind.isTimestamp = true)
    {seconds millis : Int64} (hfits : millis.toInt = 1000 * seconds.toInt) (zone : Zone) :
    kind.coerce zone (.int seconds) = if seconds = 0 then .null else .int millis := by
  rw [coerce_of_isTimestamp htime]
  split
  case isTrue hzero =>
    rw [hzero]
    rfl
  case isFalse hsome =>
    have hne : seconds.toInt ≠ 0 := fun hzero => hsome (Int64.toInt_inj.1 hzero)
    exact millis_eq_int_iff_denotes.2 ⟨_, .int seconds, hne, hfits⟩

/-- In the columns of timestamps the row has seconds, if it has them at all, and they fit as
milliseconds. -/
def EntityType.SecondsIn (entity : EntityType ι) (row : Row) : Prop :=
  ∀ field ∈ entity.fields, field.kind.isTimestamp = true →
    ∀ raw, row.get? field.name = some raw →
      ∃ seconds millis : Int64, raw = .int seconds ∧ millis.toInt = 1000 * seconds.toInt

namespace Repository

variable {repository : Repository ι κ} {record : Record ι κ} {field : Field}

/-! ### What the statements give to timestamps -/

/-- An UPDATE gives a timestamp nothing but the time of the change. -/
theorem given?_updateStatement_time (hplain : PlainFields repository.entity.fields)
    (hnames : (repository.entity.fields.map Field.name).Nodup) {pk : Field}
    (hchanges : (repository.changes pk record).isEmpty = false)
    (hfield : field ∈ repository.entity.fields) (htime : field.kind.isTimestamp = true)
    (now : Int64) (value : Value) :
    (repository.updateStatement record pk now).given? repository.entity.table field.name
        = some value ↔
      repository.entity.fieldOfKind? .updatedAt = some field ∧ value = .int now := by
  have hupdate := repository.isUpdate_updateStatement record pk now
  rw [Statement.given?, hupdate, if_pos rfl,
    assigned?_updateStatement pk now hplain hnames hchanges, Option.bind_some]
  constructor
  · intro hlookup
    obtain ⟨⟨column, written⟩, hmem, heq⟩ := List.mem_map.1 (mem_of_lookup hlookup)
    obtain ⟨rfl, rfl⟩ := Prod.mk.inj heq
    rcases List.mem_append.1 hmem with hchanged | hstamp
    · -- Timestamps are not compared.
      have hsame : differs record field = false := by simp [differs, htime]
      exact absurd (List.mem_map.2 ⟨_, hchanged, rfl⟩) (not_mem_changed hnames hfield hsame)
    · obtain ⟨stamped, hstamped, hname, rfl⟩ := (mem_changeTime now).1 hstamp
      have hmember := (EntityType.of_fieldOfKind? hstamped).1
      obtain rfl := List.inj_on_of_nodup_map hnames hmember hfield hname
      exact ⟨hstamped, rfl⟩
  · rintro ⟨hstamped, rfl⟩
    have hstamp := (mem_changeTime now).2 ⟨field, hstamped, rfl, rfl⟩
    refine lookup_of_mem ?_ (List.mem_map.2 ⟨_, List.mem_append_right _ hstamp, rfl⟩)
    rw [List.map_map]
    exact distinct_written now hnames

/-- The time of creation is the time of the INSERT. -/
theorem given?_insertStatement_created (hplain : PlainFields repository.entity.fields)
    (hnames : (repository.entity.fields.map Field.name).Nodup)
    (hcreated : repository.entity.fieldOfKind? .createdAt = some field) (now : Int64) :
    (repository.insertStatement record now).given? repository.entity.table field.name
      = some (.int now) := by
  obtain ⟨hfield, hkind⟩ := EntityType.of_fieldOfKind? hcreated
  rw [given?_insertStatement record hnames hplain hfield (by rw [hkind]; decide) now,
    get_stamp_self record hcreated]
  rfl

/-- To any other timestamp the INSERT gives what the record holds. -/
theorem given?_insertStatement_held (hplain : PlainFields repository.entity.fields)
    (hdistinct : DistinctFields repository.entity.fields)
    (hfield : field ∈ repository.entity.fields) (hkind : field.kind ≠ .pk)
    (hother : repository.entity.fieldOfKind? .createdAt ≠ some field) (now : Int64) :
    (repository.insertStatement record now).given? repository.entity.table field.name
      = if (record.get field.key).isNull then none else some (record.get field.key).bound := by
  have hheld : (repository.stamp .createdAt now record).get field.key = record.get field.key := by
    refine get_stamp_of_ne fun stamped hstamped hkey => hother ?_
    have hmember := (EntityType.of_fieldOfKind? hstamped).1
    rw [hstamped, List.inj_on_of_nodup_map hdistinct.keys hmember hfield hkey.symm]
  rw [given?_insertStatement record hdistinct.names hplain hfield hkind now, hheld]

/-! ### What a save sends of a loaded record -/

/-- Of a stored record nothing is sent but the UPDATE of what differs. -/
theorem update_of_sent {validated : Bool} {backend : Backend κ ω} {now : Int64} {world : ω}
    (hstored : record.isNew = false) {exchange : Exchange}
    (hsent : exchange ∈ (repository.store backend.logged now validated record (world, [])).2.2) :
    ∃ pk, (repository.changes pk (repository.prepare record)).isEmpty = false ∧
      exchange.statement = repository.updateStatement (repository.prepare record) pk now := by
  obtain ⟨allowed, hkin, hrefused | heffect⟩ := store_cases repository record backend.logged now
    (world, []) validated
  · rw [hrefused] at hsent
    contradiction
  · have hprepared := (kin_prepare repository record).isNew_eq.trans hstored
    obtain hnothing | ⟨pk, other, -, hchanges, hstatement, hlog⟩ := heffect.sent_of_stored hprepared
    · rw [hnothing] at hsent
      contradiction
    · rw [hlog] at hsent
      obtain rfl := List.mem_singleton.1 hsent
      rw [isEmpty_changes, changed, hkin.entity] at hchanges
      exact ⟨pk, (isEmpty_changes repository pk _).trans hchanges,
        hstatement.trans (updateStatement_congr hkin.entity pk now)⟩

/-- A timestamp under whose key nothing is set is held in milliseconds. -/
theorem get_prepare_seconds {zone : Zone} {row : Row}
    (hkeys : (repository.entity.fields.map Field.key).Nodup)
    (hfield : field ∈ repository.entity.fields) (htime : field.kind.isTimestamp = true)
    {seconds millis : Int64} (hrow : row.get? field.name = some (.int seconds))
    (hfits : millis.toInt = 1000 * seconds.toInt) (hsome : seconds ≠ 0) (connection : Option κ)
    {sets : List (String × Value)} (hunset : ∀ pair ∈ sets, pair.1 ≠ field.key) :
    (repository.prepare ((Record.hydrate zone repository.entity row connection).setAll sets)).get
      field.key = .int millis := by
  have hread : field.readFrom zone row = .int millis := by
    rw [Field.readFrom_of_get? zone hrow, FieldKind.coerce_seconds htime hfits, if_neg hsome]
  rw [get_prepare_setAll hkeys hfield, Record.lastSet?_of_forall_ne hunset, Option.getD_none, hread]
  exact Field.orDefault_of_filled fun _ => rfl

/-- A timestamp that the row does not have is null, if it has no default. -/
theorem get_prepare_no_seconds {zone : Zone} {row : Row}
    (hkeys : (repository.entity.fields.map Field.key).Nodup)
    (hfield : field ∈ repository.entity.fields) (htime : field.kind.isTimestamp = true)
    (hrow : ∀ raw, row.get? field.name = some raw → raw = .int 0) (hdefault : field.default = none)
    (connection : Option κ) {sets : List (String × Value)}
    (hunset : ∀ pair ∈ sets, pair.1 ≠ field.key) :
    (repository.prepare ((Record.hydrate zone repository.entity row connection).setAll sets)).get
      field.key = .null := by
  have hread : field.readFrom zone row = .null := by
    cases hcolumn : row.get? field.name with
    | none => rw [Field.readFrom, hcolumn, Option.map_none, Option.getD_none]
    | some raw =>
        obtain rfl := hrow raw hcolumn
        have hzero : (0 : Int64).toInt = 1000 * (0 : Int64).toInt := by decide
        rw [Field.readFrom_of_get? zone hcolumn, FieldKind.coerce_seconds htime hzero, if_pos rfl]
  rw [get_prepare_setAll hkeys hfield, Record.lastSet?_of_forall_ne hunset, Option.getD_none, hread,
    Field.orDefault, hdefault]
  rfl

/-- Let a record be loaded from a row that has seconds for timestamps, and let it be saved, nothing
being set under the key of a timestamp. If the record is stored, a statement gives timestamps
nothing but the time of the change, in seconds. If it is new and not refused, one statement is sent.
It gives the time of creation in seconds, and every other timestamp in milliseconds: a thousand
times what is in the row, or nothing if that is zero or not there and there is no default. -/
theorem timestamps_of_save (repository : Repository ι κ)
    (hdistinct : DistinctFields repository.entity.fields)
    (hplain : PlainFields repository.entity.fields) (zone : Zone) {row : Row}
    (hseconds : repository.entity.SecondsIn row) (connection : Option κ)
    {sets : List (String × Value)} (hunset : ∀ field ∈ repository.entity.fields,
      field.kind.isTimestamp = true → ∀ pair ∈ sets, pair.1 ≠ field.key)
    (backend : Backend κ ω) (now : Int64) (validated : Bool) (world : ω) :
    let record := (Record.hydrate zone repository.entity row connection).setAll sets
    let sent := (repository.store backend.logged now validated record (world, [])).2.2
    (record.isNew = false → ∀ exchange ∈ sent, ∀ field ∈ repository.entity.fields,
      field.kind.isTimestamp = true → ∀ value,
        exchange.statement.given? repository.entity.table field.name = some value ↔
          repository.entity.fieldOfKind? .updatedAt = some field ∧ value = .int now) ∧
    (record.isNew = true → ¬ repository.Refuses (repository.prepare record) validated →
      ∃ exchange, sent = [exchange] ∧ ∀ field ∈ repository.entity.fields,
        field.kind.isTimestamp = true →
        let given := exchange.statement.given? repository.entity.table field.name
        (repository.entity.fieldOfKind? .createdAt = some field → given = some (.int now)) ∧
        (repository.entity.fieldOfKind? .createdAt ≠ some field →
          (∀ seconds : Int64, row.get? field.name = some (.int seconds) → seconds ≠ 0 →
            ∃ millis : Int64, millis.toInt = 1000 * seconds.toInt ∧ given = some (.int millis)) ∧
          ((∀ raw, row.get? field.name = some raw → raw = .int 0) → field.default = none →
            given = none))) := by
  intro record sent
  refine ⟨fun hstored exchange hsent field hfield htime value => ?_, fun hnew hallowed => ?_⟩
  · -- Whatever is sent of a stored record is an UPDATE.
    obtain ⟨pk, hchanges, hstatement⟩ := update_of_sent hstored hsent
    rw [hstatement]
    exact given?_updateStatement_time hplain hdistinct.names hchanges hfield htime now value
  · obtain ⟨exchange, hsent, hstatement⟩ := sent_of_new backend now world hnew hallowed
    refine ⟨exchange, hsent, fun field hfield htime => ?_⟩
    rw [hstatement]
    refine ⟨fun hcreated => given?_insertStatement_created hplain hdistinct.names hcreated now,
      fun hother => ?_⟩
    rw [given?_insertStatement_held hplain hdistinct hfield
      (FieldKind.ne_pk_of_isTimestamp htime) hother now]
    -- What is left is what the record holds, and hydration has changed its unit.
    refine ⟨fun seconds hrow hsome => ?_, fun hrow hdefault => ?_⟩
    · obtain ⟨other, millis, hsame, hfits⟩ := hseconds field hfield htime _ hrow
      obtain rfl := Value.int.inj hsame
      refine ⟨millis, hfits, ?_⟩
      rw [get_prepare_seconds hdistinct.keys hfield htime hrow hfits hsome connection
        (hunset field hfield htime)]
      rfl
    · rw [get_prepare_no_seconds hdistinct.keys hfield htime hrow hdefault connection
        (hunset field hfield htime)]
      rfl

/-- Letters with the times of their creation and of their last change. -/
def letters : EntityType Unit :=
  ⟨"letters", [{ kind := .pk, name := "id" }, { kind := .string, name := "subject" },
    { kind := .createdAt, name := "created_at" }, { kind := .updatedAt, name := "updated_at" }], []⟩

/-- A repository of letters. -/
def letterRepository : Repository Unit Unit :=
  ⟨letters, (), {}, .empty⟩

/-- A row of a letter that has been changed a minute after its creation, read without its key. -/
def letterRow : Row :=
  ⟨[("subject", .string "picnic"), ("created_at", .int 1500000000),
    ("updated_at", .int 1500000060)]⟩

theorem secondsIn_letterRow : letters.SecondsIn letterRow := by
  simp only [EntityType.SecondsIn, letters, List.forall_mem_cons]
  refine ⟨fun h => absurd h (by decide), fun h => absurd h (by decide), ?_, ?_, by simp⟩
  · rintro - raw hrow
    exact ⟨1500000000, 1500000000000, (Option.some.inj hrow).symm, by decide⟩
  · rintro - raw hrow
    exact ⟨1500000060, 1500000060000, (Option.some.inj hrow).symm, by decide⟩

/-- A letter is saved under a new key: the time of its creation is that of the save, in seconds, and
the time of its last change is in milliseconds. -/
theorem timestamps_of_save_letter :
    let record :=
      (Record.hydrate .universal letters letterRow none).setAll [("subject", .string "garden")]
    let sent := (letterRepository.saveUnvalidated (Backend.accepting 7).logged 1700000000 record
      ((), [])).2.2
    ∃ exchange, sent = [exchange] ∧
      exchange.statement.given? "letters" "created_at" = some (.int 1700000000) ∧
      exchange.statement.given? "letters" "updated_at" = some (.int 1500000060000) := by
  intro record sent
  have hunset : ∀ field ∈ letters.fields, field.kind.isTimestamp = true →
      ∀ pair ∈ [("subject", Value.string "garden")], pair.1 ≠ field.key := by
    simp [letters, Field.key, FieldKind.isTimestamp]
  have hnot : ¬ letterRepository.Refuses (letterRepository.prepare record) false :=
    (allow_eq_true_iff ..).1 (by decide +kernel)
  obtain ⟨-, hnew⟩ := timestamps_of_save letterRepository
    ⟨by simp [letterRepository, letters, Field.key], by simp [letterRepository, letters]⟩
    (by simp [PlainFields, PlainName, letterRepository, letters]) .universal secondsIn_letterRow
    none hunset (Backend.accepting 7) 1700000000 false ()
  obtain ⟨exchange, hsent, hgiven⟩ := hnew (by decide +kernel) hnot
  refine ⟨exchange, hsent, ?_, ?_⟩
  · exact (hgiven { kind := .createdAt, name := "created_at" } (by simp [letterRepository, letters])
      (by rfl)).1 (by rfl)
  · obtain ⟨-, hother⟩ := hgiven { kind := .updatedAt, name := "updated_at" }
      (by simp [letterRepository, letters]) (by rfl)
    obtain ⟨millis, hmillis, hgiven⟩ := (hother (by simp [letterRepository, letters,
      EntityType.fieldOfKind?])).1 1500000060 (by rfl) (by decide)
    have hsame : millis = 1500000060000 := Int64.toInt_inj.1 (hmillis.trans (by decide))
    rw [← hsame]
    exact hgiven

/-- What such a save puts into the column of the last change is neither the time of the save nor
what is in the row. -/
theorem letter_saved_in_milliseconds :
    let record := Record.hydrate .universal letters letterRow none
    let statement : Statement :=
      ⟨"INSERT INTO letters (`subject`, `created_at`, `updated_at`) VALUES (?, ?, ?);",
        [.string "picnic", .int 1700000000, .int 1500000060000]⟩
    let sent := (letterRepository.saveUnvalidated (Backend.accepting 7).logged 1700000000 record
      ((), [])).2.2
    DistinctFields letters.fields ∧ letters.SecondsIn letterRow ∧
    sent.map (·.statement) = [statement] ∧
    statement.given? "letters" "updated_at" = some (.int 1500000060000) ∧
    letterRow.get? "updated_at" = some (.int 1500000060) ∧
    ¬ ((.int 1500000060000 : Value) = .int 1700000000 ∨
      letterRow.get? "updated_at" = some (.int 1500000060000)) := by
  have hrow : letterRow.get? "updated_at" = some (.int 1500000060) := by rfl
  refine ⟨⟨by simp [letters, Field.key], by simp [letters]⟩, secondsIn_letterRow, by rfl, by rfl,
    hrow, ?_⟩
  rw [hrow]
  simp

end Repository

end RowMapper
