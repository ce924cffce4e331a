import RowMapper.Proofs.Repository.Changes
import RowMapper.Proofs.Repository.Run
import RowMapper.Proofs.Sql.Alike

/-!
# `RowMapper.Proofs.Repository.Difference`: a difference is written, unless it does not show

A save of a stored record writes the fields whose literals differ from those of the snapshot.
`Repository.writes_difference` says this in terms of what is sent: a value whose form for binding is
another one than that of the snapshot is assigned to its column, unless the two values are written
alike (`Value.Alike`). In that case no statement assigns to the column.
-/

set_option autoImplicit false

namespace RowMapper

open RowMapper.Sql

variable {ι κ ω : Type}

namespace Repository

variable {repository : Repository ι κ} {record : Record ι κ} {backend : Backend κ ω} {now : Int64}

/-- Without validation only the hook before saving decides. -/
theorem allow_unvalidated (repository : Repository ι κ) (record : Record ι κ) :
    (repository.allow false record).1
      = (repository.hooks.beforeSave record repository.errors).accepts := rfl

theorem differs_iff {field : Field} (hkind : field.kind ≠ .pk)
    (htime : field.kind.isTimestamp = false) : differs record field = true ↔
      (record.get field.key).literal ≠ (record.stored field.name).literal := by
  simp [differs, hkind, htime]

namespace Effect

variable {world after : ω × List Exchange} {outcome : Outcome ι κ} {field : Field}

/-- What differs from the snapshot is sent in one UPDATE. -/
theorem sends_differing (h : Effect repository record backend.logged now world outcome after)
    (hstored : record.isNew = false) (hkeyed : repository.entity.pk?.isSome = true)
    (hplain : PlainFields repository.entity.fields)
    (hnames : (repository.entity.fields.map Field.name).Nodup)
    (hfield : field ∈ repository.entity.fields) (hdiffers : differs record field = true) :
    ∃ exchange pairs, after.2 = world.2 ++ [exchange] ∧ exchange.statement.isUpdate = true ∧
      assigned? repository.entity.table exchange.statement = some pairs ∧
      (field.name, (record.get field.key).bound) ∈ pairs := by
  have hmem : (field.name, record.get field.key) ∈ repository.written record now :=
    List.mem_append_left _ (mem_changed.2 ⟨field, hfield, hdiffers, rfl, rfl⟩)
  cases h with
  | inserted hnew | insertRejected hnew => exact absurd hnew (Bool.eq_false_iff.1 hstored)
  | keyless _ hpk =>
      rw [hpk] at hkeyed
      contradiction
  | unchanged _ _ hempty =>
      rw [(isEmpty_changes_iff _).1 hempty field hfield] at hdiffers
      contradiction
  | @updated pk _ _ _ _ hchanges hquery | @updateRejected pk _ _ _ _ hchanges hquery =>
      have hassigned := assigned?_updateStatement pk now hplain hnames hchanges
      have hupdate := repository.isUpdate_updateStatement record pk now
      exact ⟨⟨_, _⟩, _, Backend.logged_query hquery, hupdate, hassigned,
        List.mem_map.2 ⟨_, hmem, rfl⟩⟩

/-- To the column of a field that does not differ nothing is assigned. -/
theorem keeps_same (h : Effect repository record backend.logged now world outcome after)
    (hstored : record.isNew = false) (hplain : PlainFields repository.entity.fields)
    (hnames : (repository.entity.fields.map Field.name).Nodup)
    (hfield : field ∈ repository.entity.fields) (htime : field.kind.isTimestamp = false)
    (hsame : differs record field = false) :
    ∃ sent, after.2 = world.2 ++ sent ∧ ∀ exchange ∈ sent, ∀ pairs,
      assigned? repository.entity.table exchange.statement = some pairs →
        field.name ∉ pairs.map (·.1) := by
  obtain hnothing | ⟨pk, exchange, -, hchanges, hstatement, hsent⟩ := h.sent_of_stored hstored
  · exact ⟨[], by simpa using hnothing, by simp⟩
  · refine ⟨[exchange], hsent, ?_⟩
    intro other hother pairs hpairs
    rw [List.mem_singleton.1 hother, hstatement,
      assigned?_updateStatement pk now hplain hnames hchanges] at hpairs
    obtain rfl := Option.some.inj hpairs
    have hnot := not_mem_written now hnames hfield htime hsame
    simpa only [List.map_map, Function.comp_def] using hnot

end Effect

variable (repository record) in
/-- Let a stored record be saved without validation, and let the value of a field, defaults filled
in, be bound differently than the value in the snapshot. Then one UPDATE is sent, and it assigns the
value to the column of the field, unless the two values are written alike. If they are, nothing that
is sent assigns to the column. -/
theorem writes_difference (backend : Backend κ ω) (world : ω) (now : Int64)
    (hstored : record.isNew = false) (hkeyed : repository.entity.pk?.isSome = true)
    (hplain : PlainFields repository.entity.fields)
    (hnames : (repository.entity.fields.map Field.name).Nodup)
    (haccepts : (repository.hooks.beforeSave (repository.prepare record)
      repository.errors).accepts = true)
    {field : Field} (hfield : field ∈ repository.entity.fields) (hkind : field.kind ≠ .pk)
    (htime : field.kind.isTimestamp = false) :
    let value := (repository.prepare record).get field.key
    let read := record.stored field.name
    let log := (repository.saveUnvalidated backend.logged now record (world, [])).2.2
    value.bound.same read.bound = false →
    (¬ (value.Alike read ∨ read.Alike value) → ∃ exchange pairs, log = [exchange] ∧
      exchange.statement.isUpdate = true ∧
      assigned? repository.entity.table exchange.statement = some pairs ∧
      (field.name, value.bound) ∈ pairs) ∧
    (value.Alike read ∨ read.Alike value → ∀ exchange ∈ log, ∀ pairs,
      assigned? repository.entity.table exchange.statement = some pairs →
        field.name ∉ pairs.map (·.1)) := by
  intro value read log hbound
  have hprepare := kin_prepare repository record
  have hold : (repository.prepare record).isNew = false := hprepare.isNew_eq.trans hstored
  have heffect := store_effect repository record backend.logged now (world, [])
    ((allow_unvalidated repository _).trans haccepts)
  have hentity := (kin_allow repository (repository.prepare record) false).entity
  have hdiffers : differs (repository.prepare record) field = true ↔
      ¬ (value.Alike read ∨ read.Alike value) := by
    rw [differs_iff hkind htime, hprepare.stored_eq, Ne, Value.literal_eq_iff hbound]
  -- The hook leaves the entity as it is, and with it all that is known of the fields.
  rw [← hentity] at hkeyed hplain hnames hfield ⊢
  refine ⟨fun hshows => ?_, fun halike => ?_⟩
  · exact heffect.sends_differing hold hkeyed hplain hnames hfield (hdiffers.2 hshows)
  · have hsame : differs (repository.prepare record) field = false :=
      Bool.eq_false_iff.2 fun hd => hdiffers.1 hd halike
    obtain ⟨sent, hlog, hkeeps⟩ := heffect.keeps_same hold hplain hnames hfield htime hsame
    have hlog : log = sent := hlog
    rw [hlog]
    exact hkeeps

/-- A name that is changed is written. -/
theorem writes_difference_of_name :
    let repository : Repository Unit Unit := ⟨users, (), {}, .empty⟩
    let hydrated :=
      Record.hydrate .universal users ⟨[("id", .int 1), ("name", .string "Ada")]⟩ (some ())
    let log := (repository.saveUnvalidated (Backend.accepting 7).logged 0
      (hydrated.set "name" (.string "Bea")) ((), [])).2.2
    ∃ exchange pairs, log = [exchange] ∧ exchange.statement.isUpdate = true ∧
      assigned? "users" exchange.statement = some pairs ∧ ("name", .string "Bea") ∈ pairs := by
  intro repository hydrated log
  have hname : { kind := .string, name := "name" } ∈ users.fields := by simp [users]
  have h := writes_difference repository (hydrated.set "name" (.string "Bea"))
    (Backend.accepting 7) () 0 (by decide +kernel) rfl
    (by simp [PlainFields, PlainName, repository, users]) (by simp [repository, users]) rfl
    hname (by decide) rfl (by decide +kernel)
  -- Strings are among the values that are written alike only when they are equal.
  refine h.1 ?_
  rintro (halike | halike) <;> cases halike

/-- An entity with a document. -/
def notes : EntityType Unit :=
  ⟨"notes", [{ kind := .pk, name := "id" }, { kind := .json, name := "tags" }], []⟩

/-- A null that is replaced by the document null: the one is bound as null and the other as a text,
and yet nothing is sent. -/
theorem document_null_not_written :
    let repository : Repository Unit Unit := ⟨notes, (), {}, .empty⟩
    let hydrated := Record.hydrate .universal notes ⟨[("id", .int 1), ("tags", .null)]⟩ (some ())
    let record := hydrated.set "tags" (.json .null)
    record.isNew = false ∧ notes.pk?.isSome = true ∧ PlainFields notes.fields ∧
    (notes.fields.map Field.name).Nodup ∧
    { kind := .json, name := "tags" } ∈ notes.fields ∧
    (record.get "tags").bound.same (record.stored "tags").bound = false ∧
    (repository.saveUnvalidated (Backend.accepting 7).logged 0 record ((), [])).2.2 = [] :=
  ⟨by decide +kernel, rfl, by simp [PlainFields, PlainName, notes], by simp [notes],
    by simp [notes], by decide +kernel, by rfl⟩

end Repository

end RowMapper
