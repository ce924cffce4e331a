import RowMapper.Repository.Basic

/-!
# `RowMapper.Proofs.Repository.Store`: what a save can do

`Repository.store` goes through defaults, validation, hooks, and then an insertion or an update.
`Effect` lists the ways in which this can end, each with what was sent, and `store_effect` says that
there are no others. Later proofs take a save apart by cases on its effect.

A save changes the values of the record, its connection and the messages of the repository. It
leaves the entity and the snapshot (`Record.Kin`) and the rest of the repository
(`Repository.Kin`) as they are: `Effect.kin` and `Effect.repository_kin`.
-/

set_option autoImplicit false

namespace RowMapper

variable {ι κ ω : Type}

/-! ### What stays -/

/-- The two records are of one entity and have the same snapshot. -/
structure Record.Kin (record other : Record ι κ) : Prop where
  entity : other.entity = record.entity
  snapshot : other.snapshot = record.snapshot

namespace Record.Kin

theorem refl (record : Record ι κ) : record.Kin record := ⟨rfl, rfl⟩

theorem trans {first second third : Record ι κ} (h : first.Kin second) (k : second.Kin third) :
    first.Kin third :=
  ⟨k.entity.trans h.entity, k.snapshot.trans h.snapshot⟩

/-- The snapshot alone tells what was read from storage. -/
theorem stored_eq {record other : Record ι κ} (h : record.Kin other) (column : String) :
    other.stored column = record.stored column := by
  rw [Record.stored, Record.stored, h.snapshot]

/-- Whether a record is new depends on its snapshot, and not on its values. -/
theorem isNew_eq {record other : Record ι κ} (h : record.Kin other) :
    other.isNew = record.isNew := by
  simp only [Record.isNew, h.entity, h.snapshot, h.stored_eq]

theorem set (record : Record ι κ) (key : String) (value : Value) :
    record.Kin (record.set key value) := ⟨rfl, rfl⟩

theorem attach (record : Record ι κ) (connection : κ) : record.Kin (record.attach connection) :=
  ⟨rfl, rfl⟩

end Record.Kin

theorem Record.isNew_blank (entity : EntityType ι) :
    (Record.blank entity : Record ι κ).isNew = true := by
  unfold isNew
  split <;> rfl

/-- The two repositories differ in their messages only. -/
structure Repository.Kin (repository other : Repository ι κ) : Prop where
  entity : other.entity = repository.entity
  connection : other.connection = repository.connection
  hooks : other.hooks = repository.hooks

theorem Repository.Kin.trans {first second third : Repository ι κ} (h : first.Kin second)
    (k : second.Kin third) : first.Kin third :=
  ⟨k.entity.trans h.entity, k.connection.trans h.connection, k.hooks.trans h.hooks⟩

namespace Repository

open Record (Kin)

variable (repository : Repository ι κ) (record : Record ι κ)

theorem kin_fillDefault (field : Field) : record.Kin (fillDefault record field) := by
  unfold fillDefault
  split
  · split
    · exact .set record _ _
    · exact .refl record
  · exact .refl record

theorem kin_prepare : record.Kin (repository.prepare record) := by
  unfold prepare
  -- One field after the other is filled in, so the record is not fixed in the induction.
  induction repository.entity.fields generalizing record with
  | nil => exact .refl record
  | cons field rest ih => exact (kin_fillDefault record field).trans (ih _)

theorem kin_stamp (kind : FieldKind) (now : Int64) :
    record.Kin (repository.stamp kind now record) := by
  unfold stamp
  split
  · exact .set record _ _
  · exact .refl record

theorem kin_takeKey (output : Output) : record.Kin (repository.takeKey output record) := by
  unfold takeKey
  split
  · exact .set record _ _
  · exact .refl record

theorem takeKey_eq {repository : Repository ι κ} {record : Record ι κ} {pk : Field}
    (hpk : repository.entity.pk? = some pk) (result : WriteResult) :
    repository.takeKey (.write result) record
      = record.set pk.key (.int result.lastInsertedId) := by
  unfold takeKey
  rw [hpk]
  rfl

theorem kin_heed (verdict : Verdict) (refusal : String) :
    repository.Kin (repository.heed verdict refusal).2 := ⟨rfl, rfl, rfl⟩

theorem kin_validate : repository.Kin (repository.validate record).2 := by
  have h := kin_heed repository (repository.hooks.beforeValidate record repository.errors)
    "Presented problems before validating"
  -- The rules of the fields are only asked when the hook accepts, and they add messages to what
  -- the hook leaves.
  unfold validate
  dsimp only
  split
  · rename_i heq
    rw [heq] at h
    exact h
  · rename_i heq
    rw [heq] at h
    exact h.trans ⟨rfl, rfl, rfl⟩

theorem kin_allow (validated : Bool) : repository.Kin (repository.allow validated record).2 := by
  have h : repository.Kin
      (if validated then repository.validate record else (true, repository)).2 := by
    split
    · exact kin_validate repository record
    · exact ⟨rfl, rfl, rfl⟩
  unfold allow
  split
  · rename_i heq
    rw [heq] at h
    exact h
  · rename_i heq
    rw [heq] at h
    exact h.trans (kin_heed ..)

/-! ### What is sent -/

/-- The INSERT of a save at this time. -/
def insertStatement (now : Int64) : Sql.Statement :=
  (repository.insertion (repository.stamp .createdAt now record)).statement

/-- The UPDATE of a save at this time. -/
def updateStatement (pk : Field) (now : Int64) : Sql.Statement :=
  (repository.stampUpdate now (repository.changes pk record)).statement

/-- What becomes of a record that has its defaults and is allowed to be stored: the outcome, and the
world in which it is sent. -/
inductive Effect (backend : Backend κ ω) (now : Int64) (world : ω) : Outcome ι κ → ω → Prop
  /-- The record is new and the engine accepts it. -/
  | inserted {output : Output} {after : ω} (hnew : record.isNew = true)
      (hquery : backend.query repository.connection (repository.insertStatement record now) world
        = (.ok output, after)) :
      Effect backend now world
        ⟨true, (repository.takeKey output (repository.stamp .createdAt now record)).attach
          repository.connection, repository⟩ after
  /-- The record is new and the engine rejects it. -/
  | insertRejected {cause : MapperError} {after : ω} (hnew : record.isNew = true)
      (hquery : backend.query repository.connection (repository.insertStatement record now) world
        = (.error cause, after)) :
      Effect backend now world
        ⟨false, repository.stamp .createdAt now record,
          repository.addDatabaseError cause.message⟩ after
  /-- There is a stored row, but no primary key to find it by. -/
  | keyless (hstored : record.isNew = false) (hpk : repository.entity.pk? = none) :
      Effect backend now world
        ⟨false, record, repository.addDatabaseError
          (MapperError.missingPrimaryKey repository.entity.table).message⟩ world
  /-- Nothing differs from the snapshot. -/
  | unchanged {pk : Field} (hstored : record.isNew = false) (hpk : repository.entity.pk? = some pk)
      (hempty : (repository.changes pk record).isEmpty = true) :
      Effect backend now world ⟨true, record, repository⟩ world
  /-- The engine accepts the fields that differ from the snapshot. -/
  | updated {pk : Field} {output : Output} {after : ω} (hstored : record.isNew = false)
      (hpk : repository.entity.pk? = some pk)
      (hchanges : (repository.changes pk record).isEmpty = false)
      (hquery : backend.query repository.connection (repository.updateStatement record pk now) world
        = (.ok output, after)) :
      Effect backend now world ⟨true, repository.stamp .updatedAt now record, repository⟩ after
  /-- The engine rejects the fields that differ from the snapshot. -/
  | updateRejected {pk : Field} {cause : MapperError} {after : ω} (hstored : record.isNew = false)
      (hpk : repository.entity.pk? = some pk)
      (hchanges : (repository.changes pk record).isEmpty = false)
      (hquery : backend.query repository.connection (repository.updateStatement record pk now) world
        = (.error cause, after)) :
      Effect backend now world
        ⟨false, repository.stamp .updatedAt now record,
          repository.addDatabaseError cause.message⟩ after

variable (backend : Backend κ ω) (now : Int64) (world : ω)

/-- The run of an insertion, by the answer of the engine. -/
theorem insert_run : repository.insert backend now record world =
    match backend.query repository.connection (repository.insertStatement record now) world with
    | (.ok output, after) =>
      (⟨true, (repository.takeKey output (repository.stamp .createdAt now record)).attach
        repository.connection, repository⟩, after)
    | (.error cause, after) =>
      (⟨false, repository.stamp .createdAt now record,
        repository.addDatabaseError cause.message⟩, after) := by
  unfold insert insertStatement
  -- Both sides look at the answer of the engine, and so agree for either kind of answer.
  simp only [bind, StateT.bind]
  generalize backend.query repository.connection _ world = result
  obtain ⟨_ | _, after⟩ := result <;> rfl

/-- The run of an update that has something to send, by the answer of the engine. -/
theorem update_run {pk : Field} (hpk : repository.entity.pk? = some pk)
    (hchanges : (repository.changes pk record).isEmpty = false) :
    repository.update backend now record world =
      match backend.query repository.connection
        (repository.updateStatement record pk now) world with
      | (.ok _, after) => (⟨true, repository.stamp .updatedAt now record, repository⟩, after)
      | (.error cause, after) =>
        (⟨false, repository.stamp .updatedAt now record,
          repository.addDatabaseError cause.message⟩, after) := by
  have hkey : repository.pk = .ok pk := by rw [Repository.pk, hpk]
  unfold update updateStatement
  rw [hkey]
  simp only [hchanges, Bool.false_eq_true, if_false, bind, StateT.bind]
  generalize backend.query repository.connection _ world = result
  obtain ⟨_ | _, after⟩ := result <;> rfl

theorem insert_effect (hnew : record.isNew = true) :
    Effect repository record backend now world (repository.insert backend now record world).1
      (repository.insert backend now record world).2 := by
  rw [insert_run]
  split
  · exact .inserted hnew ‹_›
  · exact .insertRejected hnew ‹_›

theorem update_effect (hstored : record.isNew = false) :
    Effect repository record backend now world (repository.update backend now record world).1
      (repository.update backend now record world).2 := by
  cases hpk : repository.entity.pk? with
  | none =>
      -- Nothing is compared when there is no key to find the row by.
      have hkey : repository.pk = .error (.missingPrimaryKey repository.entity.table) := by
        rw [Repository.pk, hpk]
      unfold update
      rw [hkey]
      exact .keyless hstored hpk
  | some pk =>
      cases hchanges : (repository.changes pk record).isEmpty with
      | true =>
          have hkey : repository.pk = .ok pk := by rw [Repository.pk, hpk]
          unfold update
          rw [hkey]
          simp only [hchanges, if_true]
          exact .unchanged hstored hpk hchanges
      | false =>
          rw [update_run repository record backend now world hpk hchanges]
          split
          · exact .updated hstored hpk hchanges ‹_›
          · exact .updateRejected hstored hpk hchanges ‹_›

/-- A save that is not allowed sends nothing. -/
theorem store_refused {validated : Bool}
    (h : (repository.allow validated (repository.prepare record)).1 = false) :
    repository.store backend now validated record world
      = (⟨false, repository.prepare record,
          (repository.allow validated (repository.prepare record)).2⟩, world) := by
  -- `store` takes the verdict apart by `match`; it reduces once the verdict is a pair.
  unfold store
  generalize repository.allow validated (repository.prepare record) = allowed at h ⊢
  obtain ⟨_, _⟩ := allowed
  subst h
  rfl

/-- A save that is allowed goes on with the record and its defaults. -/
theorem store_effect {validated : Bool}
    (h : (repository.allow validated (repository.prepare record)).1 = true) :
    Effect (repository.allow validated (repository.prepare record)).2 (repository.prepare record)
      backend now world (repository.store backend now validated record world).1
      (repository.store backend now validated record world).2 := by
  unfold store
  generalize repository.allow validated (repository.prepare record) = allowed at h ⊢
  obtain ⟨_, allowed⟩ := allowed
  subst h
  cases hnew : (repository.prepare record).isNew with
  | true => exact insert_effect allowed _ backend now world hnew
  | false => exact update_effect allowed _ backend now world hnew

variable {repository record backend now world} in
theorem Effect.kin {outcome : Outcome ι κ} {after : ω}
    (h : Effect repository record backend now world outcome after) : record.Kin outcome.record := by
  cases h with
  | inserted => exact ((kin_stamp ..).trans (kin_takeKey ..)).trans (.attach ..)
  | insertRejected => exact kin_stamp ..
  | keyless => exact .refl record
  | unchanged => exact .refl record
  | updated => exact kin_stamp ..
  | updateRejected => exact kin_stamp ..

variable {repository record backend now world} in
theorem Effect.repository_kin {outcome : Outcome ι κ} {after : ω}
    (h : Effect repository record backend now world outcome after) :
    repository.Kin outcome.repository := by
  cases h <;> exact ⟨rfl, rfl, rfl⟩

/-- What a save can do, with the repository as validation and hooks leave it: it is refused and
sends nothing, or has one of the effects. -/
theorem store_cases (validated : Bool) :
    ∃ allowed : Repository ι κ, repository.Kin allowed ∧
      (repository.store backend now validated record world
          = (⟨false, repository.prepare record, allowed⟩, world) ∨
        Effect allowed (repository.prepare record) backend now world
          (repository.store backend now validated record world).1
          (repository.store backend now validated record world).2) := by
  refine ⟨(repository.allow validated (repository.prepare record)).2, kin_allow .., ?_⟩
  cases h : (repository.allow validated (repository.prepare record)).1 with
  | false => exact .inl (store_refused repository record backend now world h)
  | true => exact .inr (store_effect repository record backend now world h)

/-- No save touches the entity or the snapshot of a record. -/
theorem kin_store (validated : Bool) :
    record.Kin (repository.store backend now validated record world).1.record := by
  have hprepare := kin_prepare repository record
  obtain ⟨allowed, -, hrefused | heffect⟩ :=
    store_cases repository record backend now world validated
  · rw [hrefused]
    exact hprepare
  · exact hprepare.trans heffect.kin

/-- A save touches nothing of the repository but its messages. -/
theorem repository_kin_store (validated : Bool) :
    repository.Kin (repository.store backend now validated record world).1.repository := by
  obtain ⟨allowed, hallowed, hrefused | heffect⟩ :=
    store_cases repository record backend now world validated
  · rw [hrefused]
    exact hallowed
  · exact hallowed.trans heffect.repository_kin

end Repository

end RowMapper
