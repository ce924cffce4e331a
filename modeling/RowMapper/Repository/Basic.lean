import RowMapper.Engine.Backend
import RowMapper.Repository.Errors
import RowMapper.Repository.Rules
import RowMapper.Sql.Change

/-!
# `RowMapper.Repository.Basic`: storing records

A repository validates, stores and removes the records of one entity over one connection. These
operations never fail with an error: they answer whether they succeeded, and what went wrong is
added to the messages of the repository.

Saving a record goes through these steps: defaults are filled in (`prepare`); the record is
validated unless the caller says otherwise (`validate`); a hook may refuse; then a new record is
inserted, and of any other the fields that differ from the snapshot are updated. What is to be sent
is computed from the record alone (`insertion`, `changes`), and at most one statement is sent.

The time of a save is an argument, in seconds since the beginning of 1970.
-/

set_option autoImplicit false

namespace RowMapper

open RowMapper.Sql

/-- What a hook decides, and the messages it adds. -/
structure Verdict where
  accepts : Bool
  messages : List (String × String)

/-- What a user of a repository adds to validating and saving: a hook sees the record and the
messages so far, and may add messages and refuse. -/
structure Hooks (ι κ : Type) where
  beforeValidate : Record ι κ → Errors → Verdict := fun _ _ => ⟨true, []⟩
  beforeSave : Record ι κ → Errors → Verdict := fun _ _ => ⟨true, []⟩

/-- The store of one entity's records. -/
structure Repository (ι κ : Type) where
  entity : EntityType ι
  connection : κ
  hooks : Hooks ι κ := {}
  errors : Errors := .empty

/-- What has become of an operation on a record: whether it succeeded, the record, and the
repository with its messages. -/
structure Outcome (ι κ : Type) where
  done : Bool
  record : Record ι κ
  repository : Repository ι κ

namespace Repository

variable {ι κ ω : Type}

/-- Adds a message. -/
def addError (repository : Repository ι κ) (field message : String) : Repository ι κ :=
  { repository with errors := repository.errors.add field message }

/-- Adds a message under the name for what the engine reports. -/
def addDatabaseError (repository : Repository ι κ) (message : String) : Repository ι κ :=
  repository.addError Errors.databaseKey message

/-- Whether there are messages. -/
def hasErrors (repository : Repository ι κ) : Bool :=
  !repository.errors.isEmpty

/-- The primary key of the entity. -/
def pk (repository : Repository ι κ) : Except MapperError Field :=
  match repository.entity.pk? with
  | some pk => .ok pk
  | none => .error (.missingPrimaryKey repository.entity.table)

/-- Gives a field that is null its default. -/
def fillDefault (record : Record ι κ) (field : Field) : Record ι κ :=
  match field.default with
  | some default => if (record.get field.key).isNull then record.set field.key default else record
  | none => record

/-- The record with defaults for the fields that are null. -/
def prepare (repository : Repository ι κ) (record : Record ι κ) : Record ι κ :=
  repository.entity.fields.foldl fillDefault record

/-- Adds the messages of a hook; a refusal without one adds the message given here. -/
def heed (repository : Repository ι κ) (verdict : Verdict) (refusal : String) :
    Bool × Repository ι κ :=
  let messages :=
    if verdict.accepts || !verdict.messages.isEmpty then verdict.messages
    else [(Errors.validationKey, refusal)]
  (verdict.accepts, { repository with errors := repository.errors.addAll messages })

/-- Runs the first hook and then the rules of the fields, and adds what they find. The record is
valid when nothing was added. -/
def validate (repository : Repository ι κ) (record : Record ι κ) : Bool × Repository ι κ :=
  let before := repository.errors.size
  let verdict := repository.hooks.beforeValidate record repository.errors
  match repository.heed verdict "Presented problems before validating" with
  | (false, repository) => (false, repository)
  | (true, repository) =>
    -- Messages of an accepting hook count too: the size is compared with that before the hook.
    let errors := repository.errors.addAll (repository.entity.faults record)
    (errors.size == before, { repository with errors })

/-- Validates the record if it is asked for, and then runs the hook before saving. -/
def allow (repository : Repository ι κ) (validated : Bool) (record : Record ι κ) :
    Bool × Repository ι κ :=
  match if validated then repository.validate record else (true, repository) with
  | (false, repository) => (false, repository)
  | (true, repository) =>
    repository.heed (repository.hooks.beforeSave record repository.errors)
      "Presented problems before saving"

/-- The record with the time under the key of the first field of a timestamp kind. -/
def stamp (repository : Repository ι κ) (kind : FieldKind) (now : Int64) (record : Record ι κ) :
    Record ι κ :=
  match repository.entity.fieldOfKind? kind with
  | some field => record.set field.key (.int now)
  | none => record

/-- The INSERT of a record: its fields that are not null, the primary key left to the engine. -/
def insertion (repository : Repository ι κ) (record : Record ι κ) : Insert :=
  let fields := repository.entity.fields.filter fun field =>
    field.kind ≠ .pk && !(record.get field.key).isNull
  (({} : Insert).into repository.entity.table).setAll
    (fields.map fun field => (field.name, record.get field.key))

/-- Whether a field is to be written: its value and the one in the snapshot are different as
literals. Primary keys and timestamps are not compared. -/
def differs (record : Record ι κ) (field : Field) : Bool :=
  field.kind ≠ .pk && !field.kind.isTimestamp &&
    (record.get field.key).literal ≠ (record.stored field.name).literal

/-- The UPDATE of the fields that differ from the snapshot, at the row of the primary key. -/
def changes (repository : Repository ι κ) (pk : Field) (record : Record ι κ) : Update :=
  let fields := repository.entity.fields.filter (differs record)
  ((({} : Update).into repository.entity.table).filter
      (.predicate (.compare pk.name .eq (record.get pk.key)))).setAll
    (fields.map fun field => (field.name, record.get field.key))

/-- The UPDATE with the time of the change, if the entity keeps it. -/
def stampUpdate (repository : Repository ι κ) (now : Int64) (update : Update) : Update :=
  match repository.entity.fieldOfKind? .updatedAt with
  | some field => update.set field.name (.int now)
  | none => update

/-- The record with the key that the engine has assigned. -/
def takeKey (repository : Repository ι κ) (output : Output) (record : Record ι κ) : Record ι κ :=
  match repository.entity.pk?, output.writeResult? with
  | some pk, some result => record.set pk.key (.int result.lastInsertedId)
  | _, _ => record

/-- Inserts a new record. If the engine accepts it, the record takes its key and the connection. -/
def insert (backend : Backend κ ω) (now : Int64) (repository : Repository ι κ)
    (record : Record ι κ) : StateM ω (Outcome ι κ) := do
  -- The stamp stays on the record even when the engine refuses the statement.
  let record := repository.stamp .createdAt now record
  match ← backend.query repository.connection (repository.insertion record).statement with
  | .ok output =>
    return ⟨true, (repository.takeKey output record).attach repository.connection, repository⟩
  | .error cause => return ⟨false, record, repository.addDatabaseError cause.message⟩

/-- Writes the fields of a stored record that differ from its snapshot. If none does, nothing is
sent. -/
def update (backend : Backend κ ω) (now : Int64) (repository : Repository ι κ)
    (record : Record ι κ) : StateM ω (Outcome ι κ) :=
  match repository.pk with
  | .error cause => return ⟨false, record, repository.addDatabaseError cause.message⟩
  | .ok pk =>
    -- Compared before the stamp, so that the time of the change alone is never written.
    let changes := repository.changes pk record
    if changes.isEmpty then return ⟨true, record, repository⟩
    else do
      let record := repository.stamp .updatedAt now record
      let statement := (repository.stampUpdate now changes).statement
      match ← backend.query repository.connection statement with
      | .ok _ => return ⟨true, record, repository⟩
      | .error cause => return ⟨false, record, repository.addDatabaseError cause.message⟩

/-- Stores a record, validated or not. -/
def store (backend : Backend κ ω) (now : Int64) (validated : Bool) (repository : Repository ι κ)
    (record : Record ι κ) : StateM ω (Outcome ι κ) :=
  -- Defaults stay on the record even when it is refused.
  let record := repository.prepare record
  match repository.allow validated record with
  | (false, repository) => return ⟨false, record, repository⟩
  | (true, repository) =>
    if record.isNew then repository.insert backend now record
    else repository.update backend now record

/-- Validates and stores a record. -/
def save (backend : Backend κ ω) (now : Int64) (repository : Repository ι κ)
    (record : Record ι κ) : StateM ω (Outcome ι κ) :=
  repository.store backend now true record

/-- Stores a record without validating it; the hook before saving still runs. -/
def saveUnvalidated (backend : Backend κ ω) (now : Int64) (repository : Repository ι κ)
    (record : Record ι κ) : StateM ω (Outcome ι κ) :=
  repository.store backend now false record

/-- The DELETE of the row of a record's primary key. -/
def deletion (repository : Repository ι κ) (pk : Field) (record : Record ι κ) : Delete :=
  (({} : Delete).fromTable repository.entity.table).filter
    (.predicate (.compare pk.name .eq (record.get pk.key)))

/-- Removes the row of a record's primary key. The record stays as it is. -/
def delete (backend : Backend κ ω) (repository : Repository ι κ) (record : Record ι κ) :
    StateM ω (Outcome ι κ) :=
  match repository.pk with
  | .error cause => return ⟨false, record, repository.addDatabaseError cause.message⟩
  | .ok pk => do
    match ← backend.query repository.connection (repository.deletion pk record).statement with
    | .ok _ => return ⟨true, record, repository⟩
    | .error cause => return ⟨false, record, repository.addDatabaseError cause.message⟩

end Repository

end RowMapper
