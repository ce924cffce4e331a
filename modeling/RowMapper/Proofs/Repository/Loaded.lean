import RowMapper.Proofs.Record.Hydrate
import RowMapper.Proofs.Repository.Allowed
import RowMapper.Proofs.Repository.Changes
import RowMapper.Proofs.Repository.Defaults
import RowMapper.Proofs.Repository.Run

/-!
# `RowMapper.Proofs.Repository.Loaded`: a record as it was loaded

A save of a record that was loaded and not touched since has nothing to do. No field differs from
the snapshot (`Repository.differs_hydrate`), whatever has become of the values of the row on the way
in: current value and snapshot are one reading of the row. `Repository.save_of_loaded` says that
nothing is sent and nothing of the record changes, if there are no defaults to fill in.
-/

set_option autoImplicit false

namespace RowMapper

open RowMapper.Calendar

variable {ι κ ω : Type}

/-! ### Loading -/

/-- The row is that of a stored record: its primary key is truthy, and no field with a default is
read from it as null. No two fields of the entity share a key or a column. -/
structure EntityType.LoadsFrom (entity : EntityType ι) (pk : Field) (zone : Zone) (row : Row) :
    Prop where
  keyed : entity.pk? = some pk
  distinct : DistinctFields entity.fields
  truthy : (pk.readFrom zone row).isTruthy = true
  filled : ∀ field ∈ entity.fields, field.default.isSome = true →
    (field.readFrom zone row).isNull = false

/-- Whether a value is read as null is the same in every zone. -/
theorem FieldKind.isNull_coerce (kind : FieldKind) (zone other : Zone) (raw : Value) :
    (kind.coerce zone raw).isNull = (kind.coerce other raw).isNull := by
  cases kind with
  | date =>
      have hdate (zone : Zone) : (FieldKind.date.coerce zone raw).isNull = raw.isNull := by
        unfold coerce
        cases raw with
        | null => rfl
        | _ => dsimp only; split <;> rfl
      rw [hdate, hdate]
  | _ => rfl

namespace EntityType.LoadsFrom

variable {entity : EntityType ι} {pk : Field} {zone : Zone} {row : Row}

/-- A row that a record can be loaded from in one zone can be loaded from in any other. -/
theorem of_zone (h : entity.LoadsFrom pk zone row) (other : Zone) :
    entity.LoadsFrom pk other row where
  keyed := h.keyed
  distinct := h.distinct
  truthy := by
    have htruthy := h.truthy
    rw [Field.readFrom, (EntityType.of_fieldOfKind? h.keyed).2] at htruthy ⊢
    exact htruthy
  filled field hfield hdefault := by
    have hfilled := h.filled field hfield hdefault
    unfold Field.readFrom at hfilled ⊢
    cases hraw : row.get? field.name with
    | none => exact absurd (hraw ▸ hfilled) (by simp [Value.isNull])
    | some raw =>
        rw [hraw] at hfilled
        exact (field.kind.isNull_coerce other zone raw).trans hfilled

theorem isNew_hydrate (h : entity.LoadsFrom pk zone row) (connection : Option κ) :
    (Record.hydrate zone entity row connection).isNew = false := by
  rw [Record.isNew_hydrate_eq zone row connection h.distinct.names h.keyed, h.truthy]
  rfl

theorem orDefault_readFrom (h : entity.LoadsFrom pk zone row) {field : Field}
    (hfield : field ∈ entity.fields) :
    field.orDefault (field.readFrom zone row) = field.readFrom zone row :=
  Field.orDefault_of_filled (h.filled field hfield)

end EntityType.LoadsFrom

namespace Repository

variable {entity : EntityType ι} {repository : Repository ι κ} {pk : Field} {zone : Zone}
  {row : Row}

/-- A record that was loaded does not differ from its snapshot in any field. -/
theorem differs_hydrate (zone : Zone) (row : Row) (connection : Option κ)
    (hdistinct : DistinctFields entity.fields) {field : Field} (hfield : field ∈ entity.fields) :
    differs (Record.hydrate zone entity row connection) field = false := by
  -- The literals are those of one value, so it does not matter which values have the same literal.
  simp [differs, Record.stored_hydrate_eq_get zone row connection hdistinct hfield]

theorem prepare_hydrate (h : repository.entity.LoadsFrom pk zone row) (connection : Option κ) :
    repository.prepare (.hydrate zone repository.entity row connection)
      = .hydrate zone repository.entity row connection := by
  refine prepare_of_filled fun field hfield hdefault => ?_
  rw [Record.get_hydrate_eq zone row connection h.distinct.keys hfield]
  exact h.filled field hfield hdefault

/-- A save of a stored record that does not differ from its snapshot leaves it alone. -/
theorem Effect.unchanged_of_same {record : Record ι κ} {backend : Backend κ ω} {now : Int64}
    {world after : ω} {outcome : Outcome ι κ}
    (h : Effect repository record backend now world outcome after) (hold : record.isNew = false)
    (hkeyed : repository.entity.pk? = some pk)
    (hsame : ∀ field ∈ repository.entity.fields, differs record field = false) :
    outcome.done = true ∧ outcome.record = record ∧ after = world := by
  cases h with
  | inserted hnew | insertRejected hnew => exact absurd hnew (Bool.eq_false_iff.1 hold)
  | keyless _ hpk =>
      rw [hkeyed] at hpk
      contradiction
  | unchanged => exact ⟨rfl, rfl, rfl⟩
  | updated _ _ hchanges | updateRejected _ _ hchanges =>
      rw [(isEmpty_changes_iff _).2 hsame] at hchanges
      contradiction

/-- A save of a record as it was loaded leaves the record and the world alone, and succeeds unless
it is refused. -/
theorem store_of_loaded (h : repository.entity.LoadsFrom pk zone row) (connection : Option κ)
    (backend : Backend κ ω) (now : Int64) (validated : Bool) (world : ω) :
    let record := Record.hydrate zone repository.entity row connection
    let saved := repository.store backend now validated record world
    saved.1.record = record ∧ saved.2 = world ∧
      (saved.1.done = true ↔ ¬ repository.Refuses record validated) := by
  intro record saved
  have hprepare : repository.prepare record = record := prepare_hydrate h connection
  cases hallowed : (repository.allow validated (repository.prepare record)).1 with
  | false =>
      have hrun : saved = _ := store_refused repository record backend now world hallowed
      rw [hprepare] at hallowed hrun
      have hrefuses := (allow_eq_false_iff repository record validated).1 hallowed
      rw [hrun]
      exact ⟨rfl, rfl, fun hdone => absurd hdone Bool.false_ne_true,
        fun hnot => absurd hrefuses hnot⟩
  | true =>
      have heffect := store_effect repository record backend now world hallowed
      have hentity := (kin_allow repository (repository.prepare record) validated).entity
      rw [hprepare] at hallowed heffect hentity
      have hnot := (allow_eq_true_iff repository record validated).1 hallowed
      obtain ⟨hdone, hrecord, hworld⟩ := heffect.unchanged_of_same (h.isNew_hydrate connection)
        (hentity ▸ h.keyed) (hentity ▸ fun _ => differs_hydrate zone row connection h.distinct)
      exact ⟨hrecord, hworld, fun _ => hnot, fun _ => hdone⟩

/-- Let a record be loaded from a row and saved at once, with validation or without. Then no
statement is sent, and values, snapshot and connection of the record are what they were. The save
succeeds unless validation, if it is asked for, or a hook refuses. -/
theorem save_of_loaded (repository : Repository ι κ) {pk : Field} {zone : Zone} {row : Row}
    (hloads : repository.entity.LoadsFrom pk zone row) (connection : Option κ)
    (backend : Backend κ ω) (now : Int64) (world : ω) :
    let record := Record.hydrate zone repository.entity row connection
    (let saved := repository.saveUnvalidated backend.logged now record (world, [])
     saved.1.record = record ∧ saved.2 = (world, []) ∧
      (saved.1.done = true ↔ ¬ repository.Refuses record false)) ∧
    (let saved := repository.save backend.logged now record (world, [])
     saved.1.record = record ∧ saved.2 = (world, []) ∧
      (saved.1.done = true ↔ ¬ repository.Refuses record true)) :=
  ⟨store_of_loaded hloads connection backend.logged now false (world, []),
    store_of_loaded hloads connection backend.logged now true (world, [])⟩

/-- Guests with a name under another key, two defaults, and fields that not every value suits. -/
def guests : EntityType Unit :=
  ⟨"guests", [{ kind := .pk, name := "id" },
    { kind := .string, name := "full_name", aliasName := some "name",
      default := some (.string "nobody") },
    { kind := .boolean, name := "active", default := some (.bool true) },
    { kind := .date, name := "arrived" }, { kind := .json, name := "tags" },
    { kind := .integer, name := "score" }, { kind := .string, name := "room" },
    { kind := .updatedAt, name := "updated_at" }], []⟩

/-- A row with a column twice, one that is not declared, none for the room, and with a date, a
document, a number and a time that cannot be taken for such. -/
def guestRow : Row :=
  ⟨[("id", .int 0), ("id", .int 7), ("full_name", .string "Grace"), ("active", .int 3),
    ("arrived", .string "at noon"), ("tags", .string "["), ("score", .float .nan),
    ("visits", .int 5), ("updated_at", .int 9223372036854775807)]⟩

theorem loadsFrom_guestRow :
    guests.LoadsFrom { kind := .pk, name := "id" } .universal guestRow where
  keyed := rfl
  distinct := ⟨by simp [guests, Field.key], by simp [guests]⟩
  truthy := by decide +kernel
  filled := by decide +kernel

/-- The repository of the guests. -/
def guestRepository : Repository Unit Unit :=
  ⟨guests, (), {}, .empty⟩

/-- A guest as loaded from this row. -/
def loadedGuest : Record Unit Unit :=
  .hydrate .universal guestRepository.entity guestRow none

/-- A guest is loaded from such a row and saved without a statement. -/
theorem save_of_loaded_guest :
    let saved := guestRepository.save (Backend.accepting 1).logged 0 loadedGuest ((), [])
    saved.1.done = true ∧ saved.1.record = loadedGuest ∧ saved.2 = ((), []) := by
  have hnot : ¬ guestRepository.Refuses loadedGuest true :=
    (allow_eq_true_iff ..).1 (by decide +kernel)
  obtain ⟨-, hrecord, hworld, hdone⟩ := save_of_loaded guestRepository loadsFrom_guestRow none
    (Backend.accepting 1) 0 ()
  exact ⟨hdone.2 hnot, hrecord, hworld⟩

end Repository

end RowMapper
