import RowMapper.Proofs.Record.Hydrate
import RowMapper.Repository.Basic

/-!
# `RowMapper.Proofs.Repository.Defaults`: filling in defaults

Before it is validated and stored, a record gets the defaults of its fields, one field after the
other. An entry changes only where there is null and a default (`Record.Unfilled`,
`Repository.get?_prepare`), and then it is the first default other than null that stays
(`Repository.get?_prepare_of_unfilled`): fields may share a key, and a default may be null itself,
which enters null and leaves the gap to the fields behind.

* `Repository.prepare_fills_gaps` says what becomes of each key, and that filling in defaults again
  changes nothing.
* If no two fields share a key, each field is on its own: it keeps its value, unless this is null
  and there is a default (`Repository.get_prepare`).
* A record in which no field with a default is null is left as it is, whatever the keys are
  (`Repository.prepare_of_filled`).
-/

set_option autoImplicit false

namespace RowMapper

variable {ι κ : Type}

/-- The value of a field once defaults are filled in. -/
def Field.orDefault (field : Field) (value : Value) : Value :=
  if value.isNull then field.default.getD value else value

theorem Field.orDefault_of_filled {field : Field} {value : Value}
    (h : field.default.isSome = true → value.isNull = false) : field.orDefault value = value := by
  unfold orDefault
  split
  case isTrue hnull =>
    cases hdefault : field.default with
    | none => rfl
    | some other =>
        rw [hdefault, hnull] at h
        exact absurd (h rfl) (by decide)
  case isFalse => rfl

/-- The record holds null under the key of a field with a default. -/
def Record.Unfilled (entity : EntityType ι) (record : Record ι κ) (key : String) : Prop :=
  (record.get key).isNull = true ∧
    ∃ field ∈ entity.fields, field.key = key ∧ field.default.isSome = true

/-- The default of a field as a value for the key, if it is the key of the field and the default is
not null. -/
def Field.defaultFor? (field : Field) (key : String) : Option Value :=
  if field.key = key then field.default.filter (fun value => !value.isNull) else none

/-- The first default other than null that is declared for a key. -/
def EntityType.firstDefault? (entity : EntityType ι) (key : String) : Option Value :=
  entity.fields.findSome? (·.defaultFor? key)

theorem Value.eq_null_of_isNull {value : Value} (h : value.isNull = true) : value = .null := by
  cases value with
  | null => rfl
  | bool | int | float | string | dateTime | json => contradiction

theorem Field.defaultFor?_eq_none {field : Field} {key : String}
    (h : ¬ (field.key = key ∧ field.default.isSome = true)) : field.defaultFor? key = none := by
  unfold defaultFor?
  split
  case isTrue hkey =>
    have hnone : field.default = none := by simpa [hkey] using h
    rw [hnone]
    rfl
  case isFalse => rfl

theorem findSome?_defaultFor?_eq_none {fields : List Field} {key : String}
    (h : ¬ ∃ field ∈ fields, field.key = key ∧ field.default.isSome = true) :
    fields.findSome? (·.defaultFor? key) = none :=
  List.findSome?_eq_none_iff.2 fun field hfield =>
    Field.defaultFor?_eq_none fun hdeclares => h ⟨field, hfield, hdeclares⟩

namespace Repository

variable {repository : Repository ι κ} {record : Record ι κ}

/-! ### Entries -/

theorem get?_fillDefault {field : Field} {key : String}
    (h : (fillDefault record field).values.get? key ≠ record.values.get? key) :
    (record.get key).isNull = true ∧ field.key = key ∧ field.default.isSome = true := by
  unfold fillDefault at h
  split at h
  case h_2 => exact absurd rfl h
  case h_1 value hdefault =>
    split at h
    case isFalse => exact absurd rfl h
    case isTrue hnull =>
      by_cases hkey : key = field.key
      · subst hkey
        exact ⟨hnull, rfl, by rw [hdefault]; rfl⟩
      · exact absurd (SortedMap.get?_insert_of_ne _ _ hkey) h

theorem fillDefault_of_null {field : Field} {value : Value}
    (hnull : (record.get field.key).isNull = true) (hdefault : field.default = some value) :
    fillDefault record field = record.set field.key value := by
  rw [fillDefault, hdefault]
  exact if_pos hnull

theorem get?_fillDefault_of_kept {field : Field} {key : String}
    (h : ¬ (field.key = key ∧ field.default.isSome = true)) (record : Record ι κ) :
    (fillDefault record field).values.get? key = record.values.get? key := by
  by_contra hchanged
  exact h (get?_fillDefault hchanged).2

theorem get?_foldl_fillDefault {fields : List Field} {key : String}
    (h : (fields.foldl fillDefault record).values.get? key ≠ record.values.get? key) :
    (record.get key).isNull = true ∧
      ∃ field ∈ fields, field.key = key ∧ field.default.isSome = true := by
  induction fields generalizing record with
  | nil => exact absurd rfl h
  | cons field rest ih =>
      -- The first field that changes the value finds null under the key, as it was before.
      by_cases hfirst : (fillDefault record field).values.get? key = record.values.get? key
      · rw [List.foldl_cons, ← hfirst] at h
        obtain ⟨hnull, other, hother, hfound⟩ := ih h
        rw [Record.get, hfirst] at hnull
        exact ⟨hnull, other, List.mem_cons_of_mem field hother, hfound⟩
      · obtain ⟨hnull, hfound⟩ := get?_fillDefault hfirst
        exact ⟨hnull, field, List.mem_cons_self, hfound⟩

theorem get?_foldl_fillDefault_of_kept {fields : List Field} {key : String}
    (h : ¬ ((record.get key).isNull = true ∧
      ∃ field ∈ fields, field.key = key ∧ field.default.isSome = true)) :
    (fields.foldl fillDefault record).values.get? key = record.values.get? key :=
  not_imp_comm.1 get?_foldl_fillDefault h

/-- Filling in defaults changes a value only where there was null and there is a default. -/
theorem get?_prepare {key : String}
    (h : (repository.prepare record).values.get? key ≠ record.values.get? key) :
    record.Unfilled repository.entity key :=
  get?_foldl_fillDefault h

/-- Where there is null and a default, the entry becomes the first default other than null. -/
theorem get?_foldl_fillDefault_of_null {fields : List Field} {key : String}
    (hnull : (record.get key).isNull = true)
    (hdeclared : ∃ field ∈ fields, field.key = key ∧ field.default.isSome = true) :
    (fields.foldl fillDefault record).values.get? key
      = some ((fields.findSome? (·.defaultFor? key)).getD .null) := by
  induction fields generalizing record with
  | nil => exact absurd hdeclared (by simp)
  | cons field rest ih =>
      rw [List.foldl_cons, List.findSome?_cons]
      by_cases hfirst : field.key = key ∧ field.default.isSome = true
      · obtain ⟨rfl, hsome⟩ := hfirst
        obtain ⟨value, hvalue⟩ := Option.isSome_iff_exists.1 hsome
        have hentry : (record.set field.key value).values.get? field.key = some value :=
          SortedMap.get?_insert_self ..
        rw [fillDefault_of_null hnull hvalue]
        by_cases hgap : value.isNull = true
        · -- A default of null leaves the gap to the fields behind, if any of them has a default.
          have hnone : field.defaultFor? field.key = none := by
            simp [Field.defaultFor?, hvalue, hgap]
          rw [hnone]
          by_cases hrest : ∃ other ∈ rest, other.key = field.key ∧ other.default.isSome = true
          · exact ih (by rwa [Record.get_set_self]) hrest
          · rw [get?_foldl_fillDefault_of_kept fun h => hrest h.2, hentry,
              findSome?_defaultFor?_eq_none hrest, Value.eq_null_of_isNull hgap]
            rfl
        · -- Any other closes it, and the fields behind find nothing to do.
          have hdefault : field.defaultFor? field.key = some value := by
            simp [Field.defaultFor?, hvalue, hgap]
          have hfilled : ¬ ((record.set field.key value).get field.key).isNull = true := by
            rwa [Record.get_set_self]
          rw [hdefault, get?_foldl_fillDefault_of_kept fun h => hfilled h.1, hentry]
          rfl
      · -- The field leaves the entry alone, so another one has the default.
        rw [Field.defaultFor?_eq_none hfirst]
        refine ih (by rwa [Record.get, get?_fillDefault_of_kept hfirst]) ?_
        obtain ⟨other, hother, hdeclares⟩ := hdeclared
        rcases List.mem_cons.1 hother with rfl | hother
        · exact absurd hdeclares hfirst
        · exact ⟨other, hother, hdeclares⟩

theorem get?_prepare_of_kept {key : String} (h : ¬ record.Unfilled repository.entity key) :
    (repository.prepare record).values.get? key = record.values.get? key :=
  get?_foldl_fillDefault_of_kept h

theorem get?_prepare_of_unfilled {key : String} (h : record.Unfilled repository.entity key) :
    (repository.prepare record).values.get? key
      = some ((repository.entity.firstDefault? key).getD .null) :=
  get?_foldl_fillDefault_of_null h.1 h.2

/-- Nothing but values is filled in. -/
theorem prepare_eq (repository : Repository ι κ) (record : Record ι κ) :
    repository.prepare record = { record with values := (repository.prepare record).values } := by
  unfold prepare
  induction repository.entity.fields generalizing record with
  | nil => rfl
  | cons field rest ih =>
      have hfirst : fillDefault record field
          = { record with values := (fillDefault record field).values } := by
        unfold fillDefault
        split
        · split <;> rfl
        · rfl
      rw [List.foldl_cons, ih, hfirst]

theorem connection_prepare (repository : Repository ι κ) (record : Record ι κ) :
    (repository.prepare record).connection = record.connection := by
  rw [prepare_eq]

/-! ### Fields with keys of their own -/

theorem get_fillDefault_self (record : Record ι κ) (field : Field) :
    (fillDefault record field).get field.key = field.orDefault (record.get field.key) := by
  unfold fillDefault Field.orDefault
  cases field.default with
  | none => simp
  | some other =>
      dsimp only
      split
      · exact Record.get_set_self record field.key other
      · rfl

theorem get_fillDefault_of_ne (record : Record ι κ) {field : Field} {key : String}
    (h : key ≠ field.key) : (fillDefault record field).get key = record.get key := by
  rw [Record.get, get?_fillDefault_of_kept fun hkey => h hkey.1.symm, ← Record.get]

theorem get_foldl_fillDefault_of_not_mem {fields : List Field} {key : String}
    (h : key ∉ fields.map Field.key) (record : Record ι κ) :
    (fields.foldl fillDefault record).get key = record.get key := by
  rw [Record.get, get?_foldl_fillDefault_of_kept, ← Record.get]
  rintro ⟨-, field, hfield, rfl, -⟩
  exact h (List.mem_map_of_mem hfield)

theorem get_foldl_fillDefault {fields : List Field} {field : Field}
    (hkeys : (fields.map Field.key).Nodup) (hfield : field ∈ fields) (record : Record ι κ) :
    (fields.foldl fillDefault record).get field.key = field.orDefault (record.get field.key) := by
  induction fields generalizing record with
  | nil => cases hfield
  | cons first rest ih =>
      obtain ⟨hfresh, hrest⟩ := List.nodup_cons.1 hkeys
      rw [List.foldl_cons]
      rcases List.mem_cons.1 hfield with rfl | hfield
      · rw [get_foldl_fillDefault_of_not_mem hfresh, get_fillDefault_self]
      · have hne : field.key ≠ first.key := fun hsame =>
          hfresh (hsame ▸ List.mem_map_of_mem hfield)
        rw [ih hrest hfield, get_fillDefault_of_ne record hne]

/-- Filling in defaults gives a field its own default, if it is null and has one. -/
theorem get_prepare {repository : Repository ι κ} {field : Field}
    (hkeys : (repository.entity.fields.map Field.key).Nodup)
    (hfield : field ∈ repository.entity.fields) (record : Record ι κ) :
    (repository.prepare record).get field.key = field.orDefault (record.get field.key) :=
  get_foldl_fillDefault hkeys hfield record

/-- Where no field with a default is null, there is nothing to fill in. -/
theorem prepare_of_filled {repository : Repository ι κ} {record : Record ι κ}
    (h : ∀ field ∈ repository.entity.fields, field.default.isSome = true →
      (record.get field.key).isNull = false) : repository.prepare record = record := by
  have hvalues : (repository.prepare record).values = record.values := by
    refine SortedMap.ext_get? fun key => get?_prepare_of_kept ?_
    rintro ⟨hnull, field, hfield, rfl, hdefault⟩
    rw [h field hfield hdefault] at hnull
    contradiction
  rw [prepare_eq, hvalues]

/-! ### Filling in again -/

/-- Null and a default are found again only where the first default other than null is none. -/
theorem prepare_prepare (repository : Repository ι κ) (record : Record ι κ) :
    repository.prepare (repository.prepare record) = repository.prepare record := by
  have hvalues : (repository.prepare (repository.prepare record)).values
      = (repository.prepare record).values := by
    refine SortedMap.ext_get? fun key => ?_
    by_cases hagain : (repository.prepare record).Unfilled repository.entity key
    · by_cases hunfilled : record.Unfilled repository.entity key
      · rw [get?_prepare_of_unfilled hagain, get?_prepare_of_unfilled hunfilled]
      · -- An entry that was not filled in is not null, or has no default.
        refine absurd ⟨?_, hagain.2⟩ hunfilled
        have hnull := hagain.1
        rwa [Record.get, get?_prepare_of_kept hunfilled] at hnull
    · exact get?_prepare_of_kept hagain
  rw [prepare_eq, hvalues]

/-- Filling in defaults twice is filling them in once. A value other than null stays, and null under
a key becomes the first default other than null that is declared for the key, in the order of the
fields, and stays null if there is none. Under a key for which no default is declared there is what
was there before, be it null or nothing, and the rest of the record is left alone. Nothing is asked
of the fields: they may share keys, and defaults may be null. -/
theorem prepare_fills_gaps (repository : Repository ι κ) (record : Record ι κ) :
    let prepared := repository.prepare record
    repository.prepare prepared = prepared ∧
    (∀ key, record.get key ≠ .null → prepared.get key = record.get key) ∧
    (∀ key, record.get key = .null →
      prepared.get key = (repository.entity.firstDefault? key).getD .null) ∧
    (∀ key, (∀ field ∈ repository.entity.fields, field.key = key → field.default = none) →
      prepared.values.get? key = record.values.get? key) ∧
    prepared.snapshot = record.snapshot ∧ prepared.connection = record.connection ∧
    prepared.entity = record.entity := by
  intro prepared
  have hundeclared (key : String) (h : ∀ field ∈ repository.entity.fields, field.key = key →
      field.default = none) : ¬ record.Unfilled repository.entity key := by
    rintro ⟨-, field, hfield, hkey, hdefault⟩
    rw [h field hfield hkey] at hdefault
    contradiction
  have hrest : prepared = { record with values := prepared.values } := prepare_eq repository record
  refine ⟨prepare_prepare repository record, fun key hfilled => ?_, fun key hnull => ?_,
    fun key h => get?_prepare_of_kept (hundeclared key h), by rw [hrest], by rw [hrest],
    by rw [hrest]⟩
  · have hkept : ¬ record.Unfilled repository.entity key := fun h =>
      hfilled (Value.eq_null_of_isNull h.1)
    rw [Record.get, get?_prepare_of_kept hkept, ← Record.get]
  · by_cases hunfilled : record.Unfilled repository.entity key
    · rw [Record.get, get?_prepare_of_unfilled hunfilled, Option.getD_some]
    · have hnone : repository.entity.firstDefault? key = none :=
        findSome?_defaultFor?_eq_none fun hdeclared => hunfilled ⟨by rw [hnull]; rfl, hdeclared⟩
      rw [hnone, Record.get, get?_prepare_of_kept hunfilled, ← Record.get, hnull, Option.getD_none]

/-- Parcels, for which three columns share the key of the sender and the first has null for a
default. -/
def parcels : EntityType Unit :=
  ⟨"parcels", [{ kind := .pk, name := "id" },
    { kind := .string, name := "carrier", aliasName := some "sender", default := some .null },
    { kind := .string, name := "sender", default := some (.string "post") },
    { kind := .string, name := "courier", aliasName := some "sender",
      default := some (.string "rail") },
    { kind := .integer, name := "weight", default := some (.int 1) },
    { kind := .string, name := "note" }], []⟩

/-- The sender of a parcel becomes the second of the three defaults, its weight stays, and nothing
is entered for its note. -/
theorem prepare_fills_gaps_of_parcel :
    let repository : Repository Unit Unit := ⟨parcels, (), {}, .empty⟩
    let record : Record Unit Unit := (Record.blank parcels).set "weight" (.int 5)
    let prepared := repository.prepare record
    repository.prepare prepared = prepared ∧
    record.get "weight" = .int 5 ∧ prepared.get "weight" = .int 5 ∧
    record.get "sender" = .null ∧ prepared.get "sender" = .string "post" ∧
    record.values.get? "note" = none ∧ prepared.values.get? "note" = none := by
  intro repository record prepared
  obtain ⟨hagain, hfilled, hgap, hundeclared, -⟩ := prepare_fills_gaps repository record
  have hweight : record.get "weight" = .int 5 := by rfl
  have hsender : record.get "sender" = .null := by rfl
  refine ⟨hagain, hweight, ?_, hsender, ?_, by rfl, ?_⟩
  · rw [← hweight]
    exact hfilled "weight" (by rw [hweight]; exact nofun)
  · exact (hgap "sender" hsender).trans (by rfl)
  · refine (hundeclared "note" ?_).trans (by rfl)
    simp [repository, parcels, Field.key]

end Repository

end RowMapper
