import Mathlib.Data.List.Induction
import RowMapper.Proofs.Repository.Changes
import RowMapper.Proofs.Repository.Defaults
import RowMapper.Proofs.Repository.Run
import RowMapper.Proofs.Sql.Literal

/-!
# `RowMapper.Proofs.Repository.StoredRow`: the stored row over many saves

A save writes the fields that differ from the snapshot, and the snapshot stays as it was read. So
the first save after a change writes it, but a field that is set back to the value it was read with
is not written again: its column keeps the last value that was different (`lastChange`).

* `Repository.Effect.stored`: what one save does to the row.
* `Session.synced_perform`: the columns hold the last changes, before and after each action.
* `Session.stored_after_run`: what is stored after any run, and when that is what the record holds.
-/

set_option autoImplicit false

namespace RowMapper

open RowMapper.Sql RowMapper.Calendar

variable {ι κ ω : Type}

/-! ### Entities, rows and backends -/

/-- The entity has a primary key and otherwise strings, integers and Booleans, none of which has a
default. No two fields share a key or a column, and the columns have plain names. -/
structure EntityType.Simple (entity : EntityType ι) : Prop where
  keyed : entity.pk?.isSome = true
  kinds : ∀ field ∈ entity.fields,
    field.kind = .pk ∨ field.kind = .string ∨ field.kind = .integer ∨ field.kind = .boolean
  distinct : DistinctFields entity.fields
  plain : PlainFields entity.fields
  undefaulted : ∀ field ∈ entity.fields, field.default = none

/-- The row has a truthy primary key, and in the column of each field a value of its own type, in
the form for binding. -/
structure EntityType.StoredIn (entity : EntityType ι) (row : Row) : Prop where
  columns : ∀ field ∈ entity.fields,
    ∃ value, field.kind.Holds value ∧ row.get? field.name = some value.bound
  truthy : ∀ pk, entity.pk? = some pk →
    ∃ raw, row.get? pk.name = some raw ∧ raw.isTruthy = true

/-- The table is one row of the world, to which an accepted UPDATE assigns its parameters column by
column. -/
structure Backend.KeepsRow (backend : Backend κ ω) (table : String) (view : ω → Row) : Prop where
  assigns : ∀ {connection statement world output after pairs},
    backend.query connection statement world = (.ok output, after) →
    assigned? table statement = some pairs → view after = (view world).assignAll pairs

/-- The action sets no primary key, and sets fields to null or to values of their own types. -/
def Action.Fits (entity : EntityType ι) : Action ι κ → Prop
  | .set key value => ∀ field ∈ entity.fields, field.key = key →
      field.kind ≠ .pk ∧ field.kind.Accepts value
  | .save _ _ _ => True

/-! ### The last change -/

/-- What a column holds that was read as `original`, when the record has been saved with these
values one after the other: the last one that is written differently. -/
def lastChange (original : Value) (saved : List Value) : Value :=
  saved.foldl (fun held value => if value.literal = original.literal then held else value) original

theorem lastChange_concat (original : Value) (saved : List Value) (value : Value) :
    lastChange original (saved ++ [value])
      = if value.literal = original.literal then lastChange original saved else value := by
  rw [lastChange, List.foldl_append]
  rfl

/-- Without changes the column holds what it held. -/
theorem lastChange_of_forall {original : Value} {saved : List Value}
    (h : ∀ value ∈ saved, value.literal = original.literal) :
    lastChange original saved = original := by
  induction saved using List.reverseRecOn with
  | nil => rfl
  | append_singleton saved value ih =>
      obtain ⟨hsaved, hvalue⟩ := List.forall_mem_append.1 h
      rw [lastChange_concat, if_pos (hvalue value (by simp)), ih hsaved]

/-- After a change the column never holds the original value again. -/
theorem lastChange_of_exists {original : Value} {saved : List Value}
    (h : ∃ value ∈ saved, value.literal ≠ original.literal) :
    lastChange original saved ∈ saved ∧
      (lastChange original saved).literal ≠ original.literal := by
  -- The induction is on the last save: either it makes the last change, or an earlier one does.
  induction saved using List.reverseRecOn with
  | nil => simp at h
  | append_singleton saved value ih =>
      rw [lastChange_concat]
      split
      case isTrue hsame =>
        obtain ⟨changed, hmem, hchanged⟩ := h
        have hearlier : changed ∈ saved := by
          rcases List.mem_append.1 hmem with hmem | hmem
          · exact hmem
          · rw [List.mem_singleton.1 hmem] at hchanged
            exact absurd hsame hchanged
        obtain ⟨hlast, hdiffers⟩ := ih ⟨changed, hearlier, hchanged⟩
        exact ⟨List.mem_append_left _ hlast, hdiffers⟩
      case isFalse hchanged => exact ⟨by simp, hchanged⟩

/-! ### One save -/

namespace Repository

variable {repository : Repository ι κ} {record : Record ι κ}

theorem no_timestamp (h : repository.entity.Simple) :
    repository.entity.fieldOfKind? .updatedAt = none := by
  rw [EntityType.fieldOfKind?, List.find?_eq_none]
  intro field hfield
  rcases h.kinds field hfield with hkind | hkind | hkind | hkind <;> simp [hkind]

/-- A save that succeeds leaves a stored record as it is. In the row it replaces the columns of the
fields that differ from the snapshot, and no others. -/
theorem Effect.stored {backend : Backend κ ω} {now : Int64} {world after : ω}
    {outcome : Outcome ι κ} {view : ω → Row}
    (h : Effect repository record backend now world outcome after) (hdone : outcome.done = true)
    (hstored : record.isNew = false) (hsimple : repository.entity.Simple)
    (hkeeps : backend.KeepsRow repository.entity.table view)
    (hhas : ∀ field ∈ repository.entity.fields, ((view world).get? field.name).isSome) :
    outcome.record = record ∧ ∀ field ∈ repository.entity.fields,
      (view after).get? field.name
        = if differs record field then some (record.get field.key).bound
          else (view world).get? field.name := by
  have htime := no_timestamp hsimple
  cases h with
  | inserted hnew | insertRejected hnew =>
      rw [hstored] at hnew
      contradiction
  | keyless | updateRejected => contradiction
  | @unchanged pk _ _ hempty =>
      refine ⟨rfl, fun field hfield => ?_⟩
      rw [(isEmpty_changes_iff pk).1 hempty field hfield, if_neg Bool.false_ne_true]
  | @updated pk _ _ _ _ hchanges hquery =>
      -- The statement assigns the fields that differ. There is no timestamp to go with them.
      have hassigned := assigned?_updateStatement pk now hsimple.plain hsimple.distinct.names
        hchanges
      have hrow := hkeeps.assigns hquery hassigned
      have hwritten : repository.written record now = repository.changed record := by
        rw [written, changeTime, htime]
        exact List.append_nil _
      have hdistinct : ((repository.written record now).map (·.1)).Nodup :=
        distinct_written now hsimple.distinct.names
      rw [hwritten] at hrow hdistinct
      have hstamp : repository.stamp .updatedAt now record = record := by
        rw [stamp, htime]
      refine ⟨hstamp, fun field hfield => ?_⟩
      rw [hrow]
      cases hdiffers : differs record field with
      | true =>
          have hmem := mem_changed.2 ⟨field, hfield, hdiffers, rfl, rfl⟩
          rw [if_pos rfl]
          refine Row.get?_assignAll_of_mem _ ?_ ?_ (hhas field hfield)
          · simpa only [List.map_map, Function.comp_def] using hdistinct
          · exact List.mem_map.2 ⟨_, hmem, rfl⟩
      | false =>
          rw [if_neg Bool.false_ne_true]
          refine Row.get?_assignAll_of_not_mem _ ?_
          have hnot := not_mem_changed hsimple.distinct.names hfield hdiffers
          simpa only [List.map_map, Function.comp_def] using hnot

end Repository

/-! ### Runs of sets and saves -/

/-- A later state of a hydrated record: its primary keys are as they were read, and its other
fields are null or have values of their own types. -/
structure Record.Follows (hydrated record : Record ι κ) : Prop where
  kin : hydrated.Kin record
  keys : ∀ field ∈ hydrated.entity.fields, field.kind = .pk →
    record.get field.key = hydrated.get field.key
  values : ∀ field ∈ hydrated.entity.fields, field.kind ≠ .pk →
    field.kind.Accepts (record.get field.key)

theorem Record.Follows.set {hydrated record : Record ι κ} (h : hydrated.Follows record)
    {key : String} {value : Value}
    (hfits : (Action.set key value : Action ι κ).Fits hydrated.entity) :
    hydrated.Follows (record.set key value) where
  kin := h.kin.trans (.set record key value)
  keys field hfield hkind := by
    have hkey : field.key ≠ key := fun hsame => (hfits field hfield hsame).1 hkind
    rw [Record.get_set_of_ne record value hkey, h.keys field hfield hkind]
  values field hfield hkind := by
    by_cases hkey : field.key = key
    · rw [hkey, Record.get_set_self]
      exact (hfits field hfield hkey).2
    · rw [Record.get_set_of_ne record value hkey]
      exact h.values field hfield hkind

/-- A field differs from the snapshot when it is written differently from what was read. -/
theorem Record.Follows.differs_iff {hydrated record : Record ι κ} (h : hydrated.Follows record)
    (hsimple : hydrated.entity.Simple) {field : Field} (hfield : field ∈ hydrated.entity.fields)
    (hread : hydrated.stored field.name = hydrated.get field.key) :
    Repository.differs record field = true ↔
      (record.get field.key).literal ≠ (hydrated.get field.key).literal := by
  rw [Repository.differs, h.kin.stored_eq, hread]
  -- A primary key is not compared, but it is also never set; timestamps there are none.
  rcases hsimple.kinds field hfield with hkind | hkind | hkind | hkind
  · simp [hkind, h.keys field hfield hkind]
  all_goals simp [hkind, FieldKind.isTimestamp]

namespace Session

/-- The values of a field in the saves so far. -/
def saved (session : Session ι κ ω) (field : Field) : List Value :=
  session.outcomes.map (·.record.get field.key)

/-- The record and all its saves so far follow a hydrated record, and each column of the row holds
the last change of its field. -/
structure Synced (hydrated : Record ι κ) (view : ω → Row) (session : Session ι κ ω) : Prop where
  entity : session.repository.entity = hydrated.entity
  record : hydrated.Follows session.record
  outcomes : ∀ outcome ∈ session.outcomes, hydrated.Follows outcome.record
  stored : ∀ field ∈ hydrated.entity.fields, (view session.world).get? field.name
    = some (lastChange (hydrated.get field.key) (session.saved field)).bound

variable {hydrated : Record ι κ} {view : ω → Row} {session : Session ι κ ω}

/-- A save that succeeds keeps the row in step with the last changes. -/
theorem synced_save {backend : Backend κ ω} {hooks : Hooks ι κ} {validated : Bool} {now : Int64}
    (hsimple : hydrated.entity.Simple) (hold : hydrated.isNew = false)
    (hread : ∀ field ∈ hydrated.entity.fields,
      hydrated.stored field.name = hydrated.get field.key)
    (hkeeps : backend.KeepsRow hydrated.entity.table view) (h : session.Synced hydrated view)
    (hdone : (session.save backend hooks validated now).1.done = true) :
    (session.perform backend (.save hooks validated now)).Synced hydrated view := by
  have hundefaulted := hsimple.undefaulted
  rw [← h.entity] at hundefaulted
  have hprepare : session.repository.prepare session.record = session.record := by
    refine Repository.prepare_of_filled fun field hfield hdefault => ?_
    rw [hundefaulted field hfield] at hdefault
    contradiction
  obtain ⟨allowed, hentity, hrefused | heffect⟩ := session.save_cases backend hooks validated now
  · -- A refused save does not succeed.
    rw [hrefused] at hdone
    contradiction
  rw [hprepare] at heffect
  have hallowed : allowed.entity = hydrated.entity := hentity.trans h.entity
  have hhas : ∀ field ∈ allowed.entity.fields,
      ((view session.world).get? field.name).isSome := by
    rw [hallowed]
    intro field hfield
    rw [h.stored field hfield]
    rfl
  obtain ⟨hrecord, hrow⟩ := heffect.stored hdone (h.record.kin.isNew_eq.trans hold)
    (hallowed ▸ hsimple) (hallowed ▸ hkeeps) hhas
  rw [hallowed] at hrow
  refine ⟨?_, ?_, ?_, ?_⟩
  · exact (Repository.repository_kin_store ..).entity.trans h.entity
  · show hydrated.Follows (session.save ..).1.record
    rw [hrecord]
    exact h.record
  · rw [outcomes_save, List.forall_mem_append]
    refine ⟨h.outcomes, fun outcome hmem => ?_⟩
    rw [List.mem_singleton.1 hmem, hrecord]
    exact h.record
  · intro field hfield
    have hsaved : (session.perform backend (.save hooks validated now)).saved field
        = session.saved field ++ [session.record.get field.key] := by
      rw [saved, outcomes_save, List.map_append, List.map_singleton, hrecord]
      rfl
    rw [hsaved, lastChange_concat]
    -- The save writes the column exactly if its value is the new last change.
    refine (hrow field hfield).trans ?_
    have hdiffers := h.record.differs_iff hsimple hfield (hread field hfield)
    by_cases hsame : (session.record.get field.key).literal = (hydrated.get field.key).literal
    · rw [if_neg (fun hd => hdiffers.1 hd hsame), if_pos hsame, h.stored field hfield]
    · rw [if_pos (hdiffers.2 hsame), if_neg hsame]

/-- Every action that fits keeps the row in step, as long as all saves succeed. -/
theorem synced_perform {backend : Backend κ ω} {action : Action ι κ}
    (hsimple : hydrated.entity.Simple) (hold : hydrated.isNew = false)
    (hread : ∀ field ∈ hydrated.entity.fields,
      hydrated.stored field.name = hydrated.get field.key)
    (hkeeps : backend.KeepsRow hydrated.entity.table view) (hfits : action.Fits hydrated.entity)
    (h : (∀ outcome ∈ session.outcomes, outcome.done = true) → session.Synced hydrated view)
    (hdone : ∀ outcome ∈ (session.perform backend action).outcomes, outcome.done = true) :
    (session.perform backend action).Synced hydrated view := by
  cases action with
  | set key value =>
      obtain ⟨hentity, hrecord, houtcomes, hstored⟩ := h hdone
      exact ⟨hentity, hrecord.set hfits, houtcomes, hstored⟩
  | save hooks validated now =>
      rw [outcomes_save, List.forall_mem_append] at hdone
      have hsaved := hdone.2 _ (List.mem_singleton_self _)
      exact synced_save hsimple hold hread hkeeps (h hdone.1) hsaved

/-- A saved value that is written as the value that was read is that value. -/
theorem Synced.eq_of_literal (h : session.Synced hydrated view) (hself : hydrated.Follows hydrated)
    {field : Field} (hfield : field ∈ hydrated.entity.fields) :
    ∀ value ∈ session.saved field, value.literal = (hydrated.get field.key).literal →
      value = hydrated.get field.key := by
  intro value hvalue hliteral
  obtain ⟨outcome, houtcome, rfl⟩ := List.mem_map.1 hvalue
  have hfollows := h.outcomes outcome houtcome
  by_cases hkind : field.kind = .pk
  · exact hfollows.keys field hfield hkind
  · exact FieldKind.literal_injective hkind (hfollows.values field hfield hkind)
      (hself.values field hfield hkind) hliteral

/-- Right behind a save, the column of a field holds what the record holds, unless the field is back
at the value that was read and an earlier save had another one. -/
theorem Synced.stored_iff (h : session.Synced hydrated view) (hself : hydrated.Follows hydrated)
    {field : Field} (hfield : field ∈ hydrated.entity.fields) {earlier : List Value}
    (hsaved : session.saved field = earlier ++ [session.record.get field.key]) :
    (view session.world).get? field.name = some (session.record.get field.key).bound ↔
      (session.record.get field.key = hydrated.get field.key →
        ∀ value ∈ session.saved field, value = hydrated.get field.key) := by
  have hliteral := h.eq_of_literal hself hfield
  rw [h.stored field hfield, Option.some.injEq]
  constructor
  · intro hbound hback value hvalue
    by_contra hchanged
    -- Then the column holds a change for good, and a change is bound differently.
    have hexists : ∃ value ∈ session.saved field,
        value.literal ≠ (hydrated.get field.key).literal :=
      ⟨value, hvalue, fun hsame => hchanged (hliteral value hvalue hsame)⟩
    obtain ⟨hmem, hdiffers⟩ := lastChange_of_exists hexists
    obtain ⟨outcome, houtcome, hlast⟩ := List.mem_map.1 hmem
    have hfollows := h.outcomes outcome houtcome
    rw [hback, ← hlast] at hbound
    rw [← hlast] at hdiffers
    by_cases hkind : field.kind = .pk
    · exact hdiffers (congrArg Value.literal (hfollows.keys field hfield hkind))
    · have hsame := FieldKind.bound_injective hkind (hfollows.values field hfield hkind)
        (hself.values field hfield hkind) hbound
      exact hdiffers (congrArg Value.literal hsame)
  · intro hback
    by_cases hsame : (session.record.get field.key).literal = (hydrated.get field.key).literal
    · have hcurrent := hliteral _ (by rw [hsaved]; simp) hsame
      have hall : ∀ value ∈ session.saved field,
          value.literal = (hydrated.get field.key).literal :=
        fun value hvalue => congrArg Value.literal (hback hcurrent value hvalue)
      rw [lastChange_of_forall hall, hcurrent]
    · rw [hsaved, lastChange_concat, if_neg hsame]

/-! ### From a stored row -/

section
variable {entity : EntityType ι} {row : Row}

/-- A record that has just been read is in step with its row. -/
theorem synced_hydrate (hsimple : entity.Simple) (hrow : entity.StoredIn row) (zone : Zone)
    (connection : Option κ) {repository : Repository ι κ} (hrepository : repository.entity = entity)
    {world : ω} {view : ω → Row} (hworld : view world = row) :
    Synced (Record.hydrate zone entity row connection) view
      ⟨repository, .hydrate zone entity row connection, world, []⟩ where
  entity := hrepository
  record :=
    { kin := .refl _
      keys := fun _ _ _ => rfl
      values := fun field hfield hkind => by
        obtain ⟨value, hholds, hraw⟩ := hrow.columns field hfield
        rw [Record.get_hydrate zone connection hsimple.distinct hfield hraw,
          FieldKind.coerce_bound hkind hholds]
        exact .inr hholds }
  outcomes := by simp
  stored field hfield := by
    obtain ⟨value, hholds, hraw⟩ := hrow.columns field hfield
    show (view world).get? field.name = some (Value.bound (Record.get _ field.key))
    rw [hworld, hraw, Record.get_hydrate zone connection hsimple.distinct hfield hraw,
      FieldKind.bound_coerce_bound hholds]

/-- Let a record be read from a row, set and saved, and let all saves succeed, whatever the hooks
answer each time. After each save, the column of a field holds the last value that was saved for it
and differs from the one that was read, in the form for binding. That is what the record holds,
unless the field is back at the value that was read and an earlier save had another one. -/
theorem stored_after_run (hsimple : entity.Simple) (hrow : entity.StoredIn row) (zone : Zone)
    (connection : Option κ) {backend : Backend κ ω} {view : ω → Row}
    (hkeeps : backend.KeepsRow entity.table view) {repository : Repository ι κ}
    (hrepository : repository.entity = entity) {world : ω} (hworld : view world = row)
    {actions : List (Action ι κ)} (hfits : ∀ action ∈ actions, action.Fits entity)
    (hooks : Hooks ι κ) (validated : Bool) (now : Int64) :
    let hydrated := Record.hydrate zone entity row connection
    let final := run backend ⟨repository, hydrated, world, []⟩
      (actions ++ [.save hooks validated now])
    (∀ outcome ∈ final.outcomes, outcome.done = true) → ∀ field ∈ entity.fields,
      (view final.world).get? field.name
        = some (lastChange (hydrated.get field.key) (final.saved field)).bound ∧
      ((view final.world).get? field.name = some (final.record.get field.key).bound ↔
        (final.record.get field.key = hydrated.get field.key →
          ∀ value ∈ final.saved field, value = hydrated.get field.key)) := by
  intro hydrated final hdone field hfield
  obtain ⟨pk, hpk⟩ := Option.isSome_iff_exists.1 hsimple.keyed
  obtain ⟨raw, hraw, htruthy⟩ := hrow.truthy pk hpk
  have hold : hydrated.isNew = false :=
    Record.isNew_hydrate zone connection hsimple.distinct hpk hraw htruthy
  have hread : ∀ field ∈ entity.fields, hydrated.stored field.name = hydrated.get field.key :=
    fun field => Record.stored_hydrate_eq_get zone row connection hsimple.distinct
  have hactions : ∀ action ∈ actions ++ [.save hooks validated now], action.Fits entity :=
    List.forall_mem_append.2 ⟨hfits, by simp [Action.Fits]⟩
  have hstart := synced_hydrate hsimple hrow zone connection hrepository hworld
  -- The invariant is that the session is in step unless some save has failed. In the end none has.
  have hsynced : final.Synced hydrated view := run_invariant
    (fun session => (∀ outcome ∈ session.outcomes, outcome.done = true) →
      session.Synced hydrated view)
    (actions ++ [.save hooks validated now])
    (fun action hmem _ => synced_perform hsimple hold hread hkeeps (hactions action hmem))
    ⟨repository, hydrated, world, []⟩ (fun _ => hstart) hdone
  have hsaved : final.saved field
      = (run backend ⟨repository, hydrated, world, []⟩ actions).saved field
        ++ [final.record.get field.key] := by
    have hlast : final = (run backend ⟨repository, hydrated, world, []⟩ actions).perform backend
      (.save hooks validated now) := List.foldl_append
    rw [hlast, saved, outcomes_save, List.map_append, List.map_singleton]
    rfl
  exact ⟨hsynced.stored field hfield, hsynced.stored_iff hstart.record hfield hsaved⟩

end

end Session

/-! ### A value that is set back -/

/-- A backend whose world is one row of a table. It accepts everything. -/
def Backend.ofRow (table : String) : Backend Unit Row where
  query _ statement := fun row =>
    (.ok (.write ⟨1, 1, 0⟩), row.assignAll ((assigned? table statement).getD []))
  shared := return .ok ()
  zone := .universal

theorem Backend.keepsRow_ofRow (table : String) : (Backend.ofRow table).KeepsRow table id where
  assigns hquery hassigned := by
    cases hquery
    rw [hassigned]
    rfl

/-- The row of a user. -/
def adaRow : Row :=
  ⟨[("id", .int 1), ("name", .string "Ada")]⟩

theorem simple_users : users.Simple where
  keyed := rfl
  kinds := by simp [users]
  distinct := ⟨by simp [users, Field.key], by simp [users]⟩
  plain := by simp [PlainFields, PlainName, users]
  undefaulted := by simp [users]

theorem storedIn_adaRow : users.StoredIn adaRow where
  columns := by
    simp only [users, List.forall_mem_cons]
    exact ⟨⟨.int 1, .key _, rfl⟩, ⟨.string "Ada", .string _, rfl⟩, by simp⟩
  truthy := by
    rintro pk hpk
    obtain rfl := Option.some.inj hpk
    exact ⟨.int 1, rfl, rfl⟩

/-- A name that is changed twice is stored as the record holds it. -/
theorem Session.stored_after_run_renamed :
    let final := run (Backend.ofRow "users")
      ⟨⟨users, (), {}, .empty⟩, Record.hydrate .universal users adaRow none, adaRow, []⟩
      ([.set "name" (.string "Bea"), .save {} false 0, .set "name" (.string "Cyd")]
        ++ [.save {} false 0])
    final.record.get "name" = .string "Cyd" ∧
    final.world.get? "name" = some (final.record.get "name").bound := by
  have hfits : ∀ action ∈ [Action.set "name" (.string "Bea"), .save ({} : Hooks Unit Unit) false 0,
      .set "name" (.string "Cyd")], action.Fits users := by
    have hname (text : String) :
        (Action.set "name" (.string text) : Action Unit Unit).Fits users := by
      simp only [Action.Fits, users, List.forall_mem_cons]
      exact ⟨fun h => absurd h (by decide), fun _ => ⟨by decide, .inr (.string text)⟩, by simp⟩
    simp only [List.forall_mem_cons]
    exact ⟨hname "Bea", trivial, hname "Cyd", by simp⟩
  have hname : { kind := .string, name := "name" } ∈ users.fields := by simp [users]
  have hentity : (⟨users, (), {}, .empty⟩ : Repository Unit Unit).entity = users := rfl
  have h := stored_after_run simple_users storedIn_adaRow .universal none
    (Backend.keepsRow_ofRow "users") hentity rfl hfits {} false 0 (by decide +kernel) _ hname
  refine ⟨by rfl, h.2.2 fun hback => ?_⟩
  have hsame : Value.string "Cyd" = .string "Ada" := hback
  simp at hsame

/-- A name that is set, saved, set back and saved again: the second save finds nothing to write, and
the row keeps the first name that was saved, not the one that the record holds. -/
theorem Session.set_back_not_stored :
    let final := run (Backend.ofRow "users")
      ⟨⟨users, (), {}, .empty⟩, Record.hydrate .universal users adaRow none, adaRow, []⟩
      [.set "name" (.string "Bea"), .save {} false 0, .set "name" (.string "Ada"), .save {} false 0]
    users.Simple ∧ users.StoredIn adaRow ∧ (Backend.ofRow "users").KeepsRow "users" id ∧
    (∀ outcome ∈ final.outcomes, outcome.done = true) ∧
    final.record.get "name" = .string "Ada" ∧
    final.world.get? "name" = some (.string "Bea") :=
  ⟨simple_users, storedIn_adaRow, Backend.keepsRow_ofRow "users", by decide +kernel, by rfl, by rfl⟩

end RowMapper
