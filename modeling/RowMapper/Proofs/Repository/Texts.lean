import RowMapper.Proofs.Record.Loading
import RowMapper.Proofs.Repository.Changes
import RowMapper.Proofs.Sql.Shape
import RowMapper.Repository.Find

/-!
# `RowMapper.Proofs.Repository.Texts`: values stay out of the text

Two runs of one operation that differ in values only send the same texts. Nothing is assumed of the
values, so that a string that looks like a placeholder or a function call is no exception.

* `Repository.insertStatement_text_eq`, `Repository.updateStatement_text_eq`: the texts of a save
  depend on which fields are null, or on which fields differ from the snapshot.
* `Record.texts_related`: the text that loads a relation depends on the relation.
* `Repository.texts_independent_of_values`: the operations of a repository and the loading of
  relations, in two runs.
-/

set_option autoImplicit false

namespace RowMapper

open RowMapper.Sql

variable {ι κ ω α : Type}

/-- The texts that are sent in a run. -/
def textsSent (run : StateM (ω × List Exchange) α) (world : ω) : List String :=
  (run (world, [])).2.2.map (·.statement.sql)

/-- All texts in the one list are those in the other. -/
def AllSame (first second : List String) : Prop :=
  ∀ text ∈ first, ∀ text' ∈ second, text = text'

theorem shape_condition (column : String) (value value' : Value) :
    (Filter.toPredicate? (.predicate (.compare column .eq value))).map Predicate.shape
      = (Filter.toPredicate? (.predicate (.compare column .eq value'))).map Predicate.shape := rfl

namespace Repository

variable {first second : Repository ι κ} {record record' : Record ι κ}

/-! ### Saves -/

/-- A stamp leaves other keys as they are, and its own is not null. -/
theorem isNull_stamp (repository : Repository ι κ) (kind : FieldKind) (now : Int64)
    (record : Record ι κ) (key : String) :
    ((repository.stamp kind now record).get key).isNull
      = ((record.get key).isNull &&
          !(repository.entity.fieldOfKind? kind).any (·.key == key)) := by
  unfold stamp
  cases repository.entity.fieldOfKind? kind with
  | none => simp
  | some field =>
      by_cases hkey : key = field.key
      · subst hkey
        simp [Value.isNull]
      · simp [Record.get_set_of_ne record _ hkey, Ne.symm hkey]

/-- The text of an INSERT depends on which fields are null. -/
theorem insertStatement_text_eq (hentity : first.entity = second.entity)
    (hnulls : ∀ field ∈ first.entity.fields, field.kind ≠ .pk →
      (record.get field.key).isNull = (record'.get field.key).isNull) (now now' : Int64) :
    (first.insertStatement record now).sql = (second.insertStatement record' now').sql := by
  have hfields : first.entity.fields.filter (fun field => field.kind ≠ .pk &&
        !((first.stamp .createdAt now record).get field.key).isNull)
      = second.entity.fields.filter (fun field => field.kind ≠ .pk &&
        !((second.stamp .createdAt now' record').get field.key).isNull) := by
    rw [← hentity]
    refine List.filter_congr fun field hfield => ?_
    by_cases hkind : field.kind = .pk
    · simp [hkind]
    · rw [isNull_stamp, isNull_stamp, hnulls field hfield hkind, hentity]
  have htable : some first.entity.table = some second.entity.table := by rw [hentity]
  unfold insertStatement insertion
  refine Insert.text_eq htable ?_
  refine Assignments.columns_setAll_eq rfl ?_
  rw [List.map_map, List.map_map]
  exact congrArg (List.map Field.name) hfields

/-- The text of an UPDATE depends on which fields differ from the snapshot. -/
theorem updateStatement_text_eq (hentity : first.entity = second.entity)
    (hdiffers : ∀ field ∈ first.entity.fields, differs record field = differs record' field)
    (pk : Field) (now now' : Int64) :
    (first.updateStatement record pk now).sql = (second.updateStatement record' pk now').sql := by
  have hchanged : (first.changed record).map (·.1) = (second.changed record').map (·.1) := by
    have hfields : first.entity.fields.filter (differs record)
        = second.entity.fields.filter (differs record') := by
      rw [← hentity]
      exact List.filter_congr hdiffers
    unfold changed
    rw [List.map_map, List.map_map]
    exact congrArg (List.map Field.name) hfields
  have htime : (first.changeTime now).map (·.1) = (second.changeTime now').map (·.1) := by
    unfold changeTime
    rw [hentity]
    cases second.entity.fieldOfKind? .updatedAt <;> rfl
  unfold updateStatement
  rw [stampUpdate_eq, stampUpdate_eq]
  have htable : some first.entity.table = some second.entity.table := by rw [hentity]
  refine Update.text_eq htable ?_ (shape_condition pk.name _ _)
  exact Assignments.columns_setAll_eq (Assignments.columns_setAll_eq rfl hchanged) htime

/-- What the texts of a save depend on: for a new record the fields that are null, and for a stored
one the fields that differ from the snapshot. -/
structure SavesAlike (entity : EntityType ι) (record record' : Record ι κ) : Prop where
  isNew : record.isNew = record'.isNew
  nulls : record.isNew = true → ∀ field ∈ entity.fields, field.kind ≠ .pk →
    (record.get field.key).isNull = (record'.get field.key).isNull
  differences : record.isNew = false → ∀ field ∈ entity.fields,
    differs record field = differs record' field

/-- The texts that two saves send. -/
theorem Effect.texts_eq {backend backend' : Backend κ ω} {now now' : Int64}
    {world world' : ω × List Exchange} {after after' : ω × List Exchange}
    {outcome outcome' : Outcome ι κ}
    (h : Effect first record backend.logged now world outcome after)
    (h' : Effect second record' backend'.logged now' world' outcome' after')
    (hworld : world.2 = []) (hworld' : world'.2 = []) (hentity : first.entity = second.entity)
    (halike : SavesAlike first.entity record record') :
    AllSame (after.2.map (·.statement.sql)) (after'.2.map (·.statement.sql)) := by
  unfold AllSame
  cases hnew : record.isNew with
  | true =>
      obtain ⟨exchange, hstatement, -, hlog⟩ := h.sent_of_new hnew
      obtain ⟨exchange', hstatement', -, hlog'⟩ := h'.sent_of_new (halike.isNew ▸ hnew)
      have htext := insertStatement_text_eq hentity (halike.nulls hnew) now now'
      simp [hlog, hlog', hworld, hworld', hstatement, hstatement', htext]
  | false =>
      rcases h.sent_of_stored hnew with hlog | ⟨pk, exchange, hpk, -, hstatement, hlog⟩
      · simp [hlog, hworld]
      rcases h'.sent_of_stored (halike.isNew ▸ hnew) with
        hlog' | ⟨pk', exchange', hpk', -, hstatement', hlog'⟩
      · simp [hlog', hworld']
      -- Both entities are one, and so are their primary keys.
      obtain rfl : pk = pk' := by
        rw [hentity, hpk'] at hpk
        exact (Option.some.inj hpk).symm
      have htext := updateStatement_text_eq hentity (halike.differences hnew) pk now now'
      simp [hlog, hlog', hworld, hworld', hstatement, hstatement', htext]

theorem texts_store (hentity : first.entity = second.entity) (backend backend' : Backend κ ω)
    (world world' : ω) (now now' : Int64) (validated validated' : Bool)
    (halike : SavesAlike first.entity (first.prepare record) (second.prepare record')) :
    AllSame (textsSent (first.store backend.logged now validated record) world)
      (textsSent (second.store backend'.logged now' validated' record') world') := by
  cases hallowed : (first.allow validated (first.prepare record)).1 with
  | false =>
      have hrun := store_refused first record backend.logged now (world, []) hallowed
      simp [AllSame, textsSent, hrun]
  | true =>
      cases hallowed' : (second.allow validated' (second.prepare record')).1 with
      | false =>
          have hrun := store_refused second record' backend'.logged now' (world', []) hallowed'
          simp [AllSame, textsSent, hrun]
      | true =>
          have h := store_effect first record backend.logged now (world, []) hallowed
          have h' := store_effect second record' backend'.logged now' (world', []) hallowed'
          have hkin := (kin_allow first (first.prepare record) validated).entity
          have hkin' := (kin_allow second (second.prepare record') validated').entity
          refine h.texts_eq h' rfl rfl ?_ (hkin.symm ▸ halike)
          rw [hkin, hkin', hentity]

/-! ### Other operations -/

/-- A query that nothing follows is all that is sent. -/
theorem textsSent_query {next : Except MapperError Output → StateM (ω × List Exchange) α}
    (hnext : ∀ answer world, (next answer world).2 = world) (backend : Backend κ ω)
    (connection : κ) (statement : Statement) (world : ω) :
    textsSent (backend.logged.query connection statement >>= next) world = [statement.sql] := by
  have hlog := hnext (backend.query connection statement world).1
    ((backend.query connection statement world).2,
      [] ++ [⟨statement, (backend.query connection statement world).1⟩])
  exact congrArg (fun after => after.2.map (·.statement.sql)) hlog

theorem pk_eq (hentity : first.entity = second.entity) : first.pk = second.pk := by
  unfold pk
  rw [hentity]

/-- Deleting sends one text for all records. -/
theorem texts_delete (hentity : first.entity = second.entity) (backend backend' : Backend κ ω)
    (world world' : ω) :
    textsSent (first.delete backend.logged record) world
      = textsSent (second.delete backend'.logged record') world' := by
  unfold delete
  rw [pk_eq hentity]
  cases second.pk with
  | error cause => rfl
  | ok pk =>
      have htable : some first.entity.table = some second.entity.table := by rw [hentity]
      have htext : (first.deletion pk record).statement.sql
          = (second.deletion pk record').statement.sql :=
        Delete.text_eq htable (shape_condition pk.name _ _)
      dsimp only
      rw [textsSent_query, textsSent_query, htext]
      · rintro (_ | _) _ <;> rfl
      · rintro (_ | _) _ <;> rfl

/-- Fetching one record is one query. -/
theorem texts_fetchOptional (repository : Repository ι κ) (backend : Backend κ ω) (find : Find)
    (world : ω) : textsSent (repository.fetchOptional backend.logged find) world
      = [((find.limitTo 1).select repository.entity.table).statement.sql] := rfl

/-- Finding a record by its key sends one text for all keys. -/
theorem texts_findById (hentity : first.entity = second.entity) (backend backend' : Backend κ ω)
    (world world' : ω) (id id' : Value) :
    textsSent (first.findById backend.logged id) world
      = textsSent (second.findById backend'.logged id') world' := by
  unfold findById
  rw [pk_eq hentity]
  cases second.pk with
  | error cause => rfl
  | ok pk =>
      dsimp only
      rw [texts_fetchOptional, texts_fetchOptional, hentity]
      exact congrArg (fun text => [text]) (Select.text_eq rfl (shape_condition pk.name id id'))

end Repository

/-! ### Relations -/

namespace Record

variable {record record' : Record ι κ}

/-- All that loading a relation sends is the text of the relation. -/
theorem texts_related {backend : Backend κ ω} {schema : Schema ι} {name text : String} {world : ω}
    (h : text ∈ textsSent (record.related backend.logged schema name) world) :
    ∃ relation, record.entity.relation? name = some relation ∧
      relation.loadingText? schema = some text := by
  have hloading := loading_related backend schema record name world
  unfold textsSent at h
  generalize record.related backend.logged schema name (world, []) = loaded at h hloading
  obtain ⟨result, after, sent⟩ := loaded
  cases hloading with
  | undeclared | idle | unconnected => cases h
  | answered hrelation htext =>
      obtain rfl := List.mem_singleton.1 h
      exact ⟨_, hrelation, htext⟩

/-- Loading a relation sends one text for all records of an entity. -/
theorem allSame_related (hentity : record.entity = record'.entity)
    (backend backend' : Backend κ ω) (schema : Schema ι) (world world' : ω) (name : String) :
    AllSame (textsSent (record.related backend.logged schema name) world)
      (textsSent (record'.related backend'.logged schema name) world') := by
  intro text htext text' htext'
  obtain ⟨relation, hrelation, hloading⟩ := texts_related htext
  obtain ⟨relation', hrelation', hloading'⟩ := texts_related htext'
  obtain rfl : relation = relation' := by
    rw [hentity, hrelation'] at hrelation
    exact (Option.some.inj hrelation).symm
  exact Option.some.inj (hloading.symm.trans hloading')

end Record

/-! ### All operations -/

namespace Repository

variable {first second : Repository ι κ} {record record' : Record ι κ}

/-- In two runs of one entity, values do not show in the texts.

Conditions of one shape have one text. Saves of new records with the same null fields, and of stored
records with the same differences, send the same texts. Deleting, finding by key and loading a
relation send the same texts whatever the records, keys and snapshots are. Everything else may
differ between the runs, from the backends to the messages and hooks of the repositories. -/
theorem texts_independent_of_values (hentity : first.entity = second.entity)
    (hrecord : record.entity = record'.entity) (schema : Schema ι) (backend backend' : Backend κ ω)
    (world world' : ω) (now now' : Int64) :
    (∀ condition condition' : Predicate, condition.shape = condition'.shape →
      ∀ params params', (condition.bind params).1 = (condition'.bind params').1) ∧
    (record.isNew = true → record'.isNew = true →
      (∀ field ∈ first.entity.fields, field.kind ≠ .pk →
        ((first.prepare record).get field.key).isNull
          = ((second.prepare record').get field.key).isNull) →
      AllSame (textsSent (first.saveUnvalidated backend.logged now record) world)
        (textsSent (second.saveUnvalidated backend'.logged now' record') world')) ∧
    (record.isNew = false → record'.isNew = false →
      (∀ field ∈ first.entity.fields,
        differs (first.prepare record) field = differs (second.prepare record') field) →
      AllSame (textsSent (first.saveUnvalidated backend.logged now record) world)
        (textsSent (second.saveUnvalidated backend'.logged now' record') world')) ∧
    textsSent (first.delete backend.logged record) world
      = textsSent (second.delete backend'.logged record') world' ∧
    (∀ id id', textsSent (first.findById backend.logged id) world
      = textsSent (second.findById backend'.logged id') world') ∧
    (∀ name, AllSame (textsSent (record.related backend.logged schema name) world)
      (textsSent (record'.related backend'.logged schema name) world')) ∧
    (∀ expected name, AllSame (textsSent (record.hasMany backend.logged schema expected name) world)
      (textsSent (record'.hasMany backend'.logged schema expected name) world')) ∧
    (∀ expected name, AllSame (textsSent (record.hasOne backend.logged schema expected name) world)
      (textsSent (record'.hasOne backend'.logged schema expected name) world')) := by
  have hisNew := (kin_prepare first record).isNew_eq
  have hisNew' := (kin_prepare second record').isNew_eq
  have hrelated := Record.allSame_related hrecord backend backend' schema world world'
  refine ⟨fun _ _ => Predicate.bind_text_eq, fun hnew hnew' hnulls => ?_,
    fun hold hold' hdiffers => ?_, texts_delete hentity backend backend' world world',
    texts_findById hentity backend backend' world world', hrelated, fun _ => hrelated,
    fun _ => hrelated⟩
  · refine texts_store hentity backend backend' world world' now now' false false ?_
    rw [← hisNew] at hnew
    rw [← hisNew'] at hnew'
    exact ⟨hnew.trans hnew'.symm, fun _ => hnulls, fun hold => by simp [hnew] at hold⟩
  · refine texts_store hentity backend backend' world world' now now' false false ?_
    rw [← hisNew] at hold
    rw [← hisNew'] at hold'
    exact ⟨hold.trans hold'.symm, fun hnew => by simp [hold] at hnew, fun _ => hdiffers⟩

/-- A name that looks like a function call is sent like any other name. -/
theorem texts_independent_of_call :
    let repository : Repository Unit Unit := ⟨users, (), {}, .empty⟩
    let blank : Record Unit Unit := .blank users
    let named := blank.set "name" (.string "Ada")
    let hostile := blank.set "name" (.string "NOW()")
    let backend := Backend.accepting 7
    textsSent (repository.saveUnvalidated backend.logged 0 named) ()
      = ["INSERT INTO users (`name`) VALUES (?);"] ∧
    AllSame (textsSent (repository.saveUnvalidated backend.logged 0 named) ())
      (textsSent (repository.saveUnvalidated backend.logged 0 hostile) ()) ∧
    textsSent (repository.delete backend.logged named) ()
      = textsSent (repository.delete backend.logged hostile) () := by
  intro repository blank named hostile backend
  have hentity : repository.entity = repository.entity := rfl
  have hrecord : named.entity = hostile.entity := rfl
  have h := texts_independent_of_values hentity hrecord (fun _ => users) backend backend () () 0 0
  have hnulls : ∀ field ∈ repository.entity.fields, field.kind ≠ .pk →
      ((repository.prepare named).get field.key).isNull
        = ((repository.prepare hostile).get field.key).isNull := by
    decide +kernel
  exact ⟨by decide +kernel, h.2.1 rfl rfl hnulls, h.2.2.2.1⟩

end Repository

end RowMapper
