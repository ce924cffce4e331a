import RowMapper.Proofs.Repository.Defaults
import RowMapper.Proofs.Repository.Pipeline

/-!
# `RowMapper.Proofs.Repository.Frame`: what a save may change on a record

Defaults and times are written into a record before it is known whether it can be stored, and a
save can end in many places. Wherever it ends, it has changed little (`Repository.Frame`): the
entity and the snapshot stay, the connection is taken over when an INSERT was accepted, and a value
changes only under a key that holds null and has a default, under the key of the time that goes with
a statement that was sent, or under the primary key, which an accepted INSERT assigns.

The proof follows the save: `get?_prepare` is the frame of filling in defaults, and `Effect.frame`
of what comes after. `Repository.operation_frame` puts them together.
-/

set_option autoImplicit false

namespace RowMapper

open RowMapper.Sql RowMapper.Calendar

variable {ι κ σ ω : Type}

/-! ### Operations on a record -/

/-- What a repository does with one record. -/
inductive RecordOperation where
  | validate
  /-- Saves the record at this time, validated or not. -/
  | save (validated : Bool) (now : Int64)
  | delete

/-- Carries out an operation. Validating answers with no record, so the record stays as it is. -/
def RecordOperation.perform (backend : Backend κ ω) (repository : Repository ι κ)
    (record : Record ι κ) : RecordOperation → StateM ω (Outcome ι κ)
  | .validate =>
    let (valid, repository) := repository.validate record
    return ⟨valid, record, repository⟩
  | .save validated now => repository.store backend now validated record
  | .delete => repository.delete backend record

/-! ### What is sent -/

/-- Whether an INSERT was accepted. -/
def Exchange.inserts (exchange : Exchange) : Bool :=
  exchange.statement.isInsert && exchange.accepted

namespace Sql

/-- A statement that begins with another letter is no INSERT. -/
theorem Statement.isInsert_of_head {statement : Statement} {c : Char}
    (hhead : statement.sql.toList.head? = some c) (hne : c ≠ 'I') :
    statement.isInsert = false := by
  refine Bool.eq_false_iff.2 fun hinsert => ?_
  obtain ⟨rest, hrest⟩ := List.isPrefixOf_iff_prefix.1 hinsert
  rw [← hrest] at hhead
  exact hne (Option.some.inj hhead).symm

theorem Statement.isInsert_of_isUpdate {statement : Statement}
    (h : statement.isUpdate = true) : statement.isInsert = false := by
  obtain ⟨rest, hrest⟩ := List.isPrefixOf_iff_prefix.1 h
  exact isInsert_of_head (by rw [← hrest]; rfl) (show 'U' ≠ 'I' by decide)

end Sql

/-! ### The frame -/

/-- The key is that of the first field of a kind. -/
def EntityType.KeyOfKind (entity : EntityType ι) (kind : FieldKind) (key : String) : Prop :=
  ∃ field, entity.fieldOfKind? kind = some field ∧ field.key = key

/-- A statement that was sent has a value to go with it under the key: the time of an INSERT or of
an UPDATE, or the key that the engine has assigned. -/
inductive Record.Marked (entity : EntityType ι) (log : List Exchange) (after : Record ι κ)
    (key : String) : Prop
  | created {exchange : Exchange} (hkey : entity.KeyOfKind .createdAt key)
      (hsent : exchange ∈ log) (hinsert : exchange.statement.isInsert = true)
  | changed {exchange : Exchange} (hkey : entity.KeyOfKind .updatedAt key)
      (hsent : exchange ∈ log) (hupdate : exchange.statement.isUpdate = true)
  | assigned {exchange : Exchange} {result : WriteResult} (hkey : entity.KeyOfKind .pk key)
      (hsent : exchange ∈ log) (hinsert : exchange.statement.isInsert = true)
      (hanswer : exchange.answer = .ok (.write result))
      (hvalue : after.get key = .int result.lastInsertedId)

/-- What may have changed on a record, given what was sent. -/
structure Repository.Frame (repository : Repository ι κ) (log : List Exchange)
    (record after : Record ι κ) : Prop where
  entity : after.entity = record.entity
  snapshot : after.snapshot = record.snapshot
  isNew : after.isNew = record.isNew
  connection : after.connection
    = if log.any Exchange.inserts then some repository.connection else record.connection
  values : ∀ key, after.values.get? key ≠ record.values.get? key →
    record.Unfilled repository.entity key ∨ after.Marked repository.entity log key
  assigned : ∀ pk, repository.entity.pk? = some pk →
    ∀ exchange ∈ log, exchange.inserts = true →
      ∃ result, exchange.answer = .ok (.write result) ∧
        after.get pk.key = .int result.lastInsertedId

namespace Repository

variable {repository : Repository ι κ} {record : Record ι κ}

/-! ### Times and keys -/

theorem get?_stamp {kind : FieldKind} {now : Int64} {key : String}
    (h : (repository.stamp kind now record).values.get? key ≠ record.values.get? key) :
    repository.entity.KeyOfKind kind key := by
  unfold stamp at h
  split at h
  case h_2 => exact absurd rfl h
  case h_1 field hfield =>
    by_cases hkey : key = field.key
    · exact ⟨field, hfield, hkey.symm⟩
    · exact absurd (SortedMap.get?_insert_of_ne _ _ hkey) h

theorem connection_stamp (kind : FieldKind) (now : Int64) :
    (repository.stamp kind now record).connection = record.connection := by
  unfold stamp
  split <;> rfl

theorem get?_takeKey {result : WriteResult} {key : String}
    (h : (repository.takeKey (.write result) record).values.get? key ≠ record.values.get? key) :
    repository.entity.KeyOfKind .pk key ∧
      (repository.takeKey (.write result) record).get key = .int result.lastInsertedId := by
  cases hpk : repository.entity.pk? with
  | none =>
      have htake : repository.takeKey (.write result) record = record := by
        unfold takeKey
        rw [hpk]
      rw [htake] at h
      exact absurd rfl h
  | some pk =>
      rw [takeKey_eq hpk] at h ⊢
      by_cases hkey : key = pk.key
      · subst hkey
        exact ⟨⟨pk, hpk, rfl⟩, Record.get_set_self record pk.key _⟩
      · exact absurd (SortedMap.get?_insert_of_ne _ _ hkey) h

theorem head?_deletion (repository : Repository ι κ) (record : Record ι κ) (pk : Field) :
    (repository.deletion pk record).statement.sql.toList.head? = some 'D' := by
  unfold Delete.statement
  simp only [String.toList_append]
  rfl

/-- If no INSERT was sent and no value has changed but the times that go with what was sent, the
record is within its frame. -/
theorem Frame.of_kin {log : List Exchange} {after : Record ι κ} (hkin : record.Kin after)
    (hconnection : after.connection = record.connection)
    (hlog : ∀ exchange ∈ log, exchange.inserts = false)
    (hvalues : ∀ key, after.values.get? key ≠ record.values.get? key →
      after.Marked repository.entity log key) : repository.Frame log record after where
  entity := hkin.entity
  snapshot := hkin.snapshot
  isNew := hkin.isNew_eq
  connection := by
    rw [List.any_eq_false.2 fun exchange hsent => by simp [hlog exchange hsent], hconnection]
    rfl
  values key h := .inr (hvalues key h)
  assigned _ _ exchange hsent hinserts := by
    rw [hlog exchange hsent] at hinserts
    contradiction

/-- A record that is not touched is within its frame, if no INSERT was sent. -/
theorem Frame.refl (repository : Repository ι κ) (record : Record ι κ) {log : List Exchange}
    (hlog : ∀ exchange ∈ log, exchange.inserts = false) : repository.Frame log record record :=
  .of_kin (.refl record) rfl hlog fun _ h => absurd rfl h

/-- Defaults may be filled in before. -/
theorem Frame.of_prepare {log : List Exchange} {after : Record ι κ}
    (h : repository.Frame log (repository.prepare record) after) :
    repository.Frame log record after where
  entity := h.entity.trans (kin_prepare repository record).entity
  snapshot := h.snapshot.trans (kin_prepare repository record).snapshot
  isNew := h.isNew.trans (kin_prepare repository record).isNew_eq
  connection := by rw [h.connection, connection_prepare]
  values key hchanged := by
    by_cases hkey : (repository.prepare record).values.get? key = record.values.get? key
    · rw [← hkey] at hchanged
      refine (h.values key hchanged).imp_left fun ⟨hnull, hdefault⟩ => ⟨?_, hdefault⟩
      rwa [Record.get, hkey] at hnull
    · exact .inl (get?_prepare hkey)
  assigned := h.assigned

/-- A frame is the same for a repository that differs in its messages only. -/
theorem Frame.of_kin_repository {allowed : Repository ι κ} {log : List Exchange}
    {after : Record ι κ} (hkin : repository.Kin allowed) (h : allowed.Frame log record after) :
    repository.Frame log record after where
  entity := h.entity
  snapshot := h.snapshot
  isNew := h.isNew
  connection := hkin.connection ▸ h.connection
  values := hkin.entity ▸ h.values
  assigned := hkin.entity ▸ h.assigned

/-! ### What comes after the defaults -/

/-- After an INSERT that was accepted, the record has its time, its key and the connection. -/
theorem frame_inserted {now : Int64} {statement : Statement} (hinsert : statement.isInsert = true)
    (result : WriteResult) :
    repository.Frame [⟨statement, .ok (.write result)⟩] record
      ((repository.takeKey (.write result) (repository.stamp .createdAt now record)).attach
        repository.connection) where
  entity := ((kin_stamp ..).trans (kin_takeKey ..)).entity
  snapshot := ((kin_stamp ..).trans (kin_takeKey ..)).snapshot
  isNew := (((kin_stamp ..).trans (kin_takeKey ..)).trans (.attach ..)).isNew_eq
  connection := by
    rw [List.any_cons, Exchange.inserts, hinsert]
    rfl
  values key hchanged := by
    -- The key is assigned last, and may stand where the time was.
    by_cases hkey : (repository.takeKey (.write result)
        (repository.stamp .createdAt now record)).values.get? key
          = (repository.stamp .createdAt now record).values.get? key
    · have hstamp : (repository.stamp .createdAt now record).values.get? key
          ≠ record.values.get? key := fun hsame => hchanged (hkey.trans hsame)
      exact .inr (.created (get?_stamp hstamp) List.mem_cons_self hinsert)
    · obtain ⟨hpk, hvalue⟩ := get?_takeKey hkey
      exact .inr (.assigned hpk List.mem_cons_self hinsert rfl hvalue)
  assigned pk hpk exchange hsent _ := by
    obtain rfl := List.mem_singleton.1 hsent
    refine ⟨result, rfl, ?_⟩
    rw [takeKey_eq hpk]
    exact Record.get_set_self _ pk.key _

/-- However a save ends that was not refused, the record is within its frame. -/
theorem Effect.frame {repository : Repository ι ConnectionId} {record : Record ι ConnectionId}
    {zone : Zone} {engine : Engine σ ω} {now : Int64} {pool : Pool σ ω}
    {after : Pool σ ω × List Exchange} {outcome : Outcome ι ConnectionId}
    (h : Effect repository record (Pool.backend zone engine).logged now (pool, []) outcome after) :
    repository.Frame after.2 record outcome.record := by
  have hinsert := repository.isInsert_insertStatement record now
  cases h with
  | inserted _ hquery =>
      have hlog : after.2 = [_] := Backend.logged_query hquery
      obtain ⟨result, rfl⟩ := Pool.answer_of_execute (Call.ofStatement_of_isInsert hinsert)
        (Backend.query_of_logged hquery)
      rw [hlog]
      exact frame_inserted hinsert result
  | insertRejected _ hquery =>
      -- The time of the insertion stays on the record.
      have hlog : after.2 = [_] := Backend.logged_query hquery
      rw [hlog]
      refine .of_kin (kin_stamp ..) (connection_stamp ..) ?_ fun key hchanged => ?_
      · simp [Exchange.inserts]
      · exact .created (get?_stamp hchanged) List.mem_cons_self hinsert
  | keyless | unchanged => exact .refl repository record (by simp)
  | @updated pk _ _ _ _ _ hquery | @updateRejected pk _ _ _ _ _ hquery =>
      have hlog : after.2 = [_] := Backend.logged_query hquery
      have hupdate := repository.isUpdate_updateStatement record pk now
      rw [hlog]
      refine .of_kin (kin_stamp ..) (connection_stamp ..) ?_ fun key hchanged => ?_
      · simp [Exchange.inserts, Statement.isInsert_of_isUpdate hupdate]
      · exact .changed (get?_stamp hchanged) List.mem_cons_self hupdate

/-- However a save ends, the record is within its frame. -/
theorem frame_store (repository : Repository ι ConnectionId) (record : Record ι ConnectionId)
    (zone : Zone) (engine : Engine σ ω) (pool : Pool σ ω) (validated : Bool) (now : Int64) :
    let saved := repository.store (Pool.backend zone engine).logged now validated record (pool, [])
    repository.Frame saved.2.2 record saved.1.record := by
  intro saved
  obtain ⟨allowed, hkin, hrefused | heffect⟩ := store_cases repository record
    (Pool.backend zone engine).logged now (pool, []) validated
  · have hsaved : saved = _ := hrefused
    rw [hsaved]
    exact (Frame.refl repository _ (by simp)).of_prepare
  · exact (heffect.frame.of_kin_repository hkin).of_prepare

/-! ### The whole operation -/

/-- The run of a deletion, by the answer of the engine. -/
theorem delete_run (repository : Repository ι κ) (record : Record ι κ) (backend : Backend κ ω)
    (world : ω) : repository.delete backend record world =
      match repository.pk with
      | .error cause => (⟨false, record, repository.addDatabaseError cause.message⟩, world)
      | .ok pk =>
        match backend.query repository.connection (repository.deletion pk record).statement
          world with
        | (.ok _, after) => (⟨true, record, repository⟩, after)
        | (.error cause, after) =>
          (⟨false, record, repository.addDatabaseError cause.message⟩, after) := by
  unfold delete
  cases repository.pk with
  | error cause => rfl
  | ok pk =>
      simp only [bind, StateT.bind]
      generalize backend.query repository.connection _ world = result
      obtain ⟨_ | _, after⟩ := result <;> rfl

/-- A deletion leaves the record as it is, and no INSERT is sent. -/
theorem record_delete (repository : Repository ι κ) (record : Record ι κ) (backend : Backend κ ω)
    (world : ω) :
    (repository.delete backend.logged record (world, [])).1.record = record ∧
    ∀ exchange ∈ (repository.delete backend.logged record (world, [])).2.2,
      exchange.inserts = false := by
  rw [delete_run]
  cases repository.pk with
  | error cause => exact ⟨rfl, by simp⟩
  | ok pk =>
      have hdelete : (repository.deletion pk record).statement.isInsert = false :=
        Statement.isInsert_of_head (head?_deletion repository record pk) (by decide)
      dsimp only
      generalize hquery : backend.logged.query _ _ _ = result
      obtain ⟨_ | _, after⟩ := result
      all_goals
        have hlog : after.2 = [_] := Backend.logged_query hquery
        exact ⟨rfl, by simp [hlog, Exchange.inserts, hdelete]⟩

/-- What an operation may change on a record. Validating and deleting change nothing at all. A save
leaves the record within its frame, whether it succeeds or not and wherever it ends. -/
theorem operation_frame (zone : Zone) (engine : Engine σ ω) (pool : Pool σ ω)
    (repository : Repository ι ConnectionId) (record : Record ι ConnectionId)
    (operation : RecordOperation) :
    let performed :=
      operation.perform (Pool.backend zone engine).logged repository record (pool, [])
    repository.Frame performed.2.2 record performed.1.record ∧
    (operation = .validate ∨ operation = .delete → performed.1.record = record) := by
  cases operation with
  | validate =>
      have hlog : ∀ exchange ∈ ([] : List Exchange), exchange.inserts = false := by simp
      exact ⟨.refl repository record hlog, fun _ => rfl⟩
  | save validated now =>
      exact ⟨frame_store repository record zone engine pool validated now, by simp⟩
  | delete =>
      obtain ⟨hrecord, hlog⟩ := record_delete repository record (Pool.backend zone engine) pool
      exact ⟨hrecord.symm ▸ .refl repository record hlog, fun _ => hrecord⟩

end Repository

end RowMapper
