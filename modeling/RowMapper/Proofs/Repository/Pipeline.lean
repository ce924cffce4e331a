import RowMapper.Proofs.Engine.Sending
import RowMapper.Proofs.Repository.Allowed
import RowMapper.Proofs.Repository.Changes

/-!
# `RowMapper.Proofs.Repository.Pipeline`: one save, from the record to the engine

A save passes through defaults, validation and hooks, and then becomes an INSERT, an UPDATE or
nothing at all. `Repository.save_pipeline` says which of these it is, in terms of what reaches the
engine behind the connection of the repository, and that the answer of the save is the answer of
the engine.
-/

set_option autoImplicit false

namespace RowMapper

open RowMapper.Sql

variable {ι σ ω : Type} {zone : Calendar.Zone}

/-! ### Statements that write -/

theorem Call.ofStatement_of_isInsert {statement : Statement} (h : statement.isInsert = true) :
    Call.ofStatement statement = .execute statement := by
  have hverb : ("INSERT".toList ++ [' ']).isPrefixOf statement.sql.toList = true := by
    refine List.isPrefixOf_iff_prefix.2 (List.IsPrefix.trans ?_ (List.isPrefixOf_iff_prefix.1 h))
    exact List.isPrefixOf_iff_prefix.1 (by decide)
  rw [Call.ofStatement, kind_of_verb (by decide) (by decide) (by decide) hverb]

theorem Call.ofStatement_of_isUpdate {statement : Statement} (h : statement.isUpdate = true) :
    Call.ofStatement statement = .execute statement := by
  have hverb : ("UPDATE".toList ++ [' ']).isPrefixOf statement.sql.toList = true := h
  rw [Call.ofStatement, kind_of_verb (by decide) (by decide) (by decide) hverb]

/-- What becomes of one statement of a kind that is to be sent. If a session can be had, it is
executed, and the answer of the engine decides; if none can be had, nothing is sent and the save
fails. -/
structure Delivers (engine : Engine σ ω) (id : ConnectionId) (kind : Statement → Bool)
    (done : Bool) (pool after : Pool σ (ω × List Sending)) : Prop where
  connected : pool.Connects engine.recorded id → ∃ statement, kind statement = true ∧
    after.sent = pool.sent ++ [⟨.execute statement, done⟩]
  unconnected : ¬ pool.Connects engine.recorded id → after.sent = pool.sent ∧ done = false

theorem delivers_of_query {engine : Engine σ ω} {id : ConnectionId} {kind : Statement → Bool}
    {statement : Statement} {pool after : Pool σ (ω × List Sending)}
    {answer : Except MapperError Output} (hkind : kind statement = true)
    (hcall : Call.ofStatement statement = .execute statement)
    (hquery : (Pool.backend zone engine.recorded).query id statement pool = (answer, after)) :
    Delivers engine id kind answer.isOk pool after := by
  rcases Pool.query_cases hquery with ⟨hconnects, hsent⟩ | ⟨hconnects, hnothing⟩
  · rw [hcall] at hsent
    exact ⟨fun _ => ⟨statement, hkind, hsent⟩, fun hnot => absurd hconnects hnot⟩
  · exact ⟨fun h => absurd h hconnects, fun _ => hnothing⟩

namespace Repository

/-! ### What each effect sends -/

namespace Effect

variable {repository : Repository ι ConnectionId} {record : Record ι ConnectionId}
  {engine : Engine σ ω} {now : Int64} {pool after : Pool σ (ω × List Sending)}
  {outcome : Outcome ι ConnectionId}

theorem sends_at_most_one
    (h : Effect repository record (Pool.backend zone engine.recorded) now pool outcome after) :
    after.sent = pool.sent ∨ ∃ sending, after.sent = pool.sent ++ [sending] := by
  cases h with
  | inserted _ hquery | insertRejected _ hquery | updated _ _ _ hquery
  | updateRejected _ _ _ hquery =>
      rcases Pool.query_cases hquery with ⟨-, hsent⟩ | ⟨-, hsent, -⟩
      · exact .inr ⟨_, hsent⟩
      · exact .inl hsent
  | keyless | unchanged => exact .inl rfl

/-- A new record is sent as an INSERT. -/
theorem sends_insert
    (h : Effect repository record (Pool.backend zone engine.recorded) now pool outcome after)
    (hnew : record.isNew = true) :
    Delivers engine repository.connection Statement.isInsert outcome.done pool after := by
  have hinsert := repository.isInsert_insertStatement record now
  cases h with
  | inserted _ hquery | insertRejected _ hquery =>
      exact delivers_of_query hinsert (Call.ofStatement_of_isInsert hinsert) hquery
  | keyless hold | unchanged hold | updated hold | updateRejected hold =>
      exact absurd hnew (Bool.eq_false_iff.1 hold)

/-- Without a primary key there is nothing to send for a stored record. -/
theorem sends_nothing_keyless
    (h : Effect repository record (Pool.backend zone engine.recorded) now pool outcome after)
    (hold : record.isNew = false) (hpk : repository.entity.pk? = none) :
    after.sent = pool.sent ∧ outcome.done = false := by
  cases h with
  | inserted hnew | insertRejected hnew => exact absurd hnew (Bool.eq_false_iff.1 hold)
  | keyless => exact ⟨rfl, rfl⟩
  | unchanged _ hkey | updated _ hkey | updateRejected _ hkey =>
      rw [hpk] at hkey
      contradiction

/-- Without a difference there is nothing to send either, and the save succeeds. -/
theorem sends_nothing_unchanged
    (h : Effect repository record (Pool.backend zone engine.recorded) now pool outcome after)
    (hold : record.isNew = false) (hkeyed : repository.entity.pk?.isSome = true)
    (hsame : ∀ field ∈ repository.entity.fields, differs record field = false) :
    after.sent = pool.sent ∧ outcome.done = true := by
  cases h with
  | inserted hnew | insertRejected hnew => exact absurd hnew (Bool.eq_false_iff.1 hold)
  | keyless _ hpk =>
      rw [hpk] at hkeyed
      contradiction
  | unchanged => exact ⟨rfl, rfl⟩
  | updated _ _ hchanges | updateRejected _ _ hchanges =>
      rw [(isEmpty_changes_iff _).2 hsame] at hchanges
      contradiction

/-- Differences are sent as an UPDATE. -/
theorem sends_update
    (h : Effect repository record (Pool.backend zone engine.recorded) now pool outcome after)
    (hold : record.isNew = false) (hkeyed : repository.entity.pk?.isSome = true)
    (hdiffers : ∃ field ∈ repository.entity.fields, differs record field = true) :
    Delivers engine repository.connection Statement.isUpdate outcome.done pool after := by
  cases h with
  | inserted hnew | insertRejected hnew => exact absurd hnew (Bool.eq_false_iff.1 hold)
  | keyless _ hpk =>
      rw [hpk] at hkeyed
      contradiction
  | unchanged _ _ hempty =>
      obtain ⟨field, hfield, hfieldDiffers⟩ := hdiffers
      rw [(isEmpty_changes_iff _).1 hempty field hfield] at hfieldDiffers
      contradiction
  | @updated pk _ _ _ _ _ hquery | @updateRejected pk _ _ _ _ _ hquery =>
      have hupdate := repository.isUpdate_updateStatement record pk now
      exact delivers_of_query hupdate (Call.ofStatement_of_isUpdate hupdate) hquery

end Effect

/-! ### The whole save -/

/-- A save, validated or not, sends one statement at most. If it is refused it sends nothing and
fails. Otherwise a new record is sent as one INSERT. A stored record without a primary key is not
sent, and the save fails; one that does not differ from its snapshot is not sent, and the save
succeeds; any other is sent as one UPDATE. What is sent is executed, and the save succeeds if the
engine accepts it; if there is no session to send it in, the save fails. -/
theorem save_pipeline (zone : Calendar.Zone) (engine : Engine σ ω) (pool : Pool σ ω)
    (repository : Repository ι ConnectionId) (record : Record ι ConnectionId) (validated : Bool)
    (now : Int64) :
    let prepared := repository.prepare record
    let saved := repository.store (Pool.backend zone engine.recorded) now validated record
      pool.recording
    let done := saved.1.done
    let sent := saved.2.sent
    sent.length ≤ 1 ∧
    (repository.Refuses prepared validated → sent = [] ∧ done = false) ∧
    (¬ repository.Refuses prepared validated →
      (record.isNew = true →
        (pool.Connects engine repository.connection → ∃ statement : Statement,
          statement.isInsert = true ∧ sent = [⟨.execute statement, done⟩]) ∧
        (¬ pool.Connects engine repository.connection → sent = [] ∧ done = false)) ∧
      (record.isNew = false → repository.entity.pk? = none → sent = [] ∧ done = false) ∧
      (record.isNew = false → repository.entity.pk?.isSome = true →
        ((∀ field ∈ repository.entity.fields, differs prepared field = false) →
          sent = [] ∧ done = true) ∧
        ((∃ field ∈ repository.entity.fields, differs prepared field = true) →
          (pool.Connects engine repository.connection → ∃ statement : Statement,
            statement.isUpdate = true ∧ sent = [⟨.execute statement, done⟩]) ∧
          (¬ pool.Connects engine repository.connection → sent = [] ∧ done = false)))) := by
  intro prepared saved done sent
  cases hallowed : (repository.allow validated prepared).1 with
  | false =>
      have hrefuses := (allow_eq_false_iff repository prepared validated).1 hallowed
      have hrun := store_refused repository record (Pool.backend zone engine.recorded) now
        pool.recording hallowed
      have hsent : sent = [] := congrArg (·.2.sent) hrun
      have hdone : done = false := congrArg (·.1.done) hrun
      rw [hsent]
      exact ⟨Nat.zero_le 1, fun _ => ⟨rfl, hdone⟩, fun h => absurd hrefuses h⟩
  | true =>
      have hnot := (allow_eq_true_iff repository prepared validated).1 hallowed
      have heffect := store_effect repository record (Pool.backend zone engine.recorded) now
        pool.recording hallowed
      have hkin := kin_allow repository prepared validated
      have hisNew : prepared.isNew = record.isNew := (kin_prepare repository record).isNew_eq
      -- Hooks and validation leave the entity and the connection of the repository as they are.
      rw [← hkin.entity, ← hkin.connection, ← hisNew, ← Pool.connects_recording]
      refine ⟨?_, fun h => absurd h hnot, fun _ => ⟨fun hnew => ?_, fun hold hpk => ?_,
        fun hold hkeyed => ⟨fun hsame => ?_, fun hdiffers => ?_⟩⟩⟩
      · rcases heffect.sends_at_most_one with hsent | ⟨sending, hsent⟩
        · have hsent : sent = [] := hsent
          simp [hsent]
        · have hsent : sent = [sending] := hsent
          simp [hsent]
      · obtain ⟨hconnected, hunconnected⟩ := heffect.sends_insert hnew
        exact ⟨hconnected, hunconnected⟩
      · exact heffect.sends_nothing_keyless hold hpk
      · exact heffect.sends_nothing_unchanged hold hkeyed hsame
      · obtain ⟨hconnected, hunconnected⟩ := heffect.sends_update hold hkeyed hdiffers
        exact ⟨hconnected, hunconnected⟩

/-- A repository of users over the first connection of a pool. -/
def userRepository : Repository Unit ConnectionId :=
  ⟨users, ⟨0⟩, {}, .empty⟩

/-- A pool with one connection, whose session is open. -/
def openPool : Pool Unit Script :=
  ⟨[.ofSession .sqliteMemory ()], .ok ⟨.sqliteMemory, none⟩, {}⟩

/-- The save of a user in this pool. -/
def saveUser (validated : Bool) (record : Record Unit ConnectionId) :
    Outcome Unit ConnectionId × Pool Unit (Script × List Sending) :=
  userRepository.store (Pool.backend .universal Script.engine.recorded) 0 validated record
    openPool.recording

/-- A stored user with another name. -/
def renamedUser : Record Unit ConnectionId :=
  (Record.hydrate .universal users ⟨[("id", .int 1), ("name", .string "Ada")]⟩ (some ⟨0⟩)).set
    "name" (.string "Bea")

/-- A user whose name is changed is sent as an UPDATE, and a new one as an INSERT. -/
theorem save_pipeline_of_users :
    (∃ statement : Statement, statement.isUpdate = true ∧ (saveUser true renamedUser).2.sent
      = [⟨.execute statement, (saveUser true renamedUser).1.done⟩]) ∧
    (∃ statement : Statement, statement.isInsert = true ∧ (saveUser false (.blank users)).2.sent
      = [⟨.execute statement, (saveUser false (.blank users)).1.done⟩]) := by
  have hconnects : openPool.Connects Script.engine userRepository.connection :=
    ⟨_, (), rfl, rfl⟩
  have hname : { kind := .string, name := "name" } ∈ userRepository.entity.fields := by
    simp [userRepository, users]
  constructor
  · have hallowed : ¬ userRepository.Refuses (userRepository.prepare renamedUser) true :=
      (allow_eq_true_iff ..).1 (by decide +kernel)
    have hold : renamedUser.isNew = false := by decide +kernel
    have hkeyed : userRepository.entity.pk?.isSome = true := rfl
    have hdiffers : ∃ field ∈ userRepository.entity.fields,
        differs (userRepository.prepare renamedUser) field = true :=
      ⟨_, hname, by decide +kernel⟩
    have h := save_pipeline .universal Script.engine openPool userRepository renamedUser true 0
    exact (((h.2.2 hallowed).2.2 hold hkeyed).2 hdiffers).1 hconnects
  · have hallowed : ¬ userRepository.Refuses (userRepository.prepare (.blank users)) false :=
      (allow_eq_true_iff ..).1 rfl
    have hnew : (Record.blank users : Record Unit ConnectionId).isNew = true := rfl
    have h := save_pipeline .universal Script.engine openPool userRepository (.blank users) false 0
    exact ((h.2.2 hallowed).1 hnew).1 hconnects

end Repository

end RowMapper
