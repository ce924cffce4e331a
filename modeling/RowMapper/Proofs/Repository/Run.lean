import RowMapper.Proofs.Repository.Store

/-!
# `RowMapper.Proofs.Repository.Run`: a record over many saves

A program sets values of a record and saves it, again and again. A `Session` is where such a
program stands: the repository, the record, the world of the engine and the outcomes of the saves
so far. `Session.run` carries out actions one after the other. What the hooks of a repository answer
may change from save to save, so each save comes with the hooks that are asked in it.

To see what is sent, a backend is run in a world that remembers it (`Backend.logged`).

* `Session.kin_run`: no run touches the snapshot of the record, so that a record is new for all of
  a run or not at all.
* `Session.inserts_of_run`: a record without a snapshot is inserted by each save that succeeds. A
  record of a stored row is never inserted; all that is sent for it are UPDATEs.
-/

set_option autoImplicit false

namespace RowMapper

variable {ι κ ω : Type}

/-! ### Runs -/

/-- What a program does with a record. -/
inductive Action (ι κ : Type) where
  /-- Sets a value. -/
  | set (key : String) (value : Value)
  /-- Saves the record at this time, validated or not, with hooks that answer in this way. -/
  | save (hooks : Hooks ι κ) (validated : Bool) (now : Int64)

/-- Where a program stands: what it holds, the world, and the outcomes of its saves so far. -/
structure Session (ι κ ω : Type) where
  repository : Repository ι κ
  record : Record ι κ
  world : ω
  outcomes : List (Outcome ι κ) := []

namespace Session

/-- Saves the record, with hooks that answer in this way. -/
def save (backend : Backend κ ω) (session : Session ι κ ω) (hooks : Hooks ι κ) (validated : Bool)
    (now : Int64) : Outcome ι κ × ω :=
  let repository := { session.repository with hooks }
  repository.store backend now validated session.record session.world

/-- Carries out one action. -/
def perform (backend : Backend κ ω) (session : Session ι κ ω) : Action ι κ → Session ι κ ω
  | .set key value => { session with record := session.record.set key value }
  | .save hooks validated now =>
    let (outcome, world) := session.save backend hooks validated now
    ⟨outcome.repository, outcome.record, world, session.outcomes ++ [outcome]⟩

/-- Carries out actions one after the other. -/
def run (backend : Backend κ ω) (session : Session ι κ ω) (actions : List (Action ι κ)) :
    Session ι κ ω :=
  actions.foldl (perform backend) session

/-- The number of saves that have succeeded. -/
def successes (session : Session ι κ ω) : Nat :=
  session.outcomes.countP (·.done)

/-- What each of the actions keeps, their run keeps. -/
theorem run_invariant {backend : Backend κ ω} (holds : Session ι κ ω → Prop)
    (actions : List (Action ι κ))
    (hstep : ∀ action ∈ actions, ∀ session, holds session → holds (session.perform backend action))
    (session : Session ι κ ω) (h : holds session) : holds (session.run backend actions) := by
  induction actions generalizing session with
  | nil => exact h
  | cons action rest ih =>
      obtain ⟨hfirst, hrest⟩ := List.forall_mem_cons.1 hstep
      exact ih hrest (session.perform backend action) (hfirst session h)

/-- A save is refused, or takes effect in a repository of the same entity. -/
theorem save_cases (backend : Backend κ ω) (session : Session ι κ ω) (hooks : Hooks ι κ)
    (validated : Bool) (now : Int64) :
    ∃ allowed : Repository ι κ, allowed.entity = session.repository.entity ∧
      (session.save backend hooks validated now
          = (⟨false, session.repository.prepare session.record, allowed⟩, session.world) ∨
        allowed.Effect (session.repository.prepare session.record) backend now session.world
          (session.save backend hooks validated now).1
          (session.save backend hooks validated now).2) := by
  obtain ⟨allowed, hkin, heffect⟩ := Repository.store_cases
    { session.repository with hooks } session.record backend now session.world validated
  exact ⟨allowed, hkin.entity, heffect⟩

theorem kin_perform (backend : Backend κ ω) (session : Session ι κ ω) (action : Action ι κ) :
    session.record.Kin (session.perform backend action).record := by
  cases action with
  | set key value => exact .set session.record key value
  | save hooks validated now => exact Repository.kin_store ..

/-- No run touches the entity or the snapshot of the record. -/
theorem kin_run (backend : Backend κ ω) (session : Session ι κ ω)
    (actions : List (Action ι κ)) : session.record.Kin (session.run backend actions).record := by
  refine run_invariant (fun later => session.record.Kin later.record) actions ?_ session
    (.refl session.record)
  intro action _ later h
  exact h.trans (later.kin_perform backend action)

end Session

/-! ### What is sent -/

/-- A statement that was sent, and the answer. -/
structure Exchange where
  statement : Sql.Statement
  answer : Except MapperError Output

/-- Whether the engine has accepted the statement. -/
def Exchange.accepted (exchange : Exchange) : Bool :=
  exchange.answer.isOk

@[simp]
theorem Exchange.accepted_ok (statement : Sql.Statement) (output : Output) :
    (Exchange.mk statement (.ok output)).accepted = true := rfl

@[simp]
theorem Exchange.accepted_error (statement : Sql.Statement) (cause : MapperError) :
    (Exchange.mk statement (.error cause)).accepted = false := rfl

/-- The backend in a world that remembers what was sent, in order. -/
def Backend.logged (backend : Backend κ ω) : Backend κ (ω × List Exchange) where
  query connection statement := fun (world, log) =>
    let (answer, after) := backend.query connection statement world
    (answer, after, log ++ [⟨statement, answer⟩])
  shared := fun (world, log) =>
    let (answer, after) := backend.shared world
    (answer, after, log)
  zone := backend.zone

/-- A logged query adds one exchange. -/
theorem Backend.logged_query {backend : Backend κ ω} {connection : κ} {statement : Sql.Statement}
    {world after : ω × List Exchange} {answer : Except MapperError Output}
    (h : backend.logged.query connection statement world = (answer, after)) :
    after.2 = world.2 ++ [⟨statement, answer⟩] := by
  cases h
  rfl

/-- The answer to a logged query is the answer to the query. -/
theorem Backend.query_of_logged {backend : Backend κ ω} {connection : κ}
    {statement : Sql.Statement} {world after : ω × List Exchange}
    {answer : Except MapperError Output}
    (h : backend.logged.query connection statement world = (answer, after)) :
    backend.query connection statement world.1 = (answer, after.1) := by
  cases h
  rfl

/-- What has been sent in a session. -/
def Session.log (session : Session ι κ (ω × List Exchange)) : List Exchange :=
  session.world.2

/-- The statement is an INSERT. -/
def Sql.Statement.isInsert (statement : Sql.Statement) : Bool :=
  "INSERT INTO ".toList.isPrefixOf statement.sql.toList

/-- The statement is an UPDATE. -/
def Sql.Statement.isUpdate (statement : Sql.Statement) : Bool :=
  "UPDATE ".toList.isPrefixOf statement.sql.toList

theorem Sql.Insert.isInsert_statement (insert : Sql.Insert) : insert.statement.isInsert = true := by
  unfold Sql.Statement.isInsert Sql.Insert.statement
  simp only [String.append_assoc, String.toList_append]
  exact List.isPrefixOf_iff_prefix.2 (List.prefix_append _ _)

theorem Sql.Update.isUpdate_statement (update : Sql.Update) : update.statement.isUpdate = true := by
  unfold Sql.Statement.isUpdate Sql.Update.statement
  simp only [String.append_assoc, String.toList_append]
  exact List.isPrefixOf_iff_prefix.2 (List.prefix_append _ _)

theorem Repository.isInsert_insertStatement (repository : Repository ι κ) (record : Record ι κ)
    (now : Int64) : (repository.insertStatement record now).isInsert = true := by
  rw [Repository.insertStatement]
  exact Sql.Insert.isInsert_statement _

theorem Repository.isUpdate_updateStatement (repository : Repository ι κ) (record : Record ι κ)
    (pk : Field) (now : Int64) : (repository.updateStatement record pk now).isUpdate = true := by
  rw [Repository.updateStatement]
  exact Sql.Update.isUpdate_statement _

/-- For a new record its INSERT is sent, and the save succeeds if it is accepted. -/
theorem Repository.Effect.sent_of_new {repository : Repository ι κ} {record : Record ι κ}
    {backend : Backend κ ω} {now : Int64} {world after : ω × List Exchange} {outcome : Outcome ι κ}
    (h : Effect repository record backend.logged now world outcome after)
    (hnew : record.isNew = true) :
    ∃ exchange : Exchange, exchange.statement = repository.insertStatement record now ∧
      exchange.accepted = outcome.done ∧ after.2 = world.2 ++ [exchange] := by
  cases h with
  | inserted _ hquery | insertRejected _ hquery =>
      exact ⟨⟨_, _⟩, rfl, rfl, Backend.logged_query hquery⟩
  | keyless hstored | unchanged hstored | updated hstored | updateRejected hstored =>
      rw [hnew] at hstored
      contradiction

/-- For a stored record nothing is sent, or the UPDATE of what differs from the snapshot. -/
theorem Repository.Effect.sent_of_stored {repository : Repository ι κ} {record : Record ι κ}
    {backend : Backend κ ω} {now : Int64} {world after : ω × List Exchange} {outcome : Outcome ι κ}
    (h : Effect repository record backend.logged now world outcome after)
    (hstored : record.isNew = false) :
    after.2 = world.2 ∨ ∃ (pk : Field) (exchange : Exchange), repository.entity.pk? = some pk ∧
      (repository.changes pk record).isEmpty = false ∧
      exchange.statement = repository.updateStatement record pk now ∧
        after.2 = world.2 ++ [exchange] := by
  cases h with
  | inserted hnew | insertRejected hnew =>
      rw [hstored] at hnew
      contradiction
  | keyless | unchanged => exact .inl rfl
  | updated _ hpk hchanges hquery | updateRejected _ hpk hchanges hquery =>
      exact .inr ⟨_, ⟨_, _⟩, hpk, hchanges, rfl, Backend.logged_query hquery⟩

/-- The statement that stores a new record is an INSERT, and the save succeeds if it is accepted. -/
theorem Repository.Effect.log_of_new {repository : Repository ι κ} {record : Record ι κ}
    {backend : Backend κ ω} {now : Int64} {world after : ω × List Exchange} {outcome : Outcome ι κ}
    (h : Effect repository record backend.logged now world outcome after)
    (hnew : record.isNew = true) :
    ∃ exchange : Exchange, exchange.statement.isInsert = true ∧
      exchange.accepted = outcome.done ∧ after.2 = world.2 ++ [exchange] := by
  obtain ⟨exchange, hstatement, hsent⟩ := h.sent_of_new hnew
  have hinsert := repository.isInsert_insertStatement record now
  exact ⟨exchange, hstatement ▸ hinsert, hsent⟩

/-- For a stored record, nothing is sent or one UPDATE. -/
theorem Repository.Effect.log_of_stored {repository : Repository ι κ} {record : Record ι κ}
    {backend : Backend κ ω} {now : Int64} {world after : ω × List Exchange} {outcome : Outcome ι κ}
    (h : Effect repository record backend.logged now world outcome after)
    (hstored : record.isNew = false) :
    after.2 = world.2 ∨
      ∃ exchange : Exchange, exchange.statement.isUpdate = true ∧
        after.2 = world.2 ++ [exchange] := by
  obtain hnothing | ⟨pk, exchange, -, -, hstatement, hsent⟩ := h.sent_of_stored hstored
  · exact .inl hnothing
  · have hupdate := repository.isUpdate_updateStatement record pk now
    exact .inr ⟨exchange, hstatement ▸ hupdate, hsent⟩

namespace Session

/-! ### Which statements are sent for a record -/

/-- The record is new, only INSERTs have been sent for it, and one was accepted for each save that
succeeded. -/
structure Inserting (session : Session ι κ (ω × List Exchange)) : Prop where
  new : session.record.isNew = true
  inserts : ∀ exchange ∈ session.log, exchange.statement.isInsert = true
  successes : session.log.countP Exchange.accepted = session.successes

/-- There is a stored row of the record, and only UPDATEs have been sent for it. -/
structure Updating (session : Session ι κ (ω × List Exchange)) : Prop where
  stored : session.record.isNew = false
  updates : ∀ exchange ∈ session.log, exchange.statement.isUpdate = true

theorem log_save (backend : Backend κ (ω × List Exchange))
    (session : Session ι κ (ω × List Exchange)) (hooks : Hooks ι κ) (validated : Bool)
    (now : Int64) :
    (session.perform backend (.save hooks validated now)).log
      = (session.save backend hooks validated now).2.2 := rfl

theorem outcomes_save (backend : Backend κ ω) (session : Session ι κ ω) (hooks : Hooks ι κ)
    (validated : Bool) (now : Int64) :
    (session.perform backend (.save hooks validated now)).outcomes
      = session.outcomes ++ [(session.save backend hooks validated now).1] := rfl

theorem successes_save (backend : Backend κ ω) (session : Session ι κ ω) (hooks : Hooks ι κ)
    (validated : Bool) (now : Int64) :
    (session.perform backend (.save hooks validated now)).successes = session.successes +
      if (session.save backend hooks validated now).1.done then 1 else 0 := by
  rw [successes, successes, outcomes_save, List.countP_append, List.countP_singleton]

theorem inserting_perform (backend : Backend κ ω) (action : Action ι κ)
    (session : Session ι κ (ω × List Exchange)) (h : session.Inserting) :
    (session.perform backend.logged action).Inserting := by
  have hnew := (session.kin_perform backend.logged action).isNew_eq.trans h.new
  cases action with
  | set key value => exact ⟨hnew, h.inserts, h.successes⟩
  | save hooks validated now =>
      obtain ⟨allowed, -, hrefused | heffect⟩ :=
        session.save_cases backend.logged hooks validated now
      · -- A refused save adds a failure to the outcomes and nothing to the log.
        refine ⟨hnew, ?_, ?_⟩
        · rw [log_save, hrefused]
          exact h.inserts
        · rw [log_save, successes_save, hrefused]
          exact h.successes
      · -- Any other save of a new record adds one INSERT, accepted or not, and the outcome that
        -- goes with the answer.
        have hprepared := (Repository.kin_prepare session.repository
          session.record).isNew_eq.trans h.new
        obtain ⟨exchange, hinsert, haccepted, hlog⟩ := heffect.log_of_new hprepared
        refine ⟨hnew, ?_, ?_⟩
        · rw [log_save, hlog]
          exact List.forall_mem_append.2 ⟨h.inserts, by simpa using hinsert⟩
        · rw [log_save, successes_save, hlog, List.countP_append, List.countP_singleton, haccepted]
          exact congrArg (· + _) h.successes

theorem updating_perform (backend : Backend κ ω) (action : Action ι κ)
    (session : Session ι κ (ω × List Exchange)) (h : session.Updating) :
    (session.perform backend.logged action).Updating := by
  have hstored := (session.kin_perform backend.logged action).isNew_eq.trans h.stored
  cases action with
  | set key value => exact ⟨hstored, h.updates⟩
  | save hooks validated now =>
      refine ⟨hstored, ?_⟩
      rw [log_save]
      obtain ⟨allowed, -, hrefused | heffect⟩ :=
        session.save_cases backend.logged hooks validated now
      · rw [hrefused]
        exact h.updates
      · have hprepared := (Repository.kin_prepare session.repository
          session.record).isNew_eq.trans h.stored
        rcases heffect.log_of_stored hprepared with hlog | ⟨exchange, hupdate, hlog⟩
        · rw [hlog]
          exact h.updates
        · rw [hlog]
          exact List.forall_mem_append.2 ⟨h.updates, by simpa using hupdate⟩

/-- A session in which nothing has been done. -/
def start (repository : Repository ι κ) (record : Record ι κ) (world : ω) :
    Session ι κ (ω × List Exchange) :=
  ⟨repository, record, (world, []), []⟩

/-- Whether a record is inserted is decided by its snapshot, and no save touches that, whatever the
hooks answer each time. A record without one stays new: each save that succeeds has inserted it, and
if the engine accepts everything there are as many INSERTs as successes. For a record of a stored
row no INSERT is ever sent, only UPDATEs. -/
theorem inserts_of_run (backend : Backend κ ω) (repository : Repository ι κ) (world : ω)
    (actions : List (Action ι κ)) :
    (let final := (start repository (.blank repository.entity) world).run backend.logged actions
     final.record.isNew = true ∧
       (∀ exchange ∈ final.log, exchange.statement.isInsert = true) ∧
       final.log.countP Exchange.accepted = final.successes ∧
       ((∀ exchange ∈ final.log, exchange.accepted = true) →
         final.log.countP (·.statement.isInsert) = final.successes)) ∧
    ∀ record : Record ι κ, record.isNew = false →
      ∀ exchange ∈ ((start repository record world).run backend.logged actions).log,
        exchange.statement.isUpdate = true := by
  constructor
  · have hstart : (start repository (.blank repository.entity) world).Inserting :=
      ⟨Record.isNew_blank repository.entity, by simp [log, start], rfl⟩
    -- Nothing but INSERTs is in the log, so counting these is counting all of it.
    have hfinal := run_invariant Inserting actions
      (fun action _ => inserting_perform backend action) _ hstart
    refine ⟨hfinal.new, hfinal.inserts, hfinal.successes, fun haccepted => ?_⟩
    rw [← hfinal.successes, List.countP_eq_length.2 hfinal.inserts,
      List.countP_eq_length.2 haccepted]
  · intro record hstored
    have hstart : (start repository record world).Updating := ⟨hstored, by simp [log, start]⟩
    exact (run_invariant Updating actions
      (fun action _ => updating_perform backend action) _ hstart).updates

end Session

/-! ### A record that is saved twice -/

/-- A backend that accepts everything and answers with one key. -/
def Backend.accepting (key : Int64) : Backend Unit Unit where
  query _ _ := return .ok (.write ⟨1, 1, key⟩)
  shared := return .ok ()
  zone := .universal

/-- The key that the engine has answered with. -/
def Exchange.key? (exchange : Exchange) : Option Int64 :=
  match exchange.answer with
  | .ok output => output.writeResult?.map (·.lastInsertedId)
  | .error _ => none

/-- An entity with a name. -/
def users : EntityType Unit :=
  ⟨"users", [{ kind := .pk, name := "id" }, { kind := .string, name := "name" }], []⟩

/-- A new record that is saved twice is inserted twice, although the first INSERT was accepted and
answered with a key. -/
theorem Session.blank_inserted_twice :
    let final := (start (⟨users, (), {}, .empty⟩ : Repository Unit Unit) (.blank users) ()).run
      (Backend.accepting 7).logged
      [.set "name" (.string "Ada"), .save {} true 0, .save {} true 0]
    users.pk?.isSome = true ∧
    (∀ exchange ∈ final.log, exchange.accepted = true ∧ exchange.key? = some 7) ∧
    final.log.countP (·.statement.isInsert) = 2 := by
  decide +kernel

/-- Of such a record as many INSERTs are sent as saves succeed; for one that is read from a row, an
UPDATE. -/
theorem Session.inserts_of_run_users :
    let repository : Repository Unit Unit := ⟨users, (), {}, .empty⟩
    let actions : List (Action Unit Unit) :=
      [.set "name" (.string "Ada"), .save {} true 0, .save {} true 0]
    let row : Row := ⟨[("id", .int 7), ("name", .string "Bea")]⟩
    let created := (start repository (.blank users) ()).run (Backend.accepting 7).logged actions
    let loaded := (start repository (.hydrate .universal users row none) ()).run
      (Backend.accepting 7).logged actions
    (created.log.countP (·.statement.isInsert) = created.successes ∧ created.successes = 2) ∧
    (∀ exchange ∈ loaded.log, exchange.statement.isUpdate = true) ∧ loaded.log.length = 2 := by
  intro repository actions row created loaded
  have h := inserts_of_run (Backend.accepting 7) repository () actions
  -- The engine accepts both INSERTs, and the record that was read has a truthy key.
  refine ⟨⟨h.1.2.2.2 (by decide +kernel), by decide +kernel⟩, ?_, by decide +kernel⟩
  exact h.2 (.hydrate .universal users row none) (by decide +kernel)

end RowMapper
