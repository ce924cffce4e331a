import RowMapper.Engine.Pool
import RowMapper.Engine.Scripted
import RowMapper.Proofs.Repository.Run

/-!
# `RowMapper.Proofs.Engine.Sending`: what reaches the engine

An engine is run in a world that remembers the statements that reach it, each with the way it was
run and whether it was accepted (`Engine.recorded`). A query on a connection of a pool sends its
statement in the way of its kind, if a session can be had, and otherwise nothing
(`Pool.query_cases`). A statement writes unless its verb is `SELECT` (`kind_of_verb`), and what it
is answered with, if it is accepted, is a report (`Pool.answer_of_execute`).
-/

set_option autoImplicit false

namespace RowMapper

variable {σ ω : Type}

/-- A statement that reached an engine, how it was run, and whether it was accepted. -/
structure Sending where
  call : Call
  accepted : Bool

/-- The call that runs a statement in the way of its kind. -/
def Call.ofStatement (statement : Sql.Statement) : Call :=
  match Sql.StatementKind.ofSql statement.sql with
  | .read => .fetch statement
  | .write => .execute statement

/-- The engine in a world that remembers what reached it, in order. -/
def Engine.recorded (engine : Engine σ ω) : Engine σ (ω × List Sending) where
  name := engine.name
  connect config := fun (world, sent) =>
    let (answer, after) := engine.connect config world
    (answer, after, sent)
  ping session := fun (world, sent) =>
    let (answer, after) := engine.ping session world
    (answer, after, sent)
  close session := fun (world, sent) =>
    let (answer, after) := engine.close session world
    (answer, after, sent)
  fetch session statement := fun (world, sent) =>
    let (answer, after) := engine.fetch session statement world
    (answer, after, sent ++ [⟨.fetch statement, answer.isOk⟩])
  execute session statement := fun (world, sent) =>
    let (answer, after) := engine.execute session statement world
    (answer, after, sent ++ [⟨.execute statement, answer.isOk⟩])

/-- The pool for an engine that remembers, with nothing sent yet. -/
def Pool.recording (pool : Pool σ ω) : Pool σ (ω × List Sending) :=
  ⟨pool.connections, pool.factory, (pool.world, [])⟩

/-- What has reached the engine of a pool. -/
def Pool.sent (pool : Pool σ (ω × List Sending)) : List Sending :=
  pool.world.2

/-- There is a connection of this name, and it has a session or gets one. -/
def Pool.Connects (engine : Engine σ ω) (pool : Pool σ ω) (id : ConnectionId) : Prop :=
  ∃ connection session, pool.connection? id = some connection ∧
    (connection.opened engine.toDriver pool.world).1.1 = .ok session

/-! ### From the pool to the engine -/

theorem isOk_map {ε α β : Type} (f : α → β) (result : Except ε α) :
    (result.map f).isOk = result.isOk := by
  cases result <;> rfl

variable {engine : Engine σ ω} {zone : Calendar.Zone} {statement : Sql.Statement}

/-- A statement that is run reaches the engine once, and its answer says whether it was accepted. -/
theorem Engine.run_recorded (engine : Engine σ ω) (statement : Sql.Statement) (session : σ)
    (world : ω × List Sending) :
    (engine.recorded.run statement session world).2.2
      = world.2 ++ [⟨.ofStatement statement,
          (engine.recorded.run statement session world).1.isOk⟩] := by
  obtain ⟨world, sent⟩ := world
  unfold Engine.run Call.ofStatement
  cases Sql.StatementKind.ofSql statement.sql
  case read =>
    have hok := isOk_map Output.rows (engine.fetch session statement world).1
    exact congrArg (fun accepted => sent ++ [Sending.mk (.fetch statement) accepted]) hok.symm
  case write =>
    have hok := isOk_map Output.write (engine.execute session statement world).1
    exact congrArg (fun accepted => sent ++ [Sending.mk (.execute statement) accepted]) hok.symm

/-- Opening a session sends no statement, and takes place as it does without recording. -/
theorem Connection.opened_recorded (engine : Engine σ ω) (connection : Connection σ)
    (world : ω × List Sending) :
    connection.opened engine.recorded.toDriver world
      = ((connection.opened engine.toDriver world.1).1,
          (connection.opened engine.toDriver world.1).2, world.2) := by
  obtain ⟨world, sent⟩ := world
  unfold Connection.opened
  cases connection.session with
  | some session => rfl
  | none =>
      dsimp only
      split
      · simp only [bind, StateT.bind, Engine.recorded]
        generalize engine.connect connection.config world = result
        obtain ⟨_ | _, after⟩ := result <;> rfl
      · rfl

/-- A query on a connection, by what comes of opening its session. -/
theorem Connection.query_run (engine : Engine σ ω) (statement : Sql.Statement)
    (connection : Connection σ) (world : ω) :
    connection.query engine statement world =
      match connection.opened engine.toDriver world with
      | ((.ok session, opened), after) =>
        let (answer, final) := engine.run statement session after
        ((answer, { opened with statements := opened.statements + 1 }), final)
      | ((.error cause, opened), after) => ((.error cause, opened), after) := by
  unfold Connection.query Connection.perform
  simp only [bind, StateT.bind]
  generalize connection.opened engine.toDriver world = result
  obtain ⟨⟨_ | _, _⟩, _⟩ := result <;> rfl

/-- A query on a connection of a pool is a query on the connection. -/
theorem Pool.query_run {pool : Pool σ ω} {id : ConnectionId} {connection : Connection σ}
    (hconnection : pool.connection? id = some connection) :
    (backend zone engine).query id statement pool =
      let ((answer, used), after) := connection.query engine statement pool.world
      (answer, { pool with
        connections := pool.connections.set id.number used, world := after }) := by
  show onConnection id (Connection.query engine statement) pool = _
  unfold onConnection
  simp only [bind, StateT.bind, get, getThe, MonadStateOf.get, StateT.get, pure]
  rw [hconnection]
  rfl

/-- A query on a connection that is not there does nothing. -/
theorem Pool.query_of_none {pool : Pool σ ω} {id : ConnectionId}
    (hconnection : pool.connection? id = none) :
    (backend zone engine).query id statement pool = (.error .notConnected, pool) := by
  show onConnection id (Connection.query engine statement) pool = _
  unfold onConnection
  simp only [bind, StateT.bind, get, getThe, MonadStateOf.get, StateT.get, pure]
  rw [hconnection]
  rfl

variable {pool after : Pool σ (ω × List Sending)} {id : ConnectionId}
  {answer : Except MapperError Output}

/-- Where a session can be had, a query sends its statement. Where none can be had, it fails and
sends nothing. -/
theorem Pool.query_cases
    (h : (backend zone engine.recorded).query id statement pool = (answer, after)) :
    (pool.Connects engine.recorded id ∧
      after.sent = pool.sent ++ [⟨.ofStatement statement, answer.isOk⟩]) ∨
    (¬ pool.Connects engine.recorded id ∧ after.sent = pool.sent ∧ answer.isOk = false) := by
  cases hconnection : pool.connection? id with
  | none =>
      have hconnects : ¬ pool.Connects engine.recorded id := by
        rintro ⟨connection, session, hsome, -⟩
        rw [hconnection] at hsome
        contradiction
      rw [query_of_none hconnection] at h
      cases h
      exact .inr ⟨hconnects, rfl, rfl⟩
  | some connection =>
      rw [query_run hconnection, Connection.query_run, Connection.opened_recorded] at h
      cases hopened : (connection.opened engine.toDriver pool.world.1).1.1 with
      | error cause =>
          have hconnects : ¬ pool.Connects engine.recorded id := by
            rintro ⟨other, session, hsome, hsession⟩
            obtain rfl := Option.some.inj (hconnection.symm.trans hsome)
            rw [Connection.opened_recorded, hopened] at hsession
            contradiction
          generalize connection.opened engine.toDriver pool.world.1 = opened at h hopened
          obtain ⟨⟨_, _⟩, world⟩ := opened
          subst hopened
          cases h
          exact .inr ⟨hconnects, rfl, rfl⟩
      | ok session =>
          have hconnects : pool.Connects engine.recorded id := by
            refine ⟨connection, session, hconnection, ?_⟩
            rw [Connection.opened_recorded, hopened]
          generalize connection.opened engine.toDriver pool.world.1 = opened at h hopened
          obtain ⟨⟨_, _⟩, world⟩ := opened
          subst hopened
          cases h
          exact .inl ⟨hconnects, engine.run_recorded statement session _⟩

/-- Recording changes nothing about which sessions can be had. -/
theorem Pool.connects_recording {pool : Pool σ ω} :
    pool.recording.Connects engine.recorded id ↔ pool.Connects engine id := by
  refine exists_congr fun connection => exists_congr fun session => and_congr Iff.rfl ?_
  rw [Connection.opened_recorded]
  exact Iff.rfl

/-- A statement that is executed answers with a report, if it is accepted. -/
theorem Engine.run_of_execute (engine : Engine σ ω) {statement : Sql.Statement}
    (hcall : Call.ofStatement statement = .execute statement) (session : σ) (world : ω) :
    engine.run statement session world = ((engine.execute session statement world).1.map .write,
      (engine.execute session statement world).2) := by
  unfold Engine.run
  unfold Call.ofStatement at hcall
  split at hcall
  case h_1 => cases hcall
  case h_2 hkind => rw [hkind]; rfl

/-- What a pool answers to a statement that is executed is a report, if it is accepted. -/
theorem Pool.answer_of_execute {pool after : Pool σ ω} {id : ConnectionId} {output : Output}
    (hcall : Call.ofStatement statement = .execute statement)
    (h : (backend zone engine).query id statement pool = (.ok output, after)) :
    ∃ result, output = .write result := by
  cases hconnection : pool.connection? id with
  | none =>
      rw [query_of_none hconnection] at h
      cases h
  | some connection =>
      rw [query_run hconnection, Connection.query_run] at h
      generalize connection.opened engine.toDriver pool.world = opened at h
      obtain ⟨⟨_ | session, _⟩, world⟩ := opened
      · cases h
      · dsimp only at h
        rw [engine.run_of_execute hcall] at h
        generalize engine.execute session statement world = executed at h
        obtain ⟨_ | result, _⟩ := executed
        · cases h
        · exact ⟨result, (Except.ok.inj (Prod.mk.inj h).1).symm⟩

/-! ### The kind of a statement -/

namespace Sql

open RowMapper.Text

/-- The verb of a statement is its first word. -/
theorem firstWord?_of_verb {verb : String} (hverb : verb.toList.all (fun c => !isBlank c) = true)
    (hne : verb.toList ≠ []) {sql : String}
    (hsql : (verb.toList ++ [' ']).isPrefixOf sql.toList = true) : firstWord? sql = some verb := by
  obtain ⟨rest, hrest⟩ := List.isPrefixOf_iff_prefix.1 hsql
  obtain ⟨first, others, hchars⟩ := List.exists_cons_of_ne_nil hne
  have hall : ∀ c ∈ verb.toList, (!isBlank c) = true := List.all_eq_true.1 hverb
  have hfirst : isBlank first = false := by simpa using hall first (by simp [hchars])
  have hskip : skipBlanks sql.toList = sql.toList := by
    rw [← hrest, hchars]
    exact List.dropWhile_cons_of_neg (by simp [hfirst])
  have htake : sql.toList.takeWhile (fun c => !isBlank c) = verb.toList := by
    rw [← hrest, List.append_assoc, List.takeWhile_append_of_pos hall, List.singleton_append,
      List.takeWhile_cons_of_neg (by decide), List.append_nil]
  have hfilled : sql.toList ≠ [] := by
    rw [← hrest, hchars]
    exact List.cons_ne_nil _ _
  rw [firstWord?, hskip]
  split
  · contradiction
  · rw [htake, String.ofList_toList]

/-- A statement that begins with another verb than `SELECT` writes. -/
theorem kind_of_verb {verb : String} (hverb : verb.toList.all (fun c => !isBlank c) = true)
    (hne : verb.toList ≠ []) (hselect : asciiLower verb ≠ "select") {sql : String}
    (hsql : (verb.toList ++ [' ']).isPrefixOf sql.toList = true) :
    StatementKind.ofSql sql = .write := by
  rw [StatementKind.ofSql, firstWord?_of_verb hverb hne hsql]
  exact if_neg hselect

/-- A statement that begins with `SELECT` reads. -/
theorem kind_of_select {sql : String} (hsql : "SELECT ".toList.isPrefixOf sql.toList = true) :
    StatementKind.ofSql sql = .read := by
  have hword : firstWord? sql = some "SELECT" :=
    firstWord?_of_verb (by decide) (by decide) hsql
  rw [StatementKind.ofSql, hword]
  rfl

end Sql

end RowMapper
