import RowMapper.Proofs.Engine.Sending

/-!
# `RowMapper.Proofs.Engine.Trace`: what happens between a connection and its engine

An engine is run in a world that remembers all it was asked and what it has answered
(`Engine.traced`): the sessions it was to open, the statements it was handed and on which session,
the pings, and the sessions it was to end. This changes nothing else about a run.

* `Connection.queryEach_of_open`: on an open session, a batch is its statements run one after the
  other.
* `Connection.batch_runs_every_statement`: whatever the engine answers, a batch hands it each
  statement once and in order, counts them all, and ends with all the outputs or with the first
  error.
-/

set_option autoImplicit false

namespace RowMapper

variable {σ ω α : Type}

/-- Something an engine was asked, and its answer. -/
inductive Event (σ : Type) where
  /-- It was to open a session. -/
  | opening (result : Except MapperError σ)
  /-- It was handed a statement for a session. -/
  | running (session : σ) (call : Call) (answer : Except MapperError Output)
  /-- It was to say whether it still answers on a session. -/
  | pinging (session : σ) (answers : Bool)
  /-- It was to end a session. -/
  | closing (session : σ) (result : Except MapperError Unit)

/-- The engine in a world that remembers what happens, in order. -/
def Engine.traced (engine : Engine σ ω) : Engine σ (ω × List (Event σ)) where
  name := engine.name
  connect config := fun (world, events) =>
    let (result, after) := engine.connect config world
    (result, after, events ++ [.opening result])
  ping session := fun (world, events) =>
    let (answers, after) := engine.ping session world
    (answers, after, events ++ [.pinging session answers])
  close session := fun (world, events) =>
    let (result, after) := engine.close session world
    (result, after, events ++ [.closing session result])
  fetch session statement := fun (world, events) =>
    let (answer, after) := engine.fetch session statement world
    (answer, after, events ++ [.running session (.fetch statement) (answer.map .rows)])
  execute session statement := fun (world, events) =>
    let (answer, after) := engine.execute session statement world
    (answer, after, events ++ [.running session (.execute statement) (answer.map .write)])

/-- A statement that is run is handed over once, in the way of its kind. -/
theorem Engine.run_traced (engine : Engine σ ω) (statement : Sql.Statement) (session : σ)
    (world : ω × List (Event σ)) :
    let ran := engine.run statement session world.1
    engine.traced.run statement session world
      = (ran.1, ran.2, world.2 ++ [.running session (.ofStatement statement) ran.1]) := by
  unfold Engine.run Call.ofStatement
  cases Sql.StatementKind.ofSql statement.sql <;> rfl

/-! ### Statements on one session -/

/-- Runs statements without parameters on one session, one after the other. -/
def Engine.runEach (engine : Engine σ ω) (session : σ) (statements : List String) :
    StateM ω (List (Except MapperError Output)) :=
  statements.mapM fun sql => engine.run ⟨sql, []⟩ session

/-- What happens when statements without parameters are run on a session. -/
def runningEach (session : σ) (statements : List String)
    (answers : List (Except MapperError Output)) : List (Event σ) :=
  List.zipWith (fun sql answer => .running session (.ofStatement ⟨sql, []⟩) answer) statements
    answers

namespace Engine

variable (engine : Engine σ ω) (session : σ)

theorem runEach_cons (sql : String) (rest : List String) (world : ω) :
    let first := engine.run ⟨sql, []⟩ session world
    let others := engine.runEach session rest first.2
    engine.runEach session (sql :: rest) world = (first.1 :: others.1, others.2) := by
  unfold runEach
  rw [List.mapM_cons]
  rfl

theorem length_runEach (statements : List String) (world : ω) :
    (engine.runEach session statements world).1.length = statements.length := by
  induction statements generalizing world with
  | nil => rfl
  | cons sql rest ih =>
      rw [runEach_cons]
      exact congrArg (· + 1) (ih _)

/-- Every statement is handed over, whatever became of those before it. -/
theorem runEach_traced (statements : List String) (world : ω × List (Event σ)) :
    let ran := engine.runEach session statements world.1
    engine.traced.runEach session statements world
      = (ran.1, ran.2, world.2 ++ runningEach session statements ran.1) := by
  induction statements generalizing world with
  | nil => exact congrArg (fun events => ([], world.1, events)) (List.append_nil _).symm
  | cons sql rest ih =>
      -- The others are run in the world that remembers the first, whatever it has answered.
      rw [runEach_cons, runEach_cons, run_traced]
      dsimp only
      rw [ih]
      dsimp only
      rw [List.append_assoc]
      rfl

end Engine

namespace Connection

/-! ### Counting -/

/-- The connection with so many more statements counted. -/
def counting (connection : Connection σ) (n : Nat) : Connection σ :=
  { connection with statements := connection.statements + .ofNat n }

theorem counting_zero (connection : Connection σ) : connection.counting 0 = connection := by
  have hcount : connection.statements + .ofNat 0 = connection.statements := UInt64.add_zero _
  rw [counting, hcount]

theorem counting_counting (connection : Connection σ) (m n : Nat) :
    (connection.counting m).counting n = connection.counting (m + n) := by
  simp only [counting, UInt64.ofNat_add, UInt64.add_assoc]

/-- As long as the count fits, it is exact. -/
theorem toNat_counting {connection : Connection σ} {n : Nat}
    (h : connection.statements.toNat + n < UInt64.size) :
    (connection.counting n).statements.toNat = connection.statements.toNat + n := by
  rw [counting, UInt64.toNat_add, UInt64.toNat_ofNat', Nat.add_mod_mod]
  exact Nat.mod_eq_of_lt h

/-! ### Results -/

theorem collect_ok (value : α) (rest : List (Except MapperError α)) :
    collect (.ok value :: rest) = (collect rest).map (value :: ·) := by
  show (collect rest).bind _ = _
  cases collect rest <;> rfl

/-- Without an error, all results are kept. -/
theorem collect_map_ok (values : List α) : collect (values.map .ok) = .ok values := by
  induction values with
  | nil => rfl
  | cons value rest ih => rw [List.map_cons, collect_ok, ih]; rfl

/-- The first error decides, whatever stands behind it. -/
theorem collect_first_error (values : List α) (cause : MapperError)
    (later : List (Except MapperError α)) :
    collect (values.map .ok ++ .error cause :: later) = .error cause := by
  induction values with
  | nil => rfl
  | cons value rest ih => rw [List.map_cons, List.cons_append, collect_ok, ih]; rfl

/-- Among results there is no error, or a first one. -/
theorem exists_values (results : List (Except MapperError α)) :
    ∃ values : List α, results = values.map .ok ∨
      ∃ cause later, results = values.map .ok ++ .error cause :: later := by
  induction results with
  | nil => exact ⟨[], .inl rfl⟩
  | cons result rest ih =>
      cases result with
      | error cause => exact ⟨[], .inr ⟨cause, rest, rfl⟩⟩
      | ok value =>
          obtain ⟨values, rfl | ⟨cause, later, rfl⟩⟩ := ih
          · exact ⟨value :: values, .inl rfl⟩
          · exact ⟨value :: values, .inr ⟨cause, later, rfl⟩⟩

theorem collect_eq_ok_iff {results : List (Except MapperError α)} {values : List α} :
    collect results = .ok values ↔ results = values.map .ok := by
  refine ⟨fun h => ?_, fun h => h ▸ collect_map_ok values⟩
  obtain ⟨kept, rfl | ⟨cause, later, rfl⟩⟩ := exists_values results
  · rw [collect_map_ok] at h
    rw [Except.ok.inj h]
  · rw [collect_first_error] at h
    cases h

theorem collect_eq_error_iff {results : List (Except MapperError α)} {cause : MapperError} :
    collect results = .error cause ↔
      ∃ (values : List α) (later : _), results = values.map .ok ++ .error cause :: later := by
  constructor
  · intro h
    obtain ⟨values, rfl | ⟨first, later, rfl⟩⟩ := exists_values results
    · rw [collect_map_ok] at h
      cases h
    · rw [collect_first_error] at h
      obtain rfl := Except.error.inj h
      exact ⟨values, later, rfl⟩
  · rintro ⟨values, later, rfl⟩
    exact collect_first_error values cause later

/-! ### Batches -/

/-- On an open session, a batch is its statements run on the session one after the other. All of
them count. -/
theorem queryEach_of_open (engine : Engine σ ω) (statements : List String) (config : Config)
    (session : σ) (count : UInt64) (world : ω) :
    let ran := engine.runEach session statements world
    queryEach engine statements ⟨config, some session, count⟩ world
      = ((ran.1, counting ⟨config, some session, count⟩ statements.length), ran.2) := by
  induction statements generalizing count world with
  | nil =>
      dsimp only
      rw [List.length_nil, counting_zero]
      rfl
  | cons sql rest ih =>
      -- The first query leaves the session open, also where it fails, and counts one.
      have hfirst : Connection.query engine ⟨sql, []⟩ ⟨config, some session, count⟩ world
          = (((engine.run ⟨sql, []⟩ session world).1, ⟨config, some session, count + 1⟩),
            (engine.run ⟨sql, []⟩ session world).2) := rfl
      rw [engine.runEach_cons, List.length_cons, Nat.add_comm rest.length]
      dsimp only
      rw [← counting_counting]
      unfold queryEach
      simp only [bind, StateT.bind, hfirst, ih]
      rfl

theorem queryMany_of_open (engine : Engine σ ω) (statements : List String) (config : Config)
    (session : σ) (count : UInt64) (world : ω) :
    let ran := engine.runEach session statements world
    queryMany engine statements ⟨config, some session, count⟩ world
      = ((collect ran.1, counting ⟨config, some session, count⟩ statements.length), ran.2) := by
  unfold queryMany
  simp only [bind, StateT.bind, queryEach_of_open]
  rfl

/-- Whatever the engine answers, a batch on an open session hands it every statement once, in order,
without parameters and in the way of its kind, and counts them all in 64 bits. It ends with the
outputs in order exactly if every statement has succeeded, and otherwise with the error of the first
one that has failed. That the engine is traced makes no difference to what the batch does. -/
theorem batch_runs_every_statement (engine : Engine σ ω) (statements : List String)
    (config : Config) (session : σ) (count : UInt64) (world : ω) (events : List (Event σ)) :
    let connection : Connection σ := ⟨config, some session, count⟩
    let batch := connection.queryMany engine.traced statements (world, events)
    connection.queryMany engine statements world = (batch.1, batch.2.1) ∧
    ∃ answers : List (Except MapperError Output), answers.length = statements.length ∧
      batch.2.2 = events ++ List.zipWith
        (fun sql answer => .running session (.ofStatement ⟨sql, []⟩) answer) statements answers ∧
      (∀ outputs, batch.1.1 = .ok outputs ↔ answers = outputs.map .ok) ∧
      (∀ cause, batch.1.1 = .error cause ↔
        ∃ (outputs : List Output) (later : _), answers = outputs.map .ok ++ .error cause :: later) ∧
      batch.1.2 = { connection with
        statements := connection.statements + .ofNat statements.length } ∧
      (connection.statements.toNat + statements.length < UInt64.size →
        batch.1.2.statements.toNat = connection.statements.toNat + statements.length) := by
  intro connection batch
  have hbatch : batch = _ :=
    queryMany_of_open engine.traced statements config session count (world, events)
  rw [engine.runEach_traced] at hbatch
  rw [queryMany_of_open, hbatch]
  exact ⟨rfl, _, engine.length_runEach session statements world, rfl,
    fun _ => collect_eq_ok_iff, fun _ => collect_eq_error_iff, rfl, toNat_counting⟩

end Connection

end RowMapper
