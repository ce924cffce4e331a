import RowMapper.Proofs.Engine.Trace

/-!
# `RowMapper.Proofs.Engine.Lifecycle`: one session at a time

What a connection asks of its engine follows the life of a session (`Lifecycle`): it is opened where
none is live, everything is asked of the one that is live, and after the attempt to end it none is
live, whatever has come of the attempt.

* `Connection.Operation.lawful_step`: each operation takes the session of the connection along such
  a life, opens one if it needs one, reports if that fails, and counts the statements of queries.
* `Connection.lifecycle_of_run`: so does any run of operations.
-/

set_option autoImplicit false

namespace RowMapper

variable {σ ω : Type}

/-! ### The life of a session -/

/-- What an event makes of the session that is live. -/
inductive Event.Moves : Event σ → Option σ → Option σ → Prop
  | opened (session : σ) : Moves (.opening (.ok session)) none (some session)
  | refused (cause : MapperError) : Moves (.opening (.error cause)) none none
  | ran (session : σ) (call : Call) (answer : Except MapperError Output) :
      Moves (.running session call answer) (some session) (some session)
  | pinged (session : σ) (answers : Bool) :
      Moves (.pinging session answers) (some session) (some session)
  | closed (session : σ) (result : Except MapperError Unit) :
      Moves (.closing session result) (some session) none

/-- Events that can follow one another, between the sessions that are live before and after. -/
inductive Lifecycle : Option σ → List (Event σ) → Option σ → Prop
  | nil (live : Option σ) : Lifecycle live [] live
  | cons {live next final : Option σ} {event : Event σ} {rest : List (Event σ)} :
      event.Moves live next → Lifecycle next rest final → Lifecycle live (event :: rest) final

namespace Event

/-- A session was opened. -/
def opens : Event σ → Bool
  | .opening (.ok _) => true
  | _ => false

/-- A session was to be ended. -/
def ends : Event σ → Bool
  | .closing _ _ => true
  | _ => false

/-- A statement was handed over. -/
def runs : Event σ → Bool
  | .running _ _ _ => true
  | _ => false

end Event

namespace Lifecycle

variable {live middle final : Option σ} {front back : List (Event σ)}

theorem append (hfront : Lifecycle live front middle) (hback : Lifecycle middle back final) :
    Lifecycle live (front ++ back) final := by
  induction hfront with
  | nil => exact hback
  | cons hmoves _ ih => exact .cons hmoves (ih hback)

theorem split (h : Lifecycle live (front ++ back) final) :
    ∃ middle, Lifecycle live front middle ∧ Lifecycle middle back final := by
  induction front generalizing live with
  | nil => exact ⟨live, .nil live, h⟩
  | cons event rest ih =>
      cases h with
      | cons hmoves hrest =>
          obtain ⟨middle, hfront, hback⟩ := ih hrest
          exact ⟨middle, .cons hmoves hfront, hback⟩

/-- Events that leave the session live can follow one another in any number. -/
theorem of_stays {events : List (Event σ)} (h : ∀ event ∈ events, event.Moves live live) :
    Lifecycle live events live := by
  induction events with
  | nil => exact .nil live
  | cons event rest ih =>
      obtain ⟨hevent, hrest⟩ := List.forall_mem_cons.1 h
      exact .cons hevent (ih hrest)

/-- A session is to be opened only where none is live. -/
theorem eq_none_of_opening {events : List (Event σ)} (h : Lifecycle live events final)
    {result : Except MapperError σ} (hhead : events.head? = some (.opening result)) :
    live = none := by
  cases h with
  | nil => cases hhead
  | cons hmoves _ =>
      obtain rfl := Option.some.inj hhead
      cases hmoves <;> rfl

/-- What was opened and not ended is the live session. -/
theorem balance {events : List (Event σ)} (h : Lifecycle live events final) :
    live.toList.length + events.countP Event.opens
      = events.countP Event.ends + final.toList.length := by
  induction h with
  | nil => simp
  | cons hmoves _ ih =>
      -- An event shifts the balance by what it makes of the live session.
      cases hmoves <;> simp [List.countP_cons, Event.opens, Event.ends] at ih ⊢ <;> omega

end Lifecycle

namespace Connection

/-! ### Operations -/

/-- What the holder of a session can ask of it directly. -/
inductive Use where
  | call (call : Call)
  | ping

/-- What a program does with a connection. -/
inductive Operation where
  | connect
  | isConnected
  /-- Takes hold of the session and uses it. -/
  | hold (uses : List Use)
  | query (statement : Sql.Statement)
  | queryMany (statements : List String)
  | close

/-- What an operation answers. -/
inductive Answer where
  | done (result : Except MapperError Unit)
  | alive (answers : Bool)
  | output (result : Except MapperError Output)
  | outputs (result : Except MapperError (List Output))

/-- Asks a session directly. -/
def Use.perform (engine : Engine σ ω) (session : σ) : Use → StateM ω Unit
  | .call (.fetch statement) => discard (engine.fetch session statement)
  | .call (.execute statement) => discard (engine.execute session statement)
  | .ping => discard (engine.ping session)

/-- Asks a session directly, again and again. -/
def useEach (engine : Engine σ ω) (session : σ) : List Use → StateM ω Unit
  | [] => return ()
  | use :: rest => do
    use.perform engine session
    useEach engine session rest

namespace Operation

/-- Does what is asked. -/
def perform (engine : Engine σ ω) (connection : Connection σ) :
    Operation → StateM ω (Answer × Connection σ)
  | .connect => return (← connection.connect engine.toDriver).map .done id
  | .isConnected => return (← connection.isConnected engine.toDriver).map .alive id
  | .hold uses => do
    let held ← connection.withSession engine.toDriver fun session => do
      useEach engine session uses
      return .ok ()
    return held.map .done id
  | .query statement => return (← connection.query engine statement).map .output id
  | .queryMany statements => return (← connection.queryMany engine statements).map .outputs id
  | .close => return (← connection.close engine.toDriver).map .done id

/-- Whether the operation cannot do without a session. -/
def needsSession : Operation → Bool
  | .queryMany statements => !statements.isEmpty
  | .close => false
  | _ => true

/-- Whether the statements that are handed over count. -/
def counts : Operation → Bool
  | .query _ => true
  | .queryMany _ => true
  | _ => false

end Operation

/-- The answer says that something has failed for this cause. -/
def Answer.Reports (cause : MapperError) : Answer → Prop
  | .done result => result = .error cause
  | .alive answers => answers = false
  | .output result => result = .error cause
  | .outputs result => result = .error cause

/-- An operation that was performed: the connection before and after it, the answer, and what has
happened between the connection and the engine. -/
structure Step (σ : Type) where
  operation : Operation
  before : Connection σ
  events : List (Event σ)
  answer : Answer
  after : Connection σ

/-- The statements of a step that count. -/
def Step.counted (step : Step σ) : List (Event σ) :=
  if step.operation.counts then step.events.filter Event.runs else []

/-- Performs one operation. -/
def Operation.step (engine : Engine σ ω) (connection : Connection σ) (operation : Operation) :
    StateM ω (Step σ) := fun world =>
  let ((answer, after), world, events) := operation.perform engine.traced connection (world, [])
  (⟨operation, connection, events, answer, after⟩, world)

/-- Performs operations one after the other. -/
def run (engine : Engine σ ω) :
    List Operation → Connection σ → StateM ω (List (Step σ) × Connection σ)
  | [], connection => return ([], connection)
  | operation :: rest, connection => do
    let step ← operation.step engine connection
    let (steps, final) ← run engine rest step.after
    return (step :: steps, final)

/-- Each step begins where the one before has ended. -/
def Chained : Connection σ → List (Step σ) → Connection σ → Prop
  | connection, [], final => final = connection
  | connection, step :: rest, final => step.before = connection ∧ Chained step.after rest final

/-- What holds of every step. -/
structure Step.Lawful (step : Step σ) : Prop where
  config : step.after.config = step.before.config
  /-- The session of the connection is the live one. -/
  sessions : Lifecycle step.before.session step.events step.after.session
  counted : step.after.statements = step.before.statements + .ofNat step.counted.length
  /-- Without a session, the first thing that happens is that one is to be opened. -/
  opens : step.operation.needsSession = true → step.before.session = none →
    step.before.config.isSupported = true → ∃ result, step.events.head? = some (.opening result)
  /-- Of a driver that is not known none can be opened. -/
  unsupported : step.operation.needsSession = true → step.before.session = none →
    step.before.config.isSupported = false → step.events = [] ∧ step.after = step.before ∧
      step.answer.Reports (.unsupportedDriver step.before.config.driver)
  /-- What cannot be opened is reported. Only a batch goes on, and tries again with its next
  statement. -/
  refused : ∀ cause, step.events.head? = some (.opening (.error cause)) →
    step.answer.Reports cause ∧
      ((∃ statements, step.operation = .queryMany statements) ∨ step.after = step.before)
  closes : step.operation = .close → step.after.session = none

/-! ### Opening -/

/-- What comes of asking for the session of a connection, and what happens then. -/
inductive Opening (connection : Connection σ) : List (Event σ) → Except MapperError σ → Prop
  | held (session : σ) : connection.session = some session → Opening connection [] (.ok session)
  | tried (result : Except MapperError σ) : connection.session = none →
      connection.config.isSupported = true → Opening connection [.opening result] result
  | unsupported : connection.session = none → connection.config.isSupported = false →
      Opening connection [] (.error (.unsupportedDriver connection.config.driver))

theorem exists_opening (engine : Engine σ ω) (connection : Connection σ)
    (world : ω × List (Event σ)) :
    ∃ added result after, connection.Opening added result ∧
      connection.opened engine.traced.toDriver world
        = ((result, { connection with session := result.toOption }), after, world.2 ++ added) := by
  obtain ⟨config, held, count⟩ := connection
  cases held with
  | some session =>
      refine ⟨[], .ok session, world.1, .held session rfl, ?_⟩
      rw [List.append_nil]
      rfl
  | none =>
      cases hsupported : config.isSupported with
      | false =>
          refine ⟨[], _, world.1, .unsupported rfl hsupported, ?_⟩
          simp only [opened, hsupported, List.append_nil]
          rfl
      | true =>
          refine ⟨[.opening (engine.connect config world.1).1], _,
            (engine.connect config world.1).2, .tried _ rfl hsupported, ?_⟩
          simp only [opened, hsupported, if_true, bind, StateT.bind, Engine.traced]
          generalize engine.connect config world.1 = result
          obtain ⟨_ | _, _⟩ := result <;> rfl

/-- Asking for the session and using it, if there is one, is a lawful step. -/
theorem Opening.lawful {connection : Connection σ} {added used : List (Event σ)}
    {result : Except MapperError σ} {operation : Operation} {answer : Answer}
    (h : connection.Opening added result) (hopen : operation ≠ .close)
    (hfails : ∀ cause, result = .error cause → used = [] ∧ answer.Reports cause)
    (hstays : ∀ session, result = .ok session →
      ∀ event ∈ used, event.Moves (some session) (some session)) :
    Step.Lawful ⟨operation, connection, added ++ used, answer,
      { connection with session := result.toOption }.counting
        (if operation.counts then used.filter Event.runs else []).length⟩ := by
  obtain ⟨config, held, count⟩ := connection
  cases h with
  | held session hsession =>
      obtain rfl : held = some session := hsession
      constructor
      case config => rfl
      case sessions => exact .of_stays (hstays session rfl)
      case counted => rfl
      case opens => exact fun _ hnone => nomatch hnone
      case unsupported => exact fun _ hnone => nomatch hnone
      case refused =>
        -- What comes first is one of the uses, and these do not open anything.
        intro cause hhead
        cases hstays session rfl _ (List.mem_of_head? hhead)
      case closes => exact fun hclose => absurd hclose hopen
  | tried result hnone hsupported =>
      obtain rfl : held = none := hnone
      have hcounted : (if operation.counts then used.filter Event.runs else [])
          = Step.counted ⟨operation, ⟨config, none, count⟩, .opening result :: used, answer,
            ⟨config, none, count⟩⟩ := by
        unfold Step.counted
        cases operation.counts <;> rfl
      constructor
      case config => rfl
      case sessions =>
        cases result with
        | error cause =>
            rw [(hfails cause rfl).1]
            exact .cons (.refused cause) (.nil none)
        | ok session => exact .cons (.opened session) (.of_stays (hstays session rfl))
      case counted => exact congrArg (fun counted => count + .ofNat counted.length) hcounted
      case opens => exact fun _ _ _ => ⟨result, rfl⟩
      case unsupported => exact fun _ _ h => nomatch hsupported.symm.trans h
      case refused =>
        intro cause hhead
        cases hhead
        obtain ⟨rfl, hreports⟩ := hfails cause rfl
        refine ⟨hreports, .inr ?_⟩
        cases operation.counts <;> exact counting_zero _
      case closes => exact fun hclose => absurd hclose hopen
  | unsupported hnone hunsupported =>
      obtain rfl : held = none := hnone
      obtain ⟨rfl, hreports⟩ := hfails _ rfl
      have hafter : (⟨config, none, count⟩ : Connection σ).counting (if operation.counts then
          ([] : List (Event σ)).filter Event.runs else []).length = ⟨config, none, count⟩ := by
        cases operation.counts <;> exact counting_zero _
      constructor
      case config => rfl
      case sessions => exact .nil none
      case counted => rfl
      case opens => exact fun _ _ h => nomatch hunsupported.symm.trans h
      case unsupported => exact fun _ _ _ => ⟨rfl, hafter, hreports⟩
      case refused =>
        intro cause hhead
        cases hhead
      case closes => exact fun hclose => absurd hclose hopen

/-- Where nothing counts, only the session of the connection can be another afterwards. -/
theorem Opening.lawful_uncounted {connection : Connection σ} {added used : List (Event σ)}
    {result : Except MapperError σ} {operation : Operation} {answer : Answer}
    (h : connection.Opening added result) (hopen : operation ≠ .close)
    (hcounts : operation.counts = false)
    (hfails : ∀ cause, result = .error cause → used = [] ∧ answer.Reports cause)
    (hstays : ∀ session, result = .ok session →
      ∀ event ∈ used, event.Moves (some session) (some session)) :
    Step.Lawful ⟨operation, connection, added ++ used, answer,
      { connection with session := result.toOption }⟩ := by
  have hlawful := h.lawful hopen hfails hstays
  rw [hcounts, if_neg Bool.false_ne_true, List.length_nil, counting_zero] at hlawful
  exact hlawful

/-! ### One operation -/

theorem exists_query (engine : Engine σ ω) (statement : Sql.Statement) (connection : Connection σ)
    (world : ω × List (Event σ)) :
    ∃ added answer used after, connection.query engine.traced statement world
        = ((answer, used), after, world.2 ++ added) ∧
      Step.Lawful ⟨.query statement, connection, added, .output answer, used⟩ := by
  obtain ⟨added, result, after, hopening, hopened⟩ := connection.exists_opening engine world
  rw [query_run, hopened]
  cases result with
  | error cause =>
      have hlawful : Step.Lawful ⟨.query statement, connection, added ++ [],
          .output (.error cause), { connection with session := none }.counting 0⟩ :=
        hopening.lawful nofun
          (fun _ h => ⟨rfl, congrArg Except.error (Except.error.inj h)⟩) nofun
      rw [List.append_nil, counting_zero] at hlawful
      exact ⟨added, _, _, after, rfl, hlawful⟩
  | ok session =>
      dsimp only
      rw [engine.run_traced, List.append_assoc]
      refine ⟨_, _, _, _, rfl, hopening.lawful nofun nofun fun other h event hevent => ?_⟩
      obtain rfl := Except.ok.inj h
      obtain rfl := List.mem_singleton.1 hevent
      exact .ran session _ _

/-- What is asked of a session directly leaves it live. -/
theorem exists_uses (engine : Engine σ ω) (session : σ) (uses : List Use)
    (world : ω × List (Event σ)) :
    ∃ used after, useEach engine.traced session uses world = ((), after, world.2 ++ used) ∧
      ∀ event ∈ used, event.Moves (some session) (some session) := by
  induction uses generalizing world with
  | nil => exact ⟨[], world.1, by rw [List.append_nil]; rfl, by simp⟩
  | cons use rest ih =>
      obtain ⟨event, middle, huse, hmoves⟩ : ∃ event middle,
          use.perform engine.traced session world = ((), middle, world.2 ++ [event]) ∧
          event.Moves (some session) (some session) := by
        cases use with
        | ping => exact ⟨_, _, rfl, .pinged session _⟩
        | call call => cases call <;> exact ⟨_, _, rfl, .ran session _ _⟩
      obtain ⟨used, after, hrest, hstays⟩ := ih (middle, world.2 ++ [event])
      refine ⟨event :: used, after, ?_, List.forall_mem_cons.2 ⟨hmoves, hstays⟩⟩
      simp only [useEach, bind, StateT.bind, huse, hrest]
      rw [List.append_assoc, List.singleton_append]

/-- Using the session for something else than counted statements is a lawful step. -/
theorem lawful_withSession (engine : Engine σ ω) (connection : Connection σ) (world : ω)
    (operation : Operation) (hopen : operation ≠ .close) (hcounts : operation.counts = false)
    {action : σ → StateM (ω × List (Event σ)) (Except MapperError Unit)}
    (haction : ∀ session world, ∃ used after, action session world
        = (.ok (), after, world.2 ++ used) ∧
      ∀ event ∈ used, event.Moves (some session) (some session)) :
    let held := connection.withSession engine.traced.toDriver action (world, [])
    Step.Lawful ⟨operation, connection, held.2.2, .done held.1.1, held.1.2⟩ := by
  intro held
  obtain ⟨added, result, after, hopening, hopened⟩ := connection.exists_opening engine (world, [])
  cases result with
  | error cause =>
      have hheld : held = ((.error cause, { connection with session := none }), after, added) := by
        show withSession _ _ _ _ = _
        simp only [withSession, bind, StateT.bind, hopened]
        rfl
      have hlawful : Step.Lawful ⟨operation, connection, added ++ [], .done (.error cause), _⟩ :=
        hopening.lawful_uncounted hopen hcounts
          (fun _ h => ⟨rfl, congrArg Except.error (Except.error.inj h)⟩) nofun
      rw [List.append_nil] at hlawful
      rw [hheld]
      exact hlawful
  | ok session =>
      obtain ⟨used, final, haction, hstays⟩ := haction session (after, added)
      have hheld : held = ((.ok (), { connection with session := some session }), final,
          added ++ used) := by
        show withSession _ _ _ _ = _
        simp only [withSession, bind, StateT.bind, hopened, List.nil_append, haction]
        rfl
      rw [hheld]
      refine hopening.lawful_uncounted hopen hcounts nofun fun other h => ?_
      obtain rfl := Except.ok.inj h
      exact hstays

theorem lawful_isConnected (engine : Engine σ ω) (connection : Connection σ) (world : ω) :
    (Operation.isConnected.step engine connection world).1.Lawful := by
  obtain ⟨added, result, after, hopening, hopened⟩ := connection.exists_opening engine (world, [])
  cases result with
  | error cause =>
      have hstep : (Operation.isConnected.step engine connection world).1
          = ⟨.isConnected, connection, added ++ [], .alive false,
            { connection with session := none }⟩ := by
        simp only [Operation.step, Operation.perform, isConnected, bind, StateT.bind, hopened]
        rw [List.append_nil]
        rfl
      rw [hstep]
      exact hopening.lawful_uncounted nofun rfl (fun _ _ => ⟨rfl, rfl⟩) nofun
  | ok session =>
      have hstep : (Operation.isConnected.step engine connection world).1
          = ⟨.isConnected, connection,
            added ++ [.pinging session (engine.ping session after).1],
            .alive (engine.ping session after).1,
            { connection with session := some session }⟩ := by
        simp only [Operation.step, Operation.perform, isConnected, bind, StateT.bind, hopened]
        rfl
      rw [hstep]
      refine hopening.lawful_uncounted nofun rfl nofun fun other h event hevent => ?_
      obtain rfl := Except.ok.inj h
      obtain rfl := List.mem_singleton.1 hevent
      exact .pinged session _

theorem lawful_close (engine : Engine σ ω) (connection : Connection σ) (world : ω) :
    (Operation.close.step engine connection world).1.Lawful := by
  obtain ⟨config, held, count⟩ := connection
  cases held with
  | none =>
      constructor
      case sessions => exact .nil none
      case counted => exact (UInt64.add_zero count).symm
      case opens => exact nofun
      case unsupported => exact nofun
      case refused => exact nofun
      case closes => exact fun _ => rfl
      all_goals rfl
  | some session =>
      constructor
      case sessions => exact .cons (.closed session _) (.nil none)
      case counted => exact (UInt64.add_zero count).symm
      case opens => exact nofun
      case unsupported => exact nofun
      case refused =>
        intro cause hhead
        cases hhead
      case closes => exact fun _ => rfl
      all_goals rfl

/-! ### Chains of steps -/

namespace Chained

variable {start final : Connection σ} {steps : List (Step σ)}

/-- What every step keeps, a chain of steps keeps. -/
theorem preserves (holds : Connection σ → Prop) (h : Chained start steps final)
    (hkeeps : ∀ step ∈ steps, holds step.before → holds step.after) (hstart : holds start) :
    holds final := by
  induction steps generalizing start with
  | nil => exact h ▸ hstart
  | cons step rest ih =>
      obtain ⟨rfl, hrest⟩ := h
      obtain ⟨hstep, hkeeps⟩ := List.forall_mem_cons.1 hkeeps
      exact ih hrest hkeeps (hstep hstart)

theorem lifecycle (h : Chained start steps final) (hlawful : ∀ step ∈ steps, step.Lawful) :
    Lifecycle start.session (steps.flatMap Step.events) final.session := by
  induction steps generalizing start with
  | nil => exact h ▸ .nil start.session
  | cons step rest ih =>
      obtain ⟨rfl, hrest⟩ := h
      obtain ⟨hstep, hlawful⟩ := List.forall_mem_cons.1 hlawful
      exact hstep.sessions.append (ih hrest hlawful)

theorem counted (h : Chained start steps final) (hlawful : ∀ step ∈ steps, step.Lawful) :
    final.statements = start.statements + .ofNat (steps.flatMap Step.counted).length := by
  induction steps generalizing start with
  | nil => exact h ▸ (UInt64.add_zero start.statements).symm
  | cons step rest ih =>
      obtain ⟨rfl, hrest⟩ := h
      obtain ⟨hstep, hlawful⟩ := List.forall_mem_cons.1 hlawful
      rw [ih hrest hlawful, hstep.counted, List.flatMap_cons, List.length_append, UInt64.ofNat_add,
        UInt64.add_assoc]

/-- Without a session, the first thing that happens in steps that need one is that one is to be
opened. -/
theorem opens (h : Chained start steps final) (hlawful : ∀ step ∈ steps, step.Lawful)
    (hneeds : ∀ step ∈ steps, step.operation.needsSession = true) (hsteps : steps ≠ [])
    (hnone : start.session = none) (hsupported : start.config.isSupported = true) :
    ∃ result, (steps.flatMap Step.events).head? = some (.opening result) := by
  obtain ⟨first, others, rfl⟩ := List.exists_cons_of_ne_nil hsteps
  obtain ⟨rfl, -⟩ := h
  have hfirst : first ∈ first :: others := List.mem_cons_self
  obtain ⟨result, hresult⟩ := (hlawful first hfirst).opens (hneeds first hfirst) hnone hsupported
  refine ⟨result, ?_⟩
  rw [List.flatMap_cons, List.head?_append, hresult]
  rfl

/-- Steps that need a session of a driver that is not known do nothing, and the first of them says
so. -/
theorem unsupported (h : Chained start steps final) (hlawful : ∀ step ∈ steps, step.Lawful)
    (hneeds : ∀ step ∈ steps, step.operation.needsSession = true) (hnone : start.session = none)
    (hunsupported : start.config.isSupported = false) :
    steps.flatMap Step.events = [] ∧ final = start ∧
      ∀ first ∈ steps.head?, first.answer.Reports (.unsupportedDriver start.config.driver) := by
  induction steps generalizing start with
  | nil => exact ⟨rfl, h, by simp⟩
  | cons step rest ih =>
      obtain ⟨rfl, hrest⟩ := h
      obtain ⟨hstep, hlawful⟩ := List.forall_mem_cons.1 hlawful
      obtain ⟨hneed, hneeds⟩ := List.forall_mem_cons.1 hneeds
      obtain ⟨hevents, hafter, hreports⟩ := hstep.unsupported hneed hnone hunsupported
      rw [hafter] at hrest
      obtain ⟨hothers, hfinal, -⟩ := ih hrest hlawful hneeds hnone hunsupported
      refine ⟨by rw [List.flatMap_cons, hevents, hothers, List.append_nil], hfinal, ?_⟩
      intro first hfirst
      obtain rfl := Option.some.inj hfirst
      exact hreports

/-- If the first thing that happens is that a session cannot be opened, the first step says so. -/
theorem refused (h : Chained start steps final) (hlawful : ∀ step ∈ steps, step.Lawful)
    (hneeds : ∀ step ∈ steps, step.operation.needsSession = true) {cause : MapperError}
    (hhead : (steps.flatMap Step.events).head? = some (.opening (.error cause))) :
    ∃ first ∈ steps.head?, first.answer.Reports cause := by
  have hnone := (h.lifecycle hlawful).eq_none_of_opening hhead
  cases hsupported : start.config.isSupported with
  | false =>
      obtain ⟨hnothing, -⟩ := h.unsupported hlawful hneeds hnone hsupported
      rw [hnothing] at hhead
      cases hhead
  | true =>
      cases steps with
      | nil => cases hhead
      | cons first others =>
          obtain ⟨rfl, -⟩ := h
          have hfirst : first ∈ first :: others := List.mem_cons_self
          obtain ⟨result, hresult⟩ :=
            (hlawful first hfirst).opens (hneeds first hfirst) hnone hsupported
          rw [List.flatMap_cons, List.head?_append, hresult] at hhead
          obtain rfl : result = .error cause := by simpa using hhead
          exact ⟨first, rfl, ((hlawful first hfirst).refused cause hresult).1⟩

/-- Where the statements of all steps count, they are the statements that were handed over. -/
theorem flatMap_counted (hcounts : ∀ step ∈ steps, step.operation.counts = true) :
    steps.flatMap Step.counted = (steps.flatMap Step.events).filter Event.runs := by
  induction steps with
  | nil => rfl
  | cons step rest ih =>
      obtain ⟨hstep, hcounts⟩ := List.forall_mem_cons.1 hcounts
      rw [List.flatMap_cons, List.flatMap_cons, List.filter_append, ih hcounts, Step.counted,
        if_pos hstep]

end Chained

/-! ### Batches -/

/-- A batch is a chain of queries. -/
theorem exists_queries (engine : Engine σ ω) (statements : List String) (connection : Connection σ)
    (world : ω × List (Event σ)) :
    ∃ steps results final after, queryEach engine.traced statements connection world
        = ((results, final), after, world.2 ++ steps.flatMap Step.events) ∧
      Chained connection steps final ∧ (∀ step ∈ steps, step.Lawful) ∧
      steps.map Step.operation = statements.map (fun sql => .query ⟨sql, []⟩) ∧
      steps.map Step.answer = results.map .output := by
  induction statements generalizing connection world with
  | nil =>
      refine ⟨[], [], connection, world.1, ?_, rfl, by simp, rfl, rfl⟩
      rw [List.flatMap_nil, List.append_nil]
      rfl
  | cons sql rest ih =>
      obtain ⟨added, answer, used, after, hquery, hlawful⟩ :=
        exists_query engine ⟨sql, []⟩ connection world
      obtain ⟨steps, results, final, last, hrest, hchained, hlawfuls, hoperations, hanswers⟩ :=
        ih used (after, world.2 ++ added)
      refine ⟨⟨.query ⟨sql, []⟩, connection, added, .output answer, used⟩ :: steps,
        answer :: results, final, last, ?_, ⟨rfl, hchained⟩,
        List.forall_mem_cons.2 ⟨hlawful, hlawfuls⟩, ?_, ?_⟩
      · simp only [queryEach, bind, StateT.bind, hquery, hrest]
        rw [List.flatMap_cons, List.append_assoc]
        rfl
      · rw [List.map_cons, List.map_cons, hoperations]
      · rw [List.map_cons, List.map_cons, hanswers]

/-- What the first of the queries reports, the batch reports. -/
theorem collect_of_reports {steps : List (Step σ)} {first : Step σ}
    {results : List (Except MapperError Output)} {cause : MapperError}
    (hanswers : steps.map Step.answer = results.map .output) (hfirst : first ∈ steps.head?)
    (hreports : first.answer.Reports cause) : collect results = .error cause := by
  obtain ⟨others, rfl⟩ := List.head?_eq_some_iff.1 hfirst
  cases results with
  | nil => cases hanswers
  | cons result rest =>
      have hanswer : first.answer = .output result := (List.cons.inj hanswers).1
      rw [hanswer] at hreports
      obtain rfl : result = .error cause := hreports
      rfl

theorem lawful_queryMany (engine : Engine σ ω) (connection : Connection σ) (world : ω)
    (statements : List String) :
    ((Operation.queryMany statements).step engine connection world).1.Lawful := by
  obtain ⟨steps, results, final, after, hqueries, hchained, hlawful, hoperations, hanswers⟩ :=
    exists_queries engine statements connection (world, [])
  have hstep : ((Operation.queryMany statements).step engine connection world).1
      = ⟨.queryMany statements, connection, steps.flatMap Step.events, .outputs (collect results),
        final⟩ := by
    simp only [Operation.step, Operation.perform, queryMany, bind, StateT.bind, hqueries]
    rfl
  -- All steps of the batch are queries: they need a session, and their statements count.
  have hquery : ∀ step ∈ steps, ∃ sql, step.operation = .query ⟨sql, []⟩ := by
    intro step hmem
    have hoperation := List.mem_map_of_mem (f := Step.operation) hmem
    rw [hoperations] at hoperation
    obtain ⟨sql, -, hsql⟩ := List.mem_map.1 hoperation
    exact ⟨sql, hsql.symm⟩
  have hneeds : ∀ step ∈ steps, step.operation.needsSession = true := fun step hmem => by
    obtain ⟨sql, hsql⟩ := hquery step hmem
    rw [hsql]
    rfl
  have hcounts : ∀ step ∈ steps, step.operation.counts = true := fun step hmem => by
    obtain ⟨sql, hsql⟩ := hquery step hmem
    rw [hsql]
    rfl
  have hfilled (hneed : (!statements.isEmpty) = true) : steps ≠ [] := by
    rintro rfl
    obtain rfl := List.map_eq_nil_iff.1 hoperations.symm
    cases hneed
  rw [hstep]
  constructor
  case config =>
    exact hchained.preserves (fun later => later.config = connection.config)
      (fun step hmem hbefore => (hlawful step hmem).config.trans hbefore) rfl
  case sessions => exact hchained.lifecycle hlawful
  case counted =>
    rw [hchained.counted hlawful, Chained.flatMap_counted hcounts]
    rfl
  case opens =>
    intro hneed hnone hsupported
    exact hchained.opens hlawful hneeds (hfilled hneed) hnone hsupported
  case unsupported =>
    intro hneed hnone hunsupported
    obtain ⟨hevents, hfinal, hreports⟩ :=
      hchained.unsupported hlawful hneeds hnone hunsupported
    obtain ⟨first, others, rfl⟩ := List.exists_cons_of_ne_nil (hfilled hneed)
    exact ⟨hevents, hfinal, collect_of_reports hanswers rfl (hreports first rfl)⟩
  case refused =>
    intro cause hhead
    obtain ⟨first, hfirst, hreports⟩ := hchained.refused hlawful hneeds hhead
    exact ⟨collect_of_reports hanswers hfirst hreports, .inl ⟨statements, rfl⟩⟩
  case closes => exact nofun

/-! ### Runs -/

/-- Every operation is a lawful step, whatever the engine answers. -/
theorem Operation.lawful_step (engine : Engine σ ω) (connection : Connection σ)
    (operation : Operation) (world : ω) : (operation.step engine connection world).1.Lawful := by
  cases operation with
  | connect =>
      refine lawful_withSession engine connection world .connect nofun rfl fun session later => ?_
      exact ⟨[], later.1, by rw [List.append_nil]; rfl, by simp⟩
  | isConnected => exact lawful_isConnected engine connection world
  | hold uses =>
      refine lawful_withSession engine connection world (.hold uses) nofun rfl
        fun session later => ?_
      obtain ⟨used, after, huses, hstays⟩ := exists_uses engine session uses later
      refine ⟨used, after, ?_, hstays⟩
      simp only [bind, StateT.bind, huses]
      rfl
  | query statement =>
      obtain ⟨added, answer, used, after, hquery, hlawful⟩ :=
        exists_query engine statement connection (world, [])
      have hstep : ((Operation.query statement).step engine connection world).1
          = ⟨.query statement, connection, added, .output answer, used⟩ := by
        simp only [Operation.step, Operation.perform, bind, StateT.bind, hquery]
        rfl
      rw [hstep]
      exact hlawful
  | queryMany statements => exact lawful_queryMany engine connection world statements
  | close => exact lawful_close engine connection world

theorem chained_run (engine : Engine σ ω) (operations : List Operation) (connection : Connection σ)
    (world : ω) :
    let ran := (connection.run engine operations world).1
    Chained connection ran.1 ran.2 ∧ ran.1.map Step.operation = operations ∧
      ∀ step ∈ ran.1, step.Lawful := by
  induction operations generalizing connection world with
  | nil => exact ⟨rfl, rfl, List.forall_mem_nil _⟩
  | cons operation rest ih =>
      let first := operation.step engine connection world
      obtain ⟨hchained, hoperations, hlawful⟩ := ih first.1.after first.2
      have hfirst : first.1.Lawful := operation.lawful_step engine connection world
      refine ⟨⟨rfl, hchained⟩, ?_, List.forall_mem_cons.2 ⟨hfirst, hlawful⟩⟩
      exact congrArg (operation :: ·) hoperations

/-- However a connection is used, its sessions have one life after the other. Each step begins with
the connection as the step before has left it; what happens in it carries the live session along,
which is the one that the connection holds; a session is opened only where there is none, by the
first operation that needs one; if that fails, the slot stays empty and the operation reports it;
and closing leaves it empty whatever the engine says. Over the whole run, the sessions that were
opened and not ended are never more than one, and the connection has counted, in 64 bits, the
statements that were handed over by queries and batches, those that have failed among them. -/
theorem lifecycle_of_run (engine : Engine σ ω) (connection : Connection σ)
    (operations : List Operation) (world : ω) :
    let ran := (connection.run engine operations world).1
    let events := ran.1.flatMap Step.events
    ran.1.map Step.operation = operations ∧
    Chained connection ran.1 ran.2 ∧
    (∀ step ∈ ran.1, step.Lawful) ∧
    Lifecycle connection.session events ran.2.session ∧
    (∀ sofar, sofar <+: events → ∃ live : Option σ, Lifecycle connection.session sofar live ∧
      connection.session.toList.length + sofar.countP Event.opens
        = sofar.countP Event.ends + live.toList.length) ∧
    ran.2.statements = connection.statements + .ofNat (ran.1.flatMap Step.counted).length ∧
    (connection.statements.toNat + (ran.1.flatMap Step.counted).length < UInt64.size →
      ran.2.statements.toNat
        = connection.statements.toNat + (ran.1.flatMap Step.counted).length) := by
  intro ran events
  obtain ⟨hchained, hoperations, hlawful⟩ := chained_run engine operations connection world
  have hlifecycle : Lifecycle connection.session events ran.2.session := hchained.lifecycle hlawful
  have hcounted := hchained.counted hlawful
  refine ⟨hoperations, hchained, hlawful, hlifecycle, ?_, hcounted, fun hless =>
    (congrArg UInt64.toNat hcounted).trans (toNat_counting hless)⟩
  -- At any moment, what has happened so far is a life that the rest goes on from.
  rintro sofar ⟨later, hevents⟩
  rw [← hevents] at hlifecycle
  obtain ⟨live, hsofar, -⟩ := hlifecycle.split
  exact ⟨live, hsofar, hsofar.balance⟩

/-- A session that the engine fails to end is given up all the same, and the next need opens
another. -/
example :
    let connection : Connection Unit := .ofSession .sqliteMemory ()
    let script : Script := { closeFailure := some "broken" }
    let ran := (connection.run Script.engine [.close, .isConnected] script).1
    ran.1.map (fun step => step.after.session) = [none, some ()] := rfl

end Connection

end RowMapper
