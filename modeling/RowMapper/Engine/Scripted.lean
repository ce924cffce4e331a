import RowMapper.Engine.Basic

/-!
# `RowMapper.Engine.Scripted`: an engine that answers from a script

A `Script` is the world of an engine whose answers are written down beforehand. It takes the next
reply for each statement and remembers the calls, so that what was sent can be looked at.
-/

set_option autoImplicit false

namespace RowMapper

/-- An answer that is written down beforehand. -/
inductive Reply where
  | rows (found : List Row)
  | write (result : WriteResult)
  | failure (cause : MapperError)

/-- A statement that reached the engine, and how it was to be run. -/
inductive Call where
  | fetch (statement : Sql.Statement)
  | execute (statement : Sql.Statement)

/-- The world of a scripted engine: the replies to come, the calls so far, the answer to a ping,
and what the engine sends instead of ending the session, if it does not end it. -/
structure Script where
  replies : List Reply := []
  calls : List Call := []
  answersPing : Bool := true
  closeFailure : Option String := none

namespace Script

/-- Remembers a call and takes the next reply. -/
def answer (call : Call) : StateM Script (Option Reply) := do
  let script ← get
  set { script with replies := script.replies.drop 1, calls := script.calls ++ [call] }
  return script.replies.head?

/-- Answers a reading statement; without a reply of its kind there are no rows. -/
def fetch (statement : Sql.Statement) : StateM Script (Except MapperError (List Row)) :=
  return match ← answer (.fetch statement) with
    | some (.rows rows) => .ok rows
    | some (.failure cause) => .error cause
    | _ => .ok []

/-- Answers a writing statement; without a reply of its kind one row was written. -/
def execute (statement : Sql.Statement) : StateM Script (Except MapperError WriteResult) :=
  return match ← answer (.execute statement) with
    | some (.write result) => .ok result
    | some (.failure cause) => .error cause
    | _ => .ok ⟨1, 1, 0⟩

/-- Ends the session. What the engine sends instead is never understood, whatever it says. -/
def close : StateM Script (Except MapperError Unit) :=
  return match (← get).closeFailure with
    | some detail => .error (.engine (.unexpectedData detail))
    | none => .ok ()

/-- The engine that answers from its script. -/
def engine : Engine Unit Script where
  name _ := "scripted"
  connect _ := return .ok ()
  ping _ := return (← get).answersPing
  close _ := close
  fetch _ := fetch
  execute _ := execute

end Script

end RowMapper
