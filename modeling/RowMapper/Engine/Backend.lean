import RowMapper.Engine.Basic

/-!
# `RowMapper.Engine.Backend`: what repositories and relations ask for

Repositories and relations need three things from the outside: that a statement is run on a
connection, that there is a connection where none is given, and the zone whose local time the dates
of stored rows are read in. A `Backend` is these three, over connections named by `κ` and in a world
`ω`.
-/

set_option autoImplicit false

namespace RowMapper

/-- Connections by name, how statements are run on them, and what dates are read in. -/
structure Backend (κ ω : Type) where
  /-- Runs a statement on a connection. -/
  query : κ → Sql.Statement → StateM ω (Except MapperError Output)
  /-- The connection for those that have none of their own. -/
  shared : StateM ω (Except MapperError κ)
  /-- The zone of local time. -/
  zone : Calendar.Zone

/-- Runs a statement and answers with its rows. -/
def Backend.fetch {κ ω : Type} (backend : Backend κ ω) (connection : κ)
    (statement : Sql.Statement) : StateM ω (Except MapperError (List Row)) :=
  return (← backend.query connection statement).map Output.toRows

end RowMapper
