import RowMapper.Proofs.Engine.Sending
import RowMapper.Proofs.Repository.Related

/-!
# `RowMapper.Proofs.Record.Loading`: what loading a relation comes to

`Record.Loading` says in which ways a load can go: the name is not declared, the relation has no
statement, no connection can be had, or the statement is sent and answered. `Record.loading_related`
shows that there are no others. What a record with a connection loads follows from it:

* `Record.related_by_kind`: what is sent, and what becomes of the answer.
* `Record.related_fetches`: on a connection of a pool, the engine is asked once, to fetch.
-/

set_option autoImplicit false

namespace RowMapper

open RowMapper.Sql RowMapper.Calendar

variable {ι κ ω σ : Type}

namespace Record

/-! ### The ways in which a load can go -/

/-- What comes of loading a relation in a world, the world afterwards, and what was sent. -/
inductive Loading (backend : Backend κ ω) (schema : Schema ι) (record : Record ι κ) (name : String)
    (world : ω) : Except MapperError (Related ι κ) → ω → List Exchange → Prop where
  /-- No relation has the name. -/
  | undeclared (hrelation : record.entity.relation? name = none) :
    Loading backend schema record name world
      (.error (.unknownRelation record.entity.table name)) world []
  /-- The relation has no statement. -/
  | idle {relation : Relation ι} (hrelation : record.entity.relation? name = some relation)
    (hunloadable : relation.Unloadable) :
    Loading backend schema record name world (.ok .nothing) world []
  /-- No connection can be had. -/
  | unconnected {relation : Relation ι} {cause : MapperError} {after : ω}
    (hrelation : record.entity.relation? name = some relation)
    (hloadable : ¬ relation.Unloadable)
    (hconnection : record.relationConnection backend world = (.error cause, after)) :
    Loading backend schema record name world (.error cause) after []
  /-- The statement is sent and answered. -/
  | answered {relation : Relation ι} {text column : String} {connection : κ} {between after : ω}
    {answer : Except MapperError Output}
    (hrelation : record.entity.relation? name = some relation)
    (htext : relation.loadingText? schema = some text)
    (hcolumn : relation.keyColumn? = some column)
    (hconnection : record.relationConnection backend world = (.ok connection, between))
    (hquery : backend.query connection ⟨text, [(record.stored column).bound]⟩ between
      = (answer, after)) :
    Loading backend schema record name world
      ((answer.map Output.toRows).map
        (relatedOfRows backend.zone (schema relation.target) relation.kind connection))
      after [⟨⟨text, [(record.stored column).bound]⟩, answer⟩]

variable {backend : Backend κ ω} {schema : Schema ι} {record : Record ι κ} {name : String}

/-- Looking for a connection sends nothing. -/
theorem relationConnection_logged (backend : Backend κ ω) (record : Record ι κ) (world : ω) :
    record.relationConnection backend.logged (world, [])
      = ((record.relationConnection backend world).1,
          (record.relationConnection backend world).2, []) := by
  unfold relationConnection
  cases record.connection <;> rfl

/-- Loading a relation goes in one of these ways. -/
theorem loading_related (backend : Backend κ ω) (schema : Schema ι) (record : Record ι κ)
    (name : String) (world : ω) :
    let loaded := record.related backend.logged schema name (world, [])
    Loading backend schema record name world loaded.1 loaded.2.1 loaded.2.2 := by
  unfold related
  -- In the order of the checks: the name, then the statement, and only then the connection.
  cases hrelation : record.entity.relation? name with
  | none => exact .undeclared hrelation
  | some relation =>
      dsimp only
      rw [relationStatement?_eq]
      cases hcolumn : relation.keyColumn? with
      | none =>
          have hunloadable := relation.keyColumn?_eq_none_iff.1 hcolumn
          cases relation.loadingText? schema <;> exact .idle hrelation hunloadable
      | some column =>
          obtain ⟨text, htext⟩ := Relation.exists_loadingText hcolumn schema
          rw [htext]
          simp only [Option.bind_some, Option.map_some, bind, StateT.bind]
          rw [relationConnection_logged]
          rcases hconnection : record.relationConnection backend world
            with ⟨cause | connection, between⟩
          · exact .unconnected hrelation (Relation.not_unloadable hcolumn) hconnection
          · exact .answered hrelation htext hcolumn hconnection rfl

variable {world after : ω} {sent : List Exchange} {result : Except MapperError (Related ι κ)}

theorem Loading.of_undeclared (h : Loading backend schema record name world result after sent)
    (hrelation : record.entity.relation? name = none) :
    (result, after, sent) = (.error (.unknownRelation record.entity.table name), world, []) := by
  cases h with
  | undeclared => rfl
  | idle hsome | unconnected hsome | answered hsome =>
      rw [hrelation] at hsome
      contradiction

theorem Loading.of_unloadable {relation : Relation ι}
    (h : Loading backend schema record name world result after sent)
    (hrelation : record.entity.relation? name = some relation)
    (hunloadable : relation.Unloadable) : (result, after, sent) = (.ok .nothing, world, []) := by
  cases h with
  | undeclared hnone =>
      rw [hrelation] at hnone
      contradiction
  | idle => rfl
  | unconnected hother hloadable =>
      obtain rfl := Option.some.inj (hrelation.symm.trans hother)
      contradiction
  | answered hother _ hcolumn =>
      obtain rfl := Option.some.inj (hrelation.symm.trans hother)
      exact absurd hunloadable (Relation.not_unloadable hcolumn)

/-- A record with a connection and a relation that can be loaded sends the statement. -/
theorem Loading.of_connection {relation : Relation ι} {connection : κ}
    (h : Loading backend schema record name world result after sent)
    (hrelation : record.entity.relation? name = some relation)
    (hloadable : ¬ relation.Unloadable) (hconnection : record.connection = some connection) :
    ∃ text column answer, relation.loadingText? schema = some text ∧
      relation.keyColumn? = some column ∧
      backend.query connection ⟨text, [(record.stored column).bound]⟩ world = (answer, after) ∧
      sent = [⟨⟨text, [(record.stored column).bound]⟩, answer⟩] ∧
      result = (answer.map Output.toRows).map
        (relatedOfRows backend.zone (schema relation.target) relation.kind connection) := by
  have hfound (world : ω) :
      record.relationConnection backend world = (.ok connection, world) := by
    rw [relationConnection, hconnection]
    rfl
  cases h with
  | undeclared hnone =>
      rw [hrelation] at hnone
      contradiction
  | idle hother hunloadable =>
      obtain rfl := Option.some.inj (hrelation.symm.trans hother)
      contradiction
  | unconnected _ _ hmissing =>
      rw [hfound] at hmissing
      cases hmissing
  | answered hother htext hcolumn hanswered hquery =>
      obtain rfl := Option.some.inj (hrelation.symm.trans hother)
      rw [hfound] at hanswered
      cases hanswered
      exact ⟨_, _, _, htext, hcolumn, hquery, rfl, rfl⟩

end Record

/-- What the answer to the statement of a relation yields. -/
structure Relation.Yields (zone : Zone) (schema : Schema ι) (relation : Relation ι)
    (connection : κ) (answer : Except MapperError Output)
    (result : Except MapperError (Related ι κ)) : Prop where
  /-- An error is passed on. -/
  error : ∀ cause, answer = .error cause → result = .error cause
  /-- A relation to many has a record for each row, in the order of the rows. -/
  many : ∀ output, answer = .ok output → relation.kind = .hasMany ∨ relation.kind = .manyMany →
    result = .ok (.many (output.toRows.map fun row =>
      .hydrate zone (schema relation.target) row (some connection)))
  /-- A relation to one has the record of the first row, if there is a row. -/
  one : ∀ output, answer = .ok output → relation.kind = .hasOne ∨ relation.kind = .belongsTo →
    result = .ok (.one (output.toRows.head?.map fun row =>
      .hydrate zone (schema relation.target) row (some connection)))
  /-- All records are of the other entity and share the connection. -/
  shared : ∀ related, result = .ok related → ∀ found ∈ related.toList,
    found.entity = schema relation.target ∧ found.connection = some connection

/-- A backend that answers each statement with the same rows. -/
def Backend.answering (rows : List Row) : Backend Unit Unit where
  query _ _ := return .ok (.rows rows)
  shared := return .ok ()
  zone := .universal

namespace Record

theorem connection_setAll (record : Record ι κ) (sets : List (String × Value)) :
    (record.setAll sets).connection = record.connection := by
  induction sets generalizing record with
  | nil => rfl
  | cons pair rest ih => exact ih (record.set pair.1 pair.2)

theorem mem_relatedOfRows {zone : Zone} {target : EntityType ι} {kind : RelationKind}
    {connection : κ} {rows : List Row} {found : Record ι κ}
    (h : found ∈ (relatedOfRows zone target kind connection rows).toList) :
    ∃ row ∈ rows, found = hydrate zone target row (some connection) := by
  have hrecords : found ∈ rows.map fun row => hydrate zone target row (some connection) := by
    unfold relatedOfRows at h
    cases kind with
    | hasOne | belongsTo => exact List.mem_of_mem_head? (Option.mem_toList.1 h)
    | hasMany | manyMany | unknown => exact h
  obtain ⟨row, hrow, rfl⟩ := List.mem_map.1 hrecords
  exact ⟨row, hrow, rfl⟩

theorem yields_relatedOfRows (zone : Zone) (schema : Schema ι) (relation : Relation ι)
    (connection : κ) (answer : Except MapperError Output) :
    relation.Yields zone schema connection answer ((answer.map Output.toRows).map
      (relatedOfRows zone (schema relation.target) relation.kind connection)) where
  error cause hanswer := by rw [hanswer]; rfl
  many output hanswer hkind := by
    rw [hanswer]
    obtain hkind | hkind := hkind <;> rw [hkind] <;> rfl
  one output hanswer hkind := by
    rw [hanswer, ← List.head?_map]
    obtain hkind | hkind := hkind <;> rw [hkind] <;> rfl
  shared related hrelated found hfound := by
    cases answer with
    | error cause => cases hrelated
    | ok output =>
        obtain rfl := Except.ok.inj hrelated
        obtain ⟨row, -, rfl⟩ := mem_relatedOfRows hfound
        exact ⟨rfl, rfl⟩

/-- A name that is not declared is an error, and a relation of an unknown kind or to many on both
sides without a junction leads to nothing. In both cases nothing is asked for, not even a
connection. Any other relation of a record with a connection is loaded by one statement, a query.
Its text is that of the relation, with a limit where it is to one, and its one parameter is the
stored value of a column. Values that are set do not change it. -/
theorem related_by_kind (backend : Backend κ ω) (schema : Schema ι) (record : Record ι κ)
    (name : String) (world : ω) :
    let loaded := record.related backend.logged schema name (world, [])
    (record.entity.relation? name = none →
      loaded = (.error (.unknownRelation record.entity.table name), world, [])) ∧
    ∀ relation, record.entity.relation? name = some relation →
      (relation.Unloadable → loaded = (.ok .nothing, world, [])) ∧
      (¬ relation.Unloadable → ∃ text column,
        relation.loadingText? schema = some text ∧ StatementKind.ofSql text = .read ∧
        (" LIMIT 1;".toList <:+ text.toList ↔
          relation.kind = .hasOne ∨ relation.kind = .belongsTo) ∧
        relation.keyColumn? = some column ∧
        ∀ connection, record.connection = some connection → ∀ sets : List (String × Value),
          let loaded := (record.setAll sets).related backend.logged schema name (world, [])
          let statement : Statement := ⟨text, [(record.stored column).bound]⟩
          let answered := backend.query connection statement world
          loaded.2 = (answered.2, [⟨statement, answered.1⟩]) ∧
          relation.Yields backend.zone schema connection answered.1 loaded.1) := by
  intro loaded
  refine ⟨fun hnone => ?_, fun relation hrelation => ⟨fun hunloadable => ?_, fun hloadable => ?_⟩⟩
  · exact (loading_related backend schema record name world).of_undeclared hnone
  · exact (loading_related backend schema record name world).of_unloadable hrelation hunloadable
  · obtain ⟨column, hcolumn⟩ :=
      Option.ne_none_iff_exists'.1 (mt relation.keyColumn?_eq_none_iff.1 hloadable)
    obtain ⟨text, htext⟩ := Relation.exists_loadingText hcolumn schema
    refine ⟨text, column, htext, Relation.kind_loadingText htext, Relation.limit_loadingText htext,
      hcolumn, fun connection hconnection sets => ?_⟩
    -- Setting values keeps the entity, the snapshot and the connection.
    have hkin := record.kin_setAll sets
    have hkept := (record.connection_setAll sets).trans hconnection
    have hloading := loading_related backend schema (record.setAll sets) name world
    obtain ⟨text', column', answer, htext', hcolumn', hquery, hsent, hresult⟩ :=
      hloading.of_connection (hkin.entity ▸ hrelation) hloadable hkept
    obtain rfl := Option.some.inj (htext'.symm.trans htext)
    obtain rfl := Option.some.inj (hcolumn'.symm.trans hcolumn)
    rw [hkin.stored_eq] at hquery hsent
    intro loaded statement answered
    have hanswered : answered = (answer, loaded.2.1) := hquery
    rw [hanswered]
    exact ⟨Prod.ext rfl hsent, hresult ▸ yields_relatedOfRows _ schema relation connection answer⟩

/-- The rows of two books. -/
def bookRows : List Row :=
  [⟨[("id", .int 1), ("author_id", .int 7)]⟩, ⟨[("id", .int 2), ("author_id", .int 7)]⟩]

/-- An author who has been read has the books of two rows, also after the key has been set. -/
theorem related_books :
    let author : Record String Unit :=
      .hydrate .universal Repository.authors Repository.authorRow (some ())
    let loaded := (author.setAll [("id", .int 8)]).related (Backend.answering bookRows).logged
      Repository.library "books" ((), [])
    loaded.2.2 = [⟨⟨"SELECT `books`.* FROM books WHERE author_id = ?;", [.int 7]⟩,
      .ok (.rows bookRows)⟩] ∧
    loaded.1 = .ok (.many (bookRows.map fun row =>
      .hydrate .universal Repository.books row (some ()))) := by
  intro author loaded
  have hrelation : author.entity.relation? "books" = some
      { name := "books", kind := .hasMany, target := "books", field := "id",
        targetField := "author_id" } := rfl
  obtain ⟨-, hkinds⟩ :=
    related_by_kind (Backend.answering bookRows) Repository.library author "books" ()
  obtain ⟨text, column, htext, -, -, hcolumn, hloaded⟩ :=
    (hkinds _ hrelation).2 (by simp [Relation.Unloadable])
  obtain rfl := Option.some.inj htext
  obtain rfl := Option.some.inj hcolumn
  obtain ⟨hsent, hyields⟩ := hloaded () rfl [("id", .int 8)]
  exact ⟨congrArg (·.2) hsent, hyields.many _ rfl (.inl rfl)⟩

/-- On a connection of a pool, the statement of a relation reaches the engine once, as one to fetch.
Where no session can be had, nothing does. -/
theorem related_fetches (zone : Zone) (engine : Engine σ ω) (schema : Schema ι)
    {record : Record ι ConnectionId} {relation : Relation ι} {name : String} {id : ConnectionId}
    {statement : Statement} (hrelation : record.entity.relation? name = some relation)
    (hstatement : record.relationStatement? schema relation = some statement)
    (hconnection : record.connection = some id) (pool : Pool σ (ω × List Sending)) :
    let loaded := record.related (Pool.backend zone engine.recorded).logged schema name (pool, [])
    (pool.Connects engine.recorded id ∧
      loaded.2.1.sent = pool.sent ++ [⟨.fetch statement, loaded.1.isOk⟩]) ∨
    (¬ pool.Connects engine.recorded id ∧ loaded.2.1.sent = pool.sent ∧
      loaded.1.isOk = false) := by
  intro loaded
  rw [relationStatement?_eq] at hstatement
  have hloadable : ¬ relation.Unloadable := by
    intro hunloadable
    rw [relation.keyColumn?_eq_none_iff.2 hunloadable] at hstatement
    cases hnone : relation.loadingText? schema <;> rw [hnone] at hstatement <;> cases hstatement
  have hloading := loading_related (Pool.backend zone engine.recorded) schema record name pool
  obtain ⟨text, column, answer, htext, hcolumn, hquery, -, hresult⟩ :=
    hloading.of_connection hrelation hloadable hconnection
  rw [htext, hcolumn] at hstatement
  obtain rfl := Option.some.inj hstatement
  have hfetch : Call.ofStatement ⟨text, [(record.stored column).bound]⟩
      = .fetch ⟨text, [(record.stored column).bound]⟩ := by
    rw [Call.ofStatement, Relation.kind_loadingText htext]
  have hok : loaded.1.isOk = answer.isOk := by
    rw [hresult, isOk_map, isOk_map]
  rw [hok, ← hfetch]
  exact Pool.query_cases hquery

end Record

end RowMapper
