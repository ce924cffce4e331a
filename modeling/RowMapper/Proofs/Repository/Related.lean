import RowMapper.Proofs.Record.RelationText
import RowMapper.Proofs.Repository.Addressed

/-!
# `RowMapper.Proofs.Repository.Related`: the relations of an inserted record

A relation is loaded by one column of the snapshot (`Relation.keyColumn?`): its stored value is the
only parameter of the statement, and the text is the same for all records
(`Record.exists_relationText`). A record that was inserted has its key among the values and the
connection of the repository, but no snapshot, since only reading makes one. So its relations are
looked for under null, until it is read again: `Repository.relation_after_insert`.
-/

set_option autoImplicit false

namespace RowMapper

open RowMapper.Sql RowMapper.Calendar

variable {ι κ ω α : Type}

/-! ### Loading a relation -/

/-- The statements that are sent in a run. -/
def statementsSent (run : StateM (ω × List Exchange) α) (world : ω) : List Statement :=
  (run (world, [])).2.2.map (·.statement)

namespace Record

/-- What loads a relation is one text for all records, with the stored value of the column. -/
theorem exists_relationText (schema : Schema ι) {relation : Relation ι} {column : String}
    (h : relation.keyColumn? = some column) :
    ∃ text, ∀ record : Record ι κ, record.relationStatement? schema relation
      = some ⟨text, [(record.stored column).bound]⟩ := by
  obtain ⟨text, htext⟩ := Relation.exists_loadingText h schema
  refine ⟨text, fun record => ?_⟩
  rw [relationStatement?_eq, htext, h]
  rfl

/-- A record that has a connection loads a relation by sending its statement. -/
theorem statementsSent_related {record : Record ι κ} {connection : κ} {schema : Schema ι}
    {name : String} {relation : Relation ι} {statement : Statement}
    (hconnection : record.connection = some connection)
    (hrelation : record.entity.relation? name = some relation)
    (hstatement : record.relationStatement? schema relation = some statement)
    (backend : Backend κ ω) (world : ω) :
    statementsSent (record.related backend.logged schema name) world = [statement] := by
  unfold related relationConnection
  rw [hrelation]
  dsimp only
  rw [hstatement, hconnection]
  rfl

end Record

/-! ### After an insertion -/

namespace Repository

variable {repository : Repository ι κ} {record : Record ι κ} {pk : Field} {n : Int64}

/-- A new record whose INSERT is answered with a key takes the key and the connection. -/
theorem Effect.taken_of_key {backend : Backend κ ω} {now : Int64} {world after : ω × List Exchange}
    {outcome : Outcome ι κ} (h : Effect repository record backend.logged now world outcome after)
    (hnew : record.isNew = true) (hpk : repository.entity.pk? = some pk) {exchange : Exchange}
    (hsent : after.2 = world.2 ++ [exchange]) (hkey : exchange.key? = some n) :
    outcome.done = true ∧ outcome.record.get pk.key = .int n ∧
      outcome.record.connection = some repository.connection := by
  cases h with
  | keyless hold | unchanged hold | updated hold | updateRejected hold =>
      exact absurd hnew (Bool.eq_false_iff.1 hold)
  | insertRejected _ hquery =>
      rw [Backend.logged_query hquery] at hsent
      obtain rfl := List.singleton_inj.1 (List.append_cancel_left hsent)
      cases hkey
  | @inserted output _ _ hquery =>
      rw [Backend.logged_query hquery] at hsent
      obtain rfl := List.singleton_inj.1 (List.append_cancel_left hsent)
      cases output with
      | rows found => cases hkey
      | write result =>
          obtain rfl : result.lastInsertedId = n := Option.some.inj hkey
          rw [takeKey_eq hpk]
          exact ⟨rfl, Record.get_set_self .., rfl⟩

/-- The save of a new record, when all that is answered is a key. -/
theorem store_taken {backend : Backend κ ω} {now : Int64} {validated : Bool} {world : ω}
    (hnew : record.isNew = true) (hpk : repository.entity.pk? = some pk) :
    let saved := repository.store backend.logged now validated record (world, [])
    saved.2.2.map Exchange.key? = [some n] →
    saved.1.done = true ∧ saved.1.record.get pk.key = .int n ∧
      saved.1.record.connection = some repository.connection := by
  intro saved hkeys
  obtain ⟨exchange, hsent, hkey⟩ := List.map_eq_singleton_iff.1 hkeys
  obtain ⟨allowed, hkin, hrefused | heffect⟩ :=
    store_cases repository record backend.logged now (world, []) validated
  · have hnothing : saved.2.2 = [] := congrArg (·.2.2) hrefused
    rw [hnothing] at hsent
    cases hsent
  · have hprepared := (kin_prepare repository record).isNew_eq.trans hnew
    rw [← hkin.entity] at hpk
    rw [← hkin.connection]
    exact heffect.taken_of_key hprepared hpk hsent hkey

/-- Let a new entity be set, saved and inserted under a key, and let a relation be loaded by its
column `id`, which is that of the primary key. Then the entity has the key, but loading the relation
binds null: there is no snapshot to take the key from. For the entity as it is read again from its
row, the same text is sent and the key is bound. -/
theorem relation_after_insert (repository : Repository ι κ) {pk : Field}
    (hpk : repository.entity.pk? = some pk) (hid : pk.name = "id") {name : String}
    {relation : Relation ι} (hrelation : repository.entity.relation? name = some relation)
    (hcolumn : relation.keyColumn? = some "id") (schema : Schema ι) (sets : List (String × Value))
    (backend : Backend κ ω) (now : Int64) (validated : Bool) (world : ω) (n : Int64) :
    let record := (Record.blank repository.entity).setAll sets
    let saved := repository.store backend.logged now validated record (world, [])
    saved.2.2.map Exchange.key? = [some n] →
    saved.1.done = true ∧ saved.1.record.get pk.key = .int n ∧
    ∃ text : String,
      (∀ (backend : Backend κ ω) (world : ω),
        statementsSent (saved.1.record.related backend.logged schema name) world
          = [⟨text, [.null]⟩]) ∧
      ((repository.entity.fields.map Field.name).Nodup →
        ∀ (zone : Zone) (row : Row) (connection : κ), row.get? "id" = some (.int n) →
        ∀ (backend : Backend κ ω) (world : ω),
        let loaded := Record.hydrate zone repository.entity row (some connection)
        statementsSent (loaded.related backend.logged schema name) world
          = [⟨text, [.int n]⟩]) := by
  intro record saved hkeys
  have hblank : (Record.blank repository.entity).Kin record := Record.kin_setAll _ sets
  have hsaved := hblank.trans (kin_store repository record backend.logged now (world, []) validated)
  have hnew : record.isNew = true := hblank.isNew_eq.trans (Record.isNew_blank _)
  obtain ⟨hdone, hkey, hconnection⟩ := store_taken hnew hpk hkeys
  obtain ⟨text, htext⟩ := Record.exists_relationText (κ := κ) schema hcolumn
  refine ⟨hdone, hkey, text, fun backend world => ?_, ?_⟩
  · -- What is stored is what is stored for the blank record, which is nothing.
    have hstored : saved.1.record.stored "id" = .null := hsaved.stored_eq "id"
    rw [Record.statementsSent_related hconnection (hsaved.entity ▸ hrelation) (htext _), hstored]
    rfl
  · intro hnames zone row connection hrow backend world loaded
    obtain ⟨hmem, hkind⟩ := EntityType.of_fieldOfKind? hpk
    have hread : pk.readFrom zone row = .int n := by
      rw [Field.readFrom_of_get? zone (hid ▸ hrow), hkind]
      rfl
    have hstored : loaded.stored "id" = .int n := by
      rw [← hid, ← hread]
      exact Record.stored_hydrate_eq zone row (some connection) hnames hmem
    rw [Record.statementsSent_related rfl hrelation (htext _), hstored]
    rfl

/-- Authors with their books. -/
def authors : EntityType String :=
  ⟨"authors", [{ kind := .pk, name := "id" }, { kind := .string, name := "name" }],
    [{ name := "books", kind := .hasMany, target := "books", field := "id",
       targetField := "author_id" }]⟩

/-- Books, each by one author. -/
def books : EntityType String :=
  ⟨"books", [{ kind := .pk, name := "id" }, { kind := .integer, name := "author_id" }], []⟩

/-- Both by their tables. -/
def library : Schema String :=
  fun table => if table = "books" then books else authors

/-- A repository of authors. -/
def authorRepository : Repository String Unit :=
  ⟨authors, (), {}, .empty⟩

/-- The save of a new author, who gets the key seven. -/
def savedAuthor : Outcome String Unit × Unit × List Exchange :=
  authorRepository.store (Backend.accepting 7).logged 0 true
    ((Record.blank authorRepository.entity).setAll [("name", .string "Ada")]) ((), [])

/-- The row that was made. -/
def authorRow : Row :=
  ⟨[("id", .int 7), ("name", .string "Ada")]⟩

/-- The author has the key, but the books are asked for under it only once the author is read
again. -/
theorem relation_after_insert_of_author :
    let loaded : Record String Unit :=
      .hydrate .universal authorRepository.entity authorRow (some ())
    savedAuthor.1.record.get "id" = .int 7 ∧ ∃ text,
      statementsSent (savedAuthor.1.record.related (Backend.accepting 7).logged library "books") ()
        = [⟨text, [.null]⟩] ∧
      statementsSent (loaded.related (Backend.accepting 7).logged library "books") ()
        = [⟨text, [.int 7]⟩] := by
  intro loaded
  have hrelation : authorRepository.entity.relation? "books" = some
      { name := "books", kind := .hasMany, target := "books", field := "id",
        targetField := "author_id" } := rfl
  have hnames : (authorRepository.entity.fields.map Field.name).Nodup := by
    simp [authorRepository, authors]
  obtain ⟨-, hkey, text, hsaved, hloaded⟩ := relation_after_insert authorRepository rfl rfl
    hrelation rfl library [("name", .string "Ada")] (Backend.accepting 7) 0 true () 7 rfl
  exact ⟨hkey, text, hsaved _ (), hloaded hnames .universal authorRow () rfl _ ()⟩

/-- The author is inserted under the key seven, and the books are asked for under null. -/
theorem inserted_author_without_books :
    (∃ pk, authors.pk? = some pk ∧ pk.name = "id") ∧
    (∃ relation, authors.relation? "books" = some relation ∧ relation.kind = .hasMany ∧
      relation.field = "id") ∧
    savedAuthor.1.done = true ∧ savedAuthor.2.2.map Exchange.key? = [some 7] ∧
    ∃ statement, statementsSent
        (savedAuthor.1.record.related (Backend.accepting 7).logged library "books") ()
          = [statement] ∧
      statement.params = [.null] ∧ statement.params ≠ [(Value.int 7).bound] :=
  ⟨⟨_, rfl, rfl⟩, ⟨_, rfl, rfl, rfl⟩, rfl, rfl,
    ⟨"SELECT `books`.* FROM books WHERE author_id = ?;", [.null]⟩, rfl, rfl, by simp [Value.bound]⟩

end Repository

end RowMapper
