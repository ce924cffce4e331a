import RowMapper.Proofs.Record.Loading

/-!
# `RowMapper.Proofs.Record.Accessors`: relations as records of one entity

A program loads a relation as a list of records of an entity (`Record.hasMany`), or as the first of
them (`Record.hasOne`). Both load the relation and then compare tables. All that one relation leads
to is of one table (`Record.Loading.table_eq`), so it makes no difference that the one accessor
compares every record and the other only the first.

`Record.accessors_agree` states this, and which errors there are: those of the load, and that of
another table (`Record.Mismatched`).
-/

set_option autoImplicit false

namespace RowMapper

open RowMapper.Calendar

variable {ι κ ω : Type} {zone : Zone}

namespace Record

/-! ### Comparing tables -/

section

variable {records : List (Record ι κ)} {table : String}

/-- Records of one table are all accepted if it is the expected one, or if there are none.
Otherwise the first is not. -/
theorem mapM_ofTable (expected : EntityType ι)
    (h : ∀ record ∈ records, record.entity.table = table) :
    records.mapM (ofTable expected)
      = if expected.table = table ∨ records = [] then .ok records
        else .error (.relationMismatch expected.table table) := by
  induction records with
  | nil => exact (if_pos (.inr rfl)).symm
  | cons record rest ih =>
      obtain ⟨rfl, hrest⟩ := List.forall_mem_cons.1 h
      rw [List.mapM_cons, ofTable]
      -- The first record is accepted or refused as any of the others would be.
      by_cases htable : expected.table = record.entity.table
      · rw [if_pos htable, if_pos (.inl htable), ih hrest, if_pos (.inl htable)]
        rfl
      · rw [if_neg htable, if_neg (by simp [htable])]
        rfl

/-- Of records of one table, the first is accepted if and only if all are. -/
theorem head?_mapM_ofTable (expected : EntityType ι)
    (h : ∀ record ∈ records, record.entity.table = table) :
    records.head?.mapM (ofTable expected)
      = (records.mapM (ofTable expected)).map List.head? := by
  rw [mapM_ofTable expected h]
  cases records with
  | nil =>
      rw [if_pos (.inr rfl)]
      rfl
  | cons record rest =>
      obtain ⟨rfl, -⟩ := List.forall_mem_cons.1 h
      rw [List.head?_cons, Option.mapM_some, ofTable]
      by_cases htable : expected.table = record.entity.table
      · rw [if_pos htable, if_pos (.inl htable)]
        rfl
      · rw [if_neg htable, if_neg (by simp [htable])]
        rfl

/-- What is accepted is of the expected table. -/
theorem table_of_mapM_ofTable {expected : EntityType ι} {accepted : List (Record ι κ)}
    (h : ∀ record ∈ records, record.entity.table = table)
    (haccepted : records.mapM (ofTable expected) = .ok accepted) :
    ∀ record ∈ accepted, record.entity.table = expected.table := by
  rw [mapM_ofTable expected h] at haccepted
  split at haccepted
  case isTrue hall =>
    obtain rfl := Except.ok.inj haccepted
    obtain htable | rfl := hall
    · exact fun record hrecord => (h record hrecord).trans htable.symm
    · exact List.forall_mem_nil _
  case isFalse => cases haccepted

end

/-! ### The accessors by what has been loaded -/

variable {backend : Backend κ ω} {schema : Schema ι} {expected : EntityType ι}
  {record : Record ι κ} {name : String}

/-- A relation as a list: all that is loaded, once it is accepted. -/
theorem hasMany_run (backend : Backend κ ω) (schema : Schema ι) (expected : EntityType ι)
    (record : Record ι κ) (name : String) (world : ω) :
    record.hasMany backend schema expected name world =
      ((record.related backend schema name world).1.bind fun related =>
          related.toList.mapM (ofTable expected),
        (record.related backend schema name world).2) := by
  unfold hasMany
  simp only [bind, StateT.bind]
  generalize record.related backend schema name world = loaded
  obtain ⟨cause | related, after⟩ := loaded
  · rfl
  · cases related <;> rfl

/-- A relation as one record: the first that is loaded, once it is accepted. -/
theorem hasOne_run (backend : Backend κ ω) (schema : Schema ι) (expected : EntityType ι)
    (record : Record ι κ) (name : String) (world : ω) :
    record.hasOne backend schema expected name world =
      ((record.related backend schema name world).1.bind fun related =>
          related.toList.head?.mapM (ofTable expected),
        (record.related backend schema name world).2) := by
  unfold hasOne
  simp only [bind, StateT.bind]
  generalize record.related backend schema name world = loaded
  obtain ⟨cause | related, after⟩ := loaded
  · rfl
  · cases related with
    | many records => rfl
    | one found => cases found <;> rfl
    | nothing => rfl

/-! ### What is accepted, and what is not -/

variable {target : EntityType ι} {kind : RelationKind} {connection : κ} {rows : List Row}
  {cause : MapperError}

theorem table_of_mem_relatedOfRows {found : Record ι κ}
    (h : found ∈ (relatedOfRows zone target kind connection rows).toList) :
    found.entity.table = target.table := by
  obtain ⟨row, -, rfl⟩ := mem_relatedOfRows h
  rfl

theorem toList_relatedOfRows_eq_nil_iff :
    (relatedOfRows zone target kind connection rows).toList = [] ↔ rows = [] := by
  unfold relatedOfRows
  cases rows <;> cases kind <;> simp [Related.toList]

/-- The records of rows are not accepted if they are of another table, and there are any. -/
theorem accept_relatedOfRows_error_iff :
    (relatedOfRows zone target kind connection rows).toList.mapM (ofTable expected) = .error cause ↔
      rows ≠ [] ∧ expected.table ≠ target.table ∧
        cause = .relationMismatch expected.table target.table := by
  rw [mapM_ofTable expected fun _ => table_of_mem_relatedOfRows]
  split
  case isTrue haccepted =>
    refine iff_of_false nofun fun h => ?_
    exact haccepted.elim h.2.1 fun hnil => h.1 (toList_relatedOfRows_eq_nil_iff.1 hnil)
  case isFalse hrefused =>
    obtain ⟨htable, hfilled⟩ := not_or.1 hrefused
    have hrows : rows ≠ [] := mt toList_relatedOfRows_eq_nil_iff.2 hfilled
    rw [Except.error.injEq]
    exact ⟨fun h => ⟨hrows, htable, h.symm⟩, fun h => h.2.2.symm⟩

variable {world after : ω} {sent : List Exchange} {result : Except MapperError (Related ι κ)}
  {related : Related ι κ}

/-- All that a relation leads to is of one table. -/
theorem Loading.exists_table
    (h : Loading backend schema record name world (.ok related) after sent) :
    ∃ table, ∀ found ∈ related.toList, found.entity.table = table := by
  generalize hresult : Except.ok related = result at h
  cases h with
  | undeclared | unconnected => cases hresult
  | idle =>
      obtain rfl := Except.ok.inj hresult
      exact ⟨"", List.forall_mem_nil _⟩
  | @answered relation _ _ _ _ _ answer =>
      cases answer with
      | error cause => cases hresult
      | ok output =>
          obtain rfl := Except.ok.inj hresult
          exact ⟨(schema relation.target).table, fun _ => table_of_mem_relatedOfRows⟩

/-- The errors of a load: the name, the shared connection, or the answer of the engine. -/
theorem Loading.error_cases
    (h : Loading backend schema record name world (.error cause) after sent) :
    cause = .unknownRelation record.entity.table name ∨
      (record.connection = none ∧ (backend.shared world).1 = .error cause) ∨
      ∃ statement, sent = [⟨statement, .error cause⟩] := by
  generalize hresult : Except.error cause = result at h
  cases h with
  | undeclared => exact .inl (Except.error.inj hresult)
  | idle => cases hresult
  | unconnected _ _ hconnection =>
      obtain rfl := Except.error.inj hresult
      unfold relationConnection at hconnection
      cases hown : record.connection with
      | none =>
          rw [hown] at hconnection
          exact .inr (.inl ⟨rfl, congrArg Prod.fst hconnection⟩)
      | some connection =>
          rw [hown] at hconnection
          cases hconnection
  | @answered _ _ _ _ _ _ answer =>
      cases answer with
      | error other =>
          obtain rfl := Except.error.inj hresult
          exact .inr (.inr ⟨_, rfl⟩)
      | ok output => cases hresult

/-- The relation leads to another table than that of the expected entity, and there are rows. -/
def Mismatched (schema : Schema ι) (expected : EntityType ι) (record : Record ι κ) (name : String)
    (sent : List Exchange) (cause : MapperError) : Prop :=
  ∃ relation statement output, record.entity.relation? name = some relation ∧
    ¬ relation.Unloadable ∧ sent = [⟨statement, .ok output⟩] ∧ output.toRows ≠ [] ∧
    expected.table ≠ (schema relation.target).table ∧
    cause = .relationMismatch expected.table (schema relation.target).table

theorem not_mismatched_nil : ¬ Mismatched schema expected record name [] cause := by
  rintro ⟨_, _, _, _, _, hsent, _⟩
  cases hsent

theorem not_mismatched_error {statement : Sql.Statement} {other : MapperError} :
    ¬ Mismatched schema expected record name [⟨statement, .error other⟩] cause := by
  rintro ⟨_, _, _, _, _, hsent, _⟩
  cases hsent

theorem mismatched_ok_iff {relation : Relation ι} {statement : Sql.Statement} {output : Output}
    (hrelation : record.entity.relation? name = some relation)
    (hloadable : ¬ relation.Unloadable) :
    Mismatched schema expected record name [⟨statement, .ok output⟩] cause ↔
      output.toRows ≠ [] ∧ expected.table ≠ (schema relation.target).table ∧
        cause = .relationMismatch expected.table (schema relation.target).table := by
  constructor
  · rintro ⟨other, _, _, hother, -, hsent, h⟩
    obtain rfl := Option.some.inj (hrelation.symm.trans hother)
    cases hsent
    exact h
  · exact fun h => ⟨relation, statement, output, hrelation, hloadable, rfl, h⟩

/-- What has been loaded is refused for its table, and for nothing else. -/
theorem Loading.mismatched_iff
    (h : Loading backend schema record name world result after sent) :
    (∃ related, result = .ok related ∧ related.toList.mapM (ofTable expected) = .error cause) ↔
      Mismatched schema expected record name sent cause := by
  cases h with
  | undeclared | unconnected =>
      refine iff_of_false ?_ not_mismatched_nil
      rintro ⟨related, hresult, -⟩
      cases hresult
  | idle =>
      refine iff_of_false ?_ not_mismatched_nil
      rintro ⟨related, hresult, herror⟩
      obtain rfl := Except.ok.inj hresult
      cases herror
  | @answered _ _ _ _ _ _ answer hrelation _ hcolumn =>
      cases answer with
      | error other =>
          refine iff_of_false ?_ not_mismatched_error
          rintro ⟨related, hresult, -⟩
          cases hresult
      | ok output =>
          simp only [Except.map, Except.ok.injEq, exists_eq_left']
          rw [mismatched_ok_iff hrelation (Relation.not_unloadable hcolumn),
            accept_relatedOfRows_error_iff]

theorem bind_eq_error_iff {ε α β : Type} {action : Except ε α} {next : α → Except ε β} {error : ε} :
    action.bind next = .error error ↔
      action = .error error ∨ ∃ value, action = .ok value ∧ next value = .error error := by
  cases action <;> simp [Except.bind]

/-- The first is accepted if and only if all are, since they are of one table. -/
theorem Loading.first_of_all
    (h : Loading backend schema record name world result after sent) :
    (result.bind fun related => related.toList.head?.mapM (ofTable expected))
      = (result.bind fun related => related.toList.mapM (ofTable expected)).map List.head? := by
  cases result with
  | error cause => rfl
  | ok related =>
      obtain ⟨table, htable⟩ := h.exists_table
      exact head?_mapM_ofTable expected htable

/-- All that is accepted is of the table of the expected entity. -/
theorem Loading.table_of_accepted
    (h : Loading backend schema record name world result after sent) {accepted : List (Record ι κ)}
    (haccepted : (result.bind fun related => related.toList.mapM (ofTable expected))
      = .ok accepted) : ∀ found ∈ accepted, found.entity.table = expected.table := by
  cases result with
  | error cause => cases haccepted
  | ok related =>
      obtain ⟨table, htable⟩ := h.exists_table
      exact table_of_mapM_ofTable htable haccepted

/-- A relation that is loaded as one record of an entity has the first of those that it has as a
list. Both send the same, and if one fails, both fail with the same error. What is accepted is of
the table of the entity. The errors are those of the load, which are the name, the shared connection
and the answer of the engine, and one more: the relation leads to another table, and rows were
found. -/
theorem accessors_agree (backend : Backend κ ω) (schema : Schema ι) (expected : EntityType ι)
    (record : Record ι κ) (name : String) (world : ω) :
    let loaded := record.related backend.logged schema name (world, [])
    let many := record.hasMany backend.logged schema expected name (world, [])
    let one := record.hasOne backend.logged schema expected name (world, [])
    one = (many.1.map List.head?, many.2) ∧ many.2 = loaded.2 ∧
    (∀ records, many.1 = .ok records → ∀ found ∈ records, found.entity.table = expected.table) ∧
    (∀ found, one.1 = .ok (some found) → found.entity.table = expected.table) ∧
    (∀ cause, many.1 = .error cause ↔
      loaded.1 = .error cause ∨ Mismatched schema expected record name loaded.2.2 cause) ∧
    (∀ cause, loaded.1 = .error cause →
      cause = .unknownRelation record.entity.table name ∨
      (record.connection = none ∧ (backend.shared world).1 = .error cause) ∨
      ∃ statement, loaded.2.2 = [⟨statement, .error cause⟩]) := by
  intro loaded many one
  have hloading := loading_related backend schema record name world
  have hmany : many = (loaded.1.bind fun related => related.toList.mapM (ofTable expected),
      loaded.2) := hasMany_run backend.logged schema expected record name (world, [])
  have hone : one = (loaded.1.bind fun related => related.toList.head?.mapM (ofTable expected),
      loaded.2) := hasOne_run backend.logged schema expected record name (world, [])
  have hfirst : one = (many.1.map List.head?, many.2) := by
    rw [hone, hmany]
    exact Prod.ext hloading.first_of_all rfl
  -- What is found as one record is among those of the list, so that one case is enough.
  have htables : ∀ records, many.1 = .ok records →
      ∀ found ∈ records, found.entity.table = expected.table := by
    rw [hmany]
    exact fun records haccepted => hloading.table_of_accepted haccepted
  have hworld : many.2 = loaded.2 := by rw [hmany]
  refine ⟨hfirst, hworld, htables, fun found hfound => ?_, fun cause => ?_, fun cause h => ?_⟩
  · rw [hfirst] at hfound
    cases hrecords : many.1 with
    | error cause =>
        rw [hrecords] at hfound
        cases hfound
    | ok records =>
        rw [hrecords] at hfound
        exact htables records hrecords found (List.mem_of_mem_head? (Except.ok.inj hfound))
  · rw [hmany]
    exact bind_eq_error_iff.trans (or_congr Iff.rfl hloading.mismatched_iff)
  · have hloading : Loading _ _ _ _ _ loaded.1 _ _ := hloading
    rw [h] at hloading
    exact hloading.error_cases

/-- The books of an author, of two rows. The first is the one, and as authors they are refused. -/
theorem accessors_of_author :
    let author : Record String Unit :=
      .hydrate .universal Repository.authors Repository.authorRow (some ())
    let backend := (Backend.answering bookRows).logged
    let many expected :=
      (author.hasMany backend Repository.library expected "books" ((), [])).1
    let one expected :=
      (author.hasOne backend Repository.library expected "books" ((), [])).1
    one Repository.books = (many Repository.books).map List.head? ∧
    many Repository.books
      = .ok (bookRows.map fun row => .hydrate .universal Repository.books row (some ())) ∧
    many Repository.authors = .error (.relationMismatch "authors" "books") := by
  intro author backend many one
  have hfirst := (accessors_agree (Backend.answering bookRows) Repository.library Repository.books
    author "books" ()).1
  obtain ⟨-, -, -, -, herrors, -⟩ := accessors_agree (Backend.answering bookRows)
    Repository.library Repository.authors author "books" ()
  refine ⟨congrArg Prod.fst hfirst, rfl, (herrors _).2 (.inr ?_)⟩
  exact ⟨_, _, _, rfl, by simp [Relation.Unloadable], rfl, by simp [bookRows, Output.toRows],
    by decide, rfl⟩

end Record

end RowMapper
