import RowMapper.Proofs.Repository.Addressed

/-!
# `RowMapper.Proofs.Repository.Clients`: two clients of one row

Two clients load the same row, set values in it and save it, neither knowing of the other. A save
writes the fields that differ from the snapshot, and a field that a client has not set does not: so
a client writes the fields it has set, and perhaps the time (`Client.Edits.writes`). If no field is
set by both, then their UPDATEs may be made in either order, and what each has written is in the row
in the end: `Client.merge_of_disjoint_edits`.
-/

set_option autoImplicit false

namespace RowMapper

open RowMapper.Sql

variable {ι κ ω : Type}

/-- The column with the time of the last change, if the entity keeps it. -/
def EntityType.timeColumn? (entity : EntityType ι) : Option String :=
  (entity.fieldOfKind? .updatedAt).map Field.name

/-- What a program does that loads a record, sets values in it and saves it without validation. Each
client reads dates in its own zone. -/
structure Client (ι κ ω : Type) where
  repository : Repository ι κ
  connection : Option κ
  sets : List (String × Value)
  backend : Backend κ ω
  now : Int64
  world : ω

namespace Client

/-- The record as the client saves it. -/
def edited (client : Client ι κ ω) (row : Row) : Record ι κ :=
  (Record.hydrate client.backend.zone client.repository.entity row client.connection).setAll
    client.sets

/-- What becomes of the record, and the world with what the save has sent. -/
def saved (client : Client ι κ ω) (row : Row) : Outcome ι κ × ω × List Exchange :=
  client.repository.saveUnvalidated client.backend.logged client.now (client.edited row)
    (client.world, [])

/-- What the save has sent. -/
def sent (client : Client ι κ ω) (row : Row) : List Exchange :=
  (client.saved row).2.2

/-- The columns that a database reads from what was sent, with the values it assigns to them. -/
def assigned (client : Client ι κ ω) (row : Row) : List (String × Value) :=
  (client.sent row).flatMap fun exchange =>
    (assigned? client.repository.entity.table exchange.statement).getD []

/-- The client sets nothing but these fields, and neither the primary key nor a timestamp is one of
them. -/
structure Edits (client : Client ι κ ω) (fields : List Field) : Prop where
  members : ∀ field ∈ fields, field ∈ client.repository.entity.fields ∧ field.kind ≠ .pk ∧
    field.kind.isTimestamp = false
  keys : ∀ pair ∈ client.sets, ∃ field ∈ fields, pair.1 = field.key

/-- The client sends at most one UPDATE, for the row that it has loaded. No column is assigned
twice. It is the column of the time or of one of the fields, and then its value is the one that the
record holds. -/
structure Writes (client : Client ι κ ω) (row : Row) (pk : Field) (fields : List Field) :
    Prop where
  sent : client.sent row = [] ∨ ∃ exchange, client.sent row = [exchange] ∧
    exchange.statement.Addresses client.repository.entity.table pk.name
      (pk.readFrom client.backend.zone row).bound ∧
    assigned? client.repository.entity.table exchange.statement = some (client.assigned row)
  distinct : ((client.assigned row).map (·.1)).Nodup
  columns : ∀ pair ∈ client.assigned row, some pair.1 = client.repository.entity.timeColumn? ∨
    ∃ field ∈ fields, field.name = pair.1 ∧
      ((client.saved row).1.record.get field.key).bound = pair.2

variable {client : Client ι κ ω} {row : Row} {pk : Field} {fields : List Field}

theorem assigned_of_sent_nil (h : client.sent row = []) : client.assigned row = [] := by
  rw [assigned, h, List.flatMap_nil]

theorem assigned_of_sent_singleton {exchange : Exchange} (h : client.sent row = [exchange]) :
    client.assigned row
      = (assigned? client.repository.entity.table exchange.statement).getD [] := by
  rw [assigned, h, List.flatMap_cons, List.flatMap_nil, List.append_nil]

theorem kin_edited (client : Client ι κ ω) (row : Row) :
    (Record.hydrate client.backend.zone client.repository.entity row client.connection).Kin
      (client.repository.prepare (client.edited row)) :=
  (Record.kin_setAll _ client.sets).trans (Repository.kin_prepare ..)

/-- A field that is not set holds what was read for it. -/
theorem Edits.get_of_not_mem (hedits : client.Edits fields)
    (hloads : client.repository.entity.LoadsFrom pk client.backend.zone row) {field : Field}
    (hfield : field ∈ client.repository.entity.fields) (hnot : field ∉ fields) :
    (client.repository.prepare (client.edited row)).get field.key
      = field.readFrom client.backend.zone row := by
  have hunset : Record.lastSet? client.sets field.key = none := by
    refine Record.lastSet?_of_forall_ne fun pair hpair hkey => hnot ?_
    obtain ⟨other, hother, hsame⟩ := hedits.keys pair hpair
    -- The key belongs to this field only.
    rw [List.inj_on_of_nodup_map hloads.distinct.keys hfield (hedits.members other hother).1
      (hkey.symm.trans hsame)]
    exact hother
  rw [edited, Repository.get_prepare_setAll hloads.distinct.keys hfield, hunset,
    Option.getD_none, hloads.orDefault_readFrom hfield]

/-- Only what is set can differ from the snapshot. -/
theorem Edits.mem_of_differs (hedits : client.Edits fields)
    (hloads : client.repository.entity.LoadsFrom pk client.backend.zone row) {field : Field}
    (hfield : field ∈ client.repository.entity.fields)
    (hdiffers : Repository.differs (client.repository.prepare (client.edited row)) field = true) :
    field ∈ fields := by
  by_contra hnot
  have hsame : (client.repository.prepare (client.edited row)).get field.key
      = (client.repository.prepare (client.edited row)).stored field.name := by
    rw [hedits.get_of_not_mem hloads hfield hnot, (client.kin_edited row).stored_eq,
      Record.stored_hydrate_eq _ row client.connection hloads.distinct.names hfield]
  simp [Repository.differs, hsame] at hdiffers

/-- The primary key is the one that was read. -/
theorem Edits.get_key (hedits : client.Edits fields)
    (hloads : client.repository.entity.LoadsFrom pk client.backend.zone row) :
    (client.repository.prepare (client.edited row)).get pk.key
      = pk.readFrom client.backend.zone row := by
  obtain ⟨hmem, hkind⟩ := EntityType.of_fieldOfKind? hloads.keyed
  exact hedits.get_of_not_mem hloads hmem fun hset => (hedits.members pk hset).2.1 hkind

/-- What is written is the time, or a field that is set. -/
theorem Edits.of_mem_written (hedits : client.Edits fields)
    (hloads : client.repository.entity.LoadsFrom pk client.backend.zone row)
    {repository : Repository ι κ}
    (hentity : repository.entity = client.repository.entity) {column : String} {value : Value}
    (h : (column, value) ∈
      repository.written (client.repository.prepare (client.edited row)) client.now) :
    some column = client.repository.entity.timeColumn? ∨ ∃ field ∈ fields, field.name = column ∧
      (client.repository.prepare (client.edited row)).get field.key = value := by
  rcases List.mem_append.1 h with hchanged | htime
  · obtain ⟨field, hfield, hdiffers, hname, hvalue⟩ := Repository.mem_changed.1 hchanged
    exact .inr ⟨field, hedits.mem_of_differs hloads (hentity ▸ hfield) hdiffers, hname, hvalue⟩
  · obtain ⟨field, hfield, hname, -⟩ := (Repository.mem_changeTime client.now).1 htime
    rw [hentity] at hfield
    exact .inl (by rw [EntityType.timeColumn?, hfield, Option.map_some, hname])

/-- A client writes what it has set, in the row that it has loaded. -/
theorem Edits.writes (hedits : client.Edits fields)
    (hloads : client.repository.entity.LoadsFrom pk client.backend.zone row)
    (hplain : PlainFields client.repository.entity.fields) : client.Writes row pk fields := by
  have hnothing (h : client.sent row = []) : client.Writes row pk fields :=
    ⟨.inl h, by simp [assigned_of_sent_nil h], by simp [assigned_of_sent_nil h]⟩
  obtain ⟨allowed, hkin, hrefused | heffect⟩ := Repository.store_cases client.repository
    (client.edited row) client.backend.logged client.now (client.world, []) false
  · exact hnothing (congrArg (·.2.2) hrefused)
  have hold : (client.repository.prepare (client.edited row)).isNew = false :=
    (client.kin_edited row).isNew_eq.trans (hloads.isNew_hydrate client.connection)
  rcases heffect.sent_of_stored hold with h | ⟨key, exchange, hkey, hchanges, hstatement, hsent⟩
  · exact hnothing h
  -- The hooks leave the entity as it is, and with it all that is known of the fields.
  have hentity := hkin.entity
  have hdistinct := hloads.distinct
  rw [← hentity] at hdistinct hplain
  obtain rfl : pk = key := Option.some.inj (hloads.keyed.symm.trans (hentity ▸ hkey))
  have hassigned := Repository.assigned?_updateStatement pk client.now hplain hdistinct.names
    hchanges
  rw [← hstatement, hentity] at hassigned
  have hsent : client.sent row = [exchange] := hsent
  have hpairs := assigned_of_sent_singleton hsent
  rw [hassigned, Option.getD_some] at hpairs
  refine ⟨.inr ⟨exchange, hsent, ?_, by rw [hassigned, hpairs]⟩, ?_, ?_⟩
  · rw [hstatement, ← hentity, ← hedits.get_key hloads]
    exact Repository.addresses_updateStatement ..
  · have hwritten : ((allowed.written (client.repository.prepare (client.edited row))
        client.now).map (·.1)).Nodup := Repository.distinct_written client.now hdistinct.names
    simpa only [hpairs, List.map_map, Function.comp_def] using hwritten
  · rw [hpairs]
    intro pair hpair
    obtain ⟨⟨column, value⟩, hwritten, rfl⟩ := List.mem_map.1 hpair
    refine (hedits.of_mem_written hloads hentity hwritten).imp_right ?_
    rintro ⟨field, hset, hname, rfl⟩
    -- Saving has not touched the value.
    obtain ⟨hfield, -, htime⟩ := hedits.members field hset
    have hget := heffect.get_of_stored hold hdistinct (hentity ▸ hfield) htime
    exact ⟨field, hset, hname, congrArg Value.bound hget⟩

/-- Two clients that set different fields have at most the column of the time in common. -/
theorem Writes.eq_timeColumn? {first second : Client ι κ ω} {mine theirs : List Field}
    (hmine : first.Writes row pk mine) (htheirs : second.Writes row pk theirs)
    (hentity : second.repository.entity = first.repository.entity)
    (hdistinct : DistinctFields first.repository.entity.fields)
    (hfirst : first.Edits mine) (hsecond : second.Edits theirs)
    (hdisjoint : ∀ field ∈ mine, field ∉ theirs) :
    ∀ name ∈ (first.assigned row).map (·.1), name ∈ (second.assigned row).map (·.1) →
      some name = first.repository.entity.timeColumn? := by
  intro name hname hname'
  obtain ⟨pair, hpair, rfl⟩ := List.mem_map.1 hname
  obtain ⟨pair', hpair', hsame⟩ := List.mem_map.1 hname'
  rcases hmine.columns pair hpair with htime | ⟨field, hfield, hcolumn, -⟩
  · exact htime
  rcases htheirs.columns pair' hpair' with htime | ⟨field', hfield', hcolumn', -⟩
  · rw [← hentity, ← htime, hsame]
  -- Both columns would be those of a field, and so of the same one.
  have hmember' := (hsecond.members field' hfield').1
  rw [hentity] at hmember'
  have hequal := hdistinct.eq_of_name (hfirst.members field hfield).1 hmember'
    (hcolumn.trans (hsame.symm.trans hcolumn'.symm))
  exact absurd (hequal ▸ hfield') (hdisjoint field hfield)

/-- Let two clients load one row, set different fields, and save without validation. Then each sends
at most one UPDATE, for that row, of columns of the fields it has set and of the time. Whatever row
is stored, the two UPDATEs give the same in either order, up to the time: each column that one of
them assigns has the value it assigns, and all other columns are as they were. -/
theorem merge_of_disjoint_edits {first second : Client ι κ ω} {pk : Field} {row : Row}
    {mine theirs : List Field} (hentity : second.repository.entity = first.repository.entity)
    (hloads : first.repository.entity.LoadsFrom pk first.backend.zone row)
    (hplain : PlainFields first.repository.entity.fields)
    (hfirst : first.Edits mine) (hsecond : second.Edits theirs)
    (hdisjoint : ∀ field ∈ mine, field ∉ theirs) :
    first.Writes row pk mine ∧ second.Writes row pk theirs ∧
    ∀ stored : Row,
      let time := first.repository.entity.timeColumn?
      let merged := (stored.assignAll (first.assigned row)).assignAll (second.assigned row)
      let reversed := (stored.assignAll (second.assigned row)).assignAll (first.assigned row)
      merged.without time = reversed.without time ∧
      (∀ column value,
        (column, value) ∈ first.assigned row ∨ (column, value) ∈ second.assigned row →
        some column ≠ time → (stored.get? column).isSome = true →
        merged.get? column = some value) ∧
      ∀ column, column ∉ (first.assigned row).map (·.1) →
        column ∉ (second.assigned row).map (·.1) → merged.get? column = stored.get? column := by
  have hmine := hfirst.writes hloads hplain
  have htheirs := hsecond.writes (hentity ▸ hloads.of_zone second.backend.zone) (hentity ▸ hplain)
  have hcommon := hmine.eq_timeColumn? htheirs hentity hloads.distinct hfirst hsecond hdisjoint
  refine ⟨hmine, htheirs, fun stored => ?_⟩
  refine ⟨Row.assignAll_comm stored hmine.distinct htheirs.distinct hcommon, ?_, ?_⟩
  · rintro column value (hmem | hmem) hother hhas
    · have hnot : column ∉ (second.assigned row).map (·.1) := fun hmem' =>
        hother (hcommon column (List.mem_map_of_mem hmem) hmem')
      rw [Row.get?_assignAll_of_not_mem _ hnot,
        Row.get?_assignAll_of_mem stored hmine.distinct hmem hhas]
    · have hnot : column ∉ (first.assigned row).map (·.1) := fun hmem' =>
        hother (hcommon column hmem' (List.mem_map_of_mem hmem))
      refine Row.get?_assignAll_of_mem _ htheirs.distinct hmem ?_
      rw [Row.get?_assignAll_of_not_mem stored hnot]
      exact hhas
  · intro column hnot hnot'
    rw [Row.get?_assignAll_of_not_mem _ hnot', Row.get?_assignAll_of_not_mem stored hnot]

/-- The row of a guest who is in no room yet. -/
def graceRow : Row :=
  ⟨[("id", .int 7), ("full_name", .string "Grace"), ("active", .int 1), ("updated_at", .int 5)]⟩

/-- A client that renames the guest, and one that gives the guest a room. -/
def registrar : Client Unit Unit Unit :=
  ⟨Repository.guestRepository, none, [("name", .string "Ada"), ("score", .int 3)],
    .accepting 1, 10, ()⟩

def porter : Client Unit Unit Unit :=
  ⟨Repository.guestRepository, some (), [("room", .string "7"), ("room", .string "8")],
    .accepting 1, 20, ()⟩

/-- Both have something to write, and a row that they write to has the name from the one and the
room from the other. -/
theorem merge_of_registrar_and_porter :
    (registrar.sent graceRow).length = 1 ∧ (porter.sent graceRow).length = 1 ∧
    ∀ stored : Row, (stored.get? "full_name").isSome = true → (stored.get? "room").isSome = true →
      let merged :=
        (stored.assignAll (registrar.assigned graceRow)).assignAll (porter.assigned graceRow)
      merged.get? "full_name" = some (.string "Ada") ∧ merged.get? "room" = some (.string "8") ∧
      merged.get? "active" = stored.get? "active" := by
  have hrenamed : registrar.assigned graceRow
      = [("full_name", .string "Ada"), ("score", .int 3), ("updated_at", .int 10)] := by rfl
  have hroomed : porter.assigned graceRow
      = [("room", .string "8"), ("updated_at", .int 20)] := by rfl
  have hloads : registrar.repository.entity.LoadsFrom { kind := .pk, name := "id" }
      registrar.backend.zone graceRow :=
    ⟨rfl, Repository.loadsFrom_guestRow.distinct, by decide +kernel, by decide +kernel⟩
  have hrenames : registrar.Edits
      [{ kind := .string, name := "full_name", aliasName := some "name",
          default := some (.string "nobody") }, { kind := .integer, name := "score" }] :=
    ⟨by simp [registrar, Repository.guestRepository, Repository.guests, FieldKind.isTimestamp],
      by simp [registrar, Field.key]⟩
  have hrooms : porter.Edits [{ kind := .string, name := "room" }] :=
    ⟨by simp [porter, Repository.guestRepository, Repository.guests, FieldKind.isTimestamp],
      by simp [porter, Field.key]⟩
  have hentity : porter.repository.entity = registrar.repository.entity := rfl
  obtain ⟨-, -, hmerge⟩ := merge_of_disjoint_edits hentity hloads
    (by simp [PlainFields, PlainName, registrar, Repository.guestRepository, Repository.guests])
    hrenames hrooms (by simp)
  refine ⟨by decide +kernel, by decide +kernel, fun stored hname hroom => ?_⟩
  obtain ⟨-, hwritten, hkept⟩ := hmerge stored
  refine ⟨hwritten _ _ (.inl ?_) (by decide) hname, hwritten _ _ (.inr ?_) (by decide) hroom,
    hkept _ ?_ ?_⟩
  · simp [hrenamed]
  · simp [hroomed]
  · simp [hrenamed]
  · simp [hroomed]

end Client

end RowMapper
