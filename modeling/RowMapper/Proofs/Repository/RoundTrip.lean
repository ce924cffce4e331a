import RowMapper.Proofs.Calendar.Reading
import RowMapper.Proofs.Repository.Changes
import RowMapper.Proofs.Repository.Run
import RowMapper.Proofs.Sql.Insertion
import RowMapper.Proofs.Sql.Literal

/-!
# `RowMapper.Proofs.Repository.RoundTrip`: what is inserted is read back

A new record is sent as an INSERT of its fields that are not null. The row that this makes, with the
key that the engine has assigned, is read as a record with the same values:
`Repository.insert_then_read`. What is needed of a value is that its field's kind reads it from the
form for binding (`FieldKind.Keeps`).
-/

set_option autoImplicit false

namespace RowMapper

open RowMapper.Sql RowMapper.Calendar

variable {ι κ ω : Type}

/-! ### Values and rows -/

/-- The value is of the type of the field, and nothing of it is lost when it is written as text: a
date has no part below a second, be it a leap second at the end of a minute, and a document is read
back from its own text. -/
inductive FieldKind.Keeps : FieldKind → Value → Prop
  | simple {kind : FieldKind} {value : Value} (hkind : kind ≠ .pk) (hholds : kind.Holds value) :
      Keeps kind value
  | date (moment : DateTime)
      (hnano : moment.nano = 0 ∨ moment.second = 59 ∧ moment.nano = 1000000000) :
      Keeps .date (.dateTime moment)
  | json (document : Json) (hread : Json.read? document.text = some document) :
      Keeps .json (.json document)

/-- Such a moment is written as it is, and nothing of it is dropped. -/
theorem Calendar.DateTime.toSecond_asWritten {moment : DateTime}
    (h : moment.nano = 0 ∨ moment.second = 59 ∧ moment.nano = 1000000000) :
    moment.asWritten.toSecond = moment := by
  have hsame : moment.asWritten = moment := asWritten_eq_iff.2 fun hleap => by
    rw [isLeap, decide_eq_true_iff] at hleap
    omega
  have hzero : moment.fraction = 0 := by
    unfold fraction
    omega
  have hwhole := moment.withFraction_fraction
  simp only [hzero] at hwhole
  rw [hsame]
  exact hwhole

/-- Such a value is read back from its form for binding. -/
theorem FieldKind.Keeps.coerce_bound {kind : FieldKind} {value : Value} (h : kind.Keeps value)
    (zone : Zone) : kind.coerce zone value.bound = value := by
  cases h with
  | simple hkind hholds => exact FieldKind.coerce_bound hkind hholds
  | date moment hnano =>
      have hmoment : (Value.string moment.text).toDateTime? zone = some moment := by
        rw [Value.toDateTime?, DateTime.read?_text, DateTime.toSecond_asWritten hnano]
      simp only [Value.bound, FieldKind.coerce, hmoment]
  | json document hread => simp only [Value.bound, FieldKind.coerce, hread]

/-- A row has each of its values under its name, if no two names are the same. -/
theorem Row.get?_of_mem {row : Row} {name : String} {value : Value}
    (hdistinct : (row.columns.map (·.1)).Nodup) (hmem : (name, value) ∈ row.columns) :
    row.get? name = some value := by
  refine lookup_of_mem ?_ (List.mem_reverse.2 hmem)
  rw [List.map_reverse]
  exact List.nodup_reverse.2 hdistinct

/-- The row that an INSERT of these values makes: the key that is assigned to it, the values, and
null in every other column. -/
def EntityType.rowOf (entity : EntityType ι) (pk : Field) (key : Int64)
    (pairs : List (String × Value)) : Row :=
  ⟨entity.fields.map fun field =>
    (field.name, if field.name = pk.name then .int key else (pairs.lookup field.name).getD .null)⟩

theorem EntityType.get?_rowOf {entity : EntityType ι} {field : Field}
    (hdistinct : DistinctFields entity.fields) (hfield : field ∈ entity.fields) (pk : Field)
    (key : Int64) (pairs : List (String × Value)) :
    (entity.rowOf pk key pairs).get? field.name = some (if field.name = pk.name then .int key
      else (pairs.lookup field.name).getD .null) := by
  refine Row.get?_of_mem ?_ (List.mem_map.2 ⟨field, hfield, rfl⟩)
  simpa only [rowOf, List.map_map, Function.comp_def] using hdistinct.names

/-- The row has the key that is assigned. -/
theorem EntityType.get?_rowOf_key {entity : EntityType ι} {pk : Field}
    (hdistinct : DistinctFields entity.fields) (hpk : pk ∈ entity.fields) (key : Int64)
    (pairs : List (String × Value)) :
    (entity.rowOf pk key pairs).get? pk.name = some (.int key) := by
  rw [get?_rowOf hdistinct hpk, if_pos rfl]

/-- The row has the values that are inserted. -/
theorem EntityType.get?_rowOf_of_mem {entity : EntityType ι} {field pk : Field}
    (hdistinct : DistinctFields entity.fields) (hfield : field ∈ entity.fields)
    (hname : field.name ≠ pk.name) {pairs : List (String × Value)} {value : Value}
    (hpairs : (pairs.map (·.1)).Nodup) (hmem : (field.name, value) ∈ pairs) (key : Int64) :
    (entity.rowOf pk key pairs).get? field.name = some value := by
  rw [get?_rowOf hdistinct hfield, if_neg hname, lookup_of_mem hpairs hmem, Option.getD_some]

namespace Repository

variable {repository : Repository ι κ} {record : Record ι κ}

/-! ### What is inserted -/

/-- The columns that an INSERT gives values to, with these values. -/
def entered (repository : Repository ι κ) (record : Record ι κ) : List (String × Value) :=
  (repository.entity.fields.filter fun field =>
    field.kind ≠ .pk && !(record.get field.key).isNull).map fun field =>
      (field.name, record.get field.key)

theorem mem_entered {field : Field} (hfield : field ∈ repository.entity.fields)
    (hkind : field.kind ≠ .pk) (hvalue : (record.get field.key).isNull = false) :
    (field.name, record.get field.key) ∈ repository.entered record :=
  List.mem_map.2 ⟨field, List.mem_filter.2 ⟨hfield, by simp [hkind, hvalue]⟩, rfl⟩

theorem distinct_entered (record : Record ι κ)
    (hnames : (repository.entity.fields.map Field.name).Nodup) :
    ((repository.entered record).map (·.1)).Nodup := by
  unfold entered
  rw [List.map_map]
  exact hnames.sublist (List.filter_sublist.map Field.name)

/-- The values that an INSERT binds to its columns. -/
def enteredBound (repository : Repository ι κ) (record : Record ι κ) : List (String × Value) :=
  (repository.entered record).map fun (name, value) => (name, value.bound)

theorem mem_enteredBound {field : Field} (hfield : field ∈ repository.entity.fields)
    (hkind : field.kind ≠ .pk) (hvalue : (record.get field.key).isNull = false) :
    (field.name, (record.get field.key).bound) ∈ repository.enteredBound record :=
  List.mem_map.2 ⟨_, mem_entered hfield hkind hvalue, rfl⟩

theorem distinct_enteredBound (record : Record ι κ)
    (hnames : (repository.entity.fields.map Field.name).Nodup) :
    ((repository.enteredBound record).map (·.1)).Nodup := by
  unfold enteredBound
  rw [List.map_map]
  exact distinct_entered record hnames

/-- An INSERT binds a value to the column of each field that is not null. -/
theorem lookup_enteredBound {field : Field}
    (hnames : (repository.entity.fields.map Field.name).Nodup)
    (hfield : field ∈ repository.entity.fields) (hkind : field.kind ≠ .pk) :
    (repository.enteredBound record).lookup field.name
      = if (record.get field.key).isNull then none else some (record.get field.key).bound := by
  split
  case isTrue hnull =>
    refine lookup_eq_none_of_not_mem fun hmem => ?_
    rw [enteredBound, entered, List.map_map, List.map_map] at hmem
    obtain ⟨other, hother, hname⟩ := List.mem_map.1 hmem
    obtain ⟨hmember, hvalue⟩ := List.mem_filter.1 hother
    -- The column belongs to this field only.
    obtain rfl := List.inj_on_of_nodup_map hnames hmember hfield hname
    simp [hnull] at hvalue
  case isFalse hvalue =>
    exact lookup_of_mem (distinct_enteredBound record hnames)
      (mem_enteredBound hfield hkind (Bool.eq_false_iff.2 hvalue))

theorem plain_entered (record : Record ι κ) (hplain : PlainFields repository.entity.fields) :
    ∀ pair ∈ repository.entered record, PlainName pair.1 := by
  rintro ⟨name, value⟩ hmem
  obtain ⟨field, hfield, heq⟩ := List.mem_map.1 hmem
  obtain rfl : field.name = name := congrArg Prod.fst heq
  exact hplain field (List.mem_filter.1 hfield).1

/-- An INSERT assigns to each column once, in the order of the fields. -/
theorem insertion_eq (record : Record ι κ) (hplain : PlainFields repository.entity.fields)
    (hnames : (repository.entity.fields.map Field.name).Nodup) :
    repository.insertion record = ⟨some repository.entity.table,
      (repository.entered record).map fun (name, value) => (backticked name, value)⟩ := by
  have hfresh : ∀ pair ∈ repository.entered record,
      backticked pair.1 ∉ Assignments.columns [] := by
    simp [Assignments.columns]
  have hassigned := setAll_of_plain (plain_entered record hplain) (distinct_entered record hnames)
    hfresh
  rw [List.nil_append] at hassigned
  rw [← hassigned]
  rfl

variable (record) in
/-- A database reads from the INSERT of a save the values of the record. -/
theorem inserted?_insertStatement (hplain : PlainFields repository.entity.fields)
    (hnames : (repository.entity.fields.map Field.name).Nodup) (now : Int64) :
    inserted? repository.entity.table (repository.insertStatement record now)
      = some (repository.enteredBound (repository.stamp .createdAt now record)) := by
  rw [insertStatement, insertion_eq _ hplain hnames]
  exact inserted?_statement (plain_entered _ hplain)

/-! ### What becomes of the record -/

/-- The record of the row that the INSERT of a save makes has the values of the record. -/
theorem Effect.reads_back {backend : Backend κ ω} {now : Int64}
    {world after : ω × List Exchange} {outcome : Outcome ι κ} {pk : Field}
    (h : Effect repository record backend.logged now world outcome after)
    (hnew : record.isNew = true) (hpk : repository.entity.pk? = some pk)
    (hdistinct : DistinctFields repository.entity.fields)
    (hplain : PlainFields repository.entity.fields)
    (hkeeps : ∀ field ∈ repository.entity.fields, field.kind ≠ .pk →
      field.kind.isTimestamp = false → (record.get field.key).isNull = false →
        field.kind.Keeps (record.get field.key)) :
    ∃ exchange pairs, after.2 = world.2 ++ [exchange] ∧ exchange.statement.isInsert = true ∧
      inserted? repository.entity.table exchange.statement = some pairs ∧
      ∀ result, exchange.answer = .ok (.write result) → result.lastInsertedId ≠ 0 →
        ∀ (zone : Zone) (connection : Option κ),
        let loaded := Record.hydrate zone repository.entity
          (repository.entity.rowOf pk result.lastInsertedId pairs) connection
        loaded.isNew = false ∧ loaded.get pk.key = outcome.record.get pk.key ∧
        ∀ field ∈ repository.entity.fields, field.kind ≠ .pk → field.kind.isTimestamp = false →
          (outcome.record.get field.key).isNull = false →
          loaded.get field.key = outcome.record.get field.key := by
  have hinserted := inserted?_insertStatement record hplain hdistinct.names now
  have hinsert := repository.isInsert_insertStatement record now
  obtain ⟨hpkMem, hpkKind⟩ := EntityType.of_fieldOfKind? hpk
  cases h with
  | keyless hold | unchanged hold | updated hold | updateRejected hold =>
      exact absurd hnew (Bool.eq_false_iff.1 hold)
  | insertRejected _ hquery =>
      refine ⟨⟨_, _⟩, _, Backend.logged_query hquery, hinsert, hinserted, ?_⟩
      rintro result hanswer
      contradiction
  | @inserted output _ _ hquery =>
      refine ⟨⟨_, _⟩, _, Backend.logged_query hquery, hinsert, hinserted, ?_⟩
      rintro result hanswer hkey zone connection
      obtain rfl : output = .write result := Except.ok.inj hanswer
      rw [takeKey_eq hpk]
      have hraw := EntityType.get?_rowOf_key hdistinct hpkMem result.lastInsertedId
        (repository.enteredBound (repository.stamp .createdAt now record))
      have htruthy : (Value.int result.lastInsertedId).isTruthy = true := by
        simpa [Value.isTruthy] using hkey
      refine ⟨Record.isNew_hydrate zone connection hdistinct hpk hraw htruthy, ?_, ?_⟩
      · rw [Record.get_hydrate zone connection hdistinct hpkMem hraw, hpkKind]
        exact (Record.get_set_self ..).symm
      · intro field hfield hkind htime hvalue
        obtain ⟨hkeyNe, hnameNe⟩ := hdistinct.ne_of_kind hfield hpkMem (hpkKind ▸ hkind)
        -- Neither the time of creation nor the key of the row is under the key of the field.
        have hcreated : FieldKind.createdAt.isTimestamp = true := rfl
        have hstamped := get_stamp record hcreated now hdistinct hfield htime
        have hsaved : (((repository.stamp .createdAt now record).set pk.key
            (.int result.lastInsertedId)).attach repository.connection).get field.key
              = record.get field.key :=
          (Record.get_set_of_ne _ _ hkeyNe).trans hstamped
        rw [hsaved] at hvalue ⊢
        have hbound := mem_enteredBound hfield hkind (hstamped ▸ hvalue)
        rw [hstamped] at hbound
        have hraw := EntityType.get?_rowOf_of_mem hdistinct hfield hnameNe
          (distinct_enteredBound _ hdistinct.names) hbound
          result.lastInsertedId
        rw [Record.get_hydrate zone connection hdistinct hfield hraw]
        exact (hkeeps field hfield hkind htime hvalue).coerce_bound zone

/-! ### From a save to a read -/

/-- Let a new record be saved, let its values, defaults filled in, be kept by the kinds of their
fields, and let the hook before saving accept. Then one INSERT is sent. If the engine accepts it and
answers with a key, the row with this key, the inserted values and null elsewhere is read as a
record that is not new, has the key of the saved record, and has its values in all fields that are
neither key nor timestamp and not null. -/
theorem insert_then_read (repository : Repository ι κ) (record : Record ι κ)
    (backend : Backend κ ω) (world : ω) (now : Int64) {pk : Field}
    (hpk : repository.entity.pk? = some pk) (hdistinct : DistinctFields repository.entity.fields)
    (hplain : PlainFields repository.entity.fields) (hnew : record.isNew = true)
    (haccepts : (repository.hooks.beforeSave (repository.prepare record)
      repository.errors).accepts = true)
    (hkeeps : ∀ field ∈ repository.entity.fields, field.kind ≠ .pk →
      field.kind.isTimestamp = false →
      ((repository.prepare record).get field.key).isNull = false →
        field.kind.Keeps ((repository.prepare record).get field.key)) :
    let saved := repository.saveUnvalidated backend.logged now record (world, [])
    ∃ exchange pairs, saved.2.2 = [exchange] ∧ exchange.statement.isInsert = true ∧
      inserted? repository.entity.table exchange.statement = some pairs ∧
      ∀ result, exchange.answer = .ok (.write result) → result.lastInsertedId ≠ 0 →
        ∀ (zone : Zone) (connection : Option κ),
        let loaded := Record.hydrate zone repository.entity
          (repository.entity.rowOf pk result.lastInsertedId pairs) connection
        loaded.isNew = false ∧ loaded.get pk.key = saved.1.record.get pk.key ∧
        ∀ field ∈ repository.entity.fields, field.kind ≠ .pk → field.kind.isTimestamp = false →
          (saved.1.record.get field.key).isNull = false →
          loaded.get field.key = saved.1.record.get field.key := by
  intro saved
  have hprepared : (repository.prepare record).isNew = true :=
    (kin_prepare repository record).isNew_eq.trans hnew
  have hallowed : (repository.allow false (repository.prepare record)).1 = true := haccepts
  have heffect := store_effect repository record backend.logged now (world, []) hallowed
  have hentity := (kin_allow repository (repository.prepare record) false).entity
  rw [← hentity] at hpk hdistinct hplain hkeeps ⊢
  exact heffect.reads_back hprepared hpk hdistinct hplain hkeeps

/-- The members of a club, with a name under another key and a field of each kind of text. -/
def members : EntityType Unit :=
  ⟨"members", [{ kind := .pk, name := "id" },
    { kind := .string, name := "full_name", aliasName := some "name" },
    { kind := .date, name := "joined" }, { kind := .json, name := "tags" },
    { kind := .createdAt, name := "created_at" }], []⟩

/-- The ninth of December 1906. -/
def graceJoined : DateTime :=
  .midnight ⟨1906, 12, 9, by decide, by decide, by decide⟩

/-- A new member. -/
def grace : Record Unit Unit :=
  (((Record.blank members).set "name" (.string "Grace")).set "joined" (.dateTime graceJoined)).set
    "tags" (.json (.array [.string "navy"]))

/-- A member that is inserted is read back with all that was set. -/
theorem insert_then_read_of_member :
    let repository : Repository Unit Unit := ⟨members, (), {}, .empty⟩
    let saved := repository.saveUnvalidated (Backend.accepting 7).logged 0 grace ((), [])
    ∃ exchange pairs, saved.2.2 = [exchange] ∧
      inserted? "members" exchange.statement = some pairs ∧
      let loaded : Record Unit Unit :=
        .hydrate .universal members (members.rowOf { kind := .pk, name := "id" } 7 pairs) none
      loaded.isNew = false ∧ loaded.get "id" = .int 7 ∧ loaded.get "name" = .string "Grace" ∧
        loaded.get "joined" = .dateTime graceJoined ∧
        loaded.get "tags" = .json (.array [.string "navy"]) := by
  intro repository saved
  have hdistinct : DistinctFields members.fields :=
    ⟨by simp [members, Field.key], by simp [members]⟩
  have hplain : PlainFields members.fields := by
    simp [PlainFields, PlainName, members]
  have hkeeps : ∀ field ∈ members.fields, field.kind ≠ .pk → field.kind.isTimestamp = false →
      ((repository.prepare grace).get field.key).isNull = false →
        field.kind.Keeps ((repository.prepare grace).get field.key) := by
    simp only [members, List.forall_mem_cons]
    refine ⟨fun h => absurd rfl h, fun _ _ _ => .simple (by decide) (.string "Grace"),
      fun _ _ _ => .date graceJoined (.inl rfl),
      fun _ _ _ => .json (.array [.string "navy"]) (by cbv),
      fun _ h => absurd h (by decide), by simp⟩
  obtain ⟨exchange, pairs, hlog, -, hinserted, hread⟩ := insert_then_read repository grace
    (Backend.accepting 7) () 0 rfl hdistinct hplain rfl rfl hkeeps
  refine ⟨exchange, pairs, hlog, hinserted, ?_⟩
  have hanswer : exchange.answer = .ok (.write ⟨1, 1, 7⟩) := by
    have hanswers : saved.2.2.map (·.answer) = [.ok (.write ⟨1, 1, 7⟩)] := rfl
    rw [hlog] at hanswers
    exact (List.cons.inj hanswers).1
  obtain ⟨hnew, hkey, hvalues⟩ := hread ⟨1, 1, 7⟩ hanswer (by decide) .universal none
  have hname := hvalues { kind := .string, name := "full_name", aliasName := some "name" }
    (by simp [repository, members]) (by decide) rfl rfl
  have hjoined := hvalues { kind := .date, name := "joined" } (by simp [repository, members])
    (by decide) rfl rfl
  have htags := hvalues { kind := .json, name := "tags" } (by simp [repository, members])
    (by decide) rfl rfl
  exact ⟨hnew, hkey, hname, hjoined, htags⟩

end Repository

end RowMapper
