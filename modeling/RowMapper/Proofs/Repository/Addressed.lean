import RowMapper.Proofs.Repository.Loaded

/-!
# `RowMapper.Proofs.Repository.Addressed`: the row that an UPDATE is for

What an UPDATE writes is found by comparing the record with its snapshot, but the row that it writes
to is found by the current primary key: the condition compares the column of the key with the value
that the record holds under it (`Repository.addresses_updateStatement`). So an UPDATE is for the row
that the record was loaded from as long as nothing is set under the key of the primary key, and
otherwise for the row of what was set last: `Repository.update_addresses_current_key`.
-/

set_option autoImplicit false

namespace RowMapper

open RowMapper.Sql RowMapper.Text RowMapper.Calendar

variable {ι κ ω : Type}

/-! ### Setting values -/

namespace Record

/-- The record with values set one after the other. -/
def setAll (record : Record ι κ) (sets : List (String × Value)) : Record ι κ :=
  sets.foldl (fun record pair => record.set pair.1 pair.2) record

/-- The value that is set last under a key. -/
def lastSet? (sets : List (String × Value)) (key : String) : Option Value :=
  sets.reverse.lookup key

theorem lastSet?_cons (pair : String × Value) (rest : List (String × Value)) (key : String) :
    lastSet? (pair :: rest) key
      = (lastSet? rest key).or (if key = pair.1 then some pair.2 else none) := by
  rw [lastSet?, List.reverse_cons, List.lookup_append, ← lastSet?]
  by_cases hkey : key = pair.1
  · rw [if_pos hkey, hkey, List.lookup_cons_self]
  · rw [if_neg hkey, List.lookup_cons, beq_false_of_ne hkey, List.lookup_nil]

theorem lastSet?_of_forall_ne {sets : List (String × Value)} {key : String}
    (h : ∀ pair ∈ sets, pair.1 ≠ key) : lastSet? sets key = none := by
  rw [lastSet?, List.lookup_eq_none_iff]
  intro pair hpair
  exact bne_iff_ne.2 (h pair (List.mem_reverse.1 hpair)).symm

/-- Under each key stands what was set last under it, or else what stood there before. -/
theorem get_setAll (record : Record ι κ) (sets : List (String × Value)) (key : String) :
    (record.setAll sets).get key = (lastSet? sets key).getD (record.get key) := by
  induction sets generalizing record with
  | nil => rfl
  | cons pair rest ih =>
      show ((record.set pair.1 pair.2).setAll rest).get key = _
      rw [ih, lastSet?_cons]
      cases lastSet? rest key with
      | some value => rfl
      | none =>
          by_cases hkey : key = pair.1
          · subst hkey
            simp
          · simp [hkey, get_set_of_ne record pair.2 hkey]

theorem kin_setAll (record : Record ι κ) (sets : List (String × Value)) :
    record.Kin (record.setAll sets) := by
  induction sets generalizing record with
  | nil => exact .refl record
  | cons pair rest ih => exact (Kin.set record pair.1 pair.2).trans (ih _)

end Record

theorem Value.isNull_of_isTruthy {value : Value} (h : value.isTruthy = true) :
    value.isNull = false := by
  cases value with
  | null => contradiction
  | bool | int | float | string | dateTime | json => rfl

/-! ### The condition of an UPDATE -/

namespace Sql

/-- The statement is an UPDATE of a table with one placeholder for each of its parameters: they are
assigned to columns, and the last one is what `column` is compared with to find the rows. -/
def Statement.Addresses (statement : Statement) (table column : String) (value : Value) : Prop :=
  ∃ assigned : List (String × Value),
    statement.sql = "UPDATE " ++ table ++ " SET " ++
      joined ", " (assigned.map fun pair => pair.1 ++ " = " ++ placeholder) ++
      " WHERE " ++ column ++ " = " ++ placeholder ++ ";" ∧
    statement.params = assigned.map (·.2) ++ [value]

/-- The value is part of the statement. -/
theorem Statement.Addresses.getLast?_params {statement : Statement} {table column : String}
    {value : Value} (h : statement.Addresses table column value) :
    statement.params.getLast? = some value := by
  obtain ⟨assigned, -, hparams⟩ := h
  rw [hparams, List.getLast?_concat]

/-- An UPDATE whose condition is an equality addresses the rows that are equal. -/
theorem Update.addresses_statement {update : Update} {table column : String} {value : Value}
    (htable : update.table = some table)
    (hcondition : update.condition = some (.compare column .eq value)) :
    update.statement.Addresses table column value.bound := by
  refine ⟨update.assignments.map fun pair => (pair.1, pair.2.bound), ?_, ?_⟩
  · have hequals : " = " = " " ++ ("=" ++ " ") := by decide
    simp only [Update.statement, htable, hcondition, bindWhere, Predicate.compare, Predicate.bind,
      Operator.symbol, Option.getD_some, List.map_map, Function.comp_def, hequals,
      String.append_assoc]
  · simp [Update.statement, hcondition, bindWhere, Predicate.compare, Predicate.bind,
      Assignments.values, Function.comp_def]

/-- A statement that begins as an INSERT does not begin as an UPDATE. -/
theorem Statement.isUpdate_of_isInsert {statement : Statement} (h : statement.isInsert = true) :
    statement.isUpdate = false := by
  refine Bool.eq_false_iff.2 fun hupdate => ?_
  obtain ⟨rest, hrest⟩ := List.isPrefixOf_iff_prefix.1 h
  obtain ⟨rest', hrest'⟩ := List.isPrefixOf_iff_prefix.1 hupdate
  have hletters : 'I' = 'U' := (List.cons.inj (hrest.trans hrest'.symm)).1
  exact absurd hletters (by decide)

end Sql

namespace Repository

variable {repository : Repository ι κ} {record : Record ι κ} {pk : Field}

/-- The UPDATE of a save addresses the row of the current key. -/
theorem addresses_updateStatement (repository : Repository ι κ) (record : Record ι κ) (pk : Field)
    (now : Int64) : (repository.updateStatement record pk now).Addresses repository.entity.table
      pk.name (record.get pk.key).bound := by
  rw [updateStatement, stampUpdate_eq]
  -- Assigning columns leaves the table and the condition as they are.
  exact Update.addresses_statement rfl rfl

/-- What a save sends for a stored record is one UPDATE at most, for the row of the current key. -/
theorem Effect.addresses {backend : Backend κ ω} {now : Int64} {world after : ω × List Exchange}
    {outcome : Outcome ι κ}
    (h : Effect repository record backend.logged now world outcome after)
    (hold : record.isNew = false) (hpk : repository.entity.pk? = some pk) :
    after.2 = world.2 ∨ ∃ exchange : Exchange, after.2 = world.2 ++ [exchange] ∧
      exchange.statement.Addresses repository.entity.table pk.name (record.get pk.key).bound := by
  obtain hnothing | ⟨key, exchange, hkey, -, hstatement, hsent⟩ := h.sent_of_stored hold
  · exact .inl hnothing
  · obtain rfl : pk = key := Option.some.inj (hpk.symm.trans hkey)
    exact .inr ⟨exchange, hsent, hstatement ▸ addresses_updateStatement repository record pk now⟩

/-- Every UPDATE that a save sends addresses the row of the key that the record holds once defaults
are filled in. -/
theorem store_addresses (repository : Repository ι κ) (record : Record ι κ)
    (hpk : repository.entity.pk? = some pk) (backend : Backend κ ω) (now : Int64)
    (validated : Bool) (world : ω) :
    ∀ exchange ∈ (repository.store backend.logged now validated record (world, [])).2.2,
      exchange.statement.isUpdate = true →
      exchange.statement.Addresses repository.entity.table pk.name
        ((repository.prepare record).get pk.key).bound := by
  intro exchange hsent hupdate
  obtain ⟨allowed, hkin, hrefused | heffect⟩ := store_cases repository record backend.logged now
    (world, []) validated
  · rw [hrefused] at hsent
    cases hsent
  cases hnew : (repository.prepare record).isNew with
  | true =>
      obtain ⟨other, hinsert, -, hlog⟩ := heffect.log_of_new hnew
      rw [hlog] at hsent
      obtain rfl := List.mem_singleton.1 hsent
      rw [Statement.isUpdate_of_isInsert hinsert] at hupdate
      contradiction
  | false =>
      rw [← hkin.entity] at hpk ⊢
      rcases heffect.addresses hnew hpk with hlog | ⟨other, hlog, haddresses⟩
      · rw [hlog] at hsent
        cases hsent
      · rw [hlog] at hsent
        obtain rfl := List.mem_singleton.1 hsent
        exact haddresses

/-- The key that a loaded record holds after values have been set, defaults filled in. -/
theorem get_prepare_setAll {zone : Zone} {row : Row}
    (hkeys : (repository.entity.fields.map Field.key).Nodup) {field : Field}
    (hfield : field ∈ repository.entity.fields) (connection : Option κ)
    (sets : List (String × Value)) :
    (repository.prepare ((Record.hydrate zone repository.entity row connection).setAll sets)).get
        field.key
      = field.orDefault ((Record.lastSet? sets field.key).getD (field.readFrom zone row)) := by
  rw [get_prepare hkeys hfield, Record.get_setAll,
    Record.get_hydrate_eq zone row connection hkeys hfield]

/-- Let a record be loaded from a row, set and saved, validated or not. If an UPDATE is sent, it is
for the row of the key that the record holds, defaults filled in. Let no two fields share a key or a
column, and let the key in the row be truthy. Then this is the key in the snapshot, if nothing was
set under its name, and otherwise the value that was set last, or its default if that is null. -/
theorem update_addresses_current_key (repository : Repository ι κ) {pk : Field}
    (hpk : repository.entity.pk? = some pk) (zone : Zone) (row : Row) (connection : Option κ)
    (sets : List (String × Value)) (backend : Backend κ ω) (now : Int64) (validated : Bool)
    (world : ω) :
    let loaded := Record.hydrate zone repository.entity row connection
    let record := loaded.setAll sets
    let current := (repository.prepare record).get pk.key
    (∀ exchange ∈ (repository.store backend.logged now validated record (world, [])).2.2,
      exchange.statement.isUpdate = true →
      exchange.statement.Addresses repository.entity.table pk.name current.bound) ∧
    (DistinctFields repository.entity.fields → (pk.readFrom zone row).isTruthy = true →
      (Record.lastSet? sets pk.key = none → current = loaded.stored pk.name) ∧
      (∀ value, Record.lastSet? sets pk.key = some value → current = pk.orDefault value)) := by
  intro loaded record current
  refine ⟨store_addresses repository record hpk backend now validated world, ?_⟩
  intro hdistinct htruthy
  have hmem := (EntityType.of_fieldOfKind? hpk).1
  have hcurrent : current = _ := get_prepare_setAll hdistinct.keys hmem connection sets
  have hfilled := Value.isNull_of_isTruthy htruthy
  refine ⟨fun hnone => ?_, fun value hsome => ?_⟩
  · rw [hcurrent, hnone, Option.getD_none, Field.orDefault_of_filled fun _ => hfilled]
    exact (Record.stored_hydrate_eq zone row connection hdistinct.names hmem).symm
  · rw [hcurrent, hsome, Option.getD_some]

/-- A repository of users. -/
def plainUsers : Repository Unit Unit :=
  ⟨users, (), {}, .empty⟩

/-- The row of a user, and the user as loaded from it. -/
def beaRow : Row :=
  ⟨[("id", .int 1), ("name", .string "Bea")]⟩

def loadedBea : Record Unit Unit :=
  .hydrate .universal plainUsers.entity beaRow none

/-- A user that is renamed is updated in the row it was loaded from. -/
theorem update_addresses_loaded_row :
    let log := (plainUsers.store (Backend.accepting 7).logged 0 true
      (loadedBea.setAll [("name", .string "Ada"), ("name", .string "Cyd")]) ((), [])).2.2
    log.length = 1 ∧ ∀ exchange ∈ log, exchange.statement.Addresses "users" "id" (.int 1) := by
  intro log
  have hupdates : ∀ exchange ∈ log, exchange.statement.isUpdate = true := by decide +kernel
  obtain ⟨haddresses, hkey⟩ := update_addresses_current_key plainUsers rfl .universal beaRow none
    [("name", .string "Ada"), ("name", .string "Cyd")] (Backend.accepting 7) 0 true ()
  have hdistinct : DistinctFields plainUsers.entity.fields :=
    ⟨by simp [plainUsers, users, Field.key], by simp [plainUsers, users]⟩
  have hcurrent := (hkey hdistinct (by decide +kernel)).1 (by rfl)
  refine ⟨by decide +kernel, fun exchange hsent => ?_⟩
  have h := haddresses exchange hsent (hupdates exchange hsent)
  rw [hcurrent] at h
  exact h

/-- A user whose key is set is updated in the row of the new key, not in the one it was loaded
from. -/
theorem update_after_set_key :
    let log := (plainUsers.saveUnvalidated (Backend.accepting 7).logged 0
      (loadedBea.setAll [("id", .int 2), ("name", .string "Ada")]) ((), [])).2.2
    plainUsers.entity.pk? = some { kind := .pk, name := "id" } ∧ loadedBea.isNew = false ∧
    ∃ exchange, log = [exchange] ∧ exchange.statement.isUpdate = true ∧
      exchange.statement.Addresses "users" "id" (.int 2) ∧
      ¬ exchange.statement.Addresses "users" "id" (loadedBea.stored "id").bound := by
  intro log
  have hpk : plainUsers.entity.pk? = some { kind := .pk, name := "id" } := rfl
  have hlog : log = [⟨⟨"UPDATE users SET `name` = ? WHERE id = ?;", [.string "Ada", .int 2]⟩,
      .ok (.write ⟨1, 1, 7⟩)⟩] := by rfl
  have hupdate := isUpdate_updateStatement plainUsers
    (loadedBea.setAll [("id", .int 2), ("name", .string "Ada")]) { kind := .pk, name := "id" } 0
  have haddresses := addresses_updateStatement plainUsers
    (loadedBea.setAll [("id", .int 2), ("name", .string "Ada")]) { kind := .pk, name := "id" } 0
  refine ⟨hpk, by decide +kernel, _, hlog, hupdate, haddresses, fun h => ?_⟩
  have hlast : some (Value.int 2) = some (.int 1) := h.getLast?_params
  simp at hlast

end Repository

end RowMapper
