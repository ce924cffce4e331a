import RowMapper.Proofs.Repository.Messages

/-!
# `RowMapper.Proofs.Repository.Validation`: which rules a record breaks

A field declares up to three rules: that it is required, and two limits. What a limit is compared
with depends on the value (`Value.measure?`), and null and the empty string are missing, which only
the first rule minds. `Rule.Broken` says this without regard to how it is checked, and
`Field.faults_eq` that exactly the broken rules of a field are reported, in the order in which they
stand. `Repository.validate_reports_broken_rules` is the same for all fields of a record.
-/

set_option autoImplicit false

namespace RowMapper

open RowMapper.Number

variable {ι κ : Type}

/-! ### Rules -/

namespace Value

/-- What counts of a value where a limit is declared: an integer itself, the characters of a string
and the items of an array. All other values have no measure. -/
def measure? : Value → Option Int
  | .int i => some i.toInt
  | .string s => some s.length
  | .json (.string s) => some s.length
  | .json (.array items) => some items.length
  | _ => none

/-- The value is above a limit: its measure is, or it is a floating-point number above the one that
is nearest to the limit. -/
def Above (value : Value) (limit : Int64) : Prop :=
  (∃ size, value.measure? = some size ∧ limit.toInt < size) ∨
    ∃ x, value = .float x ∧ (Binary64.ofInteger limit.toInt).less x = true

/-- The value is below a limit. -/
def Below (value : Value) (limit : Int64) : Prop :=
  (∃ size, value.measure? = some size ∧ size < limit.toInt) ∨
    ∃ x, value = .float x ∧ x.less (Binary64.ofInteger limit.toInt) = true

/-- The value counts as not there. -/
def Missing (value : Value) : Prop :=
  value = .null ∨ value = .string ""

theorem isBlank_iff (value : Value) : value.isBlank = true ↔ value.Missing := by
  cases value <;> simp [isBlank, Missing]

theorem exceeds_iff (value : Value) (limit : Int64) :
    value.exceeds limit = true ↔ value.Above limit := by
  cases value with
  | json document => cases document <;> simp [exceeds, Above, measure?, length?]
  | _ => simp [exceeds, Above, measure?, length?, Int64.lt_iff_toInt_lt]

theorem fallsShort_iff (value : Value) (limit : Int64) :
    value.fallsShort limit = true ↔ value.Below limit := by
  cases value with
  | json document => cases document <;> simp [fallsShort, Below, measure?, length?]
  | _ => simp [fallsShort, Below, measure?, length?, Int64.lt_iff_toInt_lt]

end Value

/-- A rule of a field. -/
inductive Rule where
  | required
  | max (limit : Int64)
  | min (limit : Int64)

namespace Rule

/-- What is reported where the rule is broken. -/
def message : Rule → String
  | .required => "Field is required"
  | .max limit => "Field length must be under " ++ integerText limit.toInt
  | .min limit => "Field length must be over " ++ integerText limit.toInt

/-- The value breaks the rule. Limits are for values that are there, and a value at the limit keeps
it. -/
def Broken (value : Value) : Rule → Prop
  | .required => value.Missing
  | .max limit => ¬ value.Missing ∧ value.Above limit
  | .min limit => ¬ value.Missing ∧ value.Below limit

/-- Checks the rule. -/
def isBroken (value : Value) : Rule → Bool
  | .required => value.isBlank
  | .max limit => !value.isBlank && value.exceeds limit
  | .min limit => !value.isBlank && value.fallsShort limit

theorem isBroken_iff (value : Value) (rule : Rule) :
    rule.isBroken value = true ↔ rule.Broken value := by
  cases rule <;> simp [isBroken, Broken, ← Value.isBlank_iff, ← Value.exceeds_iff,
    ← Value.fallsShort_iff]

instance (value : Value) : DecidablePred (Broken value) :=
  fun rule => decidable_of_iff _ (isBroken_iff value rule)

end Rule

namespace Field

/-- The rules that a field declares. -/
def rules (field : Field) : List Rule :=
  (if field.required then [.required] else []) ++ (field.max.map Rule.max).toList ++
    (field.min.map Rule.min).toList

/-- The rules of a field that a value breaks, in the order in which they stand. -/
def broken (field : Field) (value : Value) : List Rule :=
  field.rules.filter (Rule.Broken value)

theorem broken_eq (field : Field) (value : Value) :
    field.broken value = field.rules.filter (Rule.isBroken value) :=
  List.filter_congr fun rule _ => by
    rw [Bool.eq_iff_iff, decide_eq_true_iff, Rule.isBroken_iff]

theorem map_filter_required (required : Bool) (value : Value) :
    ((if required then [Rule.required] else []).filter (Rule.isBroken value)).map Rule.message
      = if required && value.isBlank then ["Field is required"] else [] := by
  cases required with
  | false => rfl
  | true =>
      have hcheck : Rule.isBroken value .required = value.isBlank := rfl
      cases hblank : value.isBlank <;> simp only [if_true, List.filter_cons, hcheck, hblank] <;> rfl

/-- A limit is reported if it is declared and broken. -/
theorem map_filter_limit (limit? : Option Int64) (rule : Int64 → Rule) (value : Value) :
    ((limit?.map rule).toList.filter (Rule.isBroken value)).map Rule.message
      = match limit? with
        | some limit => if (rule limit).isBroken value then [(rule limit).message] else []
        | none => [] := by
  cases limit? with
  | none => rfl
  | some limit => cases hbroken : (rule limit).isBroken value <;> simp [hbroken]

/-- What is reported of a field are its broken rules. -/
theorem faults_eq (field : Field) (value : Value) :
    field.faults value = (field.broken value).map Rule.message := by
  rw [broken_eq, rules, List.filter_append, List.filter_append, List.map_append, List.map_append,
    map_filter_required, map_filter_limit, map_filter_limit]
  unfold faults
  cases hblank : value.isBlank with
  | true =>
      -- A missing value keeps both limits, whatever they are.
      simp only [Rule.isBroken, hblank]
      cases field.required <;> cases field.max <;> cases field.min <;> rfl
  | false =>
      simp only [Rule.isBroken, hblank]
      cases field.required <;> cases field.max <;> cases field.min <;> rfl

end Field

/-! ### Records -/

/-- The rules of an entity's fields that a record breaks, each with its message and under the column
of its field, in the order of the fields. -/
def EntityType.brokenRules (entity : EntityType ι) (record : Record ι κ) :
    List (String × String) :=
  entity.fields.flatMap fun field =>
    (field.broken (record.get field.key)).map fun rule => (field.name, rule.message)

theorem EntityType.faults_eq (entity : EntityType ι) (record : Record ι κ) :
    entity.faults record = entity.brokenRules record := by
  unfold faults brokenRules
  simp only [Field.faults_eq, List.map_map, Function.comp_def]

/-- The messages of a column are those of its fields. -/
theorem EntityType.messagesFor_brokenRules (entity : EntityType ι) (record : Record ι κ)
    (column : String) : Errors.messagesFor column (entity.brokenRules record)
      = entity.fields.flatMap fun field =>
          if field.name = column then (field.broken (record.get field.key)).map Rule.message
          else [] := by
  unfold Errors.messagesFor brokenRules
  rw [List.filter_flatMap, List.map_flatMap]
  congr 1
  funext field
  by_cases hcolumn : field.name = column <;>
    simp [hcolumn, List.filter_map, List.map_map, Function.comp_def]

namespace Repository

/-- Let the hook before validating accept and say nothing. Then validating a record adds a message
for each rule that the record breaks and no other message: behind those that were there, under the
column of the field, in the order of the fields and of their rules. The record is valid if there is
none. -/
theorem validate_reports_broken_rules (repository : Repository ι κ) (record : Record ι κ)
    (hhook : repository.hooks.beforeValidate record repository.errors = ⟨true, []⟩) :
    let broken := repository.entity.brokenRules record
    let validated := repository.validate record
    (validated.1 = true ↔ broken = []) ∧
    validated.2 = { repository with errors := repository.errors.addAll broken } ∧
    validated.2.errors.size = repository.errors.size + broken.length ∧
    ∀ column, validated.2.errors.under column = repository.errors.under column ++
      repository.entity.fields.flatMap fun field =>
        if field.name = column then (field.broken (record.get field.key)).map Rule.message
        else [] := by
  intro broken validated
  have hfound : repository.findings record = broken := by
    rw [findings, hhook]
    exact (List.nil_append _).trans (repository.entity.faults_eq record)
  have hvalidated : validated = (broken.isEmpty, repository.adding broken) := by
    rw [← hfound]
    exact repository.validate_eq record
  rw [hvalidated]
  refine ⟨List.isEmpty_iff, rfl, Errors.size_addAll _ _, fun column => ?_⟩
  exact (Errors.under_addAll _ _ _).trans
    (congrArg _ (repository.entity.messagesFor_brokenRules record column))

/-- Members of a team, with each kind of rule. -/
def players : EntityType Unit :=
  ⟨"players", [{ kind := .pk, name := "id", required := true },
    { kind := .string, name := "full_name", aliasName := some "name", required := true,
      max := some 3 },
    { kind := .integer, name := "goals", max := some 5, min := some (-5) },
    { kind := .json, name := "teams", min := some 2 },
    { kind := .string, name := "motto", min := some 1 }], []⟩

/-- A new player with a name of four characters, a number at its limit, a list that is too short and
no motto. -/
def zoe : Record Unit Unit :=
  ((((Record.blank players).set "name" (.string "Zoé!")).set "goals" (.int 5)).set "teams"
    (.json (.array [.string "reds"]))).set "motto" (.string "")

/-- Each broken rule is reported under its column, behind what was there. -/
theorem validate_reports_broken_rules_player :
    let repository : Repository Unit Unit :=
      ⟨players, (), {}, Errors.empty.add "full_name" "Name is taken"⟩
    let validated := repository.validate zoe
    validated.1 = false ∧ validated.2.errors.size = 4 ∧
    validated.2.errors.under "full_name" = ["Name is taken", "Field length must be under 3"] ∧
    validated.2.errors.under "name" = [] ∧ validated.2.errors.under "goals" = [] := by
  intro repository validated
  have hbroken : players.brokenRules zoe = [("id", "Field is required"),
      ("full_name", "Field length must be under 3"), ("teams", "Field length must be over 2")] := by
    decide +kernel
  obtain ⟨hvalid, -, hsize, hunder⟩ := validate_reports_broken_rules repository zoe rfl
  refine ⟨Bool.eq_false_iff.2 fun h => ?_, ?_, ?_, ?_, ?_⟩
  · exact absurd (hvalid.1 h) (by rw [hbroken]; exact List.cons_ne_nil _ _)
  · exact hsize.trans (by rw [hbroken]; rfl)
  · exact (hunder "full_name").trans (by decide +kernel)
  · exact (hunder "name").trans (by decide +kernel)
  · exact (hunder "goals").trans (by decide +kernel)

end Repository

end RowMapper
