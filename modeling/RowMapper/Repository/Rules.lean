import RowMapper.Record.Basic

/-!
# `RowMapper.Repository.Rules`: the declared rules of fields

A field may be required and may have limits. A value is *blank* when it is null or the empty
string; limits do not apply to blank values. An integer and a floating-point number are themselves
compared with a limit, strings and JSON arrays by their length, and other values have no limits.
-/

set_option autoImplicit false

namespace RowMapper

open RowMapper.Number

/-- Whether a value counts as missing. Zero and false do not. -/
def Value.isBlank : Value → Bool
  | .null => true
  | .string s => s.isEmpty
  | _ => false

/-- Whether a value is above a limit. -/
def Value.exceeds (value : Value) (limit : Int64) : Bool :=
  match value with
  | .int i => limit < i
  | .float x => (Binary64.ofInteger limit.toInt).less x
  | value => value.length?.any fun length => limit.toInt < length

/-- Whether a value is below a limit. -/
def Value.fallsShort (value : Value) (limit : Int64) : Bool :=
  match value with
  | .int i => i < limit
  | .float x => x.less (Binary64.ofInteger limit.toInt)
  | value => value.length?.any fun length => length < limit.toInt

/-- What a value breaks of the rules of its field. -/
def Field.faults (field : Field) (value : Value) : List String :=
  if value.isBlank then
    if field.required then ["Field is required"] else []
  else
    -- Both limits are reported when a value breaks both, the upper one first.
    let aboveMax := match field.max with
      | some max =>
        if value.exceeds max then ["Field length must be under " ++ integerText max.toInt] else []
      | none => []
    let belowMin := match field.min with
      | some min =>
        if value.fallsShort min then ["Field length must be over " ++ integerText min.toInt] else []
      | none => []
    aboveMax ++ belowMin

/-- What a record breaks of the rules of an entity's fields, by column name, in the order of the
fields. -/
def EntityType.faults {ι κ : Type} (entity : EntityType ι) (record : Record ι κ) :
    List (String × String) :=
  entity.fields.flatMap fun field =>
    (field.faults (record.get field.key)).map fun message => (field.name, message)

end RowMapper
