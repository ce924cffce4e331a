import RowMapper.Entity.FieldKind

/-!
# `RowMapper.Entity.Basic`: what is known of an entity

An `EntityType` describes the table of an entity: its fields, and its relations to other entities.
Entities refer to each other, also in circles, so a relation names its target by an element of a
type `ι` of entity names, and a `Schema` has the description of each.

A field has a column name and, for use in programs, a key: its alias, or else the column name.
-/

set_option autoImplicit false

namespace RowMapper

/-- A column of an entity. -/
structure Field where
  kind : FieldKind
  name : String
  aliasName : Option String := none
  required : Bool := false
  max : Option Int64 := none
  min : Option Int64 := none
  default : Option Value := none

/-- The name under which an entity holds the field. -/
def Field.key (field : Field) : String :=
  field.aliasName.getD field.name

/-- The kinds of relations. A kind that is not known can be declared and never loads anything. -/
inductive RelationKind where
  | hasMany
  | hasOne
  | belongsTo
  | manyMany
  | unknown (name : String)
deriving DecidableEq

/-- The kind of this name, in any case. -/
def RelationKind.ofName (name : String) : RelationKind :=
  match Text.upper name with
  | "HASMANY" => .hasMany
  | "HASONE" => .hasOne
  | "BELONGSTO" => .belongsTo
  | "MANYMANY" => .manyMany
  | _ => .unknown name

/-- A relation to the entity `target`: rows whose `targetField` equals the stored `field` of this
entity. A relation of kind `manyMany` goes through a junction table, which holds both columns. -/
structure Relation (ι : Type) where
  name : String
  kind : RelationKind
  target : ι
  field : String
  targetField : String
  junction : Option String := none

/-- The description of an entity. -/
structure EntityType (ι : Type) where
  table : String
  fields : List Field
  relations : List (Relation ι)

/-- The description of each entity. -/
abbrev Schema (ι : Type) := ι → EntityType ι

namespace EntityType

variable {ι : Type}

/-- The first field of a kind. -/
def fieldOfKind? (entity : EntityType ι) (kind : FieldKind) : Option Field :=
  entity.fields.find? (·.kind == kind)

/-- The primary key. -/
def pk? (entity : EntityType ι) : Option Field :=
  entity.fieldOfKind? .pk

/-- The first field with this key. -/
def fieldOfKey? (entity : EntityType ι) (key : String) : Option Field :=
  entity.fields.find? (·.key == key)

/-- The first relation of this name. -/
def relation? (entity : EntityType ι) (name : String) : Option (Relation ι) :=
  entity.relations.find? (·.name == name)

end EntityType

end RowMapper
