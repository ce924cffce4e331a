import RowMapper.SortedMap
import RowMapper.Text.Join

/-!
# `RowMapper.Repository.Errors`: messages by field

What goes wrong while an entity is validated and stored is collected under the name of the field it
concerns, or under one of two names of its own. Messages are only ever added.
-/

set_option autoImplicit false

namespace RowMapper

/-- Messages by field, each field's in the order in which they were added. -/
structure Errors where
  messages : SortedMap (List String)

namespace Errors

/-- The name for what the engine reports. -/
def databaseKey : String := "Database"

/-- The name for a refusal without a message of its own. -/
def validationKey : String := "validation"

/-- No messages. -/
def empty : Errors := ⟨∅⟩

/-- The messages of a field, if it has any. -/
def get? (errors : Errors) (field : String) : Option (List String) :=
  errors.messages.get? field

/-- Adds a message behind those of its field. -/
def add (errors : Errors) (field message : String) : Errors :=
  ⟨errors.messages.insert field ((errors.get? field).getD [] ++ [message])⟩

/-- Adds messages one after the other. -/
def addAll (errors : Errors) (added : List (String × String)) : Errors :=
  added.foldl (fun errors (field, message) => errors.add field message) errors

/-- Whether a field has messages. -/
def contains (errors : Errors) (field : String) : Bool :=
  errors.messages.contains field

/-- Whether there are no messages. -/
def isEmpty (errors : Errors) : Bool :=
  errors.messages.entries.isEmpty

/-- The number of messages. -/
def size (errors : Errors) : Nat :=
  (errors.messages.entries.flatMap (·.2)).length

/-- All messages on one line, field by field. -/
def text (errors : Errors) : String :=
  Text.joined "; " (errors.messages.entries.map fun (field, messages) =>
    field ++ ": " ++ Text.joined ", " messages)

end Errors

end RowMapper
