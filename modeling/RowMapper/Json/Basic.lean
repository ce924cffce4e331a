import RowMapper.Number.Numeral

/-!
# `RowMapper.Json.Basic`: JSON documents

A document is null, a Boolean, a number, a string, an array or an object. Whole numbers in reach of
64 bits, signed or not, are kept as integers and all others as floating-point numbers. The members
of an object are in the order of their names, one to a name; `insertMember` keeps them so, and
`Ordered` says that all objects of a document are so.
-/

set_option autoImplicit false

namespace RowMapper

open RowMapper.Number

namespace Json

/-- A number of a document. -/
inductive Number where
  | integer (i : Int) (fits : -0x8000000000000000 ≤ i ∧ i < 0x10000000000000000)
  | real (x : Binary64)
deriving DecidableEq

end Json

/-- A JSON document. -/
inductive Json where
  | null
  | bool (b : Bool)
  | number (n : Json.Number)
  | string (s : String)
  | array (items : List Json)
  | object (members : List (String × Json))

namespace Json

/-- Equality of numbers: integers by value, floating-point numbers as such, and never one of each,
so that `1` and `1.0` differ. -/
def Number.same : Number → Number → Bool
  | .integer i _, .integer j _ => i == j
  | .real x, .real y => x.same y
  | _, _ => false

mutual

/-- Equality of documents as values: two NaN differ and two zeros are equal. -/
def same : Json → Json → Bool
  | .null, .null => true
  | .bool a, .bool b => a == b
  | .number a, .number b => a.same b
  | .string a, .string b => a == b
  | .array as, .array bs => sameItems as bs
  | .object as, .object bs => sameMembers as bs
  | _, _ => false

def sameItems : List Json → List Json → Bool
  | [], [] => true
  | a :: as, b :: bs => same a b && sameItems as bs
  | _, _ => false

def sameMembers : List (String × Json) → List (String × Json) → Bool
  | [], [] => true
  | (name, a) :: as, (other, b) :: bs => name == other && same a b && sameMembers as bs
  | _, _ => false

end

/-- Puts a member in its place, instead of a member of the same name. -/
def insertMember (name : String) (value : Json) : List (String × Json) → List (String × Json)
  | [] => [(name, value)]
  | (first, held) :: rest =>
    if name < first then (name, value) :: (first, held) :: rest
    else if name = first then (name, value) :: rest
    else (first, held) :: insertMember name value rest

mutual

/-- The names of every object in the document are strictly increasing. -/
def Ordered : Json → Prop
  | .array items => OrderedItems items
  | .object members => members.Pairwise (fun a b => a.1 < b.1) ∧ OrderedMembers members
  | _ => True

def OrderedItems : List Json → Prop
  | [] => True
  | item :: rest => Ordered item ∧ OrderedItems rest

def OrderedMembers : List (String × Json) → Prop
  | [] => True
  | (_, value) :: rest => Ordered value ∧ OrderedMembers rest

end

/-- The text of a string document. -/
def asString? : Json → Option String
  | .string s => some s
  | _ => none

end Json

end RowMapper
