import RowMapper.Json.Token

/-!
# `RowMapper.Json.Reader`: documents from text

`ofTokens?` reads a row of tokens one by one. What has been read is held as the stack of the arrays
and objects that are still open, together with what may come next (`Reading`); a token leads from
one such state to the next or fails. At most `maxDepth` arrays and objects may be open at a time.
`read?` reads a text.
-/

set_option autoImplicit false

namespace RowMapper.Json

/-- The number of arrays and objects that may be open at a time. -/
def maxDepth : Nat := 127

/-- An array that is still open, with its items so far, the last one first; or an object with its
members so far and the name whose value comes next. -/
inductive Frame where
  | array (items : List Json)
  | object (members : List (String × Json)) (name : String)

/-- What has been read, innermost frame first, and what may come next: a value; a value or the end
of an array just opened; a name or the end of an object just opened; the name of a further member;
the colon behind a name; a comma or the end behind a value; nothing. -/
inductive Reading where
  | value (stack : List Frame)
  | firstItem (stack : List Frame)
  | firstName (stack : List Frame)
  | memberName (members : List (String × Json)) (stack : List Frame)
  | colon (members : List (String × Json)) (name : String) (stack : List Frame)
  | afterItem (items : List Json) (stack : List Frame)
  | afterMember (members : List (String × Json)) (stack : List Frame)
  | done (json : Json)

namespace Reading

/-- The state behind a value that has been read whole. -/
def close (json : Json) : List Frame → Reading
  | [] => .done json
  | .array items :: stack => .afterItem (json :: items) stack
  | .object members name :: stack => .afterMember (insertMember name json members) stack

/-- The state behind the first token of a value. -/
def openValue (stack : List Frame) : Token → Option Reading
  | .null => some (close .null stack)
  | .bool b => some (close (.bool b) stack)
  | .number n => some (close (.number n) stack)
  | .string s => some (close (.string s) stack)
  | .openArray => if stack.length < maxDepth then some (.firstItem stack) else none
  | .openObject => if stack.length < maxDepth then some (.firstName stack) else none
  | _ => none

/-- The state behind one more token. -/
def step : Reading → Token → Option Reading
  | .value stack, token => openValue stack token
  | .firstItem stack, .closeArray => some (close (.array []) stack)
  | .firstItem stack, token => openValue (.array [] :: stack) token
  | .firstName stack, .closeObject => some (close (.object []) stack)
  | .firstName stack, .string name => some (.colon [] name stack)
  | .memberName members stack, .string name => some (.colon members name stack)
  | .colon members name stack, .colon => some (.value (.object members name :: stack))
  | .afterItem items stack, .comma => some (.value (.array items :: stack))
  | .afterItem items stack, .closeArray => some (close (.array items.reverse) stack)
  | .afterMember members stack, .comma => some (.memberName members stack)
  | .afterMember members stack, .closeObject => some (close (.object members) stack)
  | _, _ => none

/-- The state behind some more tokens. -/
def run (state : Reading) (tokens : List Token) : Option Reading :=
  tokens.foldlM step state

/-- The document, if nothing is missing. -/
def result? : Reading → Option Json
  | .done json => some json
  | _ => none

end Reading

/-- The document that a row of tokens spells. -/
def ofTokens? (tokens : List Token) : Option Json :=
  (Reading.run (.value []) tokens).bind Reading.result?

/-- The document that a text spells. -/
def read? (text : String) : Option Json :=
  (tokens? text.toList).bind ofTokens?

end RowMapper.Json
