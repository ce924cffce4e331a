import RowMapper.Json.Token

/-!
# `RowMapper.Json.Printer`: the text of a document

A document is written without spaces, the members of an object in the order in which they are
held. `tokens` is the row of words, `text` the characters.
-/

set_option autoImplicit false

namespace RowMapper.Json

mutual

/-- The tokens of a document. -/
def tokens : Json → List Token
  | .null => [.null]
  | .bool b => [.bool b]
  | .number n => [.number n]
  | .string s => [.string s]
  | .array items => .openArray :: (itemTokens items ++ [.closeArray])
  | .object members => .openObject :: (memberTokens members ++ [.closeObject])

/-- The tokens of the items of an array, commas between them. -/
def itemTokens : List Json → List Token
  | [] => []
  | [item] => tokens item
  | item :: next :: rest => tokens item ++ .comma :: itemTokens (next :: rest)

/-- The tokens of the members of an object, commas between them. -/
def memberTokens : List (String × Json) → List Token
  | [] => []
  | [(name, value)] => .string name :: .colon :: tokens value
  | (name, value) :: next :: rest =>
    .string name :: .colon :: (tokens value ++ .comma :: memberTokens (next :: rest))

end

/-- The text of a document. -/
def text (json : Json) : String :=
  String.ofList (json.tokens.flatMap Token.chars)

end RowMapper.Json
