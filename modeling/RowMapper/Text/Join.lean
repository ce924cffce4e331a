/-!
# `RowMapper.Text.Join`: parts of a text and the separators between them

`joined` writes parts with a separator between each two, `splitAt` cuts a text at every occurrence
of a character.
-/

set_option autoImplicit false

namespace RowMapper.Text

/-- The parts in order, the separator between each two. -/
def joined (separator : String) : List String → String
  | [] => ""
  | [part] => part
  | part :: next :: rest => part ++ separator ++ joined separator (next :: rest)

/-- The pieces of a text between the occurrences of a character, one more than these. -/
def splitAt (c : Char) (text : String) : List String :=
  (text.toList.splitOn c).map String.ofList

end RowMapper.Text
