/-!
# `RowMapper.Text.Blank`: blank characters

The blanks are the 25 characters of the Unicode property White_Space. Everything here that skips,
trims or splits at blanks means this one set: `skipBlanks` and `trim` for text around a value,
`firstWord?` for the verb of a statement.
-/

set_option autoImplicit false

namespace RowMapper.Text

/-- The Unicode property White_Space: the ASCII controls from tab to carriage return, the space,
next line, the no-break spaces, the typographic spaces and the line and paragraph separators. -/
def isBlank (c : Char) : Bool :=
  let n := c.toNat
  (9 ≤ n && n ≤ 13) || n == 0x20 || n == 0x85 || n == 0xA0 || n == 0x1680 ||
    (0x2000 ≤ n && n ≤ 0x200A) || n == 0x2028 || n == 0x2029 || n == 0x202F || n == 0x205F ||
    n == 0x3000

/-- The text from its first character that is not blank. -/
def skipBlanks (text : List Char) : List Char :=
  text.dropWhile isBlank

/-- The text up to its last character that is not blank. -/
def dropTrailingBlanks (text : List Char) : List Char :=
  (text.reverse.dropWhile isBlank).reverse

/-- The text without the blanks at either end. -/
def trimChars (text : List Char) : List Char :=
  dropTrailingBlanks (skipBlanks text)

/-- The text without the blanks at either end. -/
def trim (text : String) : String :=
  String.ofList (trimChars text.toList)

/-- The first run of characters that are not blank; `none` when all are blank. -/
def firstWord? (text : String) : Option String :=
  match skipBlanks text.toList with
  | [] => none
  | rest => some (String.ofList (rest.takeWhile (fun c => !isBlank c)))

/-- An ASCII letter becomes its small form; nothing else changes. -/
def asciiLower (text : String) : String :=
  String.ofList (text.toList.map Char.toLower)

end RowMapper.Text
