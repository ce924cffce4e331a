import RowMapper.Text.Blank

/-!
# `RowMapper.Sql.FunctionCall`: texts that look like a function call

A text such as `COUNT(*)` or `NOW()` is written into a statement as it is, where any other text is
quoted. `isFunctionCall` recognises the shape: a name of ASCII letters, digits and underscores, not
beginning with a digit, then in parentheses anything without a line feed, with blanks allowed
before, between and behind.
-/

set_option autoImplicit false

namespace RowMapper.Sql

open RowMapper.Text

/-- Whether a character may begin a name. -/
def isNameStart (c : Char) : Bool :=
  c.isAlpha || c == '_'

/-- Whether a character may continue a name. -/
def isNameChar (c : Char) : Bool :=
  c.isAlphanum || c == '_'

/-- Whether the text behind an opening parenthesis runs on one line to a closing one, with only
blanks behind. -/
def closesCall (text : List Char) : Bool :=
  match text.reverse.dropWhile isBlank with
  | ')' :: inside => !inside.contains '\n'
  | _ => false

/-- Whether a text without leading blanks has the shape of a call. -/
def isCallChars : List Char → Bool
  | [] => false
  | c :: rest =>
    isNameStart c &&
      match skipBlanks (rest.dropWhile isNameChar) with
      | '(' :: inside => closesCall inside
      | _ => false

/-- Whether a text has the shape of a function call. -/
def isFunctionCall (text : String) : Bool :=
  isCallChars (skipBlanks text.toList)

end RowMapper.Sql
