import RowMapper.Json.Real
import RowMapper.Number.Layout
import RowMapper.Text.Hex

/-!
# `RowMapper.Json.Token`: the words of a JSON text

A JSON text is a row of tokens. `Token.chars` writes one, `Token.next?` reads the one at the front
of a text, and `tokens?` reads a whole text, whose tokens may have spaces, tabs and line ends
between them.

* `next?_length`: reading a token uses up text, so that `tokens?` ends.
-/

set_option autoImplicit false

namespace RowMapper.Json

open RowMapper.Number RowMapper.Text

/-- A word of a JSON text. -/
inductive Token where
  | openArray
  | closeArray
  | openObject
  | closeObject
  | colon
  | comma
  | null
  | bool (b : Bool)
  | number (n : Number)
  | string (s : String)

/-- Floating-point numbers in documents: ties go to the even digit, an exponent is written below
`1e-5` and from `1e16` on, with its sign, and an integral number ends in `.0`. -/
def realLayout : Layout where
  tie := .toEven
  positional leading := -5 ≤ leading && leading < 16
  pointZero := true

/-- The text of a number. -/
def Number.text : Number → String
  | .integer i _ => integerText i
  | .real x => realLayout.text x

/-- A character inside a string: the quote, the backslash and the controls are escaped, the five
common controls with a letter of their own and the others by their number. -/
def escapedChar (c : Char) : List Char :=
  if c = '"' then ['\\', '"']
  else if c = '\\' then ['\\', '\\']
  else if c.toNat = 0x08 then ['\\', 'b']
  else if c.toNat = 0x09 then ['\\', 't']
  else if c.toNat = 0x0A then ['\\', 'n']
  else if c.toNat = 0x0C then ['\\', 'f']
  else if c.toNat = 0x0D then ['\\', 'r']
  else if c.toNat < 0x20 then ['\\', 'u', '0', '0', hexDigit (c.toNat / 16), hexDigit c.toNat]
  else [c]

/-- A string in quotes. -/
def quotedChars (s : String) : List Char :=
  '"' :: (s.toList.flatMap escapedChar ++ ['"'])

/-- The text of a token. -/
def Token.chars : Token → List Char
  | .openArray => ['[']
  | .closeArray => [']']
  | .openObject => ['\x7b']
  | .closeObject => ['\x7d']
  | .colon => [':']
  | .comma => [',']
  | .null => ['n', 'u', 'l', 'l']
  | .bool true => ['t', 'r', 'u', 'e']
  | .bool false => ['f', 'a', 'l', 's', 'e']
  | .number n => n.text.toList
  | .string s => quotedChars s

/-- The 16-bit unit that four digits denote. -/
def hexUnit? (a b c d : Char) : Option Nat := do
  let a ← hexValue? a
  let b ← hexValue? b
  let c ← hexValue? c
  let d ← hexValue? d
  some (((a * 16 + b) * 16 + c) * 16 + d)

/-- The character that a letter behind a backslash stands for. -/
def shortEscape? : Char → Option Char
  | '"' => some '"'
  | '\\' => some '\\'
  | '/' => some '/'
  | 'b' => some (Char.ofNat 0x08)
  | 'f' => some (Char.ofNat 0x0C)
  | 'n' => some '\n'
  | 'r' => some '\r'
  | 't' => some '\t'
  | _ => none

/-- The inside of a string up to its closing quote, and what follows. Controls must be escaped; a
unit of the upper surrogates must be followed by one of the lower, and together they are one
character. -/
def scanString : List Char → Option (List Char × List Char)
  | [] => none
  | '"' :: rest => some ([], rest)
  | '\\' :: 'u' :: a :: b :: c :: d :: rest =>
    match hexUnit? a b c d with
    | none => none
    | some unit =>
      -- A unit outside the surrogates is a character by itself.
      if unit < 0xD800 ∨ 0xE000 ≤ unit then
        (scanString rest).map fun (inside, rest) => (Char.ofNat unit :: inside, rest)
      -- A lower surrogate may not come first.
      else if 0xDC00 ≤ unit then none
      else match rest with
        | '\\' :: 'u' :: e :: f :: g :: h :: rest =>
          match hexUnit? e f g h with
          | none => none
          | some low =>
            if 0xDC00 ≤ low ∧ low < 0xE000 then
              let code := 0x10000 + (unit - 0xD800) * 0x400 + (low - 0xDC00)
              (scanString rest).map fun (inside, rest) => (Char.ofNat code :: inside, rest)
            else none
        | _ => none
  | '\\' :: c :: rest =>
    match shortEscape? c with
    | none => none
    | some c => (scanString rest).map fun (inside, rest) => (c :: inside, rest)
  | c :: rest =>
    if c.toNat < 0x20 ∨ c = '\\' then none
    else (scanString rest).map fun (inside, rest) => (c :: inside, rest)

/-- The number of a complete numeral, none if it is out of reach. A whole number that fits is an
integer; minus zero does not, as integers have one zero only. -/
def Number.ofNumeral? (negative : Bool) (numeral : Numeral) : Option Number :=
  let real := (realOf? negative numeral).map Number.real
  if numeral.isWhole then
    let n : Int := Nat.ofDigitChars 10 numeral.whole 0
    let i := if negative then -n else n
    if h : -0x8000000000000000 ≤ i ∧ i < 0x10000000000000000 then
      if negative && i == 0 then real else some (.integer i h)
    else real
  else real

/-- Whether a numeral is one of a JSON text: a digit must stand before the point, behind it and in
the exponent, and a number has no leading zeros. -/
def isStrict (numeral : Numeral) : Bool :=
  numeral.isComplete && numeral.fraction.all (fun digits => !digits.isEmpty) &&
    (match numeral.whole with
      | [] => false
      | first :: rest => first != '0' || rest.isEmpty)

/-- The number at the front of a text, its sign already read. -/
def scanNumber (negative : Bool) (text : List Char) : Option (Token × List Char) :=
  let (numeral, rest) := Numeral.scan text
  if isStrict numeral then
    (Number.ofNumeral? negative numeral).map fun n => (.number n, rest)
  else none

/-- The token at the front of a text, and what follows. -/
def Token.next? : List Char → Option (Token × List Char)
  | '[' :: rest => some (.openArray, rest)
  | ']' :: rest => some (.closeArray, rest)
  | '\x7b' :: rest => some (.openObject, rest)
  | '\x7d' :: rest => some (.closeObject, rest)
  | ':' :: rest => some (.colon, rest)
  | ',' :: rest => some (.comma, rest)
  | '"' :: rest =>
    (scanString rest).map fun (inside, rest) => (.string (String.ofList inside), rest)
  | 'n' :: 'u' :: 'l' :: 'l' :: rest => some (.null, rest)
  | 't' :: 'r' :: 'u' :: 'e' :: rest => some (.bool true, rest)
  | 'f' :: 'a' :: 'l' :: 's' :: 'e' :: rest => some (.bool false, rest)
  | '-' :: rest => scanNumber true rest
  | text => scanNumber false text

/-- The characters allowed between tokens. -/
def isSpace (c : Char) : Bool :=
  c == ' ' || c == '\t' || c == '\n' || c == '\r'

theorem scanString_length {text inside rest : List Char}
    (h : scanString text = some (inside, rest)) : rest.length < text.length := by
  fun_induction scanString text generalizing inside rest <;> simp_all [Option.map_eq_some_iff] <;>
    grind

theorem scanNumber_length {negative : Bool} {text rest : List Char} {token : Token}
    (h : scanNumber negative text = some (token, rest)) : rest.length < text.length := by
  have shorter := Numeral.scan_length text
  simp only [scanNumber] at h
  split at h
  case isTrue strict =>
    obtain ⟨_, _, same⟩ := Option.map_eq_some_iff.1 h
    cases whole : (Numeral.scan text).1.whole with
    | nil => simp [isStrict, whole] at strict
    | cons first digits =>
      simp only [Prod.mk.injEq] at same
      rw [← same.2]
      simp only [whole, List.length_cons] at shorter
      omega
  case isFalse => contradiction

theorem Token.next?_length {text rest : List Char} {token : Token}
    (h : Token.next? text = some (token, rest)) : rest.length < text.length := by
  rw [Token.next?.eq_def] at h
  split at h
  case h_7 =>
    obtain ⟨⟨inside, after⟩, found, same⟩ := Option.map_eq_some_iff.1 h
    have := scanString_length found
    simp_all only [Prod.mk.injEq, List.length_cons]
    omega
  case h_11 =>
    have := scanNumber_length h
    simp only [List.length_cons]
    omega
  case h_12 => exact scanNumber_length h
  all_goals
    simp only [Option.some.injEq, Prod.mk.injEq] at h
    simp only [← h.2, List.length_cons]
    omega

/-- The tokens of a text; `none` when something in it is no token. -/
def tokens? (text : List Char) : Option (List Token) :=
  match spaces : text.dropWhile isSpace with
  | [] => some []
  | first :: others =>
    match found : Token.next? (first :: others) with
    | none => none
    | some (token, rest) =>
      have : rest.length < text.length := by
        have := Token.next?_length found
        have := (List.dropWhile_sublist (l := text) isSpace).length_le
        rw [spaces] at this
        omega
      (tokens? rest).map (token :: ·)
termination_by text.length

end RowMapper.Json
