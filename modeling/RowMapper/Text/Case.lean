import RowMapper.Text.CaseTable
import RowMapper.Text.CasedTable

/-!
# `RowMapper.Text.Case`: upper and lower case of whole texts

`lower` and `upper` follow Unicode's full mappings. Both work on texts and not on characters,
because a letter may become several (`ß` becomes `SS`, `İ` becomes `i` with a dot above) and a
capital sigma at the end of a word becomes `ς`, elsewhere `σ`.
-/

set_option autoImplicit false

namespace RowMapper.Text

/-- Whether the range lists this code point. -/
def CaseRange.covers (range : CaseRange) (code : Nat) : Bool :=
  range.first ≤ code && code ≤ range.last && (code - range.first) % range.step == 0

/-- The character that the first matching range leads to; the character itself without one. -/
def shiftCase (ranges : List CaseRange) (c : Char) : Char :=
  match ranges.find? (·.covers c.toNat) with
  | some range => Char.ofNat (c.toNat + range.shift).toNat
  | none => c

/-- Whether a code point lies in one of the closed ranges. -/
def inRanges (ranges : List (Nat × Nat)) (c : Char) : Bool :=
  ranges.any (fun (first, last) => first ≤ c.toNat && c.toNat ≤ last)

/-- The lower-case form of one character, without regard to its neighbours. Only the capital I
with a dot has a form of two characters. -/
def lowerChar (c : Char) : List Char :=
  if c.toNat = 0x130 then ['i', Char.ofNat 0x307] else [shiftCase lowerRanges c]

/-- The upper-case form of one character. -/
def upperChar (c : Char) : List Char :=
  match upperExpansions.find? (·.1 == c.toNat) with
  | some (_, codes) => codes.map Char.ofNat
  | none => [shiftCase upperRanges c]

/-- Whether the first character that is not passed over has case. -/
def meetsCased (text : List Char) : Bool :=
  match text.dropWhile (inRanges caseIgnorableRanges) with
  | [] => false
  | c :: _ => inRanges casedRanges c

/-- The lower-case form of a text. `before` is the text already read, nearest character first: a
sigma is final when a cased letter precedes it and none follows. -/
def lowerChars (before : List Char) : List Char → List Char
  | [] => []
  | c :: after =>
    let small :=
      -- The form of a sigma is the only one that depends on its neighbours.
      if c = 'Σ' then [if meetsCased before && !meetsCased after then 'ς' else 'σ']
      else lowerChar c
    small ++ lowerChars (c :: before) after

/-- The text in lower case. -/
def lower (text : String) : String :=
  String.ofList (lowerChars [] text.toList)

/-- The text in upper case. -/
def upper (text : String) : String :=
  String.ofList (text.toList.flatMap upperChar)

end RowMapper.Text
