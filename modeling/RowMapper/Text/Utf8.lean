/-!
# `RowMapper.Text.Utf8`: text from bytes that may not be UTF-8

Bytes without a declared encoding are read as UTF-8, and what cannot be read is shown as the
replacement character. A sequence that breaks off stands for one replacement character, however
many of its bytes were right; the byte that breaks it is looked at anew.

The bytes are read one by one (`Decoding.step`). Which byte may follow the first one of a sequence
depends on it (`Sequence.begin?`), so that no surrogates, no overlong forms and nothing beyond the
last code point are read.
-/

set_option autoImplicit false

namespace RowMapper.Text

/-- The character for what cannot be read. -/
def replacement : Char := '\uFFFD'

/-- A sequence under way: the bits so far, the number of bytes to come, and the range of the next
one. -/
structure Sequence where
  bits : Nat
  missing : Nat
  low : Nat := 0x80
  high : Nat := 0xBF

/-- The sequence that a byte begins, if there is one. -/
def Sequence.begin? (byte : Nat) : Option Sequence :=
  if byte ≤ 0x7F then some { bits := byte, missing := 0 }
  else if byte < 0xC2 then none
  else if byte ≤ 0xDF then some { bits := byte - 0xC0, missing := 1 }
  else if byte = 0xE0 then some { bits := 0x0, missing := 2, low := 0xA0 }
  else if byte = 0xED then some { bits := 0xD, missing := 2, high := 0x9F }
  else if byte ≤ 0xEF then some { bits := byte - 0xE0, missing := 2 }
  else if byte = 0xF0 then some { bits := 0, missing := 3, low := 0x90 }
  else if byte ≤ 0xF3 then some { bits := byte - 0xF0, missing := 3 }
  else if byte = 0xF4 then some { bits := 4, missing := 3, high := 0x8F }
  else none

/-- The sequence with one more byte, if it may follow. -/
def Sequence.next? (sequence : Sequence) (byte : Nat) : Option Sequence :=
  if sequence.low ≤ byte ∧ byte ≤ sequence.high then
    some { bits := 64 * sequence.bits + byte % 64, missing := sequence.missing - 1 }
  else none

/-- What has been read: the characters so far, the last one first, and the sequence under way. -/
structure Decoding where
  read : List Char := []
  pending : Option Sequence := none

namespace Decoding

/-- Behind a byte of a sequence, which may be the last one. -/
def advance (read : List Char) (sequence : Sequence) : Decoding :=
  if sequence.missing = 0 then { read := Char.ofNat sequence.bits :: read }
  else { read, pending := some sequence }

/-- Behind a byte at which no sequence is under way. -/
def begin (read : List Char) (byte : Nat) : Decoding :=
  match Sequence.begin? byte with
  | some sequence => advance read sequence
  | none => { read := replacement :: read }

/-- Behind one more byte. -/
def step (decoding : Decoding) (byte : UInt8) : Decoding :=
  match decoding.pending with
  | none => begin decoding.read byte.toNat
  | some sequence =>
    match sequence.next? byte.toNat with
    | some sequence => advance decoding.read sequence
    -- The sequence breaks off, and this byte may begin another.
    | none => begin (replacement :: decoding.read) byte.toNat

/-- The characters when no more bytes come. -/
def chars (decoding : Decoding) : List Char :=
  match decoding.pending with
  | none => decoding.read.reverse
  | some _ => (replacement :: decoding.read).reverse

end Decoding

/-- The text that bytes spell, with the replacement character for what cannot be read. -/
def decodeLossy (bytes : List UInt8) : String :=
  String.ofList (bytes.foldl Decoding.step {}).chars

end RowMapper.Text
