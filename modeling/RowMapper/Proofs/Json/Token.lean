import Mathlib.Tactic.SplitIfs
import RowMapper.Json.Token
import RowMapper.Proofs.Number.Integer

/-!
# `RowMapper.Proofs.Json.Token`: tokens are read back from their texts

The text of a token with some other text behind it is read as this token, and the other text is left
(`Token.next?_chars`). Two kinds of tokens need an argument. A string is read character by
character, each behind its escape (`scanString_escapedChar`). An integer is a run of digits without
leading zeros, and it ends where the text behind it does not continue a number (`Continues`).
-/

set_option autoImplicit false

namespace RowMapper.Json

open RowMapper.Number RowMapper.Text

/-! ### Strings -/

theorem hexValue?_hexDigit (n : Nat) : hexValue? (hexDigit n) = some (n % 16) := by
  have hall : ∀ d : Fin 16, hexValue? (Nat.digitChar d) = some d := by decide
  exact hall ⟨n % 16, Nat.mod_lt _ (by decide)⟩

/-- The four digits of a control denote it. -/
theorem hexUnit?_control {n : Nat} (h : n < 0x20) :
    hexUnit? '0' '0' (hexDigit (n / 16)) (hexDigit n) = some n := by
  have hzero : hexValue? '0' = some 0 := by decide
  have hvalue : ((0 * 16 + 0) * 16 + n / 16 % 16) * 16 + n % 16 = n := by omega
  simp only [hexUnit?, hzero, hexValue?_hexDigit, Option.bind_eq_bind, Option.bind_some, hvalue]

/-- A letter behind a backslash is read as the character it stands for. -/
theorem scanString_letter {letter c : Char} (hletter : shortEscape? letter = some c)
    (rest : List Char) :
    scanString ('\\' :: letter :: rest)
      = (scanString rest).map fun (inside, rest) => (c :: inside, rest) := by
  have hne : letter ≠ 'u' := by
    rintro rfl
    contradiction
  rw [scanString, hletter]
  intro _ _ _ _ _ hu
  exact absurd hu hne

/-- A control is read from its number. -/
theorem scanString_control {c : Char} (hc : c.toNat < 0x20) (rest : List Char) :
    scanString ('\\' :: 'u' :: '0' :: '0' :: hexDigit (c.toNat / 16) :: hexDigit c.toNat :: rest)
      = (scanString rest).map fun (inside, rest) => (c :: inside, rest) := by
  have hplain : c.toNat < 0xD800 ∨ 0xE000 ≤ c.toNat := by omega
  rw [scanString, hexUnit?_control hc]
  dsimp only
  rw [if_pos hplain, Char.ofNat_toNat]

/-- Any other character stands for itself. -/
theorem scanString_plain {c : Char} (hquote : c ≠ '"') (hslash : c ≠ '\\') (hc : ¬ c.toNat < 0x20)
    (rest : List Char) :
    scanString (c :: rest)
      = (scanString rest).map fun (inside, rest) => (c :: inside, rest) := by
  rw [scanString, if_neg (not_or.2 ⟨hc, hslash⟩)]
  · exact hquote
  · intro _ _ _ _ _ hsame
    exact absurd hsame hslash
  · intro _ _ hsame
    exact absurd hsame hslash

/-- A character is read from its escape. -/
theorem scanString_escapedChar (c : Char) (rest : List Char) :
    scanString (escapedChar c ++ rest)
      = (scanString rest).map fun (inside, rest) => (c :: inside, rest) := by
  -- A control with a letter of its own is known by its number.
  have hsame {n : Nat} (h : c.toNat = n) : c = Char.ofNat n := h ▸ (Char.ofNat_toNat c).symm
  unfold escapedChar
  split_ifs with hquote hslash hb ht hn hf hr hcontrol
  · subst hquote
    exact scanString_letter rfl rest
  · subst hslash
    exact scanString_letter rfl rest
  · obtain rfl := hsame hb
    exact scanString_letter rfl rest
  · obtain rfl := hsame ht
    exact scanString_letter rfl rest
  · obtain rfl := hsame hn
    exact scanString_letter rfl rest
  · obtain rfl := hsame hf
    exact scanString_letter rfl rest
  · obtain rfl := hsame hr
    exact scanString_letter rfl rest
  · exact scanString_control hcontrol rest
  · exact scanString_plain hquote hslash hcontrol rest

/-- The inside of a string is read from its escapes, up to the quote. -/
theorem scanString_escaped (inside rest : List Char) :
    scanString (inside.flatMap escapedChar ++ '"' :: rest) = some (inside, rest) := by
  induction inside with
  | nil => rw [List.flatMap_nil, List.nil_append, scanString]
  | cons c others ih =>
      rw [List.flatMap_cons, List.append_assoc, scanString_escapedChar, ih, Option.map_some]

/-! ### Integers -/

/-- The character may stand in a number behind its first digit. -/
def Continues (c : Char) : Prop :=
  c.isDigit = true ∨ c = '.' ∨ c = 'e' ∨ c = 'E'

instance (c : Char) : Decidable (Continues c) :=
  inferInstanceAs (Decidable (c.isDigit = true ∨ c = '.' ∨ c = 'e' ∨ c = 'E'))

/-- A number that stands before the text ends there. -/
def EndsNumber (text : List Char) : Prop :=
  ∀ c ∈ text.head?, ¬ Continues c

theorem endsNumber_nil : EndsNumber [] := by
  simp [EndsNumber]

theorem endsNumber_cons {c : Char} (h : ¬ Continues c) (rest : List Char) :
    EndsNumber (c :: rest) := by
  simpa [EndsNumber] using h

/-- A run of digits is scanned as a numeral without fraction and exponent. -/
theorem scan_digits {digits rest : List Char} (hdigits : ∀ c ∈ digits, c.isDigit = true)
    (hrest : EndsNumber rest) :
    Numeral.scan (digits ++ rest) = (⟨digits, none, none⟩, rest) := by
  have hspan : Numeral.spanDigits (digits ++ rest) = (digits, rest) := by
    rw [Numeral.spanDigits, List.takeWhile_append_of_pos hdigits,
      List.dropWhile_append_of_pos hdigits]
    cases rest with
    | nil => simp
    | cons c others =>
        have hc : c.isDigit = false := by
          have hnot := hrest c rfl
          simp only [Continues, not_or, Bool.not_eq_true] at hnot
          exact hnot.1
        simp [hc]
  cases rest with
  | nil => simp only [Numeral.scan, hspan, Numeral.scanFraction, Numeral.scanExponent]
  | cons c others =>
      obtain ⟨-, hpoint, he, hE⟩ : c.isDigit ≠ true ∧ c ≠ '.' ∧ c ≠ 'e' ∧ c ≠ 'E' := by
        simpa only [Continues, not_or] using hrest c rfl
      have hfraction : Numeral.scanFraction (c :: others) = (none, c :: others) := by
        rw [Numeral.scanFraction]
        intro _ hsame
        exact hpoint (List.cons.inj hsame).1
      simp only [Numeral.scan, hspan, hfraction, Numeral.scanExponent, he, hE, or_self, if_false]

/-- The decimal text of a number has no leading zeros. -/
theorem ne_zero_of_toDigits_eq_cons {n : Nat} (hpos : 0 < n) {c : Char} {rest : List Char}
    (hcons : Nat.toDigits 10 n = c :: rest) : c ≠ '0' := by
  induction n using Nat.strongRecOn generalizing rest with
  | ind n ih =>
      rcases Nat.lt_or_ge n 10 with hsmall | hlarge
      · rw [Nat.toDigits_of_lt_base hsmall] at hcons
        have hall : ∀ d : Fin 10, 0 < d.1 → Nat.digitChar d ≠ '0' := by decide
        exact (List.cons.inj hcons).1 ▸ hall ⟨n, hsmall⟩ hpos
      · -- The first digit is that of a tenth of the number.
        obtain ⟨first, others, htenth⟩ :=
          List.exists_cons_of_ne_nil (Nat.toDigits_ne_nil (n := n / 10) (b := 10))
        rw [Nat.toDigits_of_base_le (by decide) hlarge, htenth] at hcons
        obtain rfl : first = c := (List.cons.inj hcons).1
        exact ih (n / 10) (by omega) (by omega) htenth

/-- The text of a natural number is a numeral of the grammar. -/
theorem isStrict_toDigits (n : Nat) : isStrict ⟨Nat.toDigits 10 n, none, none⟩ = true := by
  rcases Nat.eq_zero_or_pos n with rfl | hpos
  · decide
  · obtain ⟨c, rest, hcons⟩ := List.exists_cons_of_ne_nil (Nat.toDigits_ne_nil (n := n) (b := 10))
    have hc : c ≠ '0' := ne_zero_of_toDigits_eq_cons hpos hcons
    simp [isStrict, Numeral.isComplete, hcons, hc]

/-- The digits of an integer behind its sign are read as the integer. -/
theorem scanNumber_toDigits {i : Int} (fits : -0x8000000000000000 ≤ i ∧ i < 0x10000000000000000)
    {rest : List Char} (hrest : EndsNumber rest) :
    scanNumber (decide (i < 0)) (Nat.toDigits 10 i.natAbs ++ rest)
      = some (.number (.integer i fits), rest) := by
  have hdigits : ∀ c ∈ Nat.toDigits 10 i.natAbs, c.isDigit = true := fun c hc =>
    Nat.isDigit_of_mem_toDigits (by decide) (by decide) hc
  have hscan := scan_digits hdigits hrest
  have hvalue : (if decide (i < 0) = true then -(i.natAbs : Int) else i.natAbs) = i := by
    split_ifs with hnegative <;> simp at hnegative <;> omega
  have hnonzero : (decide (i < 0) && i == 0) = false := by
    cases hzero : i == 0 with
    | false => exact Bool.and_false _
    | true =>
        obtain rfl := eq_of_beq hzero
        rfl
  unfold scanNumber
  simp only [hscan, isStrict_toDigits, if_true, Number.ofNumeral?, Numeral.isWhole,
    Nat.ofDigitChars_ten_toDigits, hvalue, dif_pos fits, hnonzero]
  rfl

/-! ### Tokens -/

/-- The number is kept as an integer. -/
def Number.IsInteger : Number → Prop
  | .integer _ _ => True
  | .real _ => False

/-- The token is read as it is written when this text stands behind it. A number must be an integer
for that, and the text must not continue it. -/
def Token.StandsBefore : Token → List Char → Prop
  | .number n, rest => n.IsInteger ∧ EndsNumber rest
  | _, _ => True

namespace Token

theorem next?_of_isDigit {c : Char} (hc : c.isDigit = true) (rest : List Char) :
    next? (c :: rest) = scanNumber false (c :: rest) := by
  have hne {other : Char} (hother : other.isDigit = false) : c ≠ other := by
    rintro rfl
    rw [hc] at hother
    contradiction
  rw [next?]
  -- No other token begins with a digit, and the sign of a number is none.
  all_goals
    intro _ hsame
    exact absurd (List.cons.inj hsame).1 (hne (by decide))

/-- An integer is read from its text. -/
theorem next?_integer {i : Int} (fits : -0x8000000000000000 ≤ i ∧ i < 0x10000000000000000)
    {rest : List Char} (hrest : EndsNumber rest) :
    next? ((integerText i).toList ++ rest) = some (.number (.integer i fits), rest) := by
  have hscan := scanNumber_toDigits fits hrest
  unfold integerText
  split_ifs with hnegative
  · rw [decide_eq_true hnegative] at hscan
    rw [String.toList_append, naturalText, String.toList_ofList, List.append_assoc,
      String.toList_ofList]
    exact hscan
  · obtain ⟨c, others, hcons⟩ :=
      List.exists_cons_of_ne_nil (Nat.toDigits_ne_nil (n := i.natAbs) (b := 10))
    have hc : c.isDigit = true :=
      Nat.isDigit_of_mem_toDigits (by decide) (by decide) (hcons ▸ List.mem_cons_self)
    rw [decide_eq_false hnegative] at hscan
    rw [naturalText, String.toList_ofList, hcons, List.cons_append, next?_of_isDigit hc,
      ← List.cons_append, ← hcons]
    exact hscan

/-- A token is read from its text. -/
theorem next?_chars {token : Token} {rest : List Char} (h : token.StandsBefore rest) :
    next? (token.chars ++ rest) = some (token, rest) := by
  cases token with
  | number n =>
      cases n with
      | integer i fits => exact next?_integer fits h.2
      | real x => exact absurd h.1 id
  | string s =>
      have hinside := scanString_escaped s.toList rest
      rw [chars, quotedChars, List.cons_append, List.append_assoc, List.singleton_append, next?,
        hinside, Option.map_some]
      exact congrArg (fun s => some (string s, rest)) String.ofList_toList
  | bool b => cases b <;> rfl
  | _ => rfl

/-- No token begins with a space. -/
theorem isSpace_of_next? {c : Char} {text rest : List Char} {token : Token}
    (h : next? (c :: text) = some (token, rest)) : isSpace c = false := by
  refine Bool.eq_false_iff.2 fun hspace => ?_
  have hnone : next? (c :: text) = none := by
    simp only [isSpace, Bool.or_eq_true, beq_iff_eq] at hspace
    rcases hspace with ((rfl | rfl) | rfl) | rfl <;> rfl
  rw [hnone] at h
  contradiction

end Token

/-- The token at the front of a text is read, and then what follows. -/
theorem tokens?_of_next? {text rest : List Char} {token : Token}
    (h : Token.next? text = some (token, rest)) :
    tokens? text = (tokens? rest).map (token :: ·) := by
  have hspaces : text.dropWhile isSpace = text := by
    cases text with
    | nil => rfl
    | cons c others => rw [List.dropWhile_cons, Token.isSpace_of_next? h, if_neg Bool.false_ne_true]
  rw [tokens?]
  split
  · rename_i hnil
    rw [← hspaces, hnil] at h
    contradiction
  · rename_i first others hcons
    rw [← hspaces, hcons] at h
    -- What is found in the text is the token by hypothesis.
    split
    · rename_i hnone
      rw [h] at hnone
      contradiction
    · rename_i found after hfound
      rw [h] at hfound
      obtain ⟨rfl, rfl⟩ := Prod.mk.inj (Option.some.inj hfound)
      rfl

/-- A token is read from its text, and then what stands behind it. -/
theorem tokens?_chars {token : Token} {rest : List Char} (h : token.StandsBefore rest) :
    tokens? (token.chars ++ rest) = (tokens? rest).map (token :: ·) :=
  tokens?_of_next? (Token.next?_chars h)

end RowMapper.Json
