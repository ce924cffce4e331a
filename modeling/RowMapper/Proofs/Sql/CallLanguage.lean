import Mathlib.Computability.Language
import RowMapper.Proofs.Sql.FunctionCall

/-!
# `RowMapper.Proofs.Sql.CallLanguage`: function calls as a language

The texts that look like a function call, put together by concatenation and repetition from classes
of characters (`calls`). Nothing here says how such a text is recognised: where the name ends, which
parenthesis is the last, and how far the blanks go is left to whoever reads the text.

* `mem_openings`, `mem_closings`: the parts of the language and those that the recogniser goes by.
* `isFunctionCall_iff_mem_calls`: the recogniser accepts exactly this language.
-/

set_option autoImplicit false

namespace RowMapper.Sql.FunctionCall

open RowMapper.Text
open scoped Computability

/-! ### Classes of characters -/

/-- The code points with the Unicode property White_Space. -/
def whiteSpace : List Nat :=
  [0x0009, 0x000A, 0x000B, 0x000C, 0x000D, 0x0020, 0x0085, 0x00A0, 0x1680, 0x2000, 0x2001, 0x2002,
    0x2003, 0x2004, 0x2005, 0x2006, 0x2007, 0x2008, 0x2009, 0x200A, 0x2028, 0x2029, 0x202F, 0x205F,
    0x3000]

/-- A letter of ASCII. -/
def IsLetter (c : Char) : Prop :=
  ('A' ≤ c ∧ c ≤ 'Z') ∨ ('a' ≤ c ∧ c ≤ 'z')

/-- A digit of ASCII. -/
def IsDigit (c : Char) : Prop :=
  '0' ≤ c ∧ c ≤ '9'

theorem isBlank_iff_mem_whiteSpace (c : Char) : isBlank c = true ↔ c.toNat ∈ whiteSpace := by
  unfold isBlank whiteSpace
  simp only [Bool.or_eq_true, Bool.and_eq_true, decide_eq_true_eq, beq_iff_eq, List.mem_cons,
    List.not_mem_nil, or_false]
  omega

theorem isAlpha_iff (c : Char) : c.isAlpha = true ↔ IsLetter c := by
  unfold Char.isAlpha Char.isUpper Char.isLower IsLetter
  simp only [Bool.or_eq_true, Bool.and_eq_true, decide_eq_true_eq, ge_iff_le]
  rfl

theorem isDigit_iff (c : Char) : c.isDigit = true ↔ IsDigit c := by
  unfold Char.isDigit IsDigit
  simp only [Bool.and_eq_true, decide_eq_true_eq, ge_iff_le]
  rfl

theorem isNameStart_iff (c : Char) : isNameStart c = true ↔ IsLetter c ∨ c = '_' := by
  rw [isNameStart, Bool.or_eq_true, isAlpha_iff, beq_iff_eq]

theorem isNameChar_iff (c : Char) :
    isNameChar c = true ↔ IsLetter c ∨ IsDigit c ∨ c = '_' := by
  rw [isNameChar, Char.isAlphanum, Bool.or_eq_true, Bool.or_eq_true, isAlpha_iff, isDigit_iff,
    beq_iff_eq, or_assoc]

/-! ### The language -/

/-- The texts of one character of a class. -/
def one (p : Char → Prop) : Language Char :=
  {text | ∃ c, p c ∧ text = [c]}

/-- White space, or nothing. -/
def blanks : Language Char :=
  (one fun c => c.toNat ∈ whiteSpace)∗

/-- Names. -/
def names : Language Char :=
  (one fun c => IsLetter c ∨ c = '_') * (one fun c => IsLetter c ∨ IsDigit c ∨ c = '_')∗

/-- What stands before the arguments of a call. -/
def openings : Language Char :=
  blanks * (names * (blanks * one (· = '(')))

/-- What stands behind the arguments of a call. -/
def closings : Language Char :=
  one (· = ')') * blanks

/-- Function calls, with anything on one line for arguments. -/
def calls : Language Char :=
  openings * ((one (· ≠ '\n'))∗ * closings)

theorem mem_one_iff {p : Char → Prop} {text : List Char} :
    text ∈ one p ↔ ∃ c, p c ∧ text = [c] := Iff.rfl

theorem mem_one_eq_iff {mark : Char} {text : List Char} :
    text ∈ one (· = mark) ↔ text = [mark] := by
  simp only [mem_one_iff, exists_eq_left]

/-- Repeating a class is having all characters in it. -/
theorem mem_kstar_one_iff {p : Char → Prop} {text : List Char} :
    text ∈ (one p)∗ ↔ ∀ c ∈ text, p c := by
  rw [Language.mem_kstar]
  constructor
  · rintro ⟨texts, rfl, htexts⟩ c hc
    obtain ⟨single, hsingle, hc⟩ := List.mem_flatten.1 hc
    obtain ⟨d, hd, rfl⟩ := htexts single hsingle
    rwa [List.mem_singleton.1 hc]
  · intro htext
    have hchars : (text.map fun c => [c]).flatten = text := by
      rw [← List.flatMap_def, List.flatMap_singleton']
    refine ⟨_, hchars.symm, fun single hsingle => ?_⟩
    obtain ⟨c, hc, rfl⟩ := List.mem_map.1 hsingle
    exact ⟨c, htext c hc, rfl⟩

theorem mem_blanks {text : List Char} : text ∈ blanks ↔ ∀ c ∈ text, isBlank c = true := by
  simp only [blanks, mem_kstar_one_iff, isBlank_iff_mem_whiteSpace]

theorem mem_names {text : List Char} : text ∈ names ↔ IsName text := by
  simp only [names, Language.mem_mul, mem_one_iff, mem_kstar_one_iff, ← isNameStart_iff,
    ← isNameChar_iff]
  constructor
  · rintro ⟨_, ⟨first, hfirst, rfl⟩, rest, hrest, rfl⟩
    exact ⟨first, rest, rfl, hfirst, hrest⟩
  · rintro ⟨first, rest, rfl, hfirst, hrest⟩
    exact ⟨[first], ⟨first, hfirst, rfl⟩, rest, hrest, rfl⟩

/-- The openings of the language are those that the recogniser looks for. -/
theorem mem_openings {text : List Char} : text ∈ openings ↔ OpensCall text := by
  simp only [openings, Language.mem_mul, mem_blanks, mem_names, mem_one_eq_iff]
  constructor
  · rintro ⟨before, hbefore, _, ⟨name, hname, _, ⟨between, hbetween, _, rfl, rfl⟩, rfl⟩, rfl⟩
    exact ⟨before, name, between, rfl, hbefore, hname, hbetween⟩
  · rintro ⟨before, name, between, rfl, hbefore, hname, hbetween⟩
    exact ⟨before, hbefore, _, ⟨name, hname, _, ⟨between, hbetween, _, rfl, rfl⟩, rfl⟩, rfl⟩

/-- The closings of the language are those that the recogniser looks for. -/
theorem mem_closings {text : List Char} : text ∈ closings ↔ ClosesCall text := by
  simp only [closings, Language.mem_mul, mem_blanks, mem_one_eq_iff]
  constructor
  · rintro ⟨_, rfl, behind, hbehind, rfl⟩
    exact ⟨behind, rfl, hbehind⟩
  · rintro ⟨behind, rfl, hbehind⟩
    exact ⟨_, rfl, behind, hbehind, rfl⟩

/-- A text has the shape of a function call if and only if it can be written as white space, a name,
white space, an opening parenthesis, characters other than line feed, a closing parenthesis, and
white space. A name is an ASCII letter or underscore with ASCII letters, digits and underscores
behind it, and the characters between the parentheses may be parentheses themselves. -/
theorem isFunctionCall_iff_mem_calls (text : String) :
    isFunctionCall text = true ↔ text.toList ∈ calls := by
  have hline (inside : List Char) : '\n' ∉ inside ↔ inside ∈ (one (· ≠ '\n'))∗ := by
    rw [mem_kstar_one_iff]
    exact ⟨fun hnone c hc hbreak => hnone (hbreak ▸ hc), fun hall hmem => hall _ hmem rfl⟩
  rw [isFunctionCall_iff, calls, Language.mem_mul]
  constructor
  · rintro ⟨opening, inside, closing, htext, hopening, hinside, hclosing⟩
    exact ⟨opening, mem_openings.2 hopening, _, Language.append_mem_mul ((hline inside).1 hinside)
      (mem_closings.2 hclosing), htext.symm⟩
  · rintro ⟨opening, hopening, rest, hrest, htext⟩
    obtain ⟨inside, hinside, closing, hclosing, rfl⟩ := Language.mem_mul.1 hrest
    exact ⟨opening, inside, closing, htext.symm, mem_openings.1 hopening, (hline inside).2 hinside,
      mem_closings.1 hclosing⟩

/-- Blanks of any kind around the parts, and parentheses inside. -/
example : isFunctionCall "\u2003f\t(a) or (b)\u00a0\n" = true := by decide

end RowMapper.Sql.FunctionCall
