import RowMapper.Entity.FieldKind
import RowMapper.Proofs.Number.Integer
import RowMapper.Sql.Literal

/-!
# `RowMapper.Proofs.Sql.Literal`: values, their literals and their bound forms

A field of kind string, integer or Boolean holds values of its own type (`FieldKind.Holds`). Within
one such type a literal tells its value (`literal_injective`), and so does the form for binding
(`bound_injective`), also when the value may be null. Across types neither does: the integer 1
and the Boolean true are written and bound alike.
-/

set_option autoImplicit false

namespace RowMapper

open RowMapper.Number RowMapper.Sql RowMapper.Text

/-- The value is of the type that the kind of field is for. The type of a primary key is left to the
engine. -/
inductive FieldKind.Holds : FieldKind → Value → Prop
  | key (value : Value) : Holds .pk value
  | string (s : String) : Holds .string (.string s)
  | integer (i : Int64) : Holds .integer (.int i)
  | boolean (b : Bool) : Holds .boolean (.bool b)

/-- The value is null or of the type of the field. -/
def FieldKind.Accepts (kind : FieldKind) (value : Value) : Prop :=
  value = .null ∨ kind.Holds value

namespace Sql

/-- A text that begins with a quotation mark is no function call. -/
theorem isFunctionCall_quote (text : String) : isFunctionCall ("\"" ++ text) = false := by
  have hchars : ("\"" ++ text).toList = '"' :: text.toList := String.toList_append
  have hblank : isBlank '"' = false := by decide
  have hstart : isNameStart '"' = false := by decide
  rw [isFunctionCall, hchars, skipBlanks, List.dropWhile_cons_of_neg (by simp [hblank]),
    isCallChars, hstart, Bool.false_and]

/-- A string that is written bare does not begin with a quotation mark. -/
theorem ne_quote_of_bare {bare : String} (h : bare = placeholder ∨ isFunctionCall bare = true)
    (text : String) : bare ≠ "\"" ++ text ++ "\"" := by
  rw [String.append_assoc]
  -- Neither the placeholder nor a function call begins with a quotation mark.
  rintro rfl
  rcases h with h | h
  · have hmark : '"' ∈ placeholder.toList := by
      rw [← h, String.toList_append]
      exact List.mem_append_left _ (by decide)
    exact absurd hmark (by decide)
  · rw [isFunctionCall_quote] at h
    contradiction

theorem quoted_injective {s t : String} (h : quoted s = quoted t) : s = t := by
  unfold quoted at h
  split at h
  case isTrue hs =>
    split at h
    case isTrue => exact h
    case isFalse => exact absurd h (ne_quote_of_bare hs t)
  case isFalse =>
    split at h
    case isTrue ht => exact absurd h.symm (ne_quote_of_bare ht s)
    case isFalse => simpa using h

/-- The word that stands for null is not the literal of a string. -/
theorem quoted_ne_null (s : String) : quoted s ≠ "null" := by
  unfold quoted
  split
  case isTrue hs =>
    rintro rfl
    exact absurd hs (by decide)
  case isFalse =>
    intro h
    have hmark : '"' ∈ "null".toList := by
      rw [← h, String.append_assoc, String.toList_append]
      exact List.mem_append_left _ (by decide)
    exact absurd hmark (by decide)

end Sql

theorem Number.integerText_ne_null (i : Int) : integerText i ≠ "null" := by
  intro h
  -- The text of an integer has digits and perhaps a sign, but no letters.
  have hletter : 'u' ∈ (integerText i).toList := by
    rw [h]
    decide
  unfold integerText at hletter
  split at hletter
  · rw [String.toList_append, List.mem_append] at hletter
    rcases hletter with hletter | hletter
    · exact absurd hletter (by decide)
    · exact absurd (isDigit_of_mem_naturalText hletter) (by decide)
  · exact absurd (isDigit_of_mem_naturalText hletter) (by decide)

namespace FieldKind

variable {kind : FieldKind} {v w : Value} {zone : Calendar.Zone}

theorem literal_ne_null (hkind : kind ≠ .pk) (h : kind.Holds v) :
    v.literal ≠ Value.literal .null := by
  cases h with
  | key => contradiction
  | string s => exact quoted_ne_null s
  | integer i => exact Number.integerText_ne_null i.toInt
  | boolean b => cases b <;> decide

/-- Among the values of a field, a literal tells its value. -/
theorem literal_injective (hkind : kind ≠ .pk) (hv : kind.Accepts v) (hw : kind.Accepts w)
    (h : v.literal = w.literal) : v = w := by
  rcases hv with rfl | hv <;> rcases hw with rfl | hw
  · rfl
  · exact absurd h.symm (literal_ne_null hkind hw)
  · exact absurd h (literal_ne_null hkind hv)
  · cases hv with
    | key => contradiction
    | string s =>
        cases hw with
        | string t => exact congrArg Value.string (quoted_injective h)
    | integer i =>
        cases hw with
        | integer j =>
            have hsame : i.toInt = j.toInt := integerText_injective h
            exact congrArg Value.int (Int64.toInt_inj.1 hsame)
    | boolean b =>
        cases hw with
        | boolean c =>
            have hsame : b = c := by
              revert h
              cases b <;> cases c <;> decide
            exact congrArg Value.bool hsame

/-- Among the values of a field, the form for binding tells its value. -/
theorem bound_injective (hkind : kind ≠ .pk) (hv : kind.Accepts v) (hw : kind.Accepts w)
    (h : v.bound = w.bound) : v = w := by
  rcases hv with rfl | hv <;> rcases hw with rfl | hw
  · rfl
  · cases hw <;> simp_all [Value.bound]
  · cases hv <;> simp_all [Value.bound]
  · cases hv with
    | key => contradiction
    | string s =>
        cases hw with
        | string t => exact h
    | integer i =>
        cases hw with
        | integer j => exact h
    | boolean b =>
        cases hw with
        | boolean c => cases b <;> cases c <;> simp_all [Value.bound]

/-- A value that is stored in its form for binding is read back as it was. -/
theorem coerce_bound (hkind : kind ≠ .pk) (h : kind.Holds v) : kind.coerce zone v.bound = v := by
  cases h with
  | key => contradiction
  | string s => rfl
  | integer i => rfl
  | boolean b => cases b <;> rfl

/-- What is read from a column has the form for binding in which it is stored. -/
theorem bound_coerce_bound (h : kind.Holds v) : (kind.coerce zone v.bound).bound = v.bound := by
  cases h with
  | key v => cases v <;> rfl
  | string s => rfl
  | integer i => rfl
  | boolean b => cases b <;> rfl

end FieldKind

end RowMapper
