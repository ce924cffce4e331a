import RowMapper.Proofs.Number.Layout
import RowMapper.Proofs.Sql.Assignment
import RowMapper.Proofs.Sql.Literal

/-!
# `RowMapper.Proofs.Sql.Alike`: values that are written alike and bound differently

A save compares a value with the snapshot by their literals, and sends the form for binding. These
agree on most values: different forms come with different literals. `Value.Alike` lists the
exceptions, and `Value.literal_eq_iff` says that there are no others.

A value that is no document is bound as null, an integer, a floating-point number or a string
(`Value.bound_eq`), and is written as that form (`Value.literal_bound`).
-/

set_option autoImplicit false

namespace RowMapper

open RowMapper.Number RowMapper.Sql

/-! ### The characters of literals -/

namespace Sql

/-- Every string has one of these in its literal. -/
def stringMarks : List Char := ['"', '?', '(']

theorem exists_mark_quoted (s : String) : ∃ c ∈ (quoted s).toList, c ∈ stringMarks := by
  unfold quoted
  split
  case isTrue hbare =>
    rcases hbare with rfl | hcall
    · exact ⟨'?', by decide, by decide⟩
    · -- A function call has its parenthesis.
      refine ⟨'(', ?_, by decide⟩
      by_contra hparen
      rw [isFunctionCall_of_no_paren hparen] at hcall
      contradiction
  case isFalse =>
    refine ⟨'"', ?_, by decide⟩
    rw [String.append_assoc, String.toList_append]
    exact List.mem_append_left _ (by decide)

/-- A text without such a character is not the literal of a string. -/
theorem ne_quoted {text : String} (h : ∀ c ∈ text.toList, c ∉ stringMarks) (s : String) :
    text ≠ quoted s := by
  rintro rfl
  obtain ⟨c, hmem, hmark⟩ := exists_mark_quoted s
  exact h c hmem hmark

end Sql

theorem Number.mem_integerText {i : Int} {c : Char} (h : c ∈ (integerText i).toList) :
    c = '-' ∨ c.isDigit = true := by
  unfold integerText at h
  split at h
  · rw [String.toList_append, List.mem_append] at h
    rcases h with h | h
    · exact .inl (by simpa using h)
    · exact .inr (isDigit_of_mem_naturalText h)
  · exact .inr (isDigit_of_mem_naturalText h)

theorem Number.integerText_ne_quoted (i : Int) (s : String) : integerText i ≠ quoted s := by
  refine ne_quoted (fun c hc hmark => ?_) s
  rcases mem_integerText hc with rfl | hdigit
  · exact absurd hmark (by decide)
  · simp only [stringMarks, List.mem_cons, List.not_mem_nil, or_false] at hmark
    rcases hmark with rfl | rfl | rfl <;> exact absurd hdigit (by decide)

namespace Value

theorem plain_floatLayout : floatLayout.Plain := ⟨fun _ => rfl, rfl⟩

theorem floatText_ne_quoted (x : Binary64) (s : String) : floatLayout.text x ≠ quoted s := by
  refine ne_quoted (fun c hc hmark => ?_) s
  simp only [stringMarks, List.mem_cons, List.not_mem_nil, or_false] at hmark
  have hchar := plain_floatLayout.mem_text hc
  rcases hmark with rfl | rfl | rfl <;> exact absurd hchar (by decide)

theorem floatText_ne_null (x : Binary64) : floatLayout.text x ≠ "null" := by
  intro h
  have hletter : 'u' ∈ (floatLayout.text x).toList := by
    rw [h]
    decide
  exact absurd (plain_floatLayout.mem_text hletter) (by decide)

/-! ### The literal of a form for binding -/

/-- The value is a document. -/
def isJson : Value → Bool
  | .json _ => true
  | _ => false

/-- The forms in which values other than documents are bound. -/
inductive Form : Value → Prop
  | null : Form .null
  | int (i : Int64) : Form (.int i)
  | float (x : Binary64) : Form (.float x)
  | string (s : String) : Form (.string s)

variable {v w : Value}

theorem form_bound (h : v.isJson = false) : Form v.bound := by
  cases v with
  | null => exact .null
  | bool b => exact .int _
  | int i => exact .int i
  | float x => exact .float x
  | string s => exact .string s
  | dateTime moment => exact .string moment.text
  | json document => contradiction

/-- A value that is no document is written as its form for binding. -/
theorem literal_bound (h : v.isJson = false) : v.bound.literal = v.literal := by
  cases v with
  | bool b => cases b <;> decide
  | json document => contradiction
  | null | int | float | string | dateTime => rfl

theorem eq_float_of_bound {x : Binary64} (h : v.bound = .float x) : v = .float x := by
  cases v <;> simp_all [bound]

/-- Two values that are bound differently and written alike: two NaN, an integer or Boolean and the
floating-point number of the same digits, or a document whose text is the literal of the other
value. -/
inductive Alike : Value → Value → Prop
  | nan {x y : Binary64} (hx : x.isNaN = true) (hy : y.isNaN = true) :
      Alike (.float x) (.float y)
  | integral {v : Value} {i : Int64} {x : Binary64} (hv : v.bound = .int i)
      (hdigits : integerText i.toInt = floatLayout.text x) : Alike v (.float x)
  | document {v : Value} {document : Json} (hv : v.isJson = false)
      (htext : v.literal = document.text) : Alike v (.json document)

theorem Alike.literal_eq (h : v.Alike w) : v.literal = w.literal := by
  cases h with
  | nan hx hy =>
      show floatLayout.text _ = floatLayout.text _
      rw [Layout.text_of_isNaN _ hx, Layout.text_of_isNaN _ hy]
  | integral hv hdigits =>
      have hjson : v.isJson = false := by
        cases v <;> first | rfl | contradiction
      rw [← literal_bound hjson, hv]
      exact hdigits
  | document hv htext => exact htext

/-- Different forms for binding with one literal are two NaN, or an integer and a floating-point
number. -/
theorem Form.clash (hv : Form v) (hw : Form w) (hdiffer : v.same w = false)
    (h : v.literal = w.literal) :
    (∃ x y, v = .float x ∧ w = .float y ∧ x.isNaN = true ∧ y.isNaN = true) ∨
    (∃ i x, v = .int i ∧ w = .float x ∧ integerText i.toInt = floatLayout.text x) ∨
    (∃ i x, w = .int i ∧ v = .float x ∧ integerText i.toInt = floatLayout.text x) := by
  cases hv with
  | null =>
      cases hw with
      | null => contradiction
      | int j => exact absurd h.symm (integerText_ne_null j.toInt)
      | float y => exact absurd h.symm (floatText_ne_null y)
      | string t => exact absurd h.symm (quoted_ne_null t)
  | int i =>
      cases hw with
      | null => exact absurd h (integerText_ne_null i.toInt)
      | int j =>
          have hsame : i = j := Int64.toInt_inj.1 (integerText_injective h)
          simp [same, hsame] at hdiffer
      | float y => exact .inr (.inl ⟨i, y, rfl, rfl, h⟩)
      | string t => exact absurd h (integerText_ne_quoted i.toInt t)
  | float x =>
      cases hw with
      | null => exact absurd h (floatText_ne_null x)
      | int j => exact .inr (.inr ⟨j, x, rfl, rfl, h.symm⟩)
      | float y =>
          -- The digits of a number tell it, so only NaN is left.
          rcases plain_floatLayout.text_injective h with hsame | ⟨hx, hy⟩
          · exact absurd hsame (Bool.eq_false_iff.1 hdiffer)
          · exact .inl ⟨x, y, rfl, rfl, hx, hy⟩
      | string t => exact absurd h (floatText_ne_quoted x t)
  | string s =>
      cases hw with
      | null => exact absurd h (quoted_ne_null s)
      | int j => exact absurd h.symm (integerText_ne_quoted j.toInt s)
      | float y => exact absurd h.symm (floatText_ne_quoted y s)
      | string t => simp [same, quoted_injective h] at hdiffer

/-- Values that are bound differently have the same literal in the listed cases only. -/
theorem literal_eq_iff (hdiffer : v.bound.same w.bound = false) :
    v.literal = w.literal ↔ v.Alike w ∨ w.Alike v := by
  refine ⟨fun h => ?_, fun h => ?_⟩
  · cases hv : v.isJson <;> cases hw : w.isJson
    · rw [← literal_bound hv, ← literal_bound hw] at h
      rcases (form_bound hv).clash (form_bound hw) hdiffer h with
        ⟨x, y, hx, hy, hxnan, hynan⟩ | ⟨i, x, hi, hx, hdigits⟩ | ⟨i, x, hi, hx, hdigits⟩
      · rw [eq_float_of_bound hx, eq_float_of_bound hy]
        exact .inl (.nan hxnan hynan)
      · rw [eq_float_of_bound hx]
        exact .inl (.integral hi hdigits)
      · rw [eq_float_of_bound hx]
        exact .inr (.integral hi hdigits)
    · cases w with
      | json document => exact .inl (.document hv h)
      | _ => contradiction
    · cases v with
      | json document => exact .inr (.document hw h.symm)
      | _ => contradiction
    · -- Two documents are bound as their texts, which are also their literals.
      cases v with
      | json first =>
          cases w with
          | json second =>
              have htext : first.text = second.text := h
              simp [bound, same, htext] at hdiffer
          | _ => contradiction
      | _ => contradiction
  · exact h.elim Alike.literal_eq fun h => h.literal_eq.symm

end Value

end RowMapper
