import RowMapper.Proofs.Entity.Timestamp
import RowMapper.Proofs.Json.RoundTrip

/-!
# `RowMapper.Proofs.Entity.Coercion`: reading a value once and again

What is stored is taken by a field of some kinds for something else: a truth value, the moment of a
date, the document of a text (`FieldKind.Reads`). All else is held as it is stored. A value that has
been read is not read for something else again, although it may look like it: a document that is a
text can hold the text of another document, and the moment of a number is no number.

So reading twice is reading once for every kind but the timestamps
(`FieldKind.coerce_idempotent`), and for these only where there is no time at all
(`FieldKind.coerce_coerce_eq_iff`), as seconds are multiplied each time.
-/

set_option autoImplicit false

namespace RowMapper.FieldKind

open RowMapper.Calendar

/-- A field of the kind takes the stored value for something else. -/
inductive Reads (zone : Zone) : FieldKind → Value → Value → Prop
  | flag (raw : Value) : Reads zone .boolean raw (.bool (isSet raw))
  | moment {raw : Value} {moment : DateTime} (h : raw.toDateTime? zone = some moment) :
      Reads zone .date raw (.dateTime moment)
  | document {text : String} {document : Json} (h : Json.read? text = some document) :
      Reads zone .json (.string text) (.json document)

variable {kind : FieldKind} {zone : Zone} {raw value : Value}

theorem Reads.coerce_eq (h : kind.Reads zone raw value) : kind.coerce zone raw = value := by
  cases h with
  | flag => rfl
  | moment h => rw [coerce, h]
  | document h => rw [coerce, h]

/-- What has been read stays: a truth value is its own, a moment is the one it was read as, and a
document is no text. -/
theorem Reads.coerce_self (h : kind.Reads zone raw value) : kind.coerce zone value = value := by
  cases h with
  | flag | moment | document => rfl

/-- What cannot be read is held as it is stored. -/
theorem coerce_of_unread (hkind : kind.isTimestamp = false)
    (h : ∀ value, ¬ kind.Reads zone raw value) : kind.coerce zone raw = raw := by
  cases kind with
  | pk | string | integer => rfl
  | boolean => exact absurd (.flag raw) (h _)
  | date =>
      cases hmoment : raw.toDateTime? zone with
      | none => rw [coerce, hmoment]
      | some moment => exact absurd (.moment hmoment) (h _)
  | json =>
      cases raw with
      | string text =>
          cases hdocument : Json.read? text with
          | none => rw [coerce, hdocument]
          | some document => exact absurd (.document hdocument) (h _)
      | null | bool | int | float | dateTime | json => rfl
  | createdAt | updatedAt => contradiction

/-- Reading a value of any sort twice gives the very same value as reading it once. What could be
read the first time is left alone the second time, and what could not is kept both times. -/
theorem coerce_idempotent (hkind : kind.isTimestamp = false) (raw : Value) :
    kind.coerce zone (kind.coerce zone raw) = kind.coerce zone raw ∧
    (∀ value, kind.Reads zone raw value → kind.coerce zone (kind.coerce zone raw) = value) ∧
    ((∀ value, ¬ kind.Reads zone raw value) → kind.coerce zone (kind.coerce zone raw) = raw) := by
  have hread (value : Value) (h : kind.Reads zone raw value) :
      kind.coerce zone (kind.coerce zone raw) = value := by rw [h.coerce_eq, h.coerce_self]
  have hkept (h : ∀ value, ¬ kind.Reads zone raw value) :
      kind.coerce zone (kind.coerce zone raw) = raw := by
    rw [coerce_of_unread hkind h, coerce_of_unread hkind h]
  refine ⟨?_, hread, hkept⟩
  by_cases h : ∃ value, kind.Reads zone raw value
  · obtain ⟨value, hvalue⟩ := h
    rw [hread value hvalue, hvalue.coerce_eq]
  · have hunread := not_exists.1 h
    rw [hkept hunread, coerce_of_unread hkind hunread]

/-- A document that is a text is not read for another document, and a date that cannot be read stays
the text that it is. -/
theorem coerce_idempotent_of_quoted :
    let raw : Value := .string "\"[1]\""
    FieldKind.json.isTimestamp = false ∧
    FieldKind.json.Reads .universal raw (.json (.string "[1]")) ∧
    FieldKind.json.coerce .universal (FieldKind.json.coerce .universal raw)
      = .json (.string "[1]") ∧
    FieldKind.date.coerce .universal (FieldKind.date.coerce .universal (.string "no date"))
      = .string "no date" := by
  intro raw
  have htext : (Json.string "[1]").text = "\"[1]\"" := by decide +kernel
  have hdocument := @Json.read?_text (.string "[1]") trivial trivial
  rw [htext, if_pos (by decide)] at hdocument
  have hreads : FieldKind.json.Reads .universal raw (.json (.string "[1]")) := .document hdocument
  have hmoment : (Value.string "no date").toDateTime? .universal = none := by decide +kernel
  have hunread (value : Value) : ¬ FieldKind.date.Reads .universal (.string "no date") value := by
    intro h
    cases h with
    | moment h =>
        rw [hmoment] at h
        contradiction
  exact ⟨rfl, hreads, (coerce_idempotent rfl raw).2.1 _ hreads,
    (coerce_idempotent rfl (.string "no date")).2.2 hunread⟩

/-- Milliseconds are not taken for milliseconds but for seconds. -/
theorem coerce_coerce_eq_iff (htime : kind.isTimestamp = true) :
    kind.coerce zone (kind.coerce zone raw) = kind.coerce zone raw ↔
      kind.coerce zone raw = .null := by
  simp only [coerce_of_isTimestamp htime]
  constructor
  · intro hsame
    refine (millis_eq_null_or raw).resolve_right fun ⟨milliseconds, hmillis⟩ => ?_
    rw [hmillis] at hsame
    obtain ⟨seconds, hdenotes, hne, hproduct⟩ := millis_eq_int_iff_denotes.1 hsame
    -- The milliseconds would be a thousand times themselves, and they are not zero.
    have := hdenotes.unique (.int milliseconds)
    omega
  · intro hnull
    rw [hnull]
    rfl

end RowMapper.FieldKind
