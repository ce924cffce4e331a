import RowMapper.Proofs.Sql.Token

/-!
# `RowMapper.Proofs.Sql.Slots`: texts with slots for values

A text that can be written with literals or with placeholders is a list of fragments: pieces of
text, and slots for values. `fill` writes it, given how to write a value.

* `interleave_pieces`: filling in the slots is putting the written values between the pieces, of
  which there is one more than slots (`length_pieces`).
* `count_fill`: with placeholders there is one question mark for each slot, if no piece has one.
* `Predicate.fill_fragments_literal`, `Predicate.bind_eq_fill`: the two renderings of a condition
  fill in the same fragments, and the parameters are the values of the slots.
-/

set_option autoImplicit false

namespace RowMapper.Sql

open RowMapper.Text

/-- The text does not hold the character of the placeholder. -/
def Unmarked (text : String) : Prop :=
  '?' ∉ text.toList

instance (text : String) : Decidable (Unmarked text) :=
  inferInstanceAs (Decidable (¬ '?' ∈ text.toList))

theorem unmarked_append {front back : String} :
    Unmarked (front ++ back) ↔ Unmarked front ∧ Unmarked back := by
  simp [Unmarked]

theorem unmarked_joined {separator : String} {parts : List String} (hseparator : Unmarked separator)
    (hparts : ∀ part ∈ parts, Unmarked part) : Unmarked (joined separator parts) :=
  not_mem_joined hseparator hparts

/-- A part of a statement: a piece of text, or a slot for a value. -/
inductive Fragment where
  | words (text : String)
  | slot (value : Value)

namespace Fragment

/-- The text of a fragment, given how to write a value. -/
def text (showValue : Value → String) : Fragment → String
  | .words text => text
  | .slot value => showValue value

/-- The value of a slot. -/
def value? : Fragment → Option Value
  | .words _ => none
  | .slot value => some value

/-- Fragments with their slots filled in. -/
def fill (showValue : Value → String) (fragments : List Fragment) : String :=
  String.join (fragments.map (text showValue))

/-- The values of the slots, from left to right. -/
def slots (fragments : List Fragment) : List Value :=
  fragments.filterMap value?

/-- Puts a text in front of the first piece. -/
def putFront (text : String) : List String → List String
  | [] => [text]
  | piece :: pieces => (text ++ piece) :: pieces

/-- The texts between the slots, with those before the first and behind the last. -/
def pieces : List Fragment → List String
  | [] => [""]
  | .words text :: rest => putFront text (pieces rest)
  | .slot _ :: rest => "" :: pieces rest

/-- Pieces with texts between them. -/
def interleave : List String → List String → String
  | [], _ => ""
  | piece :: pieces, [] => piece ++ interleave pieces []
  | piece :: pieces, text :: texts => piece ++ text ++ interleave pieces texts

variable (showValue : Value → String)

@[simp]
theorem fill_nil : fill showValue [] = "" := by
  simp [fill]

@[simp]
theorem fill_cons (fragment : Fragment) (fragments : List Fragment) :
    fill showValue (fragment :: fragments)
      = fragment.text showValue ++ fill showValue fragments := by
  simp [fill]

@[simp]
theorem fill_append (front back : List Fragment) :
    fill showValue (front ++ back) = fill showValue front ++ fill showValue back := by
  simp [fill]

@[simp]
theorem slots_nil : slots [] = [] := rfl

@[simp]
theorem slots_cons (fragment : Fragment) (fragments : List Fragment) :
    slots (fragment :: fragments) = fragment.value?.toList ++ slots fragments := by
  cases h : fragment.value? <;> simp [slots, h]

@[simp]
theorem slots_append (front back : List Fragment) :
    slots (front ++ back) = slots front ++ slots back := by
  simp [slots]

/-- Separated fragments are filled in part by part. -/
theorem fill_intercalate (separator : String) (parts : List (List Fragment)) :
    fill showValue ([Fragment.words separator].intercalate parts)
      = joined separator (parts.map (fill showValue)) := by
  rw [map_intercalate (fill showValue) (fill_nil _) (fill_append _), fill_cons, fill_nil,
    String.append_empty, text]

/-- A separating text has no slots. -/
theorem slots_intercalate (separator : String) (parts : List (List Fragment)) :
    slots ([Fragment.words separator].intercalate parts) = parts.flatMap slots :=
  flatMap_intercalate slots rfl slots_append _ rfl parts

/-! ### Pieces and slots -/

theorem length_putFront (text : String) (pieces : List String) (h : pieces ≠ []) :
    (putFront text pieces).length = pieces.length := by
  cases pieces with
  | nil => exact absurd rfl h
  | cons piece pieces => rfl

/-- There is one more piece than slots. -/
theorem length_pieces (fragments : List Fragment) :
    (pieces fragments).length = (slots fragments).length + 1 := by
  induction fragments with
  | nil => rfl
  | cons fragment rest ih =>
      have hne : pieces rest ≠ [] := List.ne_nil_of_length_eq_add_one ih
      cases fragment with
      | words text => rw [pieces, length_putFront text _ hne, ih]; rfl
      | slot value => rw [pieces, List.length_cons, ih]; rfl

theorem interleave_putFront (text : String) (pieces texts : List String) (h : pieces ≠ []) :
    interleave (putFront text pieces) texts = text ++ interleave pieces texts := by
  cases pieces with
  | nil => exact absurd rfl h
  | cons piece pieces => cases texts <;> simp [putFront, interleave, String.append_assoc]

/-- Filling in fragments puts the values between the pieces. -/
theorem interleave_pieces (fragments : List Fragment) :
    interleave (pieces fragments) ((slots fragments).map showValue) = fill showValue fragments := by
  induction fragments with
  | nil => simp [pieces, interleave]
  | cons fragment rest ih =>
      -- There is a first piece, into which a text is put and in front of which a slot stands.
      have hne : pieces rest ≠ [] := List.ne_nil_of_length_eq_add_one (length_pieces rest)
      cases fragment with
      | words text =>
          rw [pieces, interleave_putFront text _ _ hne, fill_cons, ← ih]
          rfl
      | slot value =>
          rw [pieces, fill_cons, ← ih]
          simp [interleave, value?, Fragment.text]

/-! ### Question marks -/

/-- The fragment is a slot, or a piece of text without a question mark. -/
def Unmarked : Fragment → Prop
  | .words text => Sql.Unmarked text
  | .slot _ => True

theorem unmarked_words {text : String} (h : Sql.Unmarked text) :
    ∀ fragment ∈ [Fragment.words text], fragment.Unmarked := by
  simpa [Fragment.Unmarked] using h

theorem unmarked_parts {front back : List Fragment}
    (hfront : ∀ fragment ∈ front, fragment.Unmarked)
    (hback : ∀ fragment ∈ back, fragment.Unmarked) :
    ∀ fragment ∈ front ++ back, fragment.Unmarked := by
  intro fragment hfragment
  rcases List.mem_append.1 hfragment with h | h
  · exact hfront fragment h
  · exact hback fragment h

theorem unmarked_intercalate {separator : String} {parts : List (List Fragment)}
    (hseparator : Sql.Unmarked separator)
    (hparts : ∀ part ∈ parts, ∀ fragment ∈ part, fragment.Unmarked) :
    ∀ fragment ∈ [Fragment.words separator].intercalate parts, fragment.Unmarked := by
  intro fragment hfragment
  rcases mem_intercalate hfragment with h | ⟨part, hpart, h⟩
  · exact unmarked_words hseparator fragment h
  · exact hparts part hpart fragment h

/-- A text with placeholders has one question mark for each slot, if no piece has one. -/
theorem count_fill (fragments : List Fragment) (h : ∀ fragment ∈ fragments, fragment.Unmarked) :
    (fill (fun _ => placeholder) fragments).toList.count '?' = (slots fragments).length := by
  induction fragments with
  | nil => simp
  | cons fragment rest ih =>
      obtain ⟨hfirst, hrest⟩ := List.forall_mem_cons.1 h
      rw [fill_cons, String.toList_append, List.count_append, ih hrest, slots_cons,
        List.length_append]
      cases fragment with
      | words text =>
          rw [Fragment.text, List.count_eq_zero.2 hfirst]
          rfl
      | slot value =>
          have hmark : placeholder.toList.count '?' = 1 := by decide
          rw [Fragment.text, hmark]
          rfl

end Fragment

open Fragment

/-! ### The fragments of conditions -/

/-- A comparison has a slot behind its sign; every other token is text. -/
def Token.fragments : Token → List Fragment
  | .comparison c => [.words (c.field ++ " " ++ c.op.symbol ++ " "), .slot c.value]
  | token => [.words (token.text fun _ => placeholder)]

theorem Token.fill_fragments (showValue : Value → String) (token : Token) :
    fill showValue token.fragments = token.text showValue := by
  cases token <;> simp [Token.fragments, Token.text, Fragment.text]

theorem Token.slots_fragments (token : Token) :
    slots token.fragments = (token.comparison?.map (·.value)).toList := by
  cases token <;> rfl

/-- The fragments of a condition. -/
def Predicate.fragments (predicate : Predicate) : List Fragment :=
  predicate.tokens.flatMap Token.fragments

theorem Token.fill_flatMap_fragments (showValue : Value → String) (tokens : List Token) :
    fill showValue (tokens.flatMap Token.fragments) = textOf showValue tokens := by
  induction tokens with
  | nil => simp
  | cons token rest ih =>
      rw [List.flatMap_cons, fill_append, Token.fill_fragments, ih, textOf_cons]

theorem Token.slots_flatMap_fragments (tokens : List Token) :
    slots (tokens.flatMap Token.fragments) = (comparisonsOf tokens).map (·.value) := by
  induction tokens with
  | nil => rfl
  | cons token rest ih =>
      rw [List.flatMap_cons, slots_append, Token.slots_fragments, ih, comparisonsOf_cons,
        List.map_append]
      cases token.comparison? <;> rfl

theorem Predicate.fill_fragments_literal (predicate : Predicate) :
    fill Value.literal predicate.fragments = predicate.sql := by
  rw [Predicate.fragments, Token.fill_flatMap_fragments, Predicate.sql_eq_textOf]

theorem Predicate.slots_fragments (predicate : Predicate) :
    slots predicate.fragments = predicate.values := by
  rw [Predicate.fragments, Token.slots_flatMap_fragments, Predicate.comparisonsOf_tokens,
    Predicate.values]

/-- Binding fills placeholders into the fragments, and adds the values of the slots to the
parameters. -/
theorem Predicate.bind_eq_fill (predicate : Predicate) (params : List Value) :
    predicate.bind params = (fill (fun _ => placeholder) predicate.fragments,
      params ++ predicate.values.map Value.bound) := by
  rw [Predicate.bind_eq_textOf, Predicate.fragments, Token.fill_flatMap_fragments,
    Predicate.values, List.map_map]
  rfl

/-- Parameters that there are already stay in front of those of the condition. -/
theorem Predicate.bind_eq_template (predicate : Predicate) (params : List Value) :
    predicate.bind params = (predicate.template, params ++ predicate.params) := by
  rw [Predicate.template, Predicate.params]
  simp only [Predicate.bind_eq_fill, List.nil_append]

/-- The texts of a condition that come from the caller: the fields of its comparisons and the words
of its raw parts. -/
def Token.text? : Token → Option String
  | .comparison c => some c.field
  | .words sql => some sql
  | _ => none

@[inherit_doc Token.text?]
def Predicate.texts (predicate : Predicate) : List String :=
  predicate.tokens.filterMap Token.text?

theorem Operator.unmarked_symbol (op : Operator) : Unmarked op.symbol := by
  cases op <;> decide

theorem Token.unmarked_fragments (token : Token) (h : ∀ text ∈ token.text?, Unmarked text) :
    ∀ fragment ∈ token.fragments, fragment.Unmarked := by
  cases token with
  | comparison c =>
      have hfield : Unmarked c.field := h c.field rfl
      have hblank : Unmarked " " := by decide
      simp [Token.fragments, Fragment.Unmarked, unmarked_append, hfield, hblank,
        c.op.unmarked_symbol]
  | words sql => simpa [Token.fragments, Fragment.Unmarked, Token.text] using h sql rfl
  | and | or | left | right =>
      simp [Token.fragments, Fragment.Unmarked, Token.text, Sql.Unmarked]

/-- The pieces of a condition hold no question mark, if the texts of the caller hold none. -/
theorem Predicate.unmarked_fragments (predicate : Predicate)
    (h : ∀ text ∈ predicate.texts, Unmarked text) :
    ∀ fragment ∈ predicate.fragments, fragment.Unmarked := by
  intro fragment hfragment
  obtain ⟨token, htoken, hfragment⟩ := List.mem_flatMap.1 hfragment
  refine token.unmarked_fragments (fun text htext => h text ?_) fragment hfragment
  exact List.mem_filterMap.2 ⟨token, htoken, htext⟩

end RowMapper.Sql
