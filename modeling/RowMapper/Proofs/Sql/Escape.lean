import Mathlib.Data.List.Forall2
import Mathlib.Data.List.Induction
import RowMapper.Proofs.Sql.Assignment
import RowMapper.Proofs.Sql.NameList

/-!
# `RowMapper.Proofs.Sql.Escape`: what becomes of a name in backticks

`Escapes` says by rules how a text is escaped: a list item by item and a name with dots segment by
segment, each piece by the same rules again. A derivation is finite, so that `escapes_iff` says two
things: taking texts apart comes to an end for every text, and what it ends with is `escape`.

Nothing but backticks is added to a text without a comma (`bareName_escape`), so different names
stay different (`SingleName.escape_injective`). Assignments go by escaped names, and a value is
found under the column of the very field that it was assigned to (`Assignments.lookup_setAll`).
-/

set_option autoImplicit false

namespace RowMapper.Sql

open RowMapper.Text

/-! ### Rules -/

/-- How a text is escaped. -/
inductive Escapes : String → String → Prop
  /-- A function call stays as it is. -/
  | call {text : String} (hcall : isFunctionCall text = true) : Escapes text text
  /-- The items of a list are escaped, each without the blanks around it. -/
  | list {text : String} {pieces : List String} (hcall : isFunctionCall text = false)
      (hcomma : ',' ∈ text.toList)
      (hitems : List.Forall₂ (fun item piece => Escapes (trim item) piece) (splitAt ',' text)
        pieces) :
      Escapes text (joined "," pieces)
  /-- The segments of a qualified name are escaped. -/
  | path {text : String} {pieces : List String} (hcall : isFunctionCall text = false)
      (hcomma : ',' ∉ text.toList) (hdot : '.' ∈ text.toList)
      (hsegments : List.Forall₂ Escapes (splitAt '.' text) pieces) :
      Escapes text (joined "." pieces)
  /-- A text with a star and the literals of a blank stay as they are. -/
  | self {text : String} (hcall : isFunctionCall text = false) (hcomma : ',' ∉ text.toList)
      (hdot : '.' ∉ text.toList) (hself : '*' ∈ text.toList ∨ text = "\" \"" ∨ text = "' '") :
      Escapes text text
  /-- A name is put into backticks. -/
  | name {text : String} (hcall : isFunctionCall text = false) (hcomma : ',' ∉ text.toList)
      (hdot : '.' ∉ text.toList)
      (hname : ¬ ('*' ∈ text.toList ∨ text = "\" \"" ∨ text = "' '")) :
      Escapes text ("`" ++ text ++ "`")

/-- A relation that is a function on the items relates the list to its image and nothing else. -/
theorem forall₂_iff_eq_map {α β : Type} {related : α → β → Prop} {f : α → β} {items : List α}
    {results : List β} (h : ∀ item ∈ items, ∀ result, related item result ↔ result = f item) :
    List.Forall₂ related items results ↔ results = items.map f := by
  induction items generalizing results with
  | nil => rw [List.forall₂_nil_left_iff, List.map_nil]
  | cons item items ih =>
      obtain ⟨hitem, hitems⟩ := List.forall_mem_cons.1 h
      rw [List.forall₂_cons_left_iff, List.map_cons]
      constructor
      · rintro ⟨result, rest, hresult, hrest, rfl⟩
        rw [(hitem result).1 hresult, (ih hitems).1 hrest]
      · intro hresults
        exact ⟨f item, items.map f, (hitem _).2 rfl, (ih hitems).2 rfl, hresults⟩

variable {text result : String}

/-- A function call is not taken apart, whatever is in it. -/
theorem escapes_iff_of_call (hcall : isFunctionCall text = true) :
    Escapes text result ↔ result = text := by
  constructor
  · intro h
    cases h with
    | call => rfl
    | list hnot | path hnot | self hnot | name hnot =>
        exact absurd (hnot.symm.trans hcall) Bool.false_ne_true
  · rintro rfl
    exact .call hcall

/-- A text without separators is not taken apart. -/
theorem escapes_iff_segment (hcomma : ',' ∉ text.toList) (hdot : '.' ∉ text.toList) :
    Escapes text result ↔ result = escapeSegment text := by
  unfold escapeSegment
  constructor
  · intro h
    cases h with
    | call hcall => rw [if_pos (.inl hcall)]
    | list _ hmem => exact absurd hmem hcomma
    | path _ _ hmem => exact absurd hmem hdot
    | self _ _ _ hself => rw [if_pos (.inr (by simpa using hself))]
    | name hcall _ _ hname => rw [if_neg (by simpa [hcall] using hname)]
  · rintro rfl
    split
    · rename_i hself
      cases hcall : isFunctionCall text with
      | true => exact .call hcall
      | false => exact .self hcall hcomma hdot (by simpa [hcall] using hself)
    · rename_i hname
      rw [not_or] at hname
      exact .name (Bool.eq_false_iff.2 hname.1) hcomma hdot (by simpa using hname.2)

/-- A text without commas is taken apart at its dots, and no further. -/
theorem escapes_iff_name (hcomma : ',' ∉ text.toList) :
    Escapes text result ↔ result = escapeName text := by
  have hsegments {pieces : List String} : List.Forall₂ Escapes (splitAt '.' text) pieces ↔
      pieces = (splitAt '.' text).map escapeSegment :=
    forall₂_iff_eq_map fun segment hsegment _ =>
      escapes_iff_segment (fun hmem => hcomma (mem_of_mem_splitAt hsegment hmem))
        (not_mem_of_mem_splitAt hsegment)
  by_cases hcall : isFunctionCall text = true
  · rw [escapeName, if_pos hcall]
    exact escapes_iff_of_call hcall
  by_cases hdot : '.' ∈ text.toList
  · rw [escapeName, if_neg hcall, if_pos (List.contains_iff_mem.2 hdot)]
    constructor
    · intro h
      cases h with
      | call hyes => exact absurd hyes hcall
      | list _ hmem => exact absurd hmem hcomma
      | path _ _ _ hpieces => rw [hsegments.1 hpieces]
      | self _ _ hnot | name _ _ hnot => exact absurd hdot hnot
    · rintro rfl
      exact .path (Bool.eq_false_iff.2 hcall) hcomma hdot (hsegments.2 rfl)
  · rw [escapeName, if_neg hcall, if_neg (by simpa using hdot)]
    exact escapes_iff_segment hcomma hdot

/-- Every text is escaped in one way, and this is what the rules end with. -/
theorem escapes_iff : Escapes text result ↔ result = escape text := by
  have hitems {pieces : List String} :
      List.Forall₂ (fun item piece => Escapes (trim item) piece) (splitAt ',' text) pieces ↔
        pieces = (splitAt ',' text).map fun item => escapeName (trim item) :=
    forall₂_iff_eq_map fun item hitem _ =>
      escapes_iff_name fun hmem => not_mem_of_mem_splitAt hitem (mem_of_mem_trim hmem)
  by_cases hcall : isFunctionCall text = true
  · rw [escape, if_pos hcall]
    exact escapes_iff_of_call hcall
  by_cases hcomma : ',' ∈ text.toList
  · rw [escape, if_neg hcall, if_pos (List.contains_iff_mem.2 hcomma)]
    constructor
    · intro h
      cases h with
      | call hyes => exact absurd hyes hcall
      | list _ _ hpieces => rw [hitems.1 hpieces]
      | path _ hnot | self _ hnot | name _ hnot => exact absurd hcomma hnot
    · rintro rfl
      exact .list (Bool.eq_false_iff.2 hcall) hcomma (hitems.2 rfl)
  · rw [escape_of_not_mem hcomma]
    exact escapes_iff_name hcomma

/-! ### Backticks taken off again -/

theorem bareName_joined {separator : String} (h : '`' ∉ separator.toList) (parts : List String) :
    bareName (joined separator parts) = joined separator (parts.map bareName) := by
  induction parts with
  | nil => rfl
  | cons part rest ih =>
      cases rest with
      | nil => rfl
      | cons next rest =>
          rw [joined, bareName_append, bareName_append, bareName_of_not_mem h, ih]
          rfl

/-- Without its backticks, a segment is what it was. -/
theorem bareName_escapeSegment (h : '`' ∉ text.toList) : bareName (escapeSegment text) = text := by
  unfold escapeSegment
  split
  · exact bareName_of_not_mem h
  · exact bareName_backticked h

/-- Without their backticks, the segments make up the name that they are of. -/
theorem bareName_escapeName (h : '`' ∉ text.toList) : bareName (escapeName text) = text := by
  unfold escapeName
  split
  · exact bareName_of_not_mem h
  split
  · have hsegments : ((splitAt '.' text).map escapeSegment).map bareName = splitAt '.' text := by
      rw [List.map_map]
      refine List.map_congr_left (fun segment hsegment => ?_) |>.trans (List.map_id _)
      exact bareName_escapeSegment fun hmem => h (mem_of_mem_splitAt hsegment hmem)
    rw [bareName_joined (by decide), hsegments]
    exact joined_splitAt '.' text
  · exact bareName_escapeSegment h

/-- Nothing of a text that is no list is lost. -/
theorem bareName_escape (hback : '`' ∉ text.toList)
    (hwhole : isFunctionCall text = true ∨ ',' ∉ text.toList) : bareName (escape text) = text := by
  rcases hwhole with hcall | hcomma
  · rw [escape, if_pos hcall, bareName_of_not_mem hback]
  · rw [escape_of_not_mem hcomma, bareName_escapeName hback]

/-- Of a list nothing is lost but the blanks around its items. -/
theorem bareName_escape_list (hback : '`' ∉ text.toList) (hcall : isFunctionCall text = false)
    (hcomma : ',' ∈ text.toList) :
    bareName (escape text) = joined "," ((splitAt ',' text).map trim) := by
  rw [escape, if_neg (Bool.eq_false_iff.1 hcall), if_pos (List.contains_iff_mem.2 hcomma),
    bareName_joined (by decide), List.map_map]
  refine congrArg (joined ",") (List.map_congr_left fun item hitem => ?_)
  exact bareName_escapeName fun hmem => hback (mem_of_mem_splitAt hitem (mem_of_mem_trim hmem))

/-! ### Columns of fields -/

/-- The name is one name and has no backticks of its own. -/
structure SingleName (name : String) : Prop where
  no_comma : ',' ∉ name.toList
  no_backtick : '`' ∉ name.toList

/-- Different names are escaped differently. -/
theorem SingleName.escape_injective {first second : String} (hfirst : SingleName first)
    (hsecond : SingleName second) (h : escape first = escape second) : first = second := by
  rw [← bareName_escape hfirst.no_backtick (.inr hfirst.no_comma), h,
    bareName_escape hsecond.no_backtick (.inr hsecond.no_comma)]

namespace Assignments

/-- Putting a value into a column leaves what is found under the others. -/
theorem lookup_put (column : String) (value : Value) (assignments : Assignments) (other : String) :
    (put column value assignments).lookup other
      = if other = column then some value else assignments.lookup other := by
  induction assignments with
  | nil => by_cases h : other = column <;> simp [put, List.lookup_cons, h, beq_false_of_ne]
  | cons entry rest ih =>
      obtain ⟨held, old⟩ := entry
      rw [put]
      by_cases hheld : held = column
      · subst hheld
        rw [if_pos rfl, List.lookup_cons, List.lookup_cons]
        by_cases hother : other = held <;> simp [hother, beq_false_of_ne]
      · rw [if_neg hheld, List.lookup_cons, ih, List.lookup_cons]
        by_cases hother : other = held
        · simp [hother, hheld]
        · simp [hother, beq_false_of_ne]

/-- Under the column of a field stands what was assigned to this field last, whatever has been
assigned to others in the meantime, and else what stood there before. -/
theorem lookup_setAll {pairs : List (String × Value)} (hpairs : ∀ pair ∈ pairs, SingleName pair.1)
    {field : String} (hfield : SingleName field) (assignments : Assignments) :
    (assignments.setAll pairs).lookup (escape field)
      = (pairs.reverse.lookup field).or (assignments.lookup (escape field)) := by
  -- From the end, as the last assignment to the field is the one that counts.
  induction pairs using List.reverseRecOn with
  | nil => rfl
  | append_singleton pairs pair ih =>
      have hpair : SingleName pair.1 := hpairs pair (by simp)
      have hlast : assignments.setAll (pairs ++ [pair])
          = put (escape pair.1) pair.2 (assignments.setAll pairs) := List.foldl_append
      rw [hlast, lookup_put, ih fun earlier h => hpairs earlier (List.mem_append_left _ h),
        List.reverse_append, List.reverse_singleton, List.singleton_append, List.lookup_cons]
      by_cases hsame : field = pair.1
      · simp [hsame]
      · rw [if_neg fun hcolumn => hsame (hfield.escape_injective hpair hcolumn),
          beq_false_of_ne hsame]

end Assignments

/-- The rules of escaping lead to one result for every text, and this is `escape`. Take the
backticks off the result for a text without backticks: it is the text itself if this is a function
call or has no comma, and otherwise the text with its items trimmed. So different names, without
commas and backticks, have different columns. Whatever is assigned to fields of such names, the
column of a field has what was assigned to this field last, or else what it had before. -/
theorem escape_keeps_names_apart :
    (∀ text result, Escapes text result ↔ result = escape text) ∧
    (∀ text : String, '`' ∉ text.toList →
      (isFunctionCall text = true ∨ ',' ∉ text.toList → bareName (escape text) = text) ∧
      (isFunctionCall text = false → ',' ∈ text.toList →
        bareName (escape text) = joined "," ((splitAt ',' text).map trim))) ∧
    (∀ first second, SingleName first → SingleName second → first ≠ second →
      escape first ≠ escape second) ∧
    ∀ (assignments : Assignments) (pairs : List (String × Value)) (field : String),
      (∀ pair ∈ pairs, SingleName pair.1) → SingleName field →
      (assignments.setAll pairs).lookup (escape field)
        = (pairs.reverse.lookup field).or (assignments.lookup (escape field)) := by
  refine ⟨fun _ _ => escapes_iff, fun text hback => ⟨bareName_escape hback, ?_⟩, ?_, ?_⟩
  · exact bareName_escape_list hback
  · intro first second hfirst hsecond hother hsame
    exact hother (hfirst.escape_injective hsecond hsame)
  · intro assignments pairs field hpairs hfield
    exact Assignments.lookup_setAll hpairs hfield assignments

/-- A qualified name and its last segment are different columns, and a list keeps its items. -/
theorem escape_keeps_names_apart_of_users :
    Escapes "users.id" "`users`.`id`" ∧
    bareName (escape "COUNT(*)") = "COUNT(*)" ∧
    bareName (escape "users.id , t.*,a-b") = "users.id,t.*,a-b" ∧
    escape "id" ≠ escape "users.id" ∧
    (Assignments.setAll []
      [("id", .int 1), ("users.id", .int 2), ("id", .int 3), ("*", .int 4)]).lookup (escape "id")
        = some (.int 3) := by
  obtain ⟨hrules, hback, hnames, hassigned⟩ := escape_keeps_names_apart
  have hsingle : SingleName "id" := ⟨by decide, by decide⟩
  have hqualified : SingleName "users.id" := ⟨by decide, by decide⟩
  refine ⟨(hrules _ _).2 (by decide), (hback _ (by decide)).1 (.inl (by decide)), ?_,
    hnames _ _ hsingle hqualified (by decide), ?_⟩
  · rw [(hback _ (by decide)).2 (by decide) (by decide)]
    decide
  · refine (hassigned [] _ "id" ?_ hsingle).trans rfl
    simp only [List.forall_mem_cons]
    exact ⟨hsingle, hqualified, hsingle, ⟨by decide, by decide⟩, List.forall_mem_nil _⟩

end RowMapper.Sql
