import RowMapper.Proofs.Sql.FunctionCall
import RowMapper.Proofs.Text.Blank
import RowMapper.Proofs.Text.Occurrence
import RowMapper.Sql.Identifier

/-!
# `RowMapper.Proofs.Sql.NameList`: names in a comma list

`escape` takes a text that looks like a function call as it is, before it looks for commas. A list
looks like one call if its first item opens a call and its last item closes one, whatever stands
between them (`isFunctionCall_list`), and then it is not taken apart.

* `escape_list_iff`: a list is escaped item by item unless it looks like a call; if it does, only
  if all of its items stand for themselves.
* `calls_hide_name`: between two calls, a plain name gets no backticks.
-/

set_option autoImplicit false

namespace RowMapper.Sql

open RowMapper.Text

/-! ### Characters of an escaped name -/

theorem mem_escapeSegment {segment : String} {c : Char} (h : c ∈ (escapeSegment segment).toList) :
    c = '`' ∨ c ∈ segment.toList := by
  unfold escapeSegment at h
  split at h
  · exact .inr h
  · simp only [String.toList_append, List.mem_append] at h
    rcases h with (h | h) | h
    · exact .inl (List.mem_singleton.1 h)
    · exact .inr h
    · exact .inl (List.mem_singleton.1 h)

/-- Nothing but backticks is added to a name. -/
theorem mem_escapeName {name : String} {c : Char} (h : c ∈ (escapeName name).toList) :
    c = '`' ∨ c ∈ name.toList := by
  unfold escapeName at h
  split at h
  · exact .inr h
  split at h
  · rename_i hdot
    rcases mem_joined h with h | ⟨text, htext, h⟩
    · rw [List.mem_singleton.1 h]
      exact .inr (List.contains_iff_mem.1 hdot)
    · obtain ⟨segment, hsegment, rfl⟩ := List.mem_map.1 htext
      exact (mem_escapeSegment h).imp_right (mem_of_mem_splitAt hsegment)
  · exact mem_escapeSegment h

/-- A text without a comma is one name. -/
theorem escape_of_not_mem {text : String} (h : ',' ∉ text.toList) :
    escape text = escapeName text := by
  unfold escape
  split
  · rename_i hcall
    rw [escapeName, if_pos hcall]
  · rw [if_neg (by simpa using h)]

/-- An item of a list has no comma, and neither has the name that it is escaped to. -/
theorem comma_not_mem_escape_trim {item : String} (h : ',' ∉ item.toList) :
    ',' ∉ (escape (trim item)).toList := by
  have htrim : ',' ∉ (trim item).toList := fun hmem => h (mem_of_mem_trim hmem)
  rw [escape_of_not_mem htrim]
  intro hmem
  rcases mem_escapeName hmem with hmark | hmem
  · exact absurd hmark (by decide)
  · exact htrim hmem

/-! ### Lists that look like a call -/

/-- The text begins with the opening of a call. -/
def BeginsCall (text : String) : Prop :=
  ∃ opening, OpensCall opening ∧ opening <+: text.toList

/-- The text ends with the closing of a call. -/
def EndsCall (text : String) : Prop :=
  ∃ closing, ClosesCall closing ∧ closing <:+ text.toList

theorem OpensCall.comma_not_mem {opening : List Char} (h : OpensCall opening) : ',' ∉ opening := by
  obtain ⟨before, name, between, rfl, hbefore, ⟨first, rest, rfl, hfirst, hrest⟩, hbetween⟩ := h
  have hblank : isBlank ',' ≠ true := by decide
  have hname : isNameChar ',' ≠ true := by decide
  simp only [List.mem_append, List.mem_cons, List.not_mem_nil, or_false, not_or]
  refine ⟨fun hmem => hblank (hbefore _ hmem), ⟨?_, fun hmem => hname (hrest _ hmem)⟩,
    fun hmem => hblank (hbetween _ hmem), by decide⟩
  rintro rfl
  exact hname (isNameChar_of_isNameStart hfirst)

theorem ClosesCall.comma_not_mem {closing : List Char} (h : ClosesCall closing) :
    ',' ∉ closing := by
  obtain ⟨behind, rfl, hbehind⟩ := h
  have hblank : isBlank ',' ≠ true := by decide
  rw [List.mem_cons, not_or]
  exact ⟨by decide, fun hmem => hblank (hbehind _ hmem)⟩

theorem EndsCall.paren_mem {text : String} (h : EndsCall text) : ')' ∈ text.toList := by
  obtain ⟨_, ⟨behind, rfl, -⟩, hsuffix⟩ := h
  exact hsuffix.subset List.mem_cons_self

variable {first last : String} {middle : List String}

/-- The first comma of a list stands behind its first item. -/
theorem toList_list_first (first last : String) (middle : List String) :
    (joined "," (first :: (middle ++ [last]))).toList
      = first.toList ++ ',' :: (joined "," (middle ++ [last])).toList := by
  rw [joined_cons _ _ (by simp)]
  simp

/-- The last comma of a list stands before its last item. -/
theorem toList_list_last (first last : String) (middle : List String) :
    (joined "," (first :: (middle ++ [last]))).toList
      = (joined "," (first :: middle)).toList ++ ',' :: last.toList := by
  rw [← List.cons_append, joined_concat _ (by simp)]
  simp

/-- A list of items on one line looks like a function call if and only if its first item opens a
call and its last item closes one. -/
theorem isFunctionCall_list (hline : ∀ item ∈ first :: (middle ++ [last]), '\n' ∉ item.toList) :
    isFunctionCall (joined "," (first :: (middle ++ [last]))) = true ↔
      BeginsCall first ∧ EndsCall last := by
  rw [isFunctionCall_iff]
  constructor
  -- Neither the opening nor the closing has a comma, so each of them is within one item.
  · rintro ⟨opening, inside, closing, htext, hopening, -, hclosing⟩
    have hprefix : opening <+: first.toList ++ ',' :: (joined "," (middle ++ [last])).toList := by
      rw [← toList_list_first, htext]
      exact List.prefix_append opening _
    have hsuffix : closing <:+ (joined "," (first :: middle)).toList ++ ',' :: last.toList := by
      rw [← toList_list_last, htext, ← List.append_assoc]
      exact List.suffix_append _ closing
    exact ⟨⟨opening, hopening, prefix_of_not_mem hprefix hopening.comma_not_mem⟩,
      closing, hclosing, suffix_of_not_mem hsuffix hclosing.comma_not_mem⟩
  · rintro ⟨⟨opening, hopening, front, hfront⟩, closing, hclosing, back, hback⟩
    have hbetween : ∃ between, (joined "," (first :: (middle ++ [last]))).toList
        = opening ++ ((front ++ ',' :: (between ++ back)) ++ closing) := by
      cases middle with
      | nil =>
          refine ⟨[], ?_⟩
          rw [toList_list_first, ← hfront, List.nil_append, joined, ← hback]
          simp
      | cons next rest =>
          refine ⟨(joined "," (next :: rest)).toList ++ [','], ?_⟩
          rw [toList_list_first, ← hfront, List.cons_append, toList_list_last, ← hback]
          simp
    obtain ⟨between, htext⟩ := hbetween
    refine ⟨opening, _, closing, htext, hopening, fun hmem => ?_, hclosing⟩
    have hlist : '\n' ∈ (joined "," (first :: (middle ++ [last]))).toList := by
      rw [htext]
      exact List.mem_append_right _ (List.mem_append_left _ hmem)
    exact not_mem_joined (by decide) hline hlist

/-! ### Lists that are escaped -/

/-- A list that does not look like a call is escaped item by item. -/
theorem escape_list {items : List String} (hlength : 2 ≤ items.length)
    (hcomma : ∀ item ∈ items, ',' ∉ item.toList)
    (hcall : isFunctionCall (joined "," items) = false) :
    escape (joined "," items) = joined "," (items.map fun item => escape (trim item)) := by
  have hne : items ≠ [] := List.ne_nil_of_length_pos (by omega)
  have hpieces : splitAt ',' (joined "," items) = items := splitAt_joined hne hcomma
  have hlist : ',' ∈ (joined "," items).toList := by
    obtain ⟨first, rest, rfl⟩ := List.exists_cons_of_ne_nil hne
    have hrest : rest ≠ [] := List.ne_nil_of_length_pos (by
      rw [List.length_cons] at hlength
      omega)
    rw [joined_cons _ _ hrest]
    simp
  have hitems : items.map (fun item => escapeName (trim item))
      = items.map fun item => escape (trim item) := by
    refine List.map_congr_left fun item hitem => (escape_of_not_mem fun hmem => ?_).symm
    exact hcomma item hitem (mem_of_mem_trim hmem)
  rw [escape, if_neg (by simp [hcall]), if_pos (List.contains_iff_mem.2 hlist), hpieces, hitems]

/-- Lists of items without commas have one text only if they are the same. -/
theorem eq_of_joined_eq {items items' : List String} (hne : items ≠ []) (hne' : items' ≠ [])
    (hcomma : ∀ item ∈ items, ',' ∉ item.toList) (hcomma' : ∀ item ∈ items', ',' ∉ item.toList)
    (h : joined "," items = joined "," items') : items = items' := by
  have hpieces : splitAt ',' (joined "," items) = items := splitAt_joined hne hcomma
  have hpieces' : splitAt ',' (joined "," items') = items' := splitAt_joined hne' hcomma'
  rw [← hpieces, h, hpieces']

/-- Take any list of two items or more, without commas and line breaks in them. If the first item
opens a call and the last item closes one, the list is left as it is, and otherwise it is escaped
item by item. So it is escaped item by item if and only if it does not look like a call, or does
and all of its items stand for themselves. -/
theorem escape_list_iff (hitems : ∀ item ∈ first :: (middle ++ [last]),
      ',' ∉ item.toList ∧ '\n' ∉ item.toList) :
    let items := first :: (middle ++ [last])
    let list := joined "," items
    let itemwise := joined "," (items.map fun item => escape (trim item))
    (BeginsCall first ∧ EndsCall last → escape list = list) ∧
    (¬ (BeginsCall first ∧ EndsCall last) → escape list = itemwise) ∧
    (escape list = itemwise ↔
      (BeginsCall first ∧ EndsCall last → ∀ item ∈ items, escape (trim item) = item)) := by
  intro items list itemwise
  have hcomma : ∀ item ∈ items, ',' ∉ item.toList := fun item hitem => (hitems item hitem).1
  have hcall := isFunctionCall_list fun item hitem => (hitems item hitem).2
  have hwhole (h : BeginsCall first ∧ EndsCall last) : escape list = list := by
    rw [escape, if_pos (hcall.2 h)]
  have hsplit (h : ¬ (BeginsCall first ∧ EndsCall last)) : escape list = itemwise :=
    escape_list (by simp [items]) hcomma (Bool.eq_false_iff.2 fun hlooks => h (hcall.1 hlooks))
  refine ⟨hwhole, hsplit, fun hsame h item hitem => ?_, fun hself => ?_⟩
  · have hescaped : ∀ name ∈ items.map (fun item => escape (trim item)), ',' ∉ name.toList := by
      intro name hname
      obtain ⟨item, hitem, rfl⟩ := List.mem_map.1 hname
      exact comma_not_mem_escape_trim (hcomma item hitem)
    have heach : items.map (fun item => escape (trim item)) = items.map id := by
      rw [List.map_id]
      exact eq_of_joined_eq (by simp [items]) (by simp [items]) hescaped hcomma
        (hsame.symm.trans (hwhole h))
    exact List.map_inj_left.1 heach item hitem
  · by_cases h : BeginsCall first ∧ EndsCall last
    · have hitemwise : itemwise = list := by
        have hmap : items.map (fun item => escape (trim item)) = items.map id :=
          List.map_congr_left (hself h)
        rw [List.map_id] at hmap
        exact congrArg (joined ",") hmap
      rw [hwhole h, hitemwise]
    · exact hsplit h

/-- A list that begins with a call and ends with a name is escaped item by item. -/
theorem escape_list_of_count :
    escape (joined "," ["COUNT(*)", " name", "users.id"]) = "COUNT(*),`name`,`users`.`id`" := by
  obtain ⟨-, hsplit, -⟩ := @escape_list_iff "COUNT(*)" "users.id" [" name"] (by decide)
  -- The last item has no parenthesis to close a call with.
  have hend : ¬ EndsCall "users.id" := fun h => absurd h.paren_mem (by decide)
  exact (hsplit fun h => hend h.2).trans (by decide)

/-- Between two calls, a name is left without backticks, and the list is not the one that comes of
escaping its items. -/
theorem calls_hide_name :
    let items := ["COUNT(*)", "name", "MAX(age)"]
    let itemwise := joined "," (items.map fun item => escape (trim item))
    escape (joined "," items) = "COUNT(*),name,MAX(age)" ∧
      itemwise = "COUNT(*),`name`,MAX(age)" ∧ escape (joined "," items) ≠ itemwise := by
  decide

end RowMapper.Sql
