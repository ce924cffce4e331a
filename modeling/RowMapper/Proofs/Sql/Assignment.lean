import RowMapper.Proofs.Sql.Slots
import RowMapper.Row
import RowMapper.Sql.Change

/-!
# `RowMapper.Proofs.Sql.Assignment`: what an UPDATE does to a row

A database that gets an UPDATE reads the columns from its text and takes their values from the
parameters (`assigned?`), and then assigns them to the row (`Row.assignAll`).

* `assigned?_statement`: from the statement of an `Update` with plain column names, it reads these
  names and the assigned values in the form for binding.
* `Row.get?_assignAll_of_mem`, `Row.get?_assignAll_of_not_mem`: an assigned column has its new
  value, and every other column what it had.
-/

set_option autoImplicit false

namespace RowMapper

/-! ### Entries by name -/

theorem lookup_map_values (f : String → Value → Value) (column : String)
    (entries : List (String × Value)) :
    (entries.map fun entry => (entry.1, f entry.1 entry.2)).lookup column
      = (entries.lookup column).map (f column) := by
  induction entries with
  | nil => rfl
  | cons entry rest ih =>
      rw [List.map_cons, List.lookup_cons, List.lookup_cons, ih]
      by_cases hcolumn : column = entry.1
      · simp [hcolumn]
      · simp [beq_false_of_ne hcolumn]

theorem lookup_eq_none_of_not_mem {pairs : List (String × Value)} {name : String}
    (h : name ∉ pairs.map (·.1)) : pairs.lookup name = none := by
  rw [List.lookup_eq_none_iff]
  intro pair hpair
  exact bne_iff_ne.2 fun hsame => h (List.mem_map.2 ⟨pair, hpair, hsame.symm⟩)

theorem mem_of_lookup {pairs : List (String × Value)} {name : String} {value : Value}
    (h : pairs.lookup name = some value) : (name, value) ∈ pairs := by
  obtain ⟨before, after, rfl, -⟩ := List.lookup_eq_some_iff.1 h
  exact List.mem_append_right before List.mem_cons_self

theorem mem_names_of_lookup {pairs : List (String × Value)} {name : String} {value : Value}
    (h : pairs.lookup name = some value) : name ∈ pairs.map (·.1) :=
  List.mem_map.2 ⟨_, mem_of_lookup h, rfl⟩

theorem lookup_of_mem {entries : List (String × Value)} {name : String} {value : Value}
    (hdistinct : (entries.map (·.1)).Nodup) (hmem : (name, value) ∈ entries) :
    entries.lookup name = some value := by
  induction entries with
  | nil => cases hmem
  | cons entry rest ih =>
      obtain ⟨hfresh, hrest⟩ := List.nodup_cons.1 hdistinct
      rcases List.mem_cons.1 hmem with rfl | hmem
      · exact List.lookup_cons_self
      · have hne : name ≠ entry.1 := by
          rintro rfl
          exact hfresh (List.mem_map.2 ⟨_, hmem, rfl⟩)
        rw [List.lookup_cons, beq_false_of_ne hne]
        exact ih hrest hmem

/-! ### Rows -/

namespace Row

/-- The row with another value in a column. A column that the row does not have is not added. -/
def assign (row : Row) (column : String) (value : Value) : Row :=
  ⟨row.columns.map fun (name, held) => (name, if name = column then value else held)⟩

/-- The row with other values in several columns, assigned one after the other. -/
def assignAll (row : Row) (pairs : List (String × Value)) : Row :=
  pairs.foldl (fun row (column, value) => row.assign column value) row

theorem get?_assign (row : Row) (column : String) (value : Value) (other : String) :
    (row.assign column value).get? other
      = if other = column then (row.get? other).map (fun _ => value) else row.get? other := by
  have h := lookup_map_values (fun name held => if name = column then value else held) other
    row.columns.reverse
  rw [get?, get?, assign, ← List.map_reverse]
  refine h.trans ?_
  by_cases hcolumn : other = column <;> simp [hcolumn]

/-- A column that is not assigned keeps its value. -/
theorem get?_assignAll_of_not_mem {column : String} {pairs : List (String × Value)} (row : Row)
    (h : column ∉ pairs.map (·.1)) : (row.assignAll pairs).get? column = row.get? column := by
  induction pairs generalizing row with
  | nil => rfl
  | cons pair rest ih =>
      rw [List.map_cons, List.mem_cons, not_or] at h
      show ((row.assign pair.1 pair.2).assignAll rest).get? column = _
      rw [ih _ h.2, get?_assign, if_neg h.1]

/-- Assigning to distinct columns replaces their values and leaves all else in its place. -/
theorem columns_assignAll {pairs : List (String × Value)} (row : Row)
    (hdistinct : (pairs.map (·.1)).Nodup) : (row.assignAll pairs).columns
      = row.columns.map fun entry => (entry.1, (pairs.lookup entry.1).getD entry.2) := by
  induction pairs generalizing row with
  | nil => simp [assignAll]
  | cons pair rest ih =>
      obtain ⟨column, value⟩ := pair
      obtain ⟨hfresh, hrest⟩ := List.nodup_cons.1 hdistinct
      show ((row.assign column value).assignAll rest).columns = _
      rw [ih _ hrest, assign, List.map_map]
      refine List.map_congr_left fun entry _ => ?_
      by_cases hname : entry.1 = column
      · -- No later assignment is to this column again.
        simp [hname, lookup_eq_none_of_not_mem hfresh]
      · simp [List.lookup_cons, beq_false_of_ne hname, hname]

/-- What a row has after assignments to distinct columns. -/
theorem get?_assignAll {pairs : List (String × Value)} (row : Row)
    (hdistinct : (pairs.map (·.1)).Nodup) (column : String) : (row.assignAll pairs).get? column
      = (row.get? column).map fun held => (pairs.lookup column).getD held := by
  have h := lookup_map_values (fun name held => (pairs.lookup name).getD held) column
    row.columns.reverse
  rw [get?, columns_assignAll row hdistinct, ← List.map_reverse, h, ← get?]

/-- An assigned column has its new value, if the row has the column at all. -/
theorem get?_assignAll_of_mem {column : String} {value : Value} {pairs : List (String × Value)}
    (row : Row) (hdistinct : (pairs.map (·.1)).Nodup) (hmem : (column, value) ∈ pairs)
    (hhas : (row.get? column).isSome) : (row.assignAll pairs).get? column = some value := by
  obtain ⟨held, hheld⟩ := Option.isSome_iff_exists.1 hhas
  rw [get?_assignAll row hdistinct, hheld, lookup_of_mem hdistinct hmem]
  rfl

/-- The row without a column. -/
def without (row : Row) (column : Option String) : Row :=
  ⟨row.columns.filter fun entry => some entry.1 ≠ column⟩

/-- Assignments that have at most one column in common may be made in either order, as far as the
other columns are concerned. -/
theorem assignAll_comm {first second : List (String × Value)} (row : Row)
    (hfirst : (first.map (·.1)).Nodup) (hsecond : (second.map (·.1)).Nodup) {common : Option String}
    (hcommon : ∀ name ∈ first.map (·.1), name ∈ second.map (·.1) → some name = common) :
    ((row.assignAll first).assignAll second).without common
      = ((row.assignAll second).assignAll first).without common := by
  have hcolumns : ∀ entry ∈ row.columns.filter (fun entry => some entry.1 ≠ common),
      (second.lookup entry.1).getD ((first.lookup entry.1).getD entry.2)
        = (first.lookup entry.1).getD ((second.lookup entry.1).getD entry.2) := by
    intro entry hentry
    have hother : some entry.1 ≠ common := by simpa using (List.mem_filter.1 hentry).2
    cases hf : first.lookup entry.1 with
    | none => rfl
    | some value =>
        cases hs : second.lookup entry.1 with
        | none => rfl
        | some value' =>
            exact absurd (hcommon _ (mem_names_of_lookup hf) (mem_names_of_lookup hs)) hother
  unfold without
  rw [columns_assignAll _ hsecond, columns_assignAll _ hfirst, columns_assignAll _ hfirst,
    columns_assignAll _ hsecond, List.map_map, List.map_map, List.filter_map, List.filter_map]
  refine congrArg Row.mk (List.map_congr_left fun entry hentry => ?_)
  exact Prod.ext rfl (hcolumns entry hentry)

end Row

namespace Sql

open RowMapper.Text

/-! ### Plain names -/

/-- A column name with no special characters: it is no list, no qualified name, no star and no
function call, and is one word. -/
def PlainName (name : String) : Prop :=
  ∀ c ∈ name.toList, c ∉ [' ', ',', '.', '*', '(', '`']

instance (name : String) : Decidable (PlainName name) :=
  inferInstanceAs (Decidable (∀ c ∈ name.toList, c ∉ [' ', ',', '.', '*', '(', '`']))

/-- A column name in backticks. -/
def backticked (name : String) : String :=
  "`" ++ name ++ "`"

theorem isFunctionCall_of_no_paren {text : String} (h : '(' ∉ text.toList) :
    isFunctionCall text = false := by
  have hskip : '(' ∉ skipBlanks text.toList := fun hmem =>
    h ((List.dropWhile_sublist _).mem hmem)
  unfold isFunctionCall
  cases htext : skipBlanks text.toList with
  | nil => rfl
  | cons c rest =>
      rw [htext, List.mem_cons, not_or] at hskip
      have hinner : '(' ∉ skipBlanks (rest.dropWhile isNameChar) := fun hmem =>
        hskip.2 ((List.dropWhile_sublist _).mem ((List.dropWhile_sublist _).mem hmem))
      rw [isCallChars]
      split
      · rename_i inside heq
        rw [heq] at hinner
        simp at hinner
      · simp

/-- A plain name is escaped by backticks. -/
theorem escape_of_plain {name : String} (h : PlainName name) : escape name = backticked name := by
  have hnot (c : Char) (hc : c ∈ [' ', ',', '.', '*', '(', '`']) : c ∉ name.toList :=
    fun hmem => h c hmem hc
  -- `escape` looks for a call, a comma, a dot, a star and two literals with a blank in them.
  have hcall := isFunctionCall_of_no_paren (hnot '(' (by simp))
  have hdoubleBlank : name ≠ "\" \"" := by
    rintro rfl
    exact hnot ' ' (by simp) (by decide)
  have hsingleBlank : name ≠ "' '" := by
    rintro rfl
    exact hnot ' ' (by simp) (by decide)
  simp [escape, escapeName, escapeSegment, backticked, hcall, hnot ',' (by simp),
    hnot '.' (by simp), hnot '*' (by simp), hdoubleBlank, hsingleBlank]

theorem backticked_injective {first second : String} (h : backticked first = backticked second) :
    first = second := by
  simpa [backticked] using h

theorem put_of_not_mem {column : String} {value : Value} {assignments : Assignments}
    (h : column ∉ assignments.columns) :
    Assignments.put column value assignments = assignments ++ [(column, value)] := by
  induction assignments with
  | nil => rfl
  | cons entry rest ih =>
      obtain ⟨hfirst, hrest⟩ := not_or.1 (fun hor => h (List.mem_cons.2 hor))
      rw [Assignments.put, if_neg (Ne.symm hfirst), ih hrest, List.cons_append]

/-- Values assigned to distinct plain names stand in the order in which they were assigned. -/
theorem setAll_of_plain {assignments : Assignments} {pairs : List (String × Value)}
    (hplain : ∀ pair ∈ pairs, PlainName pair.1) (hdistinct : (pairs.map (·.1)).Nodup)
    (hfresh : ∀ pair ∈ pairs, backticked pair.1 ∉ assignments.columns) :
    assignments.setAll pairs
      = assignments ++ pairs.map fun (name, value) => (backticked name, value) := by
  induction pairs generalizing assignments with
  | nil => simp [Assignments.setAll]
  | cons pair rest ih =>
      obtain ⟨hfirst, hrest⟩ := List.forall_mem_cons.1 hplain
      obtain ⟨hnew, hdistinct⟩ := List.nodup_cons.1 hdistinct
      obtain ⟨hfreshFirst, hfreshRest⟩ := List.forall_mem_cons.1 hfresh
      show (assignments.set pair.1 pair.2).setAll rest = _
      rw [Assignments.set, escape_of_plain hfirst, put_of_not_mem hfreshFirst,
        ih hrest hdistinct ?_, List.append_assoc]
      · rfl
      · intro other hother hmem
        rw [Assignments.columns, List.map_append, List.mem_append] at hmem
        -- The column just assigned is fresh for the rest, as the names are distinct.
        rcases hmem with hmem | hmem
        · exact hfreshRest other hother hmem
        · have hsame := backticked_injective (List.mem_singleton.1 hmem)
          exact hnew (List.mem_map.2 ⟨other, hother, hsame⟩)

/-! ### The columns of an UPDATE -/

/-- The name of a column without its backticks. -/
def bareName (column : String) : String :=
  String.ofList (column.toList.filter (· != '`'))

/-- The columns that the words behind `SET` assign parameters to. -/
def setColumns? : List String → Option (List String)
  | column :: "=" :: "?," :: rest => (setColumns? rest).map (bareName column :: ·)
  | column :: "=" :: "?" :: "WHERE" :: _ => some [bareName column]
  | _ => none

/-- The columns of the table that a statement assigns values to, with these values; none if it is
not an UPDATE of the table. -/
def assigned? (table : String) (statement : Statement) : Option (List (String × Value)) :=
  let opening := "UPDATE " ++ table ++ " SET "
  if opening.toList.isPrefixOf statement.sql.toList then
    let words := splitAt ' ' (String.ofList (statement.sql.toList.drop opening.toList.length))
    (setColumns? words).map fun columns => columns.zip statement.params
  else none

theorem bareName_of_not_mem {text : String} (h : '`' ∉ text.toList) : bareName text = text := by
  have hkeep : text.toList.filter (· != '`') = text.toList := by
    rw [List.filter_eq_self]
    intro c hc
    exact bne_iff_ne.2 (ne_of_mem_of_not_mem hc h)
  rw [bareName, hkeep, String.ofList_toList]

theorem bareName_append (front back : String) :
    bareName (front ++ back) = bareName front ++ bareName back := by
  simp only [bareName, String.toList_append, List.filter_append, String.ofList_append]

theorem bareName_backticked {name : String} (h : '`' ∉ name.toList) :
    bareName (backticked name) = name := by
  have hmark : bareName "`" = "" := by decide
  rw [backticked, bareName_append, bareName_append, hmark, bareName_of_not_mem h,
    String.empty_append, String.append_empty]

/-- A word and a blank are cut off together. -/
theorem splitAt_word {word : String} (h : ' ' ∉ word.toList) (rest : String) :
    splitAt ' ' (word ++ (" " ++ rest)) = word :: splitAt ' ' rest := by
  have hblank : " " = String.singleton ' ' := by decide
  rw [hblank, splitAt_append h]

/-- Nothing but backticks is added to a plain name. -/
theorem PlainName.not_mem_backticked {name : String} {c : Char} (h : PlainName name)
    (hc : c ∈ [' ', ',', '.', '*', '(']) : c ∉ (backticked name).toList := by
  have hmark : c ∉ "`".toList := by
    intro hmark
    rw [List.mem_singleton.1 hmark] at hc
    exact absurd hc (by decide)
  intro hmem
  simp only [backticked, String.toList_append, List.mem_append] at hmem
  rcases hmem with (hmem | hmem) | hmem
  · exact hmark hmem
  · exact h c hmem (List.mem_append_left ['`'] hc)
  · exact hmark hmem

/-- The words of an assignment, up to what follows it. -/
theorem splitAt_assignment {column mark separator : String} (hcolumn : PlainName column)
    (hmark : ' ' ∉ mark.toList) (hseparator : placeholder ++ separator = mark ++ " ")
    (rest : String) :
    splitAt ' ' (backticked column ++ " = " ++ placeholder ++ (separator ++ rest))
      = backticked column :: "=" :: mark :: splitAt ' ' rest := by
  have htext : backticked column ++ " = " ++ placeholder ++ (separator ++ rest)
      = backticked column ++ (" " ++ ("=" ++ (" " ++ (mark ++ (" " ++ rest))))) := by
    have hequals : " = " = " " ++ ("=" ++ " ") := by decide
    calc backticked column ++ " = " ++ placeholder ++ (separator ++ rest)
        = backticked column ++ (" = " ++ ((placeholder ++ separator) ++ rest)) := by
          simp only [String.append_assoc]
      _ = backticked column ++ (" " ++ ("=" ++ (" " ++ (mark ++ (" " ++ rest))))) := by
          rw [hseparator, hequals]
          simp only [String.append_assoc]
  rw [htext, splitAt_word (hcolumn.not_mem_backticked (by simp)), splitAt_word (by decide),
    splitAt_word hmark]

/-- The columns are read back from the words that assign placeholders to them. -/
theorem setColumns?_words (condition : String) : ∀ columns : List String, columns ≠ [] →
    (∀ column ∈ columns, PlainName column) →
    setColumns? (splitAt ' ' (joined ", " (columns.map fun column =>
      backticked column ++ " = " ++ placeholder) ++ (" WHERE " ++ condition))) = some columns
  | [], hne, _ => absurd rfl hne
  | [column], _, hplain => by
      have hcolumn := hplain column List.mem_cons_self
      have hwhere : " WHERE " ++ condition = " " ++ ("WHERE" ++ (" " ++ condition)) := by
        rw [← String.append_assoc, ← String.append_assoc]
        rfl
      have hmark : placeholder ++ " " = "?" ++ " " := rfl
      rw [List.map_cons, List.map_nil, joined, hwhere,
        splitAt_assignment hcolumn (by decide) hmark, splitAt_word (by decide), setColumns?,
        bareName_backticked fun hmem => hcolumn _ hmem (by simp)]
  | column :: next :: rest, _, hplain => by
      obtain ⟨hcolumn, hrest⟩ := List.forall_mem_cons.1 hplain
      have ih := setColumns?_words condition (next :: rest) (List.cons_ne_nil _ _) hrest
      rw [List.map_cons] at ih
      have hmark : placeholder ++ ", " = "?," ++ " " := by decide
      rw [List.map_cons, List.map_cons, joined, String.append_assoc, String.append_assoc,
        splitAt_assignment hcolumn (by decide) hmark, setColumns?, ih, Option.map_some,
        bareName_backticked fun hmem => hcolumn _ hmem (by simp)]

/-- A statement that begins as an UPDATE of the table assigns what stands behind that. -/
theorem assigned?_of_opening {table rest : String} {params : List Value} {columns : List String}
    (h : setColumns? (splitAt ' ' rest) = some columns) :
    assigned? table ⟨"UPDATE " ++ table ++ " SET " ++ rest, params⟩
      = some (columns.zip params) := by
  have hchars : ("UPDATE " ++ table ++ " SET " ++ rest).toList
      = ("UPDATE " ++ table ++ " SET ").toList ++ rest.toList := String.toList_append
  have hopens := List.isPrefixOf_iff_prefix.2
    (List.prefix_append ("UPDATE " ++ table ++ " SET ").toList rest.toList)
  simp only [assigned?, hchars, hopens, if_true, List.drop_left, String.ofList_toList, h,
    Option.map_some]

theorem zip_map_append {α β γ : Type} (f : α → β) (g : α → γ) (items : List α) (rest : List γ) :
    (items.map f).zip (items.map g ++ rest) = items.map fun item => (f item, g item) := by
  induction items with
  | nil => simp
  | cons item items ih => simp [ih]

/-- From the statement of an UPDATE with plain columns, a database reads these columns and the
assigned values. The parameters behind these values belong to the condition. -/
theorem assigned?_statement {table : String} {pairs : List (String × Value)}
    (condition : Predicate) (hne : pairs ≠ []) (hplain : ∀ pair ∈ pairs, PlainName pair.1) :
    assigned? table (Update.statement
        ⟨some table, pairs.map fun (name, value) => (backticked name, value), some condition⟩)
      = some (pairs.map fun (name, value) => (name, value.bound)) := by
  have hcolumns := setColumns?_words
    (Fragment.fill (fun _ => placeholder) condition.fragments ++ ";") (pairs.map (·.1))
    (by simpa using hne) (by simpa using fun name value h => hplain (name, value) h)
  have hparams := zip_map_append (·.1) (·.2.bound) pairs (condition.values.map Value.bound)
  unfold Update.statement
  simp only [bindWhere, condition.bind_eq_fill, Option.getD_some, String.append_assoc,
    Assignments.values, List.map_map, Function.comp_def]
  rw [← hparams, ← String.append_assoc, ← String.append_assoc]
  refine assigned?_of_opening ?_
  simpa only [List.map_map, Function.comp_def, String.append_assoc] using hcolumns

end Sql

end RowMapper
