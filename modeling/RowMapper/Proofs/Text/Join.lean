import RowMapper.Text.Join

/-!
# `RowMapper.Proofs.Text.Join`: joined texts and lists

`joined` on texts is what `List.intercalate` is on lists. Whatever turns lists into texts and
respects appending turns one into the other (`map_intercalate`), so a text that is assembled from
parts can be described by a list that is assembled in the same way.

`splitAt` takes a text apart again: `splitAt_append` cuts off the first piece, and `splitAt_joined`
gives back the parts of a joined text.
-/

set_option autoImplicit false

namespace RowMapper.Text

variable {α β : Type}

/-- A function from lists to texts that respects appending turns separated lists into joined
texts. -/
theorem map_intercalate (f : List α → String) (hnil : f [] = "")
    (happend : ∀ front back, f (front ++ back) = f front ++ f back) (separator : List α) :
    ∀ parts : List (List α),
      f (separator.intercalate parts) = joined (f separator) (parts.map f)
  | [] => by simp [hnil, joined]
  | [part] => by simp [joined]
  | part :: next :: rest => by
      have ih := map_intercalate f hnil happend separator (next :: rest)
      rw [List.map_cons] at ih
      rw [List.intercalate_cons_cons, happend, happend, ih, List.map_cons, List.map_cons, joined]

/-- A function between lists that respects appending and drops the separator turns separated lists
into their images one after the other. -/
theorem flatMap_intercalate (f : List α → List β) (hnil : f [] = [])
    (happend : ∀ front back, f (front ++ back) = f front ++ f back) (separator : List α)
    (hseparator : f separator = []) :
    ∀ parts : List (List α), f (separator.intercalate parts) = parts.flatMap f
  | [] => by simp [hnil]
  | [part] => by simp
  | part :: next :: rest => by
      have ih := flatMap_intercalate f hnil happend separator hseparator (next :: rest)
      simp only [List.intercalate_cons_cons, happend, hseparator, ih, List.append_nil,
        List.flatMap_cons]

/-- A list behind separated lists is separated from them as well. -/
theorem intercalate_concat (separator : List α) {parts : List (List α)} (h : parts ≠ [])
    (last : List α) :
    separator.intercalate (parts ++ [last]) = separator.intercalate parts ++ separator ++ last := by
  induction parts with
  | nil => exact absurd rfl h
  | cons part rest ih =>
      cases rest with
      | nil => simp
      | cons next rest =>
          rw [List.cons_append, List.cons_append, List.intercalate_cons_cons, ← List.cons_append,
            ih (List.cons_ne_nil next rest), List.intercalate_cons_cons]
          simp only [List.append_assoc]

/-- The characters of joined texts. -/
theorem toList_joined (separator : String) (parts : List String) :
    (joined separator parts).toList = separator.toList.intercalate (parts.map String.toList) := by
  have h := map_intercalate String.ofList rfl (fun _ _ => String.ofList_append)
    separator.toList (parts.map String.toList)
  simp only [List.map_map, Function.comp_def, String.ofList_toList, List.map_id'] at h
  rw [← h, String.toList_ofList]

/-- What is in separated lists is in the separator or in one of the lists. -/
theorem mem_intercalate {separator : List α} {x : α} :
    ∀ {parts : List (List α)}, x ∈ separator.intercalate parts →
      x ∈ separator ∨ ∃ part ∈ parts, x ∈ part
  | [], h => by simp at h
  | [part], h => .inr ⟨part, by simp, by simpa using h⟩
  | part :: next :: rest, h => by
      rw [List.intercalate_cons_cons, List.mem_append, List.mem_append] at h
      rcases h with (h | h) | h
      · exact .inr ⟨part, by simp, h⟩
      · exact .inl h
      · obtain h | ⟨found, hfound, h⟩ := mem_intercalate h
        · exact .inl h
        · exact .inr ⟨found, List.mem_cons_of_mem _ hfound, h⟩

/-- What is in joined texts is in the separator or in one of the parts. -/
theorem mem_joined {separator : String} {parts : List String} {c : Char}
    (h : c ∈ (joined separator parts).toList) :
    c ∈ separator.toList ∨ ∃ part ∈ parts, c ∈ part.toList := by
  rw [toList_joined] at h
  rcases mem_intercalate h with h | ⟨chars, hchars, h⟩
  · exact .inl h
  · obtain ⟨part, hpart, rfl⟩ := List.mem_map.1 hchars
    exact .inr ⟨part, hpart, h⟩

theorem not_mem_joined {separator : String} {parts : List String} {c : Char}
    (hseparator : c ∉ separator.toList) (hparts : ∀ part ∈ parts, c ∉ part.toList) :
    c ∉ (joined separator parts).toList := by
  intro h
  rcases mem_joined h with h | ⟨part, hpart, h⟩
  · exact hseparator h
  · exact hparts part hpart h

/-- A piece and the character behind it are cut off together. -/
theorem splitAt_append {c : Char} {piece : String} (h : c ∉ piece.toList) (rest : String) :
    splitAt c (piece ++ (String.singleton c ++ rest)) = piece :: splitAt c rest := by
  -- `splitAt` works on characters, where the law of a cut is known.
  have hchars : (piece ++ (String.singleton c ++ rest)).toList
      = piece.toList ++ c :: rest.toList := by simp
  rw [splitAt, hchars, List.splitOn_append_cons_self_of_not_mem h, List.map_cons,
    String.ofList_toList]
  rfl

/-- A text without the character is one piece. -/
theorem splitAt_of_not_mem {c : Char} {text : String} (h : c ∉ text.toList) :
    splitAt c text = [text] := by
  rw [splitAt, List.splitOn_eq_singleton h, List.map_singleton, String.ofList_toList]

/-- What is in a part is in the separated parts. -/
theorem mem_intercalate_of_mem {separator part : List α} {x : α} (hx : x ∈ part) :
    ∀ {parts : List (List α)}, part ∈ parts → x ∈ separator.intercalate parts
  | [], h => absurd h List.not_mem_nil
  | [only], h => by
      obtain rfl := List.mem_singleton.1 h
      simpa using hx
  | first :: next :: rest, h => by
      rw [List.intercalate_cons_cons, List.mem_append]
      rcases List.mem_cons.1 h with rfl | h
      · exact .inl (List.mem_append_left _ hx)
      · exact .inr (mem_intercalate_of_mem hx h)

/-- The pieces of a text hold characters of the text only. -/
theorem mem_of_mem_splitAt {c x : Char} {text piece : String} (hpiece : piece ∈ splitAt c text)
    (hx : x ∈ piece.toList) : x ∈ text.toList := by
  obtain ⟨chars, hchars, rfl⟩ := List.mem_map.1 hpiece
  rw [String.toList_ofList] at hx
  have hmem : x ∈ [c].intercalate (text.toList.splitOn c) := mem_intercalate_of_mem hx hchars
  rwa [List.intercalate_splitOn] at hmem

theorem not_mem_of_mem_splitOn {c : Char} {chars piece : List Char} (h : piece ∈ chars.splitOn c) :
    c ∉ piece := by
  induction chars generalizing piece with
  | nil =>
      rw [List.splitOn_nil] at h
      rw [List.mem_singleton.1 h]
      exact List.not_mem_nil
  | cons x rest ih =>
      rw [List.splitOn_cons_eq_if_modifyHead] at h
      split at h
      · rcases List.mem_cons.1 h with rfl | h
        · exact List.not_mem_nil
        · exact ih h
      · rename_i hother
        cases hrest : rest.splitOn c with
        | nil => exact absurd hrest (List.splitOn_ne_nil c rest)
        | cons first pieces =>
            rw [hrest] at h ih
            -- The character goes to the front of the first piece.
            rcases List.mem_cons.1 h with rfl | h
            · rw [List.mem_cons, not_or]
              exact ⟨fun hsame => hother (by simp [hsame]), ih List.mem_cons_self⟩
            · exact ih (List.mem_cons_of_mem _ h)

/-- The separating character is in none of the pieces. -/
theorem not_mem_of_mem_splitAt {c : Char} {text piece : String} (h : piece ∈ splitAt c text) :
    c ∉ piece.toList := by
  obtain ⟨chars, hchars, rfl⟩ := List.mem_map.1 h
  rw [String.toList_ofList]
  exact not_mem_of_mem_splitOn hchars

/-- The pieces of a text make up the text again. -/
theorem joined_splitAt (c : Char) (text : String) :
    joined (String.singleton c) (splitAt c text) = text := by
  refine String.toList_injective ?_
  have hchars : (splitAt c text).map String.toList = text.toList.splitOn c := by
    rw [splitAt, List.map_map]
    exact List.map_id'' (fun _ => String.toList_ofList) _
  rw [toList_joined, hchars, String.toList_singleton, List.intercalate_splitOn]

/-- Parts without the separating character are the pieces of their joined text. -/
theorem splitAt_joined {c : Char} {parts : List String} (hne : parts ≠ [])
    (h : ∀ part ∈ parts, c ∉ part.toList) :
    splitAt c (joined (String.singleton c) parts) = parts := by
  have hchars : ∀ chars ∈ parts.map String.toList, c ∉ chars := by
    intro chars hmem
    obtain ⟨part, hpart, rfl⟩ := List.mem_map.1 hmem
    exact h part hpart
  rw [splitAt, toList_joined, String.toList_singleton,
    List.splitOn_intercalate c hchars (by simpa using hne), List.map_map]
  simp [Function.comp_def]

theorem joined_cons (separator part : String) {rest : List String} (h : rest ≠ []) :
    joined separator (part :: rest) = part ++ separator ++ joined separator rest := by
  obtain ⟨next, rest, rfl⟩ := List.exists_cons_of_ne_nil h
  rw [joined]

theorem joined_concat (separator : String) {parts : List String} (h : parts ≠ []) (last : String) :
    joined separator (parts ++ [last]) = joined separator parts ++ separator ++ last := by
  refine String.toList_injective ?_
  simp only [toList_joined, List.map_append, List.map_singleton, String.toList_append]
  exact intercalate_concat separator.toList (by simpa using h) last.toList

/-- A longer separator is a shorter one with its rest in front of the next part. -/
theorem joined_append_pad (separator pad first : String) (rest : List String) :
    joined (separator ++ pad) (first :: rest)
      = joined separator (first :: rest.map fun part => pad ++ part) := by
  induction rest generalizing first with
  | nil => rfl
  | cons next rest ih =>
      rw [joined, ih, List.map_cons, joined]
      cases rest with
      | nil => simp only [joined, List.map_nil, String.append_assoc]
      | cons => simp only [joined, List.map_cons, String.append_assoc]

section Count

variable {c : Char} {separator : String}

/-- A character that is not in the separator is counted part by part. -/
theorem count_joined_append (hc : c ∉ separator.toList) (front back : List String) :
    (joined separator (front ++ back)).toList.count c
      = (joined separator front).toList.count c + (joined separator back).toList.count c := by
  have hnone : separator.toList.count c = 0 := List.count_eq_zero.2 hc
  induction front with
  | nil => simp [joined]
  | cons part rest ih =>
      rw [List.cons_append]
      cases rest with
      | nil =>
          cases back with
          | nil => simp [joined]
          | cons => simp [joined, hnone]
      | cons next rest =>
          rw [List.cons_append] at ih ⊢
          simp only [joined, String.toList_append, List.count_append, hnone, ih]
          omega

/-- A character that each part has once. -/
theorem count_joined_of_once (hc : c ∉ separator.toList) {parts : List String}
    (h : ∀ part ∈ parts, part.toList.count c = 1) :
    (joined separator parts).toList.count c = parts.length := by
  induction parts with
  | nil => simp [joined]
  | cons part rest ih =>
      obtain ⟨hpart, hrest⟩ := List.forall_mem_cons.1 h
      have hsplit := count_joined_append hc [part] rest
      rw [List.singleton_append, ih hrest, joined, hpart] at hsplit
      rw [hsplit, List.length_cons, Nat.add_comm]

end Count

/-! ### Parts that are joined in turn -/

/-- The parts in order, the separator behind each of them. -/
def terminated (separator : String) (parts : List String) : String :=
  String.join (parts.map (· ++ separator))

theorem terminated_cons (separator part : String) (parts : List String) :
    terminated separator (part :: parts) = part ++ separator ++ terminated separator parts := by
  simp [terminated]

theorem terminated_append (separator : String) (front back : List String) :
    terminated separator (front ++ back)
      = terminated separator front ++ terminated separator back := by
  simp [terminated]

theorem joined_append_separator (separator part : String) (rest : List String) :
    joined separator (part :: rest) ++ separator = terminated separator (part :: rest) := by
  induction rest generalizing part with
  | nil => simp [joined, terminated]
  | cons next rest ih => rw [joined, String.append_assoc, ih, ← terminated_cons]

/-- Joining what is joined already: each empty list among the parts leaves a separator of its
own. -/
theorem length_terminated_map_joined (separator : String) (lists : List (List String)) :
    (terminated separator (lists.map (joined separator))).length
      = (terminated separator lists.flatten).length
        + separator.length * lists.countP List.isEmpty := by
  induction lists with
  | nil => simp [terminated]
  | cons parts rest ih =>
      rw [List.map_cons, terminated_cons, List.flatten_cons, terminated_append,
        String.length_append, ih, String.length_append (terminated separator parts)]
      cases parts with
      | nil =>
          have hjoined : (joined separator [] ++ separator).length = separator.length := by
            simp [joined]
          have hterminated : (terminated separator []).length = 0 := by simp [terminated]
          rw [hjoined, hterminated, List.countP_cons_of_pos (by rfl), Nat.mul_succ]
          omega
      | cons part parts =>
          rw [joined_append_separator, List.countP_cons_of_neg (by simp), Nat.add_assoc]

theorem terminated_map_joined {separator : String} {lists : List (List String)}
    (h : ∀ parts ∈ lists, parts ≠ []) :
    terminated separator (lists.map (joined separator)) = terminated separator lists.flatten := by
  induction lists with
  | nil => rfl
  | cons parts rest ih =>
      obtain ⟨hparts, hrest⟩ := List.forall_mem_cons.1 h
      obtain ⟨part, parts, rfl⟩ := List.exists_cons_of_ne_nil hparts
      rw [List.map_cons, terminated_cons, joined_append_separator, ih hrest, List.flatten_cons,
        terminated_append]

/-- Joining what is joined already is joining all parts at once, if and only if no list of parts is
empty. -/
theorem joined_map_joined_iff {separator : String} (hseparator : separator ≠ "")
    {lists : List (List String)} (hparts : lists.flatten ≠ []) :
    joined separator (lists.map (joined separator)) = joined separator lists.flatten ↔
      ∀ parts ∈ lists, parts ≠ [] := by
  obtain ⟨part, parts, hflatten⟩ := List.exists_cons_of_ne_nil hparts
  obtain ⟨first, rest, rfl⟩ : ∃ first rest, lists = first :: rest := by
    cases lists with
    | nil => exact absurd rfl hparts
    | cons first rest => exact ⟨first, rest, rfl⟩
  -- Both sides are compared with the separator behind them, where the laws of appending hold.
  rw [← String.append_left_inj separator, hflatten, joined_append_separator, ← hflatten,
    List.map_cons, joined_append_separator, ← List.map_cons]
  constructor
  · intro hsame parts hmem hempty
    have hlength := length_terminated_map_joined separator (first :: rest)
    have hcount : 0 < (first :: rest).countP List.isEmpty :=
      List.countP_pos_iff.2 ⟨parts, hmem, by simp [hempty]⟩
    have hpositive : 0 < separator.length :=
      Nat.pos_of_ne_zero fun h => hseparator (String.length_eq_zero_iff.1 h)
    have := Nat.mul_pos hpositive hcount
    rw [hsame] at hlength
    omega
  · intro h
    exact terminated_map_joined h

theorem joined_map_joined {separator : String} (hseparator : separator ≠ "")
    {lists : List (List String)} (h : ∀ parts ∈ lists, parts ≠ []) :
    joined separator (lists.map (joined separator)) = joined separator lists.flatten := by
  by_cases hparts : lists.flatten = []
  · have hnone : lists = [] := by
      refine List.eq_nil_iff_forall_not_mem.2 fun parts hmem => h parts hmem ?_
      exact List.flatten_eq_nil_iff.1 hparts parts hmem
    rw [hnone]
    rfl
  · exact (joined_map_joined_iff hseparator hparts).2 h

end RowMapper.Text
