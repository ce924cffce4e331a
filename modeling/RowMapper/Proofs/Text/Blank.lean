import RowMapper.Text.Blank

/-!
# `RowMapper.Proofs.Text.Blank`: texts without the blanks around them

Trimming takes off the blanks at both ends and nothing else: a text is what is left with blanks
around it (`exists_trimChars`), and blanks around a text that has none at its own ends are gone
(`trimChars_append`). Two texts may be the same but for the blanks in them (`SameUpToBlanks`).
-/

set_option autoImplicit false

namespace RowMapper.Text

theorem isBlank_of_isDigit {c : Char} (h : c.isDigit = true) : isBlank c = false := by
  have hrange : 48 ≤ c.toNat ∧ c.toNat ≤ 57 := by
    simpa [Char.isDigit, UInt32.le_iff_toNat_le] using h
  unfold isBlank
  dsimp only
  have h1 : c.toNat ≠ 0x20 ∧ c.toNat ≠ 0x85 ∧ c.toNat ≠ 0xA0 ∧ c.toNat ≠ 0x1680 ∧
      c.toNat ≠ 0x2028 ∧ c.toNat ≠ 0x2029 ∧ c.toNat ≠ 0x202F ∧ c.toNat ≠ 0x205F ∧
      c.toNat ≠ 0x3000 := by omega
  simp
  omega

theorem mem_of_mem_trim {text : String} {c : Char} (h : c ∈ (trim text).toList) :
    c ∈ text.toList := by
  rw [trim, String.toList_ofList] at h
  have hskip := (List.dropWhile_sublist _).mem (List.mem_reverse.1 h)
  exact (List.dropWhile_sublist _).mem (List.mem_reverse.1 hskip)

/-- Only blanks are taken off. -/
theorem exists_trimChars (text : List Char) :
    ∃ front back, text = front ++ (trimChars text ++ back) ∧ (∀ c ∈ front, isBlank c = true) ∧
      ∀ c ∈ back, isBlank c = true := by
  have hrun (chars : List Char) : ∀ c ∈ chars.takeWhile isBlank, isBlank c = true :=
    List.all_eq_true.1 List.all_takeWhile
  obtain ⟨trailing, htrailing⟩ :
      ∃ trailing, (skipBlanks text).reverse.takeWhile isBlank = trailing := ⟨_, rfl⟩
  have hback : skipBlanks text = trimChars text ++ trailing.reverse := by
    rw [trimChars, dropTrailingBlanks, ← htrailing, ← List.reverse_append,
      List.takeWhile_append_dropWhile, List.reverse_reverse]
  refine ⟨text.takeWhile isBlank, trailing.reverse, ?_, hrun text, fun c hc => ?_⟩
  · rw [← hback, skipBlanks, List.takeWhile_append_dropWhile]
  · rw [← htrailing, List.mem_reverse] at hc
    exact hrun _ c hc

/-- Blanks around a text that has none at its own ends are taken off. -/
theorem trimChars_append (front text back : List Char) (hfront : ∀ c ∈ front, isBlank c = true)
    (hback : ∀ c ∈ back, isBlank c = true) (hfirst : ∀ c ∈ text.head?, isBlank c = false)
    (hlast : ∀ c ∈ text.getLast?, isBlank c = false) :
    trimChars (front ++ (text ++ back)) = text := by
  have hskip {chars : List Char} (h : ∀ c ∈ chars.head?, isBlank c = false) :
      chars.dropWhile isBlank = chars := by
    cases chars with
    | nil => rfl
    | cons c rest => exact List.dropWhile_cons_of_neg (by simp [h c (by simp)])
  have htrailing : dropTrailingBlanks (text ++ back) = text := by
    rw [dropTrailingBlanks, List.reverse_append,
      List.dropWhile_append_of_pos fun c hc => hback c (List.mem_reverse.1 hc),
      hskip (by simpa using hlast), List.reverse_reverse]
  rw [trimChars, skipBlanks, List.dropWhile_append_of_pos hfront]
  cases text with
  | nil =>
      have hnone : (back ++ []).dropWhile isBlank = [] := List.dropWhile_append_of_pos hback
      rw [List.nil_append, ← List.append_nil back, hnone]
      rfl
  | cons c rest => rw [hskip (by simpa using hfirst), htrailing]

/-- Blanks in front of a text without blanks are taken off. -/
theorem trim_append {front text : String} (hfront : ∀ c ∈ front.toList, isBlank c = true)
    (htext : ∀ c ∈ text.toList, isBlank c = false) : trim (front ++ text) = text := by
  have hchars := trimChars_append front.toList text.toList [] hfront (by simp)
    (fun c hc => htext c (List.mem_of_mem_head? hc))
    (fun c hc => htext c (List.mem_of_mem_getLast? hc))
  rw [List.append_nil] at hchars
  rw [trim, String.toList_append, hchars, String.ofList_toList]

theorem trim_of_no_blank {text : String} (h : ∀ c ∈ text.toList, isBlank c = false) :
    trim text = text := by
  have hfront : ∀ c ∈ "".toList, isBlank c = true := by simp
  have htrim := trim_append hfront h
  rwa [String.empty_append] at htrim

/-- The two texts are the same once all blanks are left out. -/
def SameUpToBlanks (first second : String) : Prop :=
  first.toList.filter (fun c => !isBlank c) = second.toList.filter fun c => !isBlank c

instance (first second : String) : Decidable (SameUpToBlanks first second) :=
  inferInstanceAs (Decidable (_ = _))

/-- Texts that are the same but for blanks have every other character equally often. -/
theorem SameUpToBlanks.count_eq {first second : String} (h : SameUpToBlanks first second)
    {c : Char} (hc : isBlank c = false) : first.toList.count c = second.toList.count c := by
  have hkeep (chars : List Char) :
      (chars.filter fun c => !isBlank c).count c = chars.count c :=
    List.count_filter (by simp [hc])
  rw [← hkeep, h, hkeep]

end RowMapper.Text
