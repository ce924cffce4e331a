import RowMapper.Sql.FunctionCall

/-!
# `RowMapper.Proofs.Sql.FunctionCall`: the shape of a function call

A function call has three parts: an opening, which is a name and a parenthesis (`OpensCall`), a row
of characters on one line, and a closing, which is a parenthesis (`ClosesCall`). Blanks may stand
before the name, behind it, and behind the closing. `isFunctionCall_iff` is the recogniser against
this grammar; which closing parenthesis is the last is all that counts inside.
-/

set_option autoImplicit false

namespace RowMapper.Sql

open RowMapper.Text

/-- The characters are a name. -/
def IsName (chars : List Char) : Prop :=
  ∃ first rest, chars = first :: rest ∧ isNameStart first = true ∧ ∀ c ∈ rest, isNameChar c = true

/-- The characters are the opening of a call, up to its parenthesis. -/
def OpensCall (chars : List Char) : Prop :=
  ∃ before name between, chars = before ++ (name ++ (between ++ ['('])) ∧
    (∀ c ∈ before, isBlank c = true) ∧ IsName name ∧ ∀ c ∈ between, isBlank c = true

/-- The characters are the closing of a call, from its parenthesis on. -/
def ClosesCall (chars : List Char) : Prop :=
  ∃ behind, chars = ')' :: behind ∧ ∀ c ∈ behind, isBlank c = true

/-! ### Characters -/

theorem isNameChar_of_isNameStart {c : Char} (h : isNameStart c = true) : isNameChar c = true := by
  unfold isNameStart at h
  unfold isNameChar Char.isAlphanum
  rcases Bool.or_eq_true_iff.1 h with h | h <;> simp [h]

/-- No character of a name is blank. -/
theorem isBlank_of_isNameChar {c : Char} (h : isNameChar c = true) : isBlank c = false := by
  have hrange : (65 ≤ c.toNat ∧ c.toNat ≤ 90) ∨ (97 ≤ c.toNat ∧ c.toNat ≤ 122) ∨
      (48 ≤ c.toNat ∧ c.toNat ≤ 57) ∨ c.toNat = 95 := by
    have hmark (hsame : c = '_') : c.toNat = 95 := by rw [hsame]; rfl
    unfold isNameChar Char.isAlphanum Char.isAlpha Char.isUpper Char.isLower Char.isDigit at h
    simp only [Bool.or_eq_true, Bool.and_eq_true, decide_eq_true_eq, beq_iff_eq,
      UInt32.le_iff_toNat_le, ge_iff_le] at h
    rcases h with ((h | h) | h) | h
    · exact .inl h
    · exact .inr (.inl h)
    · exact .inr (.inr (.inl h))
    · exact .inr (.inr (.inr (hmark h)))
  unfold isBlank
  simp
  omega

/-- A run of characters that are dropped ends with the first one that is not. -/
theorem dropWhile_run {p : Char → Bool} {run rest : List Char} {c : Char}
    (hrun : ∀ c ∈ run, p c = true) (hc : p c = false) :
    (run ++ c :: rest).dropWhile p = c :: rest := by
  rw [List.dropWhile_append_of_pos hrun]
  exact List.dropWhile_cons_of_neg (by simp [hc])

theorem of_mem_takeWhile {p : Char → Bool} {chars : List Char} {c : Char}
    (h : c ∈ chars.takeWhile p) : p c = true :=
  List.all_eq_true.1 List.all_takeWhile c h

/-! ### The recogniser -/

theorem closesCall_iff (text : List Char) : closesCall text = true ↔
    ∃ inside closing, text = inside ++ closing ∧ '\n' ∉ inside ∧ ClosesCall closing := by
  constructor
  · intro h
    unfold closesCall at h
    split at h
    · rename_i inside hclosing
      -- Read from its end, the text is blanks, the parenthesis and what is inside.
      have hreverse : text.reverse = text.reverse.takeWhile isBlank ++ ')' :: inside := by
        rw [← hclosing, List.takeWhile_append_dropWhile]
      have htext := congrArg List.reverse hreverse
      rw [List.reverse_reverse, List.reverse_append, List.reverse_cons, List.append_assoc] at htext
      refine ⟨inside.reverse, _, htext, by simpa using h, _, rfl, fun c hc => ?_⟩
      exact of_mem_takeWhile (List.mem_reverse.1 hc)
    · contradiction
  · rintro ⟨inside, closing, rfl, hline, behind, rfl, hbehind⟩
    have hdrop : (inside ++ ')' :: behind).reverse.dropWhile isBlank = ')' :: inside.reverse := by
      rw [List.reverse_append, List.reverse_cons, List.append_assoc]
      exact dropWhile_run (fun c hc => hbehind c (List.mem_reverse.1 hc)) (by decide)
    unfold closesCall
    rw [hdrop]
    simpa using hline

/-- The recogniser finds the opening, if there is one, and looks for the closing behind it. -/
theorem isCallChars_iff (chars : List Char) : isCallChars (skipBlanks chars) = true ↔
    ∃ opening rest, chars = opening ++ rest ∧ OpensCall opening ∧ closesCall rest = true := by
  constructor
  · intro h
    cases hskip : skipBlanks chars with
    | nil => rw [hskip] at h; contradiction
    | cons first named =>
        rw [hskip, isCallChars, Bool.and_eq_true] at h
        obtain ⟨hfirst, h⟩ := h
        split at h
        · rename_i inside hinside
          have hchars : chars = chars.takeWhile isBlank ++ first :: named := by
            rw [← hskip, skipBlanks, List.takeWhile_append_dropWhile]
          have hgap : named.dropWhile isNameChar
              = (named.dropWhile isNameChar).takeWhile isBlank ++ '(' :: inside := by
            rw [← hinside, skipBlanks, List.takeWhile_append_dropWhile]
          have hnamed : named = named.takeWhile isNameChar ++
              ((named.dropWhile isNameChar).takeWhile isBlank ++ '(' :: inside) := by
            rw [← hgap, List.takeWhile_append_dropWhile]
          refine ⟨_, inside, ?_, ⟨chars.takeWhile isBlank, first :: named.takeWhile isNameChar,
            (named.dropWhile isNameChar).takeWhile isBlank, rfl, fun c => of_mem_takeWhile,
            ⟨first, _, rfl, hfirst, fun c => of_mem_takeWhile⟩, fun c => of_mem_takeWhile⟩, h⟩
          simp only [List.append_assoc, List.cons_append, List.nil_append]
          rw [← hnamed]
          exact hchars
        · contradiction
  · rintro ⟨_, rest, rfl, ⟨before, name, between, rfl, hbefore, ⟨first, named, rfl, hfirst, hnamed⟩,
      hbetween⟩, hrest⟩
    have hblank : isBlank first = false := isBlank_of_isNameChar (isNameChar_of_isNameStart hfirst)
    have hskip : skipBlanks (before ++ (first :: named ++ (between ++ ['('])) ++ rest)
        = first :: (named ++ (between ++ '(' :: rest)) := by
      simp only [List.append_assoc, List.cons_append, List.nil_append]
      exact dropWhile_run hbefore hblank
    have hname : (named ++ (between ++ '(' :: rest)).dropWhile isNameChar
        = between ++ '(' :: rest := by
      -- Behind the name stands the parenthesis or a blank.
      cases between with
      | nil => exact dropWhile_run hnamed (by decide)
      | cons blank between =>
          refine dropWhile_run hnamed (Bool.eq_false_iff.2 fun hchar => ?_)
          have hspace := hbetween blank List.mem_cons_self
          rw [isBlank_of_isNameChar hchar] at hspace
          contradiction
    have hgap : skipBlanks (between ++ '(' :: rest) = '(' :: rest :=
      dropWhile_run hbetween (by decide)
    rw [hskip, isCallChars, hname, hgap, hfirst]
    exact hrest

/-- A text has the shape of a function call if and only if it is an opening, characters on one line,
and a closing. -/
theorem isFunctionCall_iff (text : String) : isFunctionCall text = true ↔
    ∃ opening inside closing, text.toList = opening ++ (inside ++ closing) ∧ OpensCall opening ∧
      '\n' ∉ inside ∧ ClosesCall closing := by
  rw [isFunctionCall, isCallChars_iff]
  constructor
  · rintro ⟨opening, rest, htext, hopening, hrest⟩
    obtain ⟨inside, closing, rfl, hline, hclosing⟩ := (closesCall_iff rest).1 hrest
    exact ⟨opening, inside, closing, htext, hopening, hline, hclosing⟩
  · rintro ⟨opening, inside, closing, htext, hopening, hline, hclosing⟩
    exact ⟨opening, inside ++ closing, htext, hopening,
      (closesCall_iff _).2 ⟨inside, closing, rfl, hline, hclosing⟩⟩

end RowMapper.Sql
