import RowMapper.Proofs.Text.Join

/-!
# `RowMapper.Proofs.Text.Occurrence`: words that do not occur in a text

A word that occurs in neither of two texts can still occur where they meet. It does not if the
character on one side of the seam is none of the word (`Lacks.append`). A text that begins and ends
with such characters is a fence (`Fences`): the word does not occur across it, so joined texts lack
a word that their parts lack (`lacks_joined`).

A word can be found in one place only if it occurs neither before nor behind it:
`front_eq_of_occurrence` says so of a word behind a character that is none of its own.
-/

set_option autoImplicit false

namespace RowMapper.Text

variable {α : Type}

/-! ### Lists -/

/-- A part of two lists that are appended is a part of one of them, if an element at the seam is
none of the part. -/
theorem infix_or_infix_of_append {word front back : List α} (h : word <:+: front ++ back)
    (hseam : (∀ c ∈ front.getLast?, c ∉ word) ∨ ∀ c ∈ back.head?, c ∉ word) :
    word <:+: front ∨ word <:+: back := by
  rcases List.infix_append_iff.1 h with h | h | ⟨left, right, rfl, hleft, hright⟩
  · exact .inl h
  · exact .inr h
  · -- The part lies across the seam only if it has elements on both sides.
    rcases hseam with hlast | hfirst
    · rcases List.eq_nil_or_concat left with rfl | ⟨left, last, rfl⟩
      · exact .inr (by simpa using hright.isInfix)
      · rw [List.concat_eq_append] at *
        obtain ⟨start, rfl⟩ := hleft
        rw [← List.append_assoc, List.getLast?_concat] at hlast
        exact absurd (by simp) (hlast last rfl)
    · cases right with
      | nil => exact .inl (by simpa using hleft.isInfix)
      | cons first right =>
          obtain ⟨rest, rfl⟩ := hright
          exact absurd (by simp) (hfirst first rfl)

/-- A beginning without an element that stands in the list ends before it. -/
theorem prefix_of_not_mem {part front rest : List α} {x : α} (h : part <+: front ++ x :: rest)
    (hx : x ∉ part) : part <+: front := by
  have hfront : front ++ [x] <+: front ++ x :: rest := ⟨rest, by simp⟩
  rcases List.prefix_or_prefix_of_prefix h hfront with hpart | hlonger
  · rcases List.prefix_concat_iff.1 hpart with rfl | hpart
    · exact absurd (by simp) hx
    · exact hpart
  · exact absurd (hlonger.subset (by simp)) hx

/-- An end without an element that stands in the list begins behind it. -/
theorem suffix_of_not_mem {part front rest : List α} {x : α} (h : part <:+ front ++ x :: rest)
    (hx : x ∉ part) : part <:+ rest := by
  have hrest : x :: rest <:+ front ++ x :: rest := List.suffix_append front _
  rcases List.suffix_or_suffix_of_suffix h hrest with hpart | hlonger
  · rcases List.suffix_cons_iff.1 hpart with rfl | hpart
    · exact absurd List.mem_cons_self hx
    · exact hpart
  · exact absurd (hlonger.subset List.mem_cons_self) hx

/-- A separator and a word behind it are found in one place only, if the word is no part of what
stands before and behind. -/
theorem eq_of_occurrence {word front back before behind : List α} {c : α} (hc : c ∉ word)
    (hbefore : ¬ word <:+: before) (hbehind : ¬ word <:+: behind)
    (h : front ++ c :: (word ++ back) = before ++ c :: (word ++ behind)) : front = before := by
  rcases List.append_eq_append_iff.1 h with ⟨between, rfl, hrest⟩ | ⟨between, rfl, hrest⟩
  · cases between with
    | nil => simp
    | cons first between =>
        -- The first occurrence would lie within what stands before the second one.
        have hword : word ++ back = between ++ c :: (word ++ behind) := (List.cons.inj hrest).2
        obtain ⟨left, rfl⟩ := prefix_of_not_mem ⟨back, hword⟩ hc
        exact absurd ⟨front ++ [first], left, by simp⟩ hbefore
  · cases between with
    | nil => simp
    | cons first between =>
        have hword : word ++ behind = between ++ c :: (word ++ back) := (List.cons.inj hrest).2
        obtain ⟨left, rfl⟩ := prefix_of_not_mem ⟨behind, hword⟩ hc
        have hafter : behind = left ++ c :: (word ++ back) := by simpa using hword
        exact absurd ⟨left ++ [c], back, by rw [hafter]; simp⟩ hbehind

/-! ### Texts -/

/-- The word does not occur in the text. -/
def Lacks (word text : String) : Prop :=
  ¬ word.toList <:+: text.toList

instance (word text : String) : Decidable (Lacks word text) :=
  inferInstanceAs (Decidable (¬ word.toList <:+: text.toList))

variable {word : String}

/-- Neither text has the word, and a character at the seam is none of the word. -/
theorem Lacks.append {front back : String} (hfront : Lacks word front) (hback : Lacks word back)
    (hseam : (∀ c ∈ front.toList.getLast?, c ∉ word.toList) ∨
      ∀ c ∈ back.toList.head?, c ∉ word.toList) : Lacks word (front ++ back) := by
  intro h
  rw [String.toList_append] at h
  exact (infix_or_infix_of_append h hseam).elim hfront hback

/-- A text that lacks the word has no part with the word. -/
theorem Lacks.part {front part back : String} (h : Lacks word (front ++ part ++ back)) :
    Lacks word part := by
  intro hpart
  refine h (hpart.trans ⟨front.toList, back.toList, ?_⟩)
  rw [String.toList_append, String.toList_append]

/-- A text of other characters lacks the word. -/
theorem lacks_of_not_mem {text : String} {c : Char} (hword : c ∈ word.toList)
    (htext : c ∉ text.toList) : Lacks word text :=
  fun h => htext (h.mem hword)

/-- The text keeps a word from occurring across it: it begins and ends with characters that are none
of the word, and the word does not occur in it. -/
def Fences (word fence : String) : Prop :=
  Lacks word fence ∧ (fence.toList.head?.any fun c => c ∉ word.toList) = true ∧
    (fence.toList.getLast?.any fun c => c ∉ word.toList) = true

instance (word fence : String) : Decidable (Fences word fence) :=
  inferInstanceAs (Decidable (_ ∧ _ ∧ _))

theorem Fences.word_ne_empty {fence : String} (h : Fences word fence) : word ≠ "" := by
  rintro rfl
  exact h.1 (by simp)

theorem Fences.lacks_empty {fence : String} (h : Fences word fence) : Lacks word "" :=
  fun hempty => h.word_ne_empty (String.toList_injective (List.infix_nil.1 hempty))

/-- Two texts that lack the word, with a fence between them. -/
theorem Lacks.fenced {front fence back : String} (hfront : Lacks word front)
    (hfence : Fences word fence) (hback : Lacks word back) :
    Lacks word (front ++ (fence ++ back)) := by
  obtain ⟨hlacks, hopens, hcloses⟩ := hfence
  obtain ⟨first, hfirst, hopens⟩ := (Option.any_eq_true _ _).1 hopens
  obtain ⟨last, hlast, hcloses⟩ := (Option.any_eq_true _ _).1 hcloses
  refine hfront.append (hlacks.append hback (.inl fun c hc => ?_)) (.inr fun c hc => ?_)
  · rw [hlast] at hc
    obtain rfl := Option.some.inj hc
    simpa using hcloses
  · rw [String.toList_append, List.head?_append, hfirst] at hc
    obtain rfl := Option.some.inj hc
    simpa using hopens

/-- Joined texts lack a word that all parts lack, if the separator is a fence. -/
theorem lacks_joined {separator : String} (hseparator : Fences word separator) :
    ∀ {parts : List String}, (∀ part ∈ parts, Lacks word part) →
      Lacks word (joined separator parts)
  | [], _ => hseparator.lacks_empty
  | [part], h => h part List.mem_cons_self
  | part :: next :: rest, h => by
      obtain ⟨hpart, hrest⟩ := List.forall_mem_cons.1 h
      rw [joined, String.append_assoc]
      exact hpart.fenced hseparator (lacks_joined hseparator hrest)

/-- A character and a word behind it are found in one place only, if what stands before and behind
lacks the word. -/
theorem front_eq_of_occurrence {c : Char} (hc : c ∉ word.toList)
    {front back before behind : String} (hbefore : Lacks word before) (hbehind : Lacks word behind)
    (h : front ++ String.singleton c ++ word ++ back
      = before ++ String.singleton c ++ word ++ behind) : front = before := by
  have hchars : front.toList ++ c :: (word.toList ++ back.toList)
      = before.toList ++ c :: (word.toList ++ behind.toList) := by
    simpa using congrArg String.toList h
  exact String.toList_injective (eq_of_occurrence hc hbefore hbehind hchars)

end RowMapper.Text
