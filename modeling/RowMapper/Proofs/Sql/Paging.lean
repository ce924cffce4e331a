import RowMapper.Proofs.Sql.Steps
import RowMapper.Proofs.Text.Occurrence

/-!
# `RowMapper.Proofs.Sql.Paging`: LIMIT and OFFSET

The engines take an OFFSET only behind a LIMIT (`OffsetsLimited`). A query writes each of the two
when its number is not zero, and looks at neither when it writes the other. So its texts are fit for
the engines if and only if there is a limit or no offset (`Select.pages`), given that its other
clauses do not bring in the two words themselves (`Select.Unpaged`).

Of any steps of building a query, also of those before its table is set, the last limit and the last
offset count (`Select.counts_ofMoves`).
-/

set_option autoImplicit false

namespace RowMapper.Sql

open RowMapper.Text

/-- Wherever the text has an offset, a limit stands right in front of it. -/
def OffsetsLimited (text : String) : Prop :=
  ∀ (front back : String) (offset : Nat),
    text = front ++ " OFFSET " ++ Number.naturalText offset ++ back →
    ∃ (start : String) (limit : Nat), front = start ++ " LIMIT " ++ Number.naturalText limit

namespace Select

variable {word front : String}

/-! ### Clauses without a word -/

theorem lacks_listClause {keyword separator : String} {items : List String}
    (hfront : Lacks word front) (hkeyword : Fences word keyword)
    (hseparator : Fences word separator) (h : ∀ item ∈ items, Lacks word item) :
    Lacks word (front ++ listClause keyword separator items) := by
  rw [listClause]
  split
  · rwa [String.append_empty]
  · exact hfront.fenced hkeyword (lacks_joined hseparator h)

theorem lacks_conditionClause {keyword : String} {write : Predicate → String}
    {condition : Option Predicate} (hfront : Lacks word front) (hkeyword : Fences word keyword)
    (h : ∀ text ∈ (condition.map write).toList, Lacks word text) :
    Lacks word (front ++ conditionClause keyword write condition) := by
  cases condition with
  | none => rwa [conditionClause, String.append_empty]
  | some predicate => exact hfront.fenced hkeyword (h _ (by simp))

theorem countClause_eq (keyword : String) (count : Option Nat) : countClause keyword count
    = if count.getD 0 = 0 then "" else keyword ++ Number.naturalText (count.getD 0) := by
  cases count <;> rfl

/-- A number in digits holds no word with a letter in it. -/
theorem lacks_countClause {keyword : String} {letter : Char} (hfront : Lacks word front)
    (hkeyword : Fences word keyword) (hword : letter ∈ word.toList)
    (hletter : letter.isDigit = false) (count : Option Nat) :
    Lacks word (front ++ countClause keyword count) := by
  rw [countClause_eq]
  split
  · rwa [String.append_empty]
  · refine hfront.fenced hkeyword (lacks_of_not_mem hword fun h => ?_)
    rw [Number.isDigit_of_mem_naturalText h] at hletter
    contradiction

/-! ### The text in front of the limit -/

/-- The text of a query up to its order, given how a condition is written. -/
def body (select : Select) (write : Predicate → String) : String :=
  "SELECT " ++ joined ", " select.columns ++ " FROM " ++ select.table.getD "" ++
    listClause " " " " select.joins ++
    conditionClause " WHERE " write select.condition ++
    listClause " GROUP BY " ", " select.groups ++
    conditionClause " HAVING " write select.having ++
    listClause " ORDER BY " ", " select.orders

/-- The texts that stand in the clauses of a query. -/
def clauseTexts (select : Select) (write : Predicate → String) : List String :=
  select.table.toList ++ select.columns ++ select.joins ++ (select.condition.map write).toList ++
    select.groups ++ (select.having.map write).toList ++ select.orders

/-- No text in a clause has the words that begin a limit and an offset. -/
def Unpaged (select : Select) (write : Predicate → String) : Prop :=
  ∀ text ∈ select.clauseTexts write, Lacks "LIMIT" text ∧ Lacks "OFFSET" text

theorem sql_eq_body (select : Select) : select.sql = select.body Predicate.sql ++
    countClause " LIMIT " select.limit ++ countClause " OFFSET " select.offset ++ ";" := by
  unfold sql render body
  rw [whereSql_eq, havingClause_eq]

theorem statement_eq_body (select : Select) :
    select.statement.sql = select.body Predicate.template ++
      countClause " LIMIT " select.limit ++ countClause " OFFSET " select.offset ++ ";" := by
  rw [statement_eq_render]
  unfold render body
  rw [havingClause_eq]

/-- A word that the keywords of the clauses up to the order do not hold. -/
def Foreign (word : String) : Prop :=
  Lacks word "SELECT" ∧ ∀ keyword ∈ [" ", " FROM ", " WHERE ", " GROUP BY ", " HAVING ",
    " ORDER BY ", ", "], Fences word keyword

instance (word : String) : Decidable (Foreign word) :=
  inferInstanceAs (Decidable (_ ∧ _))

theorem lacks_body {select : Select} {write : Predicate → String} (hword : Foreign word)
    (h : ∀ text ∈ select.clauseTexts write, Lacks word text) : Lacks word (select.body write) := by
  obtain ⟨hselect, hfences⟩ := hword
  simp only [List.forall_mem_cons] at hfences
  obtain ⟨hblank, hfrom, hwhere, hgroup, hhas, horder, hcomma, -⟩ := hfences
  simp only [clauseTexts, List.forall_mem_append] at h
  obtain ⟨⟨⟨⟨⟨⟨htable, hcolumns⟩, hjoins⟩, hrows⟩, hgroups⟩, hhaving⟩, horders⟩ := h
  have hverb : "SELECT " = "SELECT" ++ " " := by decide
  have hopening := hselect.fenced hblank (lacks_joined hcomma hcolumns)
  rw [← String.append_assoc, ← hverb] at hopening
  have hname : Lacks word (select.table.getD "") := by
    cases htext : select.table with
    | none => exact hblank.lacks_empty
    | some table => exact htable table (by simp [htext])
  have hrelation := hopening.fenced hfrom hname
  rw [← String.append_assoc] at hrelation
  -- The other clauses follow one by one, each behind a keyword that is a fence.
  have hjoined := lacks_listClause hrelation hblank hblank hjoins
  have hfiltered := lacks_conditionClause hjoined hwhere hrows
  have hgrouped := lacks_listClause hfiltered hgroup hcomma hgroups
  have hheld := lacks_conditionClause hgrouped hhas hhaving
  exact lacks_listClause hheld horder hcomma horders

instance (select : Select) (write : Predicate → String) : Decidable (select.Unpaged write) :=
  inferInstanceAs (Decidable (∀ text ∈ select.clauseTexts write, _ ∧ _))

/-! ### Texts with a limit and an offset -/

theorem offsetsLimited_of_lacks {text : String} (h : Lacks "OFFSET" text) :
    OffsetsLimited text := by
  rintro front back offset rfl
  rw [String.append_assoc] at h
  exact absurd h.part (by decide +kernel)

/-- Behind a text without the word, an offset stands in one place only. -/
theorem front_eq_of_offset {text front back : String} {count offset : Nat}
    (h : Lacks "OFFSET" text)
    (htext : text ++ (" OFFSET " ++ Number.naturalText offset) ++ ";"
      = front ++ " OFFSET " ++ Number.naturalText count ++ back) : front = text := by
  have hblank : ' ' ∉ "OFFSET".toList := by decide
  have hword : " OFFSET " = String.singleton ' ' ++ "OFFSET" ++ " " := by decide
  have hbehind : Lacks "OFFSET" (" " ++ Number.naturalText offset ++ ";") := by
    refine lacks_of_not_mem (show 'O' ∈ _ by decide) fun hmem => ?_
    have hdigit : 'O' ∈ (Number.naturalText offset).toList := by simpa using hmem
    exact absurd (Number.isDigit_of_mem_naturalText hdigit) (by decide)
  have hplace : front ++ String.singleton ' ' ++ "OFFSET" ++
        (" " ++ Number.naturalText count ++ back)
      = text ++ String.singleton ' ' ++ "OFFSET" ++
        (" " ++ Number.naturalText offset ++ ";") := by
    simp only [hword, String.append_assoc] at htext ⊢
    exact htext.symm
  exact front_eq_of_occurrence hblank h hbehind hplace

/-- Behind a text without the two words, what is written is a limit in front of any offset, if and
only if there is a limit or no offset. -/
theorem offsetsLimited_iff {text : String} (hlimit : Lacks "LIMIT" text)
    (hoffset : Lacks "OFFSET" text) (limit offset : Option Nat) :
    OffsetsLimited (text ++ countClause " LIMIT " limit ++ countClause " OFFSET " offset ++ ";") ↔
      (offset.getD 0 ≠ 0 → limit.getD 0 ≠ 0) := by
  have hbefore : Lacks "OFFSET" (text ++ countClause " LIMIT " limit) :=
    lacks_countClause hoffset (by decide +kernel) (show 'O' ∈ _ by decide) (by decide) limit
  by_cases hzero : offset.getD 0 = 0
  · have hend : Lacks "OFFSET" (text ++ countClause " LIMIT " limit ++ ";") :=
      hbefore.append (by decide) (.inr (by simp))
    rw [countClause_eq " OFFSET ", if_pos hzero, String.append_empty]
    exact iff_of_true (offsetsLimited_of_lacks hend) fun h => absurd hzero h
  · rw [countClause_eq " OFFSET ", if_neg hzero]
    constructor
    · -- Without a limit, the text itself would have to end with one.
      intro h _ hnone
      rw [countClause_eq " LIMIT ", if_pos hnone, String.append_empty] at h
      obtain ⟨start, count, rfl⟩ := h text ";" (offset.getD 0) (by simp only [String.append_assoc])
      exact absurd hlimit.part (by decide +kernel)
    · -- With a limit, it is in front of the only place where an offset can be.
      intro h front back count htext
      rw [front_eq_of_offset hbefore htext, countClause_eq, if_neg (h hzero)]
      exact ⟨text, limit.getD 0, (String.append_assoc ..).symm⟩

/-- The texts of a query hold no offset without a limit, if and only if there is a limit or no
offset. -/
structure Pages (select : Select) (limit offset : Nat) : Prop where
  literals : select.Unpaged Predicate.sql →
    (OffsetsLimited select.sql ↔ (offset ≠ 0 → limit ≠ 0))
  placeholders : select.Unpaged Predicate.template →
    (OffsetsLimited select.statement.sql ↔ (offset ≠ 0 → limit ≠ 0))

theorem pages (select : Select) : select.Pages (select.limit.getD 0) (select.offset.getD 0) := by
  have hbody {write : Predicate → String} (h : select.Unpaged write) :
      Lacks "LIMIT" (select.body write) ∧ Lacks "OFFSET" (select.body write) :=
    ⟨lacks_body (by decide +kernel) fun text hmem => (h text hmem).1,
      lacks_body (by decide +kernel) fun text hmem => (h text hmem).2⟩
  refine ⟨fun h => ?_, fun h => ?_⟩
  · rw [sql_eq_body]
    exact offsetsLimited_iff (hbody h).1 (hbody h).2 select.limit select.offset
  · rw [statement_eq_body]
    exact offsetsLimited_iff (hbody h).1 (hbody h).2 select.limit select.offset

/-! ### Any steps, the table among them -/

/-- A step of building a query, or setting its table. -/
inductive Move where
  | fromTable (table : String)
  | take (step : Step)

namespace Move

/-- Takes a step or sets the table. -/
def perform (select : Select) : Move → Select
  | .fromTable table => select.fromTable table
  | .take step => step.perform select

/-- The limit that is set. -/
def limit? : Move → Option Nat
  | .take (.limitTo count) => some count
  | _ => none

/-- The offset that is set. -/
def offset? : Move → Option Nat
  | .take (.skip count) => some count
  | _ => none

end Move

/-- The query that is built from nothing. -/
def ofMoves (moves : List Move) : Select :=
  moves.foldl Move.perform {}

/-- Adding texts one after the other keeps what each of them keeps. -/
theorem foldl_keeps {γ : Type} (view : Select → γ) (add : Select → String → Select)
    (h : ∀ select text, view (add select text) = view select) (select : Select)
    (texts : List String) : view (texts.foldl add select) = view select := by
  induction texts generalizing select with
  | nil => rfl
  | cons text rest ih => rw [List.foldl_cons, ih, h]

/-- The numbers of a query, zero where there is none. -/
def counts (select : Select) : Nat × Nat :=
  (select.limit.getD 0, select.offset.getD 0)

theorem counts_perform (select : Select) (move : Move) : (move.perform select).counts
    = (move.limit?.getD select.counts.1, move.offset?.getD select.counts.2) := by
  cases move with
  | fromTable table => rfl
  | take step =>
      cases step with
      | set fields => exact foldl_keeps counts column (fun _ _ => rfl) select fields
      | group fields => exact foldl_keeps counts groupBy (fun _ _ => rfl) select fields
      | orderAll items => exact foldl_keeps counts order (fun _ _ => rfl) select items
      | setAs | join | filter | filterGroups | order | limitTo | skip => rfl

/-- Of limits and offsets, those set last count. -/
theorem counts_ofMoves (moves : List Move) : (ofMoves moves).counts
    = (lastSet Move.limit? 0 moves, lastSet Move.offset? 0 moves) := by
  induction moves using List.reverseRecOn with
  | nil => rfl
  | append_singleton moves move ih =>
      rw [ofMoves, List.foldl_append, ← ofMoves, lastSet_concat, lastSet_concat]
      show (move.perform (ofMoves moves)).counts = _
      rw [counts_perform, ih]

theorem pages_ofMoves (moves : List Move) :
    (ofMoves moves).Pages (lastSet Move.limit? 0 moves) (lastSet Move.offset? 0 moves) := by
  have hcounts := counts_ofMoves moves
  have hlimit : (ofMoves moves).limit.getD 0 = lastSet Move.limit? 0 moves :=
    congrArg Prod.fst hcounts
  have hoffset : (ofMoves moves).offset.getD 0 = lastSet Move.offset? 0 moves :=
    congrArg Prod.snd hcounts
  rw [← hlimit, ← hoffset]
  exact pages _

end Select

end RowMapper.Sql
