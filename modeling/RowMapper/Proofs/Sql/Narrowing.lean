import RowMapper.Proofs.Sql.Conditions
import RowMapper.Proofs.Sql.Meaning

/-!
# `RowMapper.Proofs.Sql.Narrowing`: adding a comparison to a filter

A comparison that is added to a filter is written behind the text of the filter, with `AND` between
them and no parentheses around either (`Filter.exists_tokens_add`). A database reads the text of a
filter as a disjunction, and `AND` binds tighter than `OR`: so what is added belongs to the last
alternative alone. If the text has no `OR` outside of parentheses, this is the whole of it and the
filter is narrowed.

The words of callers are read, too. They can be written in any way, so how they are read is a
`Lexer`, of which nothing is assumed but that it leaves out nothing of a text.

* `Filter.added_comparison_joins_last_alternative`: the reading of a filter with a comparison added,
  and when it is the conjunction of both.
* `Filter.widened_by_comparison`: words with an `OR` let rows through that the comparison excludes.
-/

set_option autoImplicit false

namespace RowMapper.Sql

open RowMapper.Text Token

/-! ### Reading the words of callers -/

/-- A word of a text as a database reads it: how it is written, and which token it is. -/
structure Word where
  text : String
  token : Token

/-- The text of a row of words. -/
def Word.textOf (words : List Word) : String :=
  String.join (words.map Word.text)

/-- A way to read the words of callers: as a row of words that is written like the text. -/
structure Lexer where
  read : String → List Word
  textOf_read : ∀ sql, Word.textOf (read sql) = sql

namespace Lexer

variable (lexer : Lexer) (showValue : Value → String)

/-- The words of a token: what is read in it if it is words of a caller, and otherwise the token as
it is written. -/
def wordsOf : Token → List Word
  | .words sql => lexer.read sql
  | token => [⟨token.text showValue, token⟩]

/-- The tokens that are read in a token. -/
def tokensOf : Token → List Token
  | .words sql => (lexer.read sql).map Word.token
  | token => [token]

/-- The row of words that a condition is written as. -/
def words (predicate : Predicate) : List Word :=
  predicate.tokens.flatMap (lexer.wordsOf showValue)

/-- The row of tokens that is read in a condition. -/
def tokens (predicate : Predicate) : List Token :=
  predicate.tokens.flatMap lexer.tokensOf

theorem textOf_words (predicate : Predicate) :
    Word.textOf (lexer.words showValue predicate) = Token.textOf showValue predicate.tokens := by
  have htoken (token : Token) :
      Word.textOf (lexer.wordsOf showValue token) = token.text showValue := by
    cases token with
    | words sql => exact lexer.textOf_read sql
    | _ => simp [wordsOf, Word.textOf]
  rw [words]
  induction predicate.tokens with
  | nil => simp [Word.textOf]
  | cons token rest ih =>
      rw [List.flatMap_cons, Word.textOf, List.map_append, String.join_append, ← Word.textOf,
        ← Word.textOf, htoken, ih, textOf_cons]

/-- However the values are written, the same tokens are read. -/
theorem map_token_words (predicate : Predicate) :
    (lexer.words showValue predicate).map Word.token = lexer.tokens predicate := by
  rw [words, tokens, List.map_flatMap]
  congr 1
  funext token
  cases token <;> rfl

end Lexer

/-- A row with words of callers in it has no reading. -/
theorem Derives.words_not_mem {level : Level} {tokens : List Token} {f : Formula}
    (h : Derives level tokens f) (sql : String) : Token.words sql ∉ tokens := by
  induction h with
  | atom | group | operand | and | conjunction | or => simp_all

/-- In a condition without words of callers its own tokens are read. -/
theorem Lexer.tokens_of_composed (lexer : Lexer) {predicate : Predicate}
    (h : predicate.Composed) : lexer.tokens predicate = predicate.tokens := by
  obtain ⟨f, hf, -⟩ := (predicate.linked_tokens h).alone
  have hself : ∀ token ∈ predicate.tokens, lexer.tokensOf token = [token] := by
    intro token htoken
    cases token with
    | words sql => exact absurd htoken (hf.words_not_mem sql)
    | _ => rfl
  rw [tokens, List.flatMap_def, List.map_congr_left hself, ← List.flatMap_def,
    List.flatMap_singleton']

/-- Both texts of a condition are written from words that a database reads as the formula, and in
no other way. -/
structure Lexer.ReadsAs (lexer : Lexer) (predicate : Predicate) (formula : Formula) : Prop where
  literals : predicate.sql = Word.textOf (lexer.words Value.literal predicate)
  placeholders : ∀ params, (predicate.bind params).1
    = Word.textOf (lexer.words (fun _ => placeholder) predicate)
  reading : ∀ showValue g,
    Derives .disjunction ((lexer.words showValue predicate).map Word.token) g ↔ g = formula

/-- The tokens of both texts are the same, so one reading of them is the reading of both. -/
theorem Lexer.readsAs_iff (lexer : Lexer) (predicate : Predicate) (formula : Formula) :
    lexer.ReadsAs predicate formula ↔ Derives .disjunction (lexer.tokens predicate) formula := by
  constructor
  · intro h
    rw [← lexer.map_token_words Value.literal predicate]
    exact (h.reading Value.literal formula).2 rfl
  · intro h
    refine ⟨?_, fun params => ?_, fun showValue g => ?_⟩
    · rw [predicate.sql_eq_textOf, lexer.textOf_words]
    · rw [predicate.bind_eq_textOf, lexer.textOf_words]
    · rw [lexer.map_token_words]
      exact ⟨fun hg => hg.unique h, fun hg => hg ▸ h⟩

/-! ### Alternatives -/

/-- The reading of what stands behind the last `OR` outside of parentheses, and of what stands in
front of it, if there is one. -/
inductive LastAlternative : List Token → Option Formula → Formula → Prop
  | alone {row : List Token} {last : Formula} (h : Derives .conjunction row last) :
      LastAlternative row none last
  | behind {front back : List Token} {others last : Formula}
      (hfront : Derives .disjunction front others) (hback : Derives .conjunction back last) :
      LastAlternative (front ++ .or :: back) (some others) last

/-- The truth of alternatives. -/
def Formula.anyHolds (truth : Comparison → Bool) (others : Option Formula) (last : Bool) : Bool :=
  others.any (·.holds truth) || last

/-- What is read has a last alternative. -/
theorem Derives.exists_lastAlternative {row : List Token} {formula : Formula}
    (h : Derives .disjunction row formula) :
    ∃ others last, LastAlternative row others last ∧
      ∀ truth, formula.holds truth = Formula.anyHolds truth others (last.holds truth) := by
  cases h with
  | conjunction h => exact ⟨none, formula, .alone h, fun _ => rfl⟩
  | or hfront hback => exact ⟨some _, _, .behind hfront hback, fun _ => rfl⟩

/-- What is written behind a row with `AND` in between is read with its last alternative. -/
theorem LastAlternative.derives_and {row : List Token} {others : Option Formula} {last : Formula}
    (h : LastAlternative row others last) (c : Comparison) :
    ∃ joint, Derives .disjunction (row ++ [.and, .comparison c]) joint ∧
      ∀ truth, joint.holds truth
        = Formula.anyHolds truth others (last.holds truth && truth c) := by
  cases h with
  | alone hrow =>
      exact ⟨_, .conjunction (.and hrow (.atom c)), fun _ => rfl⟩
  | @behind front back others last hfront hback =>
      refine ⟨.or others (.and last (.atom c)), ?_, fun _ => rfl⟩
      rw [List.append_assoc, List.cons_append]
      exact .or hfront (.and hback (.atom c))

/-- The other alternatives hold without what is added to the last one. -/
theorem Formula.anyHolds_and_iff (truth : Comparison → Bool) (others : Option Formula)
    (last added : Bool) :
    Formula.anyHolds truth others (last && added) = (Formula.anyHolds truth others last && added) ↔
      (others.any (·.holds truth) = true → added = true) := by
  rw [Formula.anyHolds, Formula.anyHolds]
  cases others.any (·.holds truth) <;> cases last <;> cases added <;> decide

/-! ### Where an added condition is written -/

/-- A condition that is added to a filter is written behind it, with `AND` in between. -/
theorem Filter.exists_tokens_add {filter : Filter} {predicate : Predicate}
    (h : filter.toPredicate? = some predicate) (field : String) (condition : Condition) :
    ∃ extended, (filter.add field condition).toPredicate? = some extended ∧
      extended.tokens = predicate.tokens ++ .and :: (condition.toPredicate field).tokens := by
  have hadded : (chainOf [(field, condition)]).tokens = (condition.toPredicate field).tokens := by
    rw [chainOf, Predicate.tokens, Predicate.tokensAll_eq_map, List.map_map]
    exact List.intercalate_singleton
  -- Words and predicates become the first part of a chain of two.
  have hchain : (Predicate.chain [predicate, chainOf [(field, condition)]]).tokens
      = predicate.tokens ++ .and :: (condition.toPredicate field).tokens := by
    rw [Predicate.tokens, Predicate.tokensAll_eq_map, List.map_cons, List.map_singleton, hadded,
      List.intercalate_cons_cons, List.intercalate_singleton, List.append_assoc,
      List.singleton_append]
  cases filter with
  | fields conditions =>
      rw [toPredicate?_fields] at h
      split at h
      case isTrue => cases h
      case isFalse hne =>
        cases h
        refine ⟨chainOf (conditions ++ [(field, condition)]), ?_, ?_⟩
        · rw [add, toPredicate?_fields, if_neg (by simp)]
        · rw [chainOf, chainOf, Predicate.tokens, Predicate.tokens, Predicate.tokensAll_eq_map,
            Predicate.tokensAll_eq_map, List.map_append, List.map_append, List.map_singleton,
            List.map_singleton, intercalate_concat _ (by simpa using hne), List.append_assoc,
            List.singleton_append]
  | raw sql =>
      refine ⟨_, ?_, hchain⟩
      simp only [add, h]
      rfl
  | predicate condition =>
      refine ⟨_, ?_, hchain⟩
      simp only [add, h]
      rfl

/-! ### Adding a comparison -/

/-- If the filter is a condition without words of callers, the comparison that is added narrows it:
the filter stays together as one conjunction. -/
theorem Predicate.Composed.holds_and {predicate : Predicate} (h : predicate.Composed)
    {c : Comparison} {joint : Formula}
    (hjoint : Derives .disjunction (predicate.tokens ++ [.and, .comparison c]) joint)
    (truth : Comparison → Bool) :
    joint.holds truth = (predicate.holds truth && truth c) := by
  obtain ⟨f, hf, hmeaning⟩ := (predicate.linked_tokens h).alone
  rw [hjoint.unique (.conjunction (.and hf (.atom c))), Formula.holds, Formula.holds, hmeaning]

/-- A comparison that is added to a filter is read with the last alternative of the filter alone.
The result is the conjunction of both exactly where the other alternatives do not hold without the
comparison: always, if the words of the caller have no `OR` outside of parentheses, or if there are
no such words. -/
theorem Filter.added_comparison_joins_last_alternative (lexer : Lexer) {filter : Filter}
    {predicate : Predicate} {formula : Formula} {field : String} {condition : Condition}
    {c : Comparison} (hfilter : filter.toPredicate? = some predicate)
    (hread : lexer.ReadsAs predicate formula) (hcondition : condition.comparisons field = [c]) :
    ∃ extended joint others last,
      (filter.add field condition).toPredicate? = some extended ∧
      lexer.ReadsAs extended joint ∧
      LastAlternative (lexer.tokens predicate) others last ∧
      ∀ truth, formula.holds truth = Formula.anyHolds truth others (last.holds truth) ∧
        joint.holds truth = Formula.anyHolds truth others (last.holds truth && truth c) ∧
        (joint.holds truth = (formula.holds truth && truth c) ↔
          (others.any (·.holds truth) = true → truth c = true)) ∧
        (predicate.Composed → joint.holds truth = (predicate.holds truth && truth c)) := by
  rw [lexer.readsAs_iff] at hread
  obtain ⟨extended, hextended, htokens⟩ := exists_tokens_add hfilter field condition
  obtain ⟨others, last, halternatives, hformula⟩ := hread.exists_lastAlternative
  obtain ⟨joint, hjoint, hmeaning⟩ := halternatives.derives_and c
  have hadded : (condition.toPredicate field).tokens = [.comparison c] := by
    rw [condition.tokens_toPredicate, hcondition]
    rfl
  -- What is added holds no words, so it is read as it is written.
  have hlexer : lexer.tokens extended = lexer.tokens predicate ++ [.and, .comparison c] := by
    rw [Lexer.tokens, htokens, hadded, List.flatMap_append]
    rfl
  refine ⟨extended, joint, others, last, hextended, ?_, halternatives, fun truth =>
    ⟨hformula truth, hmeaning truth, ?_, fun hcomposed => ?_⟩⟩
  · rw [lexer.readsAs_iff, hlexer]
    exact hjoint
  · rw [hmeaning, hformula]
    exact Formula.anyHolds_and_iff truth others (last.holds truth) (truth c)
  · rw [lexer.tokens_of_composed hcomposed] at hjoint
    exact hcomposed.holds_and hjoint truth

/-- A lexer that knows one text, and leaves all others unread. -/
def Lexer.knowing (words : List Word) : Lexer where
  read sql := if sql = Word.textOf words then words else [⟨sql, .words sql⟩]
  textOf_read sql := by
    split
    case isTrue h => exact h.symm
    case isFalse => simp [Word.textOf]

theorem Lexer.tokens_knowing (words : List Word) :
    (Lexer.knowing words).tokens (.raw (Word.textOf words)) = words.map Word.token := by
  simp [Lexer.tokens, Predicate.tokens, Lexer.tokensOf, Lexer.knowing]

/-- Parentheses in the words of a caller keep their alternatives together. -/
theorem Filter.narrowed_by_comparison :
    let a : Comparison := ⟨"a", .eq, .int 1⟩
    let b : Comparison := ⟨"b", .eq, .int 2⟩
    let c : Comparison := ⟨"c", .eq, .int 3⟩
    let words : List Word := [⟨"(", .left⟩, ⟨"a = 1", .comparison a⟩, ⟨" OR ", .or⟩,
      ⟨"b = 2", .comparison b⟩, ⟨")", .right⟩]
    let filter := Filter.raw "(a = 1 OR b = 2)"
    ∃ extended joint, (filter.eq "c" (.int 3)).toPredicate? = some extended ∧
      extended.sql = "(a = 1 OR b = 2) AND c = 3" ∧
      (Lexer.knowing words).ReadsAs extended joint ∧
      ∀ truth, joint.holds truth = ((truth a || truth b) && truth c) := by
  intro a b c words filter
  let own : Predicate := .raw (Word.textOf words)
  have hgroup : Derives .conjunction (words.map Word.token) (.or (.atom a) (.atom b)) :=
    .operand (.group (.or (.conjunction (.operand (.atom a))) (.operand (.atom b))))
  have hread : (Lexer.knowing words).ReadsAs own (.or (.atom a) (.atom b)) := by
    rw [Lexer.readsAs_iff, Lexer.tokens_knowing]
    exact .conjunction hgroup
  have hfilter : filter.toPredicate? = some own := rfl
  obtain ⟨extended, joint, -, -, hextended, hjoint, -, -⟩ :=
    added_comparison_joins_last_alternative (Lexer.knowing words) hfilter hread
      (show (Condition.eq (.int 3)).comparisons "c" = [c] from rfl)
  obtain rfl : Predicate.chain [own, chainOf [("c", .eq (.int 3))]] = extended :=
    Option.some.inj hextended
  have htokens : (Lexer.knowing words).tokens (.chain [own, chainOf [("c", .eq (.int 3))]])
      = words.map Word.token ++ [.and, .comparison c] := by
    rw [← Lexer.tokens_knowing]
    rfl
  refine ⟨_, joint, hextended, by decide +kernel, hjoint, fun truth => ?_⟩
  rw [Lexer.readsAs_iff, htokens] at hjoint
  rw [hjoint.unique (.conjunction (.and hgroup (.atom c)))]
  rfl

/-- Where the words of a caller end in an alternative, the comparison is read with this one only: a
row with `a = 1` is let through, whatever its `c` is. -/
theorem Filter.widened_by_comparison :
    let a : Comparison := ⟨"a", .eq, .int 1⟩
    let b : Comparison := ⟨"b", .eq, .int 2⟩
    let c : Comparison := ⟨"c", .eq, .int 3⟩
    let filter := Filter.raw "a = 1 OR b = 2"
    let own : List Token := [.comparison a, .or, .comparison b]
    let extended : List Token := own ++ [.and, .comparison c]
    whereSql filter.toPredicate? = " WHERE a = 1 OR b = 2" ∧
    Token.textOf Value.literal own = "a = 1 OR b = 2" ∧
    whereSql (filter.eq "c" (.int 3)).toPredicate? = " WHERE a = 1 OR b = 2 AND c = 3" ∧
    Token.textOf Value.literal extended = "a = 1 OR b = 2 AND c = 3" ∧
    ∃ formula joint, parse? own = some formula ∧ parse? extended = some joint ∧
      ∃ truth : Comparison → Bool, joint.holds truth = true ∧
        (formula.holds truth && truth c) = false := by
  intro a b c filter own extended
  refine ⟨by decide +kernel, by decide +kernel, by decide +kernel, by decide +kernel,
    .or (.atom a) (.atom b), .or (.atom a) (.and (.atom b) (.atom c)), rfl, rfl,
    fun comparison => comparison.field == "a", by decide +kernel, by decide +kernel⟩

end RowMapper.Sql
