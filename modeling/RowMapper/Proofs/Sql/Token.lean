import RowMapper.Proofs.Text.Join
import RowMapper.Sql.Predicate

/-!
# `RowMapper.Proofs.Sql.Token`: a condition as a row of tokens

A condition is rendered twice, with literals (`Predicate.sql`) and with placeholders
(`Predicate.bind`). Both renderings write the same row of tokens, `Predicate.tokens`: the
comparisons and the words of callers, with connectives and parentheses between them.

* `Predicate.sql_eq_textOf`: the text with literals is the text of the tokens.
* `Predicate.bind_eq_textOf`: so is the text with placeholders, and the parameters are the values
  of the tokens, behind the parameters that were there before.
* `Predicate.comparisonsOf_tokens`: there is one token for each comparison of the tree, from left
  to right.
-/

set_option autoImplicit false

namespace RowMapper.Sql

open RowMapper.Text

/-- A field compared with a value. -/
structure Comparison where
  field : String
  op : Operator
  value : Value

/-- A piece of a rendered condition. -/
inductive Token where
  | comparison (comparison : Comparison)
  | words (sql : String)
  | and
  | or
  | left
  | right

namespace Token

/-- The text of a token, given how to write a value. -/
def text (showValue : Value → String) : Token → String
  | .comparison c => c.field ++ " " ++ c.op.symbol ++ " " ++ showValue c.value
  | .words sql => sql
  | .and => " AND "
  | .or => " OR "
  | .left => "("
  | .right => ")"

/-- The comparison that a token is, if it is one. -/
def comparison? : Token → Option Comparison
  | .comparison c => some c
  | _ => none

/-- The text of a row of tokens. -/
def textOf (showValue : Value → String) (tokens : List Token) : String :=
  String.join (tokens.map (text showValue))

/-- The comparisons in a row of tokens. -/
def comparisonsOf (tokens : List Token) : List Comparison :=
  tokens.filterMap comparison?

@[simp]
theorem textOf_nil (showValue : Value → String) : textOf showValue [] = "" := by
  simp [textOf]

@[simp]
theorem textOf_cons (showValue : Value → String) (token : Token) (tokens : List Token) :
    textOf showValue (token :: tokens) = token.text showValue ++ textOf showValue tokens := by
  simp [textOf]

@[simp]
theorem textOf_append (showValue : Value → String) (front back : List Token) :
    textOf showValue (front ++ back) = textOf showValue front ++ textOf showValue back := by
  simp [textOf]

@[simp]
theorem comparisonsOf_nil : comparisonsOf [] = [] := rfl

@[simp]
theorem comparisonsOf_cons (token : Token) (tokens : List Token) :
    comparisonsOf (token :: tokens) = token.comparison?.toList ++ comparisonsOf tokens := by
  cases h : token.comparison? <;> simp [comparisonsOf, h]

@[simp]
theorem comparisonsOf_append (front back : List Token) :
    comparisonsOf (front ++ back) = comparisonsOf front ++ comparisonsOf back := by
  simp [comparisonsOf]

/-- The text of separated rows is their texts, joined by the text of the separator. -/
theorem textOf_intercalate (showValue : Value → String) (separator : Token)
    (rows : List (List Token)) : textOf showValue ([separator].intercalate rows)
      = joined (separator.text showValue) (rows.map (textOf showValue)) := by
  rw [map_intercalate (textOf showValue) (textOf_nil _) (textOf_append _), textOf_cons, textOf_nil,
    String.append_empty]

/-- A separator that is no comparison adds none. -/
theorem comparisonsOf_intercalate (separator : Token) (h : separator.comparison? = none)
    (rows : List (List Token)) :
    comparisonsOf ([separator].intercalate rows) = rows.flatMap comparisonsOf :=
  flatMap_intercalate comparisonsOf rfl comparisonsOf_append [separator] (by simp [h]) rows

end Token

namespace Predicate

open Token

mutual

/-- The comparisons of a condition, from left to right. -/
def comparisons : Predicate → List Comparison
  | .comparison field op value => [⟨field, op, value⟩]
  | .allOf parts => comparisonsAll parts
  | .anyOf parts => comparisonsAll parts
  | .chain parts => comparisonsAll parts
  | .raw _ => []

def comparisonsAll : List Predicate → List Comparison
  | [] => []
  | part :: rest => comparisons part ++ comparisonsAll rest

end

mutual

/-- The row of tokens that a condition is written as. -/
def tokens : Predicate → List Token
  | .comparison field op value => [.comparison ⟨field, op, value⟩]
  | .allOf parts => .left :: ([Token.and].intercalate (tokensAll parts) ++ [.right])
  | .anyOf parts => .left :: ([Token.or].intercalate (tokensAll parts) ++ [.right])
  | .chain parts => [Token.and].intercalate (tokensAll parts)
  | .raw sql => [.words sql]

def tokensAll : List Predicate → List (List Token)
  | [] => []
  | part :: rest => tokens part :: tokensAll rest

end

theorem tokensAll_eq_map (parts : List Predicate) : tokensAll parts = parts.map tokens := by
  induction parts with
  | nil => rfl
  | cons part rest ih => rw [tokensAll, ih, List.map_cons]

/-- The compared values of a condition, from left to right. -/
def values (predicate : Predicate) : List Value :=
  predicate.comparisons.map (·.value)

mutual

/-- The text with literals is the text of the tokens. -/
theorem sql_eq_textOf : ∀ predicate : Predicate,
    predicate.sql = textOf Value.literal predicate.tokens
  | .comparison field op value => by simp [sql, tokens, Token.text]
  | .allOf parts => by
      rw [sql, tokens, sqlAll_eq_textOf parts, textOf_cons, textOf_append, textOf_intercalate]
      simp [Token.text, String.append_assoc]
  | .anyOf parts => by
      rw [sql, tokens, sqlAll_eq_textOf parts, textOf_cons, textOf_append, textOf_intercalate]
      simp [Token.text, String.append_assoc]
  | .chain parts => by
      rw [sql, tokens, sqlAll_eq_textOf parts, textOf_intercalate, Token.text]
  | .raw _ => by simp [sql, tokens, Token.text]

theorem sqlAll_eq_textOf : ∀ parts : List Predicate,
    sqlAll parts = (tokensAll parts).map (textOf Value.literal)
  | [] => rfl
  | part :: rest => by
      rw [sqlAll, tokensAll, List.map_cons, sql_eq_textOf part, sqlAll_eq_textOf rest]

end

mutual

/-- There is one token for each comparison, from left to right. -/
theorem comparisonsOf_tokens : ∀ predicate : Predicate,
    comparisonsOf predicate.tokens = predicate.comparisons
  | .comparison field op value => rfl
  | .allOf parts => by
      simp [tokens, comparisons, comparison?, comparisonsOf_intercalate .and rfl,
        flatMap_comparisonsOf_tokensAll parts]
  | .anyOf parts => by
      simp [tokens, comparisons, comparison?, comparisonsOf_intercalate .or rfl,
        flatMap_comparisonsOf_tokensAll parts]
  | .chain parts => by
      rw [tokens, comparisons, comparisonsOf_intercalate .and rfl,
        flatMap_comparisonsOf_tokensAll parts]
  | .raw _ => rfl

theorem flatMap_comparisonsOf_tokensAll : ∀ parts : List Predicate,
    (tokensAll parts).flatMap comparisonsOf = comparisonsAll parts
  | [] => rfl
  | part :: rest => by
      rw [tokensAll, comparisonsAll, List.flatMap_cons, comparisonsOf_tokens part,
        flatMap_comparisonsOf_tokensAll rest]

end

mutual

/-- Binding writes the same tokens with placeholders. The parameters are the values of the
comparisons, in the form for binding, behind the parameters so far. -/
theorem bind_eq_textOf : ∀ (predicate : Predicate) (params : List Value),
    predicate.bind params = (textOf (fun _ => placeholder) predicate.tokens,
      params ++ predicate.comparisons.map (·.value.bound))
  | .comparison field op value, params => by
      simp [bind, tokens, comparisons, Token.text]
  | .allOf parts, params => by
      rw [bind, bindAll_eq_textOf parts params, tokens, textOf_cons, textOf_append,
        textOf_intercalate]
      simp [Token.text, comparisons, String.append_assoc]
  | .anyOf parts, params => by
      rw [bind, bindAll_eq_textOf parts params, tokens, textOf_cons, textOf_append,
        textOf_intercalate]
      simp [Token.text, comparisons, String.append_assoc]
  | .chain parts, params => by
      rw [bind, bindAll_eq_textOf parts params, tokens, textOf_intercalate]
      simp [Token.text, comparisons]
  | .raw _, params => by simp [bind, tokens, comparisons, Token.text]

theorem bindAll_eq_textOf : ∀ (parts : List Predicate) (params : List Value),
    bindAll parts params = ((tokensAll parts).map (textOf fun _ => placeholder),
      params ++ (comparisonsAll parts).map (·.value.bound))
  | [], params => by simp [bindAll, tokensAll, comparisonsAll]
  | part :: rest, params => by
      rw [bindAll, bind_eq_textOf part params]
      simp [bindAll_eq_textOf rest, tokensAll, comparisonsAll, List.append_assoc]

end

end Predicate

end RowMapper.Sql
