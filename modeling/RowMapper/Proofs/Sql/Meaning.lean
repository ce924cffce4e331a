import RowMapper.Proofs.Sql.Precedence

/-!
# `RowMapper.Proofs.Sql.Meaning`: rendering keeps the meaning of a condition

A chain is written without parentheses, inside other chains and between connectives. A database
reads it there all the same, because every condition can stand between `AND`s
(`Predicate.linked_tokens`): read behind another conjunction it is not one operand, but its operands
are taken in one by one and the result means the same (`Linked`).

`Predicate.rendering_keeps_meaning` is the result: both texts of a condition are written from one
row of tokens, which has one reading, and the reading is true when the tree is, whatever the
comparisons mean.
-/

set_option autoImplicit false

namespace RowMapper.Sql

open Token

/-- How the parts of a condition are linked. -/
inductive Connective where
  | and
  | or

namespace Connective

/-- What is written between the parts. -/
def token : Connective → Token
  | .and => .and
  | .or => .or

/-- The level at which parts linked in this way are read. -/
def level : Connective → Level
  | .and => .conjunction
  | .or => .disjunction

/-- The truth of two linked parts. -/
def combine : Connective → Bool → Bool → Bool
  | .and, first, second => first && second
  | .or, first, second => first || second

/-- The truth of any number of linked parts. -/
def combineAll : Connective → List Bool → Bool
  | .and, parts => parts.all id
  | .or, parts => parts.any id

theorem combine_assoc (connective : Connective) (a b c : Bool) :
    connective.combine (connective.combine a b) c
      = connective.combine a (connective.combine b c) := by
  cases connective with
  | and => exact Bool.and_assoc a b c
  | or => exact Bool.or_assoc a b c

@[simp]
theorem combineAll_singleton (connective : Connective) (part : Bool) :
    connective.combineAll [part] = part := by
  cases connective <;> simp [combineAll]

@[simp]
theorem combineAll_cons (connective : Connective) (part : Bool) (rest : List Bool) :
    connective.combineAll (part :: rest)
      = connective.combine part (connective.combineAll rest) := by
  cases connective <;> rfl

end Connective

namespace Predicate

mutual

/-- Whether a condition is true, given which comparisons are. Words of the caller have no meaning
here. -/
def holds (truth : Comparison → Bool) : Predicate → Bool
  | .comparison field op value => truth ⟨field, op, value⟩
  | .allOf parts => Connective.and.combineAll (holdsEach truth parts)
  | .anyOf parts => Connective.or.combineAll (holdsEach truth parts)
  | .chain parts => Connective.and.combineAll (holdsEach truth parts)
  | .raw _ => false

def holdsEach (truth : Comparison → Bool) : List Predicate → List Bool
  | [] => []
  | part :: rest => holds truth part :: holdsEach truth rest

end

mutual

/-- There are no words of the caller, and every connective has a part. -/
def Composed : Predicate → Prop
  | .comparison .. => True
  | .allOf parts => parts ≠ [] ∧ ComposedAll parts
  | .anyOf parts => parts ≠ [] ∧ ComposedAll parts
  | .chain parts => parts ≠ [] ∧ ComposedAll parts
  | .raw _ => False

def ComposedAll : List Predicate → Prop
  | [] => True
  | part :: rest => Composed part ∧ ComposedAll rest

end

end Predicate

/-- What a condition says, given which comparisons are true. -/
abbrev Meaning := (Comparison → Bool) → Bool

/-- The tokens can be read with this meaning among parts that are linked in this way: by
themselves, and behind any parts that have been read already. -/
structure Linked (connective : Connective) (tokens : List Token) (meaning : Meaning) : Prop where
  alone : ∃ f, Derives connective.level tokens f ∧ ∀ truth, f.holds truth = meaning truth
  behind : ∀ {front g}, Derives connective.level front g →
    ∃ f, Derives connective.level (front ++ connective.token :: tokens) f ∧
      ∀ truth, f.holds truth = connective.combine (g.holds truth) (meaning truth)

namespace Linked

/-- An operand can stand between `AND`s. -/
theorem ofOperand {tokens : List Token} {f : Formula} {meaning : Meaning}
    (h : Derives .operand tokens f) (hmeaning : ∀ truth, f.holds truth = meaning truth) :
    Linked .and tokens meaning where
  alone := ⟨f, .operand h, hmeaning⟩
  behind {front g} hfront :=
    ⟨.and g f, .and hfront h, fun truth => by rw [Formula.holds, hmeaning]; rfl⟩

/-- What can stand between `AND`s can stand between `OR`s, without parentheses. -/
theorem toOr {tokens : List Token} {meaning : Meaning} (h : Linked .and tokens meaning) :
    Linked .or tokens meaning := by
  obtain ⟨f, hf, hmeaning⟩ := h.alone
  constructor
  · exact ⟨f, .conjunction hf, hmeaning⟩
  · intro front g hfront
    exact ⟨.or g f, .or hfront hf, fun truth => by rw [Formula.holds, hmeaning]; rfl⟩

/-- In parentheses, what can stand between `OR`s is an operand. -/
theorem group {tokens : List Token} {meaning : Meaning} (h : Linked .or tokens meaning) :
    Linked .and (.left :: (tokens ++ [.right])) meaning := by
  obtain ⟨f, hf, hmeaning⟩ := h.alone
  exact ofOperand (.group hf) hmeaning

/-- Two parts, one written behind the other, are again such a part. -/
theorem append {connective : Connective} {first second : List Token} {m n : Meaning}
    (hfirst : Linked connective first m) (hsecond : Linked connective second n) :
    Linked connective (first ++ connective.token :: second)
      (fun truth => connective.combine (m truth) (n truth)) where
  alone := by
    obtain ⟨f, hf, hm⟩ := hfirst.alone
    obtain ⟨g, hg, hn⟩ := hsecond.behind hf
    exact ⟨g, hg, fun truth => by rw [hn, hm]⟩
  behind {front k} hfront := by
    -- The parts of `first` go behind `front`, and then those of `second` behind all of these.
    obtain ⟨f, hf, hm⟩ := hfirst.behind hfront
    obtain ⟨g, hg, hn⟩ := hsecond.behind hf
    rw [List.append_assoc] at hg
    exact ⟨g, hg, fun truth => by rw [hn, hm, connective.combine_assoc]⟩

open Predicate in
/-- So are any number of conditions, if there is one at all. -/
theorem intercalate {connective : Connective} :
    ∀ parts : List Predicate, parts ≠ [] →
      (∀ part ∈ parts, Linked connective part.tokens fun truth => part.holds truth) →
      Linked connective ([connective.token].intercalate (tokensAll parts))
        fun truth => connective.combineAll (holdsEach truth parts)
  | [], hne, _ => absurd rfl hne
  | [part], _, h => by
      have hpart := h part List.mem_cons_self
      simpa only [tokensAll, holdsEach, List.intercalate_singleton,
        Connective.combineAll_singleton] using hpart
  | part :: next :: rest, _, h => by
      obtain ⟨hpart, hrest⟩ := List.forall_mem_cons.1 h
      have happend := hpart.append (intercalate (next :: rest) (List.cons_ne_nil _ _) hrest)
      simpa only [tokensAll, holdsEach, List.intercalate_cons_cons, List.append_assoc,
        List.singleton_append, Connective.combineAll_cons] using happend

end Linked

namespace Predicate

mutual

/-- Every condition can stand between `AND`s. -/
theorem linked_tokens : ∀ predicate : Predicate, predicate.Composed →
    Linked .and predicate.tokens fun truth => predicate.holds truth
  | .comparison field op value, _ => by
      rw [tokens]
      exact .ofOperand (.atom ⟨field, op, value⟩) fun truth => by rw [holds]; rfl
  | .allOf parts, h => by
      rw [Composed] at h
      simp only [tokens, holds]
      exact (Linked.intercalate parts h.1 (linked_parts parts h.2)).toOr.group
  | .anyOf parts, h => by
      rw [Composed] at h
      simp only [tokens, holds]
      -- Each part is a conjunction, which needs no parentheses between `OR`s.
      have hparts part (hpart : part ∈ parts) := (linked_parts parts h.2 part hpart).toOr
      exact (Linked.intercalate parts h.1 hparts).group
  | .chain parts, h => by
      rw [Composed] at h
      simp only [tokens, holds]
      exact Linked.intercalate parts h.1 (linked_parts parts h.2)
  | .raw _, h => by
      rw [Composed] at h
      exact h.elim

theorem linked_parts : ∀ parts : List Predicate, ComposedAll parts →
    ∀ part ∈ parts, Linked .and part.tokens fun truth => part.holds truth
  | [], _ => by simp
  | part :: rest, h => by
      rw [ComposedAll] at h
      exact List.forall_mem_cons.2 ⟨linked_tokens part h.1, linked_parts rest h.2⟩

end

/-- Rendering keeps the meaning of a condition. Both of its texts are written from the same tokens,
one of them for each comparison of the tree. A database has exactly one reading of these tokens, and
it is true when the tree is, whatever the comparisons mean. -/
theorem rendering_keeps_meaning (predicate : Predicate) (h : predicate.Composed) :
    predicate.sql = textOf Value.literal predicate.tokens ∧
    (∀ params, (predicate.bind params).1 = textOf (fun _ => placeholder) predicate.tokens) ∧
    comparisonsOf predicate.tokens = predicate.comparisons ∧
    ∃ f, parse? predicate.tokens = some f ∧
      (∀ g, Derives .disjunction predicate.tokens g ↔ g = f) ∧
      ∀ truth, f.holds truth = predicate.holds truth := by
  obtain ⟨f, hf, hmeaning⟩ := (predicate.linked_tokens h).toOr.alone
  refine ⟨predicate.sql_eq_textOf, ?_, predicate.comparisonsOf_tokens,
    f, parse?_eq_some hf, ?_, hmeaning⟩
  · intro params
    rw [predicate.bind_eq_textOf]
  · intro g
    constructor
    · intro hg
      exact hg.unique hf
    · rintro rfl
      exact hf

/-- A chain between two `OR`s is read as one of the alternatives. -/
theorem rendering_keeps_meaning_of_chain :
    let a : Comparison := ⟨"a", .eq, .int 1⟩
    let b : Comparison := ⟨"b", .gt, .int 2⟩
    let c : Comparison := ⟨"c", .lt, .int 3⟩
    let predicate : Predicate := .anyOf [.comparison "a" .eq (.int 1),
      .chain [.comparison "b" .gt (.int 2), .comparison "c" .lt (.int 3)]]
    predicate.sql = "(a = 1 OR b > 2 AND c < 3)" ∧
    ∃ f, parse? predicate.tokens = some f ∧
      ∀ truth, f.holds truth = (truth a || truth b && truth c) := by
  intro a b c predicate
  have hcomposed : predicate.Composed := by simp [predicate, Composed, ComposedAll]
  obtain ⟨_, _, _, f, hparse, _, hmeaning⟩ := rendering_keeps_meaning predicate hcomposed
  refine ⟨by decide +kernel, f, hparse, fun truth => ?_⟩
  rw [hmeaning]
  simp [predicate, holds, holdsEach, Connective.combineAll, a, b, c]

end Predicate

end RowMapper.Sql
