import RowMapper.Proofs.Sql.Token

/-!
# `RowMapper.Proofs.Sql.Precedence`: reading conditions as a database does

A database reads a row of tokens with the precedence of SQL: parentheses first, then `AND`, then
`OR`, each connective from left to right. `Derives` is this grammar, with one level for each
binding strength, and `parse?` is a reader that runs over the tokens once.

* `parse?_eq_some`: the reader finds what the grammar derives.
* `Derives.unique`: so a row of tokens has at most one reading.

`Formula.holds` is what a reading says, given which comparisons are true.
-/

set_option autoImplicit false

namespace RowMapper.Sql

/-- A condition as it is read. -/
inductive Formula where
  | atom (comparison : Comparison)
  | and (first second : Formula)
  | or (first second : Formula)

/-- Whether a formula is true, given which comparisons are. -/
def Formula.holds (truth : Comparison → Bool) : Formula → Bool
  | .atom c => truth c
  | .and first second => first.holds truth && second.holds truth
  | .or first second => first.holds truth || second.holds truth

/-- How tightly the outermost connective of a reading binds. -/
inductive Level where
  | operand
  | conjunction
  | disjunction

/-- The grammar of conditions. A looser level takes readings of the tighter one, and only
parentheses make an operand of a disjunction. -/
inductive Derives : Level → List Token → Formula → Prop
  | atom (c : Comparison) : Derives .operand [.comparison c] (.atom c)
  | group {tokens : List Token} {f : Formula} (h : Derives .disjunction tokens f) :
      Derives .operand (.left :: (tokens ++ [.right])) f
  | operand {tokens : List Token} {f : Formula} (h : Derives .operand tokens f) :
      Derives .conjunction tokens f
  | and {front back : List Token} {f g : Formula} (hfront : Derives .conjunction front f)
      (hback : Derives .operand back g) : Derives .conjunction (front ++ .and :: back) (.and f g)
  | conjunction {tokens : List Token} {f : Formula} (h : Derives .conjunction tokens f) :
      Derives .disjunction tokens f
  | or {front back : List Token} {f g : Formula} (hfront : Derives .disjunction front f)
      (hback : Derives .conjunction back g) :
      Derives .disjunction (front ++ .or :: back) (.or f g)

/-- What has been read inside one pair of parentheses, up to the operand that is being read: the
disjunction up to the last `OR`, and behind it the conjunction up to the last `AND`. -/
structure Frame where
  disjuncts : Option Formula
  factors : Option Formula

namespace Frame

/-- Nothing has been read. -/
def fresh : Frame := ⟨none, none⟩

/-- The conjunction that an operand completes. -/
def conjoin (frame : Frame) (operand : Formula) : Formula :=
  match frame.factors with
  | some factors => .and factors operand
  | none => operand

/-- The disjunction that an operand completes. -/
def close (frame : Frame) (operand : Formula) : Formula :=
  match frame.disjuncts with
  | some disjuncts => .or disjuncts (frame.conjoin operand)
  | none => frame.conjoin operand

end Frame

/-- Where the reader stands: in front of an operand or behind one, inside a frame and, for each
open parenthesis, the frame around it. -/
inductive Reading where
  | before (frame : Frame) (around : List Frame)
  | behind (operand : Formula) (frame : Frame) (around : List Frame)

namespace Reading

/-- Reads one token. -/
def step : Reading → Token → Option Reading
  | .before frame around, .comparison c => some (.behind (.atom c) frame around)
  | .before frame around, .left => some (.before .fresh (frame :: around))
  | .behind operand frame around, .and =>
    some (.before ⟨frame.disjuncts, some (frame.conjoin operand)⟩ around)
  | .behind operand frame around, .or => some (.before ⟨some (frame.close operand), none⟩ around)
  | .behind operand frame (outer :: around), .right =>
    some (.behind (frame.close operand) outer around)
  | _, _ => none

/-- Reads tokens one after the other. -/
def run : List Token → Reading → Option Reading
  | [], reading => some reading
  | token :: tokens, reading => (reading.step token).bind (run tokens)

/-- What has been read, if no operand and no parenthesis is missing. -/
def result? : Reading → Option Formula
  | .behind operand frame [] => some (frame.close operand)
  | _ => none

end Reading

/-- Reads a row of tokens. -/
def parse? (tokens : List Token) : Option Formula :=
  (Reading.run tokens (.before .fresh [])).bind Reading.result?

namespace Reading

/-- What the reader does with tokens that the grammar derives at a level. An operand it steps over;
behind a conjunction or disjunction it stands behind the last operand, and has the rest in its
frame. -/
def Reads (tokens : List Token) (f : Formula) : Level → Prop
  | .operand => ∀ frame around rest,
      run (tokens ++ rest) (.before frame around) = run rest (.behind f frame around)
  | .conjunction => ∀ disjuncts around rest, ∃ operand factors,
      run (tokens ++ rest) (.before ⟨disjuncts, none⟩ around)
        = run rest (.behind operand ⟨disjuncts, factors⟩ around) ∧
      Frame.conjoin ⟨disjuncts, factors⟩ operand = f
  | .disjunction => ∀ around rest, ∃ operand frame,
      run (tokens ++ rest) (.before .fresh around) = run rest (.behind operand frame around) ∧
      frame.close operand = f

/-- The reader follows the grammar. -/
theorem reads_of_derives {level : Level} {tokens : List Token} {f : Formula}
    (h : Derives level tokens f) : Reads tokens f level := by
  -- The induction is on the derivation. What follows the tokens is left open, since a part of a
  -- condition is read with the rest of the condition behind it.
  induction h with
  | atom c =>
      intro frame around rest
      rfl
  | @group tokens f _ ih =>
      intro frame around rest
      -- Inside, the reader has one more frame around it, and finds the closing parenthesis.
      obtain ⟨operand, inner, hrun, rfl⟩ := ih (frame :: around) (.right :: rest)
      show run ((tokens ++ [.right]) ++ rest) (.before .fresh (frame :: around)) = _
      rw [List.append_assoc, List.singleton_append, hrun]
      rfl
  | @operand tokens f _ ih =>
      intro disjuncts around rest
      exact ⟨f, none, ih ⟨disjuncts, none⟩ around rest, rfl⟩
  | @and front back _ g _ _ ihfront ihback =>
      intro disjuncts around rest
      -- At the `AND`, what was read becomes the conjunction so far.
      obtain ⟨operand, factors, hrun, rfl⟩ := ihfront disjuncts around (.and :: (back ++ rest))
      refine ⟨g, some (Frame.conjoin ⟨disjuncts, factors⟩ operand), ?_, rfl⟩
      rw [List.append_assoc, List.cons_append, hrun]
      exact ihback _ around rest
  | conjunction _ ih =>
      intro around rest
      obtain ⟨operand, factors, hrun, hconjoin⟩ := ih none around rest
      exact ⟨operand, ⟨none, factors⟩, hrun, hconjoin⟩
  | @or front back _ _ _ _ ihfront ihback =>
      intro around rest
      -- At the `OR`, the conjunction is closed as well, and a new one begins.
      obtain ⟨first, frame, hfront, rfl⟩ := ihfront around (.or :: (back ++ rest))
      obtain ⟨operand, factors, hback, rfl⟩ := ihback (some (frame.close first)) around rest
      refine ⟨operand, ⟨some (frame.close first), factors⟩, ?_, rfl⟩
      rw [List.append_assoc, List.cons_append, hfront]
      exact hback

end Reading

/-- The reader finds what the grammar derives. -/
theorem parse?_eq_some {tokens : List Token} {f : Formula} (h : Derives .disjunction tokens f) :
    parse? tokens = some f := by
  obtain ⟨operand, frame, hrun, rfl⟩ := Reading.reads_of_derives h [] []
  rw [List.append_nil] at hrun
  rw [parse?, hrun]
  rfl

/-- A row of tokens has at most one reading. -/
theorem Derives.unique {tokens : List Token} {f g : Formula} (hf : Derives .disjunction tokens f)
    (hg : Derives .disjunction tokens g) : f = g := by
  have h := (parse?_eq_some hf).symm.trans (parse?_eq_some hg)
  exact Option.some.inj h

/-- `AND` binds tighter than `OR`, whichever comes first. -/
example (a b c : Comparison) :
    parse? [.comparison a, .or, .comparison b, .and, .comparison c]
      = some (.or (.atom a) (.and (.atom b) (.atom c))) := rfl

end RowMapper.Sql
