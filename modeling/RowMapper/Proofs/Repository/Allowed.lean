import RowMapper.Proofs.Repository.Store

/-!
# `RowMapper.Proofs.Repository.Allowed`: when a save is refused

Before anything is sent, a save may be refused: by a hook, or by validation, which finds something
as soon as a message is added. Each message counts once (`Errors.size_addAll`), so that comparing
the number of messages with the number before the hook, as `validate` does, is asking whether hook
and rules have had anything to say. `Repository.allow_eq_false_iff` puts it all together.
-/

set_option autoImplicit false

namespace RowMapper

/-! ### The number of messages -/

namespace Errors

/-- An added message is one more. -/
theorem length_insertEntry (field message : String) {entries : List (String × List String)}
    (hsorted : entries.Pairwise (fun a b => a.1 < b.1)) :
    ((SortedMap.insertEntry field ((entries.lookup field).getD [] ++ [message])
      entries).flatMap (·.2)).length = (entries.flatMap (·.2)).length + 1 := by
  induction entries with
  | nil => simp [SortedMap.insertEntry]
  | cons entry rest ih =>
      obtain ⟨first, held⟩ := entry
      obtain ⟨habove, hrest⟩ := List.pairwise_cons.1 hsorted
      rw [SortedMap.insertEntry]
      split
      case isTrue hbefore =>
        -- The field comes before all others and has no messages yet.
        have hnone : ((first, held) :: rest).lookup field = none := by
          refine SortedMap.lookup_eq_none_of_lt fun other hother => ?_
          rcases List.mem_cons.1 hother with rfl | hother
          · exact hbefore
          · exact String.lt_trans hbefore (habove other hother)
        rw [hnone]
        simp
      case isFalse =>
        split
        case isTrue hsame =>
          subst hsame
          simp
          omega
        case isFalse hother =>
          have hskip : ((first, held) :: rest).lookup field = rest.lookup field := by
            rw [List.lookup_cons, beq_false_of_ne hother]
          rw [hskip, List.flatMap_cons, List.length_append, ih hrest, List.flatMap_cons,
            List.length_append, Nat.add_assoc]

theorem size_add (errors : Errors) (field message : String) :
    (errors.add field message).size = errors.size + 1 :=
  length_insertEntry field message errors.messages.sorted

theorem size_addAll (errors : Errors) (added : List (String × String)) :
    (errors.addAll added).size = errors.size + added.length := by
  induction added generalizing errors with
  | nil => rfl
  | cons message rest ih =>
      show ((errors.add message.1 message.2).addAll rest).size = _
      rw [ih, size_add, List.length_cons]
      omega

theorem addAll_nil (errors : Errors) : errors.addAll [] = errors := rfl

end Errors

/-! ### Validation and hooks -/

namespace Repository

variable {ι κ : Type} (repository : Repository ι κ) (record : Record ι κ)

/-- The hook before validating refuses, or it or the rules of the fields have something to say. -/
def Invalid : Prop :=
  let verdict := repository.hooks.beforeValidate record repository.errors
  verdict.accepts = false ∨ verdict.messages ≠ [] ∨ repository.entity.faults record ≠ []

/-- The save is refused, by validation if it is asked for, or by the hook before saving. -/
def Refuses (validated : Bool) : Prop :=
  (validated = true ∧ repository.Invalid record) ∨
    (repository.hooks.beforeSave record repository.errors).accepts = false

/-- An accepting hook without a message changes nothing. -/
theorem heed_accepting {verdict : Verdict} (refusal : String) (haccepts : verdict.accepts = true)
    (hmessages : verdict.messages = []) :
    repository.heed verdict refusal = (true, repository) := by
  simp [heed, haccepts, hmessages, Errors.addAll_nil]

/-- A valid record leaves the repository as it was. -/
theorem validate_of_not_invalid (h : ¬ repository.Invalid record) :
    repository.validate record = (true, repository) := by
  obtain ⟨haccepts, hmessages, hfaults⟩ : _ ∧ _ ∧ _ := by
    simpa only [Invalid, not_or, ne_eq, Classical.not_not,
      Bool.not_eq_false] using h
  rw [validate]
  dsimp only
  rw [heed_accepting repository _ haccepts hmessages]
  dsimp only
  rw [hfaults, Errors.addAll_nil, beq_self_eq_true]

/-- In an invalid record something is found. -/
theorem validate_of_invalid (h : repository.Invalid record) :
    (repository.validate record).1 = false := by
  rw [validate]
  dsimp only
  cases haccepts : (repository.hooks.beforeValidate record repository.errors).accepts with
  | false => simp [heed, haccepts]
  | true =>
      -- The hook accepts, so there is a message, and the number of messages grows.
      have hadded : (repository.hooks.beforeValidate record repository.errors).messages ≠ [] ∨
          repository.entity.faults record ≠ [] := by
        simpa [Invalid, haccepts] using h
      have hlength : 0 < (repository.hooks.beforeValidate record repository.errors).messages.length
          + (repository.entity.faults record).length := by
        rcases hadded with hadded | hadded <;> have := List.length_pos_iff.2 hadded <;> omega
      simp only [heed, haccepts, Bool.true_or, if_true, Errors.size_addAll,
        beq_eq_false_iff_ne, ne_eq]
      omega

theorem allow_eq_false_iff (validated : Bool) :
    (repository.allow validated record).1 = false ↔ repository.Refuses record validated := by
  cases validated with
  | false => simp [allow, heed, Refuses]
  | true =>
      unfold allow
      by_cases hinvalid : repository.Invalid record
      · -- Validation refuses, whatever the hook before saving says.
        have hvalidate := repository.validate_of_invalid record hinvalid
        rw [if_pos rfl]
        generalize repository.validate record = validated at hvalidate ⊢
        obtain ⟨_, after⟩ := validated
        subst hvalidate
        simp [Refuses, hinvalid]
      · rw [if_pos rfl, repository.validate_of_not_invalid record hinvalid]
        simp [heed, Refuses, hinvalid]

theorem allow_eq_true_iff (validated : Bool) :
    (repository.allow validated record).1 = true ↔ ¬ repository.Refuses record validated := by
  rw [← allow_eq_false_iff, Bool.not_eq_false]

end Repository

end RowMapper
