import Suppression.Batch
import Suppression.Proofs.Outcomes
/-!
# Failing batches

A batch fails only with the failure of one of its diagnostics, whether it is judged in order or
scattered.
-/

namespace Suppression

/-- Items judged in order fail with one of them. -/
theorem exists_of_judgeInOrder_eq_error {α β : Type} {judge : α → Logged Failure β}
    {items : List α} {cause : Failure} (h : (judgeInOrder judge items).outcome = .error cause) :
    ∃ item ∈ items, (judge item).outcome = .error cause := by
  induction items with
  | nil => exact absurd h (Logged.outcome_pure_ne_error _ _)
  | cons item rest ih =>
    rw [judgeInOrder_cons] at h
    rcases Logged.outcome_bind_eq_error_iff.1 h with hitem | ⟨verdict, -, hrest⟩
    · exact ⟨item, List.mem_cons_self, hitem⟩
    · obtain ⟨other, hother, hfails⟩ := ih (Logged.outcome_map_eq_error_iff.1 hrest)
      exact ⟨other, List.mem_cons_of_mem item hother, hfails⟩

/-- Items judged in the order of a schedule fail with one of them. -/
theorem exists_of_judgeScattered_eq_error {α β : Type} {schedule : Schedule}
    {judge : α → Logged Failure β} {items : List α} {cause : Failure}
    (h : (judgeScattered schedule judge items).outcome = .error cause) :
    ∃ item ∈ items, (judge item).outcome = .error cause := by
  rcases Logged.outcome_bind_eq_error_iff.1 h with hvisits | ⟨verdicts, -, hsort⟩
  · obtain ⟨⟨place, item⟩, hvisit, hfails⟩ := exists_of_judgeInOrder_eq_error hvisits
    -- what is visited at a place is the item at that place
    obtain ⟨other, -, hplace⟩ := List.mem_filterMap.1 hvisit
    obtain ⟨found, hfound, heq⟩ := Option.map_eq_some_iff.1 hplace
    obtain ⟨rfl, rfl⟩ := Prod.mk.inj heq
    exact ⟨found, List.mem_of_getElem? hfound, Logged.outcome_map_eq_error_iff.1 hfails⟩
  · exact absurd hsort (Logged.outcome_pure_ne_error _ _)

/-- **A batch fails with one of its diagnostics**, on either path and for every schedule. -/
theorem Engine.exists_of_survivors_eq_error {engine : Engine} {host : Host} {schedule : Schedule}
    {batch : List Diagnostic} {cause : Failure}
    (h : (engine.survivors host schedule batch).outcome = .error cause) :
    ∃ diagnostic ∈ batch, (engine.judge host diagnostic).outcome = .error cause := by
  rw [survivors] at h
  split at h
  · exact absurd h (Logged.outcome_pure_ne_error _ _)
  · rcases Logged.outcome_bind_eq_error_iff.1 h with hverdicts | ⟨verdicts, -, hkept⟩
    · rw [verdicts] at hverdicts
      split at hverdicts
      · exact exists_of_judgeScattered_eq_error hverdicts
      · exact exists_of_judgeInOrder_eq_error hverdicts
    · exact absurd hkept (by simp [Logged.record])

end Suppression
