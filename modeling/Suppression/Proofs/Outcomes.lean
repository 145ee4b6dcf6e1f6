import Suppression.Log
/-!
# Outcomes of logged computations

What a computation with a log comes to, and what it has recorded by then, read off its parts: a
sequence runs its second part only after a success of the first, and the records of the second part
follow those of the first. A failure keeps the records that were written before it.
-/

namespace Suppression.Logged

variable {ε δ α β : Type} {first : Logged ε α} {next : α → Logged ε β}

/-! ## Sequences -/

/-- After a success the second part decides, and its records come after. -/
theorem bind_of_ok {value : α} (h : first.outcome = .ok value) (next : α → Logged ε β) :
    first >>= next = ⟨(next value).outcome, first.log ++ (next value).log⟩ := by
  obtain ⟨outcome, log⟩ := first
  simp only at h
  rw [h, bind_ok]

/-- After a failure there is no second part. -/
theorem bind_of_error {cause : ε} (h : first.outcome = .error cause) (next : α → Logged ε β) :
    first >>= next = ⟨.error cause, first.log⟩ := by
  obtain ⟨outcome, log⟩ := first
  simp only at h
  rw [h, bind_error]

/-- After a success the second part of a sequence decides. -/
theorem outcome_bind_of_ok {value : α} (h : first.outcome = .ok value) (next : α → Logged ε β) :
    (first >>= next).outcome = (next value).outcome := by
  rw [bind_of_ok h]

/-- After a failure the sequence fails too. -/
theorem outcome_bind_of_error {cause : ε} (h : first.outcome = .error cause)
    (next : α → Logged ε β) : (first >>= next).outcome = .error cause := by
  rw [bind_of_error h]

/-- A sequence succeeds if its first part does, and its second after that. -/
theorem outcome_bind_eq_ok_iff {value : β} :
    (first >>= next).outcome = .ok value ↔
      ∃ middle, first.outcome = .ok middle ∧ (next middle).outcome = .ok value := by
  cases h : first.outcome with
  | error cause => simp [outcome_bind_of_error h]
  | ok middle => simp [outcome_bind_of_ok h]

/-- A sequence fails with its first part or, after that has succeeded, with its second. -/
theorem outcome_bind_eq_error_iff {cause : ε} :
    (first >>= next).outcome = .error cause ↔ first.outcome = .error cause ∨
      ∃ middle, first.outcome = .ok middle ∧ (next middle).outcome = .error cause := by
  cases h : first.outcome with
  | error other => simp [outcome_bind_of_error h]
  | ok middle => simp [outcome_bind_of_ok h]

/-- A plain value is no failure. -/
theorem outcome_pure_ne_error (value : α) (cause : ε) :
    (pure value : Logged ε α).outcome ≠ .error cause := by
  simp

/-! ## Changed values and failures -/

/-- A changed value comes from a value. -/
theorem outcome_map_eq_ok_iff {f : α → β} {value : β} :
    (f <$> first).outcome = .ok value ↔
      ∃ before, first.outcome = .ok before ∧ f before = value := by
  rw [map_eq]
  cases first.outcome <;> simp [Except.map]

/-- Changing the value leaves a failure as it is. -/
theorem outcome_map_eq_error_iff {f : α → β} {cause : ε} :
    (f <$> first).outcome = .error cause ↔ first.outcome = .error cause := by
  rw [map_eq]
  cases first.outcome <;> simp [Except.map]

/-- Putting a failure in another form leaves a value as it is. -/
theorem outcome_mapError_eq_ok_iff {f : ε → δ} {value : α} :
    (first.mapError f).outcome = .ok value ↔ first.outcome = .ok value := by
  rw [mapError]
  cases first.outcome with
  | ok before =>
    show (Except.ok before : Except δ α) = .ok value ↔ _
    simp
  | error before =>
    show (Except.error (f before) : Except δ α) = .ok value ↔ _
    simp

/-- A failure in another form comes from a failure. -/
theorem outcome_mapError_eq_error_iff {f : ε → δ} {cause : δ} :
    (first.mapError f).outcome = .error cause ↔
      ∃ before, first.outcome = .error before ∧ f before = cause := by
  rw [mapError]
  cases first.outcome with
  | ok value =>
    show (Except.ok value : Except δ α) = .error cause ↔ _
    simp
  | error before =>
    show (Except.error (f before) : Except δ α) = .error cause ↔ _
    simp

end Suppression.Logged
