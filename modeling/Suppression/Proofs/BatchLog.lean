import Suppression.Proofs.Survivors
import Suppression.Proofs.Validation
/-!
# The log of a batch

A batch that is judged in order is recorded diagnostic by diagnostic: each verdict leaves one
record, which tells the match that was found or that there is none (`Engine.Tells`), and a failing
diagnostic leaves none. So the records of a batch are those of its diagnostics before the first
failing one (`judgeInOrder_append`). Only if none fails a summary follows, and its counts agree with
what is returned and with the records before it (`Engine.survivors_log`).
-/

namespace Suppression

/-! ## Records of judging in order -/

section

variable {α β : Type} {judge : α → Logged Failure β}

/-- Judging an item succeeds and leaves one record. -/
def LeavesRecord (judge : α → Logged Failure β) (item : α) (event : Event) : Prop :=
  ∃ verdict, judge item = ⟨.ok verdict, [event]⟩

/-- **Items that each leave a record are judged first and leave their records**, in their order, and
then the items behind them are judged. -/
theorem judgeInOrder_append {before : List α} {told : List Event}
    (records : List.Forall₂ (LeavesRecord judge) before told) :
    ∃ verdicts, before.map (fun item => (judge item).outcome) = verdicts.map .ok ∧
      ∀ rest, judgeInOrder judge (before ++ rest) =
        ⟨(judgeInOrder judge rest).outcome.map (verdicts ++ ·),
          told ++ (judgeInOrder judge rest).log⟩ := by
  induction records with
  | nil =>
    refine ⟨[], rfl, fun rest => ?_⟩
    show judgeInOrder judge rest = ⟨(judgeInOrder judge rest).outcome.map id, _⟩
    rw [Except.map_id]
    rfl
  | @cons item event before told hitem _ ih =>
    obtain ⟨verdict, hitem⟩ := hitem
    obtain ⟨verdicts, hverdicts, hrest⟩ := ih
    have hok : (judge item).outcome = .ok verdict := by rw [hitem]
    refine ⟨verdict :: verdicts, by rw [List.map_cons, hok, hverdicts, List.map_cons], ?_⟩
    intro rest
    rw [List.cons_append, judgeInOrder_cons, Logged.bind_of_ok hok, hitem, hrest rest,
      Logged.map_eq]
    cases (judgeInOrder judge rest).outcome <;> rfl

/-- Items that each leave a record leave nothing else, and there is a verdict on each. -/
theorem judgeInOrder_of_records {items : List α} {told : List Event}
    (records : List.Forall₂ (LeavesRecord judge) items told) :
    ∃ verdicts, items.map (fun item => (judge item).outcome) = verdicts.map .ok ∧
      judgeInOrder judge items = ⟨.ok verdicts, told⟩ := by
  obtain ⟨verdicts, hverdicts, hrest⟩ := judgeInOrder_append records
  have h := hrest []
  rw [List.append_nil, judgeInOrder_nil, Logged.pure_eq] at h
  refine ⟨verdicts, hverdicts, h.trans ?_⟩
  rw [List.append_nil, Except.map, List.append_nil]

/-- A failing item that leaves no record ends the log. -/
theorem judgeInOrder_of_error {before after : List α} {item : α} {told : List Event}
    {cause : Failure} (records : List.Forall₂ (LeavesRecord judge) before told)
    (h : judge item = ⟨.error cause, []⟩) :
    judgeInOrder judge (before ++ item :: after) = ⟨.error cause, told⟩ := by
  obtain ⟨verdicts, -, hrest⟩ := judgeInOrder_append records
  have hfails : (judge item).outcome = .error cause := by rw [h]
  rw [hrest, judgeInOrder_cons, Logged.bind_of_error hfails, h, List.append_nil]
  rfl

end

/-! ## Records of verdicts -/

/-- Whether a record tells that nothing was found. -/
def Event.isNotSuppressed : Event → Bool
  | .notSuppressed .. => true
  | _ => false

namespace Engine

variable {engine : Engine} {host : Host} {schedule : Schedule} {batch : List Diagnostic}

/-- What is recorded of the verdict on a diagnostic: the very match that is found, or that there is
none. -/
inductive Tells (engine : Engine) (host : Host) (diagnostic : Diagnostic) : Event → Prop
  /-- There is a match. -/
  | suppressed {found : Match}
      (h : engine.findMatch host diagnostic.checker diagnostic.element = .ok (some found)) :
      Tells engine host diagnostic (.suppressed diagnostic.checker diagnostic.element found)
  /-- There is none. -/
  | notSuppressed
      (h : engine.findMatch host diagnostic.checker diagnostic.element = .ok none) :
      Tells engine host diagnostic (.notSuppressed diagnostic.checker diagnostic.element)

/-- A diagnostic on which there is a verdict can be told of. -/
theorem exists_tells {diagnostic : Diagnostic} {found : Option Match}
    (h : engine.findMatch host diagnostic.checker diagnostic.element = .ok found) :
    ∃ event, engine.Tells host diagnostic event := by
  cases found with
  | none => exact ⟨_, .notSuppressed h⟩
  | some found => exact ⟨_, .suppressed h⟩

/-- Judging leaves the record that tells of the verdict. -/
theorem Tells.leavesRecord {diagnostic : Diagnostic} {event : Event}
    (tells : engine.Tells host diagnostic event) :
    LeavesRecord (engine.judge host) diagnostic event := by
  cases tells with
  | suppressed h => exact ⟨true, by rw [judge, isSuppressed, h]⟩
  | notSuppressed h => exact ⟨false, by rw [judge, isSuppressed, h]⟩

/-- A diagnostic without a verdict leaves no record. -/
theorem judge_of_error {diagnostic : Diagnostic} {cause : Failure}
    (h : engine.findMatch host diagnostic.checker diagnostic.element = .error cause) :
    engine.judge host diagnostic = ⟨.error cause, []⟩ := by
  rw [judge, isSuppressed, h]

/-- A diagnostic is spared exactly if it is recorded that nothing was found. -/
theorem Tells.spares_eq {diagnostic : Diagnostic} {event : Event}
    (tells : engine.Tells host diagnostic event) :
    engine.spares host diagnostic = event.isNotSuppressed := by
  cases tells with
  | suppressed h =>
    unfold spares judge isSuppressed
    rw [h]
    rfl
  | notSuppressed h =>
    unfold spares judge isSuppressed
    rw [h]
    rfl

/-- As many diagnostics are spared as there are records that nothing was found. -/
theorem length_filter_spares {told : List Event}
    (tells : List.Forall₂ (engine.Tells host) batch told) :
    (batch.filter (engine.spares host)).length = told.countP Event.isNotSuppressed := by
  induction tells with
  | nil => rfl
  | cons hitem _ ih =>
    rw [List.filter_cons, List.countP_cons, ← hitem.spares_eq, ← ih]
    split <;> simp

/-- Diagnostics on which there are verdicts can be told of one by one. -/
theorem exists_told
    (h : ∀ diagnostic ∈ batch, ∃ found,
      engine.findMatch host diagnostic.checker diagnostic.element = .ok found) :
    ∃ told, List.Forall₂ (engine.Tells host) batch told := by
  induction batch with
  | nil => exact ⟨[], .nil⟩
  | cons diagnostic rest ih =>
    rw [List.forall_mem_cons] at h
    obtain ⟨found, hfound⟩ := h.1
    obtain ⟨event, hevent⟩ := exists_tells hfound
    obtain ⟨told, htold⟩ := ih h.2
    exact ⟨event :: told, .cons hevent htold⟩

/-! ## The log of a batch -/

/-- A batch that is not empty and not beyond the threshold is judged in order and summed up. -/
theorem survivors_of_le (hle : batch.length ≤ engine.config.parallelThreshold.toNat)
    (hne : batch ≠ []) :
    engine.survivors host schedule batch =
      judgeInOrder (engine.judge host) batch >>= fun verdicts =>
        ⟨.ok (surviving batch verdicts),
          [.kept (surviving batch verdicts).length batch.length]⟩ := by
  have hverdicts : engine.verdicts host schedule batch =
      judgeInOrder (engine.judge host) batch := if_neg (Nat.not_lt.2 hle)
  unfold survivors
  rw [if_neg (by simpa using hne), hverdicts]
  rfl

/-- A batch without failing diagnostics leaves its records and a summary. -/
theorem survivors_of_told (hle : batch.length ≤ engine.config.parallelThreshold.toNat)
    (hne : batch ≠ []) {told : List Event} (tells : List.Forall₂ (engine.Tells host) batch told) :
    engine.survivors host schedule batch = ⟨.ok (batch.filter (engine.spares host)),
      told ++ [.kept (batch.filter (engine.spares host)).length batch.length]⟩ := by
  obtain ⟨verdicts, hverdicts, hjudged⟩ :=
    judgeInOrder_of_records (tells.imp fun _ _ => Tells.leavesRecord)
  rw [survivors_of_le hle hne, hjudged, Logged.bind_ok, surviving_eq_filter hverdicts]

/-- A batch with a failing diagnostic leaves the records of those before the first one. -/
theorem survivors_of_failing {before after : List Diagnostic} {diagnostic : Diagnostic}
    {cause : Failure}
    (hle : (before ++ diagnostic :: after).length ≤ engine.config.parallelThreshold.toNat)
    {told : List Event} (tells : List.Forall₂ (engine.Tells host) before told)
    (h : engine.findMatch host diagnostic.checker diagnostic.element = .error cause) :
    engine.survivors host schedule (before ++ diagnostic :: after) = ⟨.error cause, told⟩ := by
  have hjudged : judgeInOrder (engine.judge host) (before ++ diagnostic :: after) =
      ⟨.error cause, told⟩ :=
    judgeInOrder_of_error (tells.imp fun _ _ => Tells.leavesRecord) (judge_of_error h)
  rw [survivors_of_le hle (by simp), hjudged, Logged.bind_error]

/-- **What judging a batch in order leaves in the log.** An empty batch leaves nothing. If there is
a verdict on every diagnostic of a batch, each leaves one record, in order, that tells the very
match that is found or that there is none; behind them stands a summary with the size of the batch
and the number of diagnostics that are returned, which is that of the records that nothing was
found. If there is none on some diagnostic, those before the first such one leave their records, and
that is all. -/
theorem survivors_log (engine : Engine) (host : Host) (schedule : Schedule)
    (batch : List Diagnostic) (hle : batch.length ≤ engine.config.parallelThreshold.toNat) :
    (batch = [] → engine.survivors host schedule batch = ⟨.ok [], []⟩) ∧
    (batch ≠ [] →
      (∀ diagnostic ∈ batch, ∃ found,
        engine.findMatch host diagnostic.checker diagnostic.element = .ok found) →
      ∃ kept told, List.Forall₂ (engine.Tells host) batch told ∧
        engine.survivors host schedule batch =
          ⟨.ok kept, told ++ [.kept kept.length batch.length]⟩ ∧
        kept.length = told.countP Event.isNotSuppressed) ∧
    ∀ before diagnostic after cause, batch = before ++ diagnostic :: after →
      (∀ earlier ∈ before, ∃ found,
        engine.findMatch host earlier.checker earlier.element = .ok found) →
      engine.findMatch host diagnostic.checker diagnostic.element = .error cause →
      ∃ told, List.Forall₂ (engine.Tells host) before told ∧
        engine.survivors host schedule batch = ⟨.error cause, told⟩ := by
  refine ⟨?_, ?_, ?_⟩
  · rintro rfl
    rfl
  · intro hne hfound
    obtain ⟨told, tells⟩ := exists_told hfound
    exact ⟨_, told, tells, survivors_of_told hle hne tells, length_filter_spares tells⟩
  · rintro before diagnostic after cause rfl hbefore hfails
    obtain ⟨told, tells⟩ := exists_told hbefore
    exact ⟨told, tells, survivors_of_failing hle tells hfails⟩

/-- Two reports on one element. -/
def twoReports : List Diagnostic :=
  [{ checker := "x", element := 0 }, { checker := "y", element := 0 }]

/-- A third report under a name that is not registered, and a fourth. -/
def fourReports : List Diagnostic :=
  twoReports ++ { checker := "ghost", element := 0 } :: [{ checker := "x", element := 0 }]

/-- Of the two reports one is silenced and one is kept, and both are recorded and counted; the same
two records, and no count, are left by the four. -/
theorem twoReports_log : ∃ (engine : Engine) (host : Host),
    fourReports.length ≤ engine.config.parallelThreshold.toNat ∧
    engine.findMatch host "x" 0 = .ok (some ⟨.element 0, "k"⟩) ∧
    engine.findMatch host "y" 0 = .ok none ∧
    engine.findMatch host "ghost" 0 = .error (.unknownChecker "ghost") ∧
    (∃ kept told, List.Forall₂ (engine.Tells host) twoReports told ∧
      engine.survivors host .ascending twoReports =
        ⟨.ok kept, told ++ [.kept kept.length twoReports.length]⟩ ∧
      kept.length = told.countP Event.isNotSuppressed) ∧
    ∃ told, List.Forall₂ (engine.Tells host) twoReports told ∧
      engine.survivors host .ascending fourReports = ⟨.error (.unknownChecker "ghost"), told⟩ := by
  have htwoSize : twoReports.length ≤ (256 : UInt64).toNat := by decide
  have hfourSize : fourReports.length ≤ (256 : UInt64).toNat := by decide
  have hbuilds : (Registry.ofCheckers
      [{ id := "x", keys := ["k"] }, { id := "y" }]).outcome.toOption.any
      (fun registry =>
        decide (findMatch ⟨registry, {}⟩ ⟨fun _ => none, fun _ => ["k"]⟩ "x" 0 =
          .ok (some ⟨.element 0, "k"⟩)) &&
        decide (findMatch ⟨registry, {}⟩ ⟨fun _ => none, fun _ => ["k"]⟩ "y" 0 = .ok none) &&
        decide (findMatch ⟨registry, {}⟩ ⟨fun _ => none, fun _ => ["k"]⟩ "ghost" 0 =
          .error (.unknownChecker "ghost"))) = true := by
    decide +kernel
  obtain ⟨registry, -, -, htest⟩ := Registry.exists_built_of_any hbuilds
  simp only [Bool.and_eq_true, decide_eq_true_eq] at htest
  obtain ⟨⟨hx, hy⟩, hghost⟩ := htest
  have htwo : ∀ diagnostic ∈ twoReports, ∃ found, findMatch ⟨registry, {}⟩
      ⟨fun _ => none, fun _ => ["k"]⟩ diagnostic.checker diagnostic.element = .ok found := by
    intro diagnostic hdiagnostic
    simp only [twoReports, List.mem_cons, List.not_mem_nil, or_false] at hdiagnostic
    rcases hdiagnostic with rfl | rfl
    · exact ⟨_, hx⟩
    · exact ⟨_, hy⟩
  obtain ⟨-, hall, -⟩ := survivors_log ⟨registry, {}⟩ ⟨fun _ => none, fun _ => ["k"]⟩ .ascending
    twoReports htwoSize
  obtain ⟨-, -, hfails⟩ := survivors_log ⟨registry, {}⟩ ⟨fun _ => none, fun _ => ["k"]⟩ .ascending
    fourReports hfourSize
  exact ⟨⟨registry, {}⟩, ⟨fun _ => none, fun _ => ["k"]⟩, hfourSize, hx, hy, hghost,
    hall (by decide) htwo, hfails twoReports _ _ _ rfl htwo hghost⟩

end Engine

end Suppression
