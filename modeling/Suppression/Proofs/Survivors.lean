import Mathlib.Logic.Basic
import Suppression.Proofs.BatchFailure
/-!
# Survivors of a batch

Verdicts are gathered apart from the diagnostics, on one path or the other, and joined to them by
their places. Either path gathers the same verdicts, those of the diagnostics in their order, or
none (`Engine.verdicts_outcome_eq_ok_iff`); so what survives a batch is its diagnostics that are
judged not to be silenced, whatever the threshold and the schedule
(`Engine.survivors_outcome_eq_ok_iff`). The failures differ: in order it is the first one that is
told, and scattered it may be any.
-/

namespace Suppression

/-! ## Judging in order -/

section

variable {α β : Type} {judge : α → Logged Failure β} {items : List α}

/-- There are verdicts on some items exactly if there is one on each. -/
theorem exists_verdicts_iff :
    (∃ verdicts : List β, items.map (fun item => (judge item).outcome) = verdicts.map .ok) ↔
      ∀ item ∈ items, ∃ verdict, (judge item).outcome = .ok verdict := by
  constructor
  · rintro ⟨verdicts, h⟩ item hitem
    have hmem := List.mem_map_of_mem (f := fun item => (judge item).outcome) hitem
    rw [h, List.mem_map] at hmem
    obtain ⟨verdict, -, hverdict⟩ := hmem
    exact ⟨verdict, hverdict.symm⟩
  · intro h
    induction items with
    | nil => exact ⟨[], rfl⟩
    | cons item rest ih =>
      obtain ⟨verdict, hitem⟩ := h item List.mem_cons_self
      obtain ⟨verdicts, hrest⟩ := ih fun other hother => h other (List.mem_cons_of_mem item hother)
      exact ⟨verdict :: verdicts, by rw [List.map_cons, List.map_cons, hitem, hrest]⟩

/-- Judging in order gives the verdicts on the items, if there is one on each. -/
theorem judgeInOrder_outcome_eq_ok_iff {verdicts : List β} :
    (judgeInOrder judge items).outcome = .ok verdicts ↔
      items.map (fun item => (judge item).outcome) = verdicts.map .ok := by
  induction items generalizing verdicts with
  | nil =>
    rw [judgeInOrder_nil]
    cases verdicts <;> simp
  | cons item rest ih =>
    rw [judgeInOrder_cons, Logged.outcome_bind_eq_ok_iff]
    simp only [Logged.outcome_map_eq_ok_iff, ih]
    constructor
    · rintro ⟨verdict, hitem, others, hrest, rfl⟩
      rw [List.map_cons, List.map_cons, hitem, hrest]
    · intro h
      cases verdicts with
      | nil => exact absurd h (by simp)
      | cons verdict others =>
        rw [List.map_cons, List.map_cons, List.cons.injEq] at h
        exact ⟨verdict, h.1, others, h.2, rfl⟩

/-- Past items that are passed over another one is found in a list if it is the head, or if the head
is passed over and it is found in the rest. -/
theorem exists_first_cons_iff {passed found : α → Prop} {item : α} {rest : List α} :
    (∃ before next after, item :: rest = before ++ next :: after ∧
        (∀ earlier ∈ before, passed earlier) ∧ found next) ↔
      found item ∨ passed item ∧ ∃ before next after, rest = before ++ next :: after ∧
        (∀ earlier ∈ before, passed earlier) ∧ found next := by
  constructor
  · rintro ⟨before, next, after, heq, hbefore, hfound⟩
    cases before with
    | nil =>
      obtain ⟨rfl, -⟩ := List.cons.inj heq
      exact .inl hfound
    | cons head before =>
      obtain ⟨rfl, rfl⟩ := List.cons.inj heq
      rw [List.forall_mem_cons] at hbefore
      exact .inr ⟨hbefore.1, before, next, after, rfl, hbefore.2, hfound⟩
  · rintro (hfound | ⟨hpassed, before, next, after, rfl, hbefore, hfound⟩)
    · exact ⟨[], item, rest, rfl, fun _ h => absurd h List.not_mem_nil, hfound⟩
    · exact ⟨item :: before, next, after, rfl, List.forall_mem_cons.2 ⟨hpassed, hbefore⟩, hfound⟩

/-- Judging in order fails with the first item on which there is no verdict. -/
theorem judgeInOrder_outcome_eq_error_iff {cause : Failure} :
    (judgeInOrder judge items).outcome = .error cause ↔
      ∃ before item after, items = before ++ item :: after ∧
        (∀ earlier ∈ before, ∃ verdict, (judge earlier).outcome = .ok verdict) ∧
        (judge item).outcome = .error cause := by
  induction items with
  | nil => simp [judgeInOrder_nil]
  | cons item rest ih =>
    rw [judgeInOrder_cons, exists_first_cons_iff, ← ih]
    cases hitem : (judge item).outcome with
    | error other =>
      rw [Logged.outcome_bind_of_error hitem]
      simp
    | ok verdict =>
      rw [Logged.outcome_bind_of_ok hitem, Logged.outcome_map_eq_error_iff]
      simp

end

/-! ## Items at their places -/

section

variable {α β : Type} {places others : List Nat} {items : List α}

/-- The items at certain places, each with its place. -/
def placed (places : List Nat) (items : List α) : List (Nat × α) :=
  places.filterMap fun place => items[place]?.map fun item => (place, item)

/-- With a place stands the item that is there. -/
theorem mem_placed_iff {place : Nat} {item : α} :
    (place, item) ∈ placed places items ↔ place ∈ places ∧ items[place]? = some item := by
  rw [placed, List.mem_filterMap]
  constructor
  · rintro ⟨other, hother, h⟩
    obtain ⟨found, hfound, heq⟩ := Option.map_eq_some_iff.1 h
    obtain ⟨rfl, rfl⟩ := Prod.mk.inj heq
    exact ⟨hother, hfound⟩
  · rintro ⟨hplace, hitem⟩
    exact ⟨place, hplace, by rw [hitem, Option.map_some]⟩

/-- Changing the items leaves them at their places. -/
theorem map_placed (f : α → β) :
    (placed places items).map (fun entry => (entry.1, f entry.2)) =
      placed places (items.map f) := by
  rw [placed, placed, List.map_filterMap]
  congr 1
  funext place
  rw [List.getElem?_map, Option.map_map, Option.map_map]
  rfl

/-- From the first place to the last the items stand in their order. -/
theorem map_snd_placed_range (items : List α) :
    (placed (List.range items.length) items).map (·.2) = items := by
  induction items with
  | nil => rfl
  | cons item rest ih =>
    rw [placed, List.length_cons, List.range_succ_eq_map, List.filterMap_cons, List.filterMap_map]
    rw [placed, List.map_filterMap] at ih
    simp only [List.getElem?_cons_zero, Option.map_some, List.map_cons, List.map_filterMap]
    congr 1
    refine Eq.trans ?_ ih
    congr 1
    funext place
    simp [Function.comp_def]

/-- From the first place to the last the places ascend. -/
theorem pairwise_placed_range (n : Nat) (items : List α) :
    (placed (List.range n) items).Pairwise fun a b => a.1 < b.1 := by
  rw [placed, List.pairwise_filterMap]
  refine List.pairwise_lt_range.imp ?_
  intro place other hlt a ha b hb
  obtain ⟨_, -, rfl⟩ := Option.map_eq_some_iff.1 ha
  obtain ⟨_, -, rfl⟩ := Option.map_eq_some_iff.1 hb
  exact hlt

/-- Items visited in any order are put back in theirs. -/
theorem map_snd_mergeSort_placed (h : places.Perm (List.range items.length)) :
    ((placed places items).mergeSort fun a b => a.1 ≤ b.1).map (·.2) = items := by
  have hperm : ((placed places items).mergeSort fun a b => a.1 ≤ b.1).Perm
      (placed (List.range items.length) items) :=
    (List.mergeSort_perm _ _).trans (h.filterMap _)
  have hsorted : ((placed places items).mergeSort fun a b => a.1 ≤ b.1).Pairwise
      fun a b => a.1 ≤ b.1 := by
    have htrans : ∀ a b c : Nat × α, decide (a.1 ≤ b.1) = true → decide (b.1 ≤ c.1) = true →
        decide (a.1 ≤ c.1) = true := by
      intro a b c hab hbc
      simp only [decide_eq_true_eq] at *
      omega
    have htotal : ∀ a b : Nat × α, (decide (a.1 ≤ b.1) || decide (b.1 ≤ a.1)) = true := by
      intro a b
      simp only [Bool.or_eq_true, decide_eq_true_eq]
      omega
    exact (List.pairwise_mergeSort htrans htotal (placed places items)).imp of_decide_eq_true
  have heq : ((placed places items).mergeSort fun a b => a.1 ≤ b.1) =
      placed (List.range items.length) items := by
    refine hperm.eq_of_pairwise ?_ hsorted ((pairwise_placed_range _ items).imp Nat.le_of_lt)
    -- one place holds one item
    rintro ⟨place, item⟩ ⟨other, found⟩ ha hb hle hge
    obtain rfl : place = other := Nat.le_antisymm hle hge
    have hitem := (mem_placed_iff.1 (hperm.mem_iff.1 ha)).2
    rw [(mem_placed_iff.1 hb).2, Option.some.injEq] at hitem
    rw [hitem]
  rw [heq, map_snd_placed_range]

end

/-! ## Judging scattered -/

section

variable {α β : Type} {judge : α → Logged Failure β} {items : List α} {schedule : Schedule}

/-- Judging scattered is judging the visits in their order and putting the verdicts back in that of
the items. -/
theorem judgeScattered_eq (schedule : Schedule) (judge : α → Logged Failure β) (items : List α) :
    judgeScattered schedule judge items = (do
      let verdicts ← judgeInOrder (fun entry => (entry.1, ·) <$> judge entry.2)
        (placed (schedule.order items.length) items)
      return (verdicts.mergeSort fun a b => a.1 ≤ b.1).map (·.2)) := rfl

/-- If there is a verdict on each item, these are the verdicts, in the order of the items. -/
theorem judgeScattered_outcome_of_ok {verdicts : List β}
    (h : items.map (fun item => (judge item).outcome) = verdicts.map .ok) :
    (judgeScattered schedule judge items).outcome = .ok verdicts := by
  have hlength : items.length = verdicts.length := by
    simpa using congrArg List.length h
  have hvisits : (judgeInOrder (fun entry => (entry.1, ·) <$> judge entry.2)
      (placed (schedule.order items.length) items)).outcome =
      .ok (placed (schedule.order items.length) verdicts) := by
    -- on both sides the outcomes stand at their places; the place is then moved into the outcome
    have hplaced := congrArg (List.map fun entry => Except.map (entry.1, ·) entry.2)
      (congrArg (placed (schedule.order items.length)) h)
    rw [← map_placed, ← map_placed, List.map_map, List.map_map] at hplaced
    exact judgeInOrder_outcome_eq_ok_iff.2 hplaced
  have hperm : (schedule.order items.length).Perm (List.range verdicts.length) := by
    rw [← hlength]
    exact schedule.perm _
  rw [judgeScattered_eq, Logged.outcome_bind_of_ok hvisits]
  exact congrArg Except.ok (map_snd_mergeSort_placed hperm)

/-- If judging scattered gives verdicts, there is one on each item. -/
theorem exists_of_judgeScattered_eq_ok {verdicts : List β}
    (h : (judgeScattered schedule judge items).outcome = .ok verdicts) :
    ∀ item ∈ items, ∃ verdict, (judge item).outcome = .ok verdict := by
  intro item hitem
  rw [judgeScattered_eq, Logged.outcome_bind_eq_ok_iff] at h
  obtain ⟨found, hvisits, -⟩ := h
  rw [judgeInOrder_outcome_eq_ok_iff] at hvisits
  -- every item is visited, for the schedule leaves out no place
  obtain ⟨place, hplace⟩ := List.getElem?_of_mem hitem
  have hlt := (List.getElem?_eq_some_iff.1 hplace).1
  have hvisit : (place, item) ∈ placed (schedule.order items.length) items :=
    mem_placed_iff.2 ⟨(schedule.perm _).mem_iff.2 (List.mem_range.2 hlt), hplace⟩
  obtain ⟨entry, hentry⟩ := exists_verdicts_iff.1 ⟨found, hvisits⟩ _ hvisit
  obtain ⟨verdict, hverdict, -⟩ := Logged.outcome_map_eq_ok_iff.1 hentry
  exact ⟨verdict, hverdict⟩

/-- Judging scattered gives the verdicts on the items in their order, if there is one on each. -/
theorem judgeScattered_outcome_eq_ok_iff {verdicts : List β} :
    (judgeScattered schedule judge items).outcome = .ok verdicts ↔
      items.map (fun item => (judge item).outcome) = verdicts.map .ok := by
  refine ⟨?_, judgeScattered_outcome_of_ok⟩
  intro h
  obtain ⟨gathered, hgathered⟩ := exists_verdicts_iff.2 (exists_of_judgeScattered_eq_ok h)
  rw [judgeScattered_outcome_of_ok hgathered] at h
  rw [hgathered, Except.ok.inj h]

/-- The schedule that visits one place first. -/
def Schedule.leading (place : Nat) : Schedule where
  order size :=
    if place < size then place :: (List.range size).erase place else List.range size
  perm size := by
    split
    · next h => exact (List.perm_cons_erase (List.mem_range.2 h)).symm
    · exact .refl _

/-- In a batch that has the place, that place is visited first. -/
theorem Schedule.order_leading {place size : Nat} (h : place < size) :
    (Schedule.leading place).order size = place :: (List.range size).erase place :=
  if_pos h

/-- Judging scattered may fail with any item on which there is no verdict: with the one that is
visited first. -/
theorem exists_schedule_of_error {item : α} {cause : Failure} (hitem : item ∈ items)
    (h : (judge item).outcome = .error cause) :
    ∃ schedule, (judgeScattered schedule judge items).outcome = .error cause := by
  obtain ⟨place, hplace⟩ := List.getElem?_of_mem hitem
  have hlt := (List.getElem?_eq_some_iff.1 hplace).1
  refine ⟨.leading place, ?_⟩
  have hfirst : placed ((Schedule.leading place).order items.length) items =
      (place, item) :: placed ((List.range items.length).erase place) items := by
    rw [Schedule.order_leading hlt, placed, List.filterMap_cons, hplace]
    rfl
  have hfails : ((place, ·) <$> judge item).outcome = .error cause :=
    Logged.outcome_map_eq_error_iff.2 h
  rw [judgeScattered_eq, hfirst, judgeInOrder_cons]
  exact Logged.outcome_bind_of_error (Logged.outcome_bind_of_error hfails _) _

end

/-! ## Batches -/

namespace Engine

variable {engine : Engine} {host : Host} {schedule : Schedule} {batch : List Diagnostic}

/-- Whether there is a verdict on a diagnostic, and it is that it is not silenced. -/
def spares (engine : Engine) (host : Host) (diagnostic : Diagnostic) : Bool :=
  match (engine.judge host diagnostic).outcome with
  | .ok silenced => !silenced
  | .error _ => false

/-- On either path the verdicts are those on the diagnostics in their order. -/
theorem verdicts_outcome_eq_ok_iff {verdicts : List Bool} :
    (engine.verdicts host schedule batch).outcome = .ok verdicts ↔
      batch.map (fun diagnostic => (engine.judge host diagnostic).outcome) =
        verdicts.map .ok := by
  rw [Engine.verdicts]
  split
  · exact judgeScattered_outcome_eq_ok_iff
  · exact judgeInOrder_outcome_eq_ok_iff

/-- What survives a batch is taken from it by its verdicts. -/
theorem survivors_outcome (engine : Engine) (host : Host) (schedule : Schedule)
    (batch : List Diagnostic) :
    (engine.survivors host schedule batch).outcome =
      (engine.verdicts host schedule batch).outcome.map (surviving batch) := by
  rw [survivors]
  split
  · next hempty =>
    obtain rfl := List.isEmpty_iff.1 hempty
    have hnone : (engine.verdicts host schedule []).outcome = .ok [] :=
      verdicts_outcome_eq_ok_iff.2 rfl
    rw [hnone]
    rfl
  · cases h : (engine.verdicts host schedule batch).outcome with
    | error cause => exact Logged.outcome_bind_of_error h _
    | ok verdicts => exact Logged.outcome_bind_of_ok h _

/-- The verdicts let the spared diagnostics survive. -/
theorem surviving_eq_filter {verdicts : List Bool}
    (h : batch.map (fun diagnostic => (engine.judge host diagnostic).outcome) =
      verdicts.map .ok) : surviving batch verdicts = batch.filter (engine.spares host) := by
  have hverdicts : verdicts = batch.map (!engine.spares host ·) := by
    refine (List.map_inj_right (f := Except.ok (ε := Failure)) fun _ _ => Except.ok.inj).1 ?_
    rw [← h, List.map_map]
    refine List.map_congr_left ?_
    intro diagnostic hdiagnostic
    obtain ⟨silenced, hsilenced⟩ := exists_verdicts_iff.1 ⟨verdicts, h⟩ diagnostic hdiagnostic
    simp [spares, hsilenced]
  rw [hverdicts, surviving_map]
  simp

/-- A batch succeeds if there is a verdict on each of its diagnostics, and then those survive that
are judged not to be silenced. -/
theorem survivors_outcome_eq_ok_iff {kept : List Diagnostic} :
    (engine.survivors host schedule batch).outcome = .ok kept ↔
      (∀ diagnostic ∈ batch, ∃ silenced, (engine.judge host diagnostic).outcome = .ok silenced) ∧
        kept = batch.filter (engine.spares host) := by
  rw [survivors_outcome]
  constructor
  · intro h
    cases hverdicts : (engine.verdicts host schedule batch).outcome with
    | error cause =>
      rw [hverdicts] at h
      exact absurd h (by simp [Except.map])
    | ok verdicts =>
      rw [hverdicts, Except.map] at h
      have hmap := verdicts_outcome_eq_ok_iff.1 hverdicts
      exact ⟨exists_verdicts_iff.1 ⟨verdicts, hmap⟩,
        by rw [← surviving_eq_filter hmap, Except.ok.inj h]⟩
  · rintro ⟨hjudged, rfl⟩
    obtain ⟨verdicts, hmap⟩ := exists_verdicts_iff.2 hjudged
    rw [verdicts_outcome_eq_ok_iff.2 hmap, Except.map, surviving_eq_filter hmap]

/-- A batch fails exactly if its verdicts do. -/
theorem survivors_outcome_eq_error_iff {cause : Failure} :
    (engine.survivors host schedule batch).outcome = .error cause ↔
      (engine.verdicts host schedule batch).outcome = .error cause := by
  rw [survivors_outcome]
  cases (engine.verdicts host schedule batch).outcome <;> simp [Except.map]

/-- The engine with another threshold. -/
def withThreshold (engine : Engine) (threshold : UInt64) : Engine :=
  { engine with config := { engine.config with parallelThreshold := threshold } }

/-- The threshold has no part in a single verdict. -/
theorem judge_withThreshold (engine : Engine) (threshold : UInt64) (host : Host) :
    (engine.withThreshold threshold).judge host = engine.judge host := rfl

/-- Up to the threshold a batch is judged in order. -/
theorem verdicts_of_le {threshold : UInt64} (h : batch.length ≤ threshold.toNat) :
    (engine.withThreshold threshold).verdicts host schedule batch =
      judgeInOrder (engine.judge host) batch :=
  if_neg (Nat.not_lt.2 h)

/-- Beyond the threshold a batch is scattered. -/
theorem verdicts_of_lt {threshold : UInt64} (h : threshold.toNat < batch.length) :
    (engine.withThreshold threshold).verdicts host schedule batch =
      judgeScattered schedule (engine.judge host) batch :=
  if_pos h

/-- **What survives a batch.** Whatever the threshold and the schedule, a batch succeeds exactly if
there is a verdict on each of its diagnostics; then the diagnostics that are judged not to be
silenced survive, as they are, as often as they occur and in their order. The verdicts do not depend
on threshold and schedule either. A batch that is judged in order fails with its first diagnostic on
which there is no verdict; one that is scattered fails with some such diagnostic, and with any,
depending on the schedule. -/
theorem survivors_eq_filter_spares (engine : Engine) (host : Host) (batch : List Diagnostic) :
    (∀ threshold schedule kept,
      ((engine.withThreshold threshold).survivors host schedule batch).outcome = .ok kept ↔
        (∀ diagnostic ∈ batch,
          ∃ silenced, (engine.judge host diagnostic).outcome = .ok silenced) ∧
        kept = batch.filter (engine.spares host)) ∧
    (∀ threshold threshold' schedule schedule' verdicts,
      ((engine.withThreshold threshold).verdicts host schedule batch).outcome = .ok verdicts ↔
        ((engine.withThreshold threshold').verdicts host schedule' batch).outcome =
          .ok verdicts) ∧
    (∀ threshold schedule cause, batch.length ≤ threshold.toNat →
      (((engine.withThreshold threshold).survivors host schedule batch).outcome = .error cause ↔
        ∃ before diagnostic after, batch = before ++ diagnostic :: after ∧
          (∀ earlier ∈ before,
            ∃ silenced, (engine.judge host earlier).outcome = .ok silenced) ∧
          (engine.judge host diagnostic).outcome = .error cause)) ∧
    ∀ threshold cause, threshold.toNat < batch.length →
      ((∃ schedule, ((engine.withThreshold threshold).survivors host schedule batch).outcome =
          .error cause) ↔
        ∃ diagnostic ∈ batch, (engine.judge host diagnostic).outcome = .error cause) := by
  refine ⟨?_, ?_, ?_, ?_⟩
  · intro threshold schedule kept
    exact survivors_outcome_eq_ok_iff
  · intro threshold threshold' schedule schedule' verdicts
    rw [verdicts_outcome_eq_ok_iff, verdicts_outcome_eq_ok_iff, judge_withThreshold,
      judge_withThreshold]
  · intro threshold schedule cause hle
    rw [survivors_outcome_eq_error_iff, verdicts_of_le hle]
    exact judgeInOrder_outcome_eq_error_iff
  · intro threshold cause hlt
    simp only [survivors_outcome_eq_error_iff, verdicts_of_lt hlt]
    constructor
    · rintro ⟨schedule, h⟩
      exact exists_of_judgeScattered_eq_error h
    · rintro ⟨diagnostic, hdiagnostic, h⟩
      exact exists_schedule_of_error hdiagnostic h

/-- Two reports under names that are not registered. -/
def strangers : List Diagnostic :=
  [{ checker := "ghost", element := 0 }, { checker := "phantom", element := 0 }]

/-- Judged in order the two reports fail with the first one, and scattered they may fail with the
second. -/
theorem strangers_fail : ∃ (engine : Engine) (host : Host),
    strangers.length ≤ (256 : UInt64).toNat ∧ (0 : UInt64).toNat < strangers.length ∧
    (∀ schedule, ((engine.withThreshold 256).survivors host schedule strangers).outcome =
      .error (.unknownChecker "ghost")) ∧
    ∃ schedule, ((engine.withThreshold 0).survivors host schedule strangers).outcome =
      .error (.unknownChecker "phantom") := by
  refine ⟨{ registry := ⟨Roster.empty, []⟩ }, ⟨fun _ => none, fun _ => []⟩, by decide, by decide,
    ?_, ?_⟩
  · intro schedule
    obtain ⟨-, -, hinOrder, -⟩ := survivors_eq_filter_spares { registry := ⟨Roster.empty, []⟩ }
      ⟨fun _ => none, fun _ => []⟩ strangers
    exact (hinOrder 256 schedule _ (by decide)).2 ⟨[], _, _, rfl, by simp, rfl⟩
  · obtain ⟨-, -, -, hscattered⟩ := survivors_eq_filter_spares { registry := ⟨Roster.empty, []⟩ }
      ⟨fun _ => none, fun _ => []⟩ strangers
    refine (hscattered 0 _ (by decide)).2 ⟨strangers[1], by simp [strangers], rfl⟩

end Engine

end Suppression
