import Suppression.Diagnostic
import Suppression.Engine
/-!
# Batches of diagnostics

A batch is judged diagnostic by diagnostic, each under the checker that reported it, and the ones
that are not silenced survive in their order. One failing verdict fails the whole batch. A batch up
to the threshold is judged in order; a larger one is *scattered*: judged in whatever order a
schedule lays down, and the verdicts are put back in order afterwards.
-/

namespace Suppression

/-! ## Judging one after the other -/

/-- Judges the items of a list in order, up to the first failure. -/
def judgeInOrder {α β : Type} (judge : α → Logged Failure β) : List α → Logged Failure (List β)
  | [] => pure []
  | item :: rest => do
    let verdict ← judge item
    (verdict :: ·) <$> judgeInOrder judge rest

/-- There is nothing to judge in an empty list. -/
theorem judgeInOrder_nil {α β : Type} (judge : α → Logged Failure β) :
    judgeInOrder judge [] = pure [] := rfl

/-- The first item is judged first, and a failing verdict on it is the end. -/
theorem judgeInOrder_cons {α β : Type} (judge : α → Logged Failure β) (item : α)
    (rest : List α) :
    judgeInOrder judge (item :: rest) =
      judge item >>= fun verdict => (verdict :: ·) <$> judgeInOrder judge rest := rfl

/-! ## Judging in any order -/

/-- For each size of a batch, the order in which its places are visited. -/
structure Schedule where
  /-- The places of a batch of the given size, in the order of the visits. -/
  order : Nat → List Nat
  /-- Every place is visited once. -/
  perm : ∀ size, (order size).Perm (List.range size)

namespace Schedule

/-- The schedule that goes from the first place to the last. -/
def ascending : Schedule := ⟨List.range, fun _ => .refl _⟩

instance : Inhabited Schedule := ⟨ascending⟩

end Schedule

/-- Judges the items of a list in the order of a schedule, up to the first failure, and gives the
verdicts in the order of the items. -/
def judgeScattered {α β : Type} (schedule : Schedule) (judge : α → Logged Failure β)
    (items : List α) : Logged Failure (List β) := do
  let visits := (schedule.order items.length).filterMap fun place =>
    items[place]?.map fun item => (place, item)
  let verdicts ← judgeInOrder (fun (place, item) => (place, ·) <$> judge item) visits
  return (verdicts.mergeSort fun a b => a.1 ≤ b.1).map (·.2)

/-! ## The survivors -/

/-- The items whose verdict is `false`, in order. -/
def surviving {α : Type} (items : List α) (verdicts : List Bool) : List α :=
  (items.zip verdicts).filterMap fun (item, silenced) => if silenced then none else some item

/-- With a verdict for each item, the survivors are the items that are not silenced. -/
theorem surviving_map {α : Type} (silenced : α → Bool) (items : List α) :
    surviving items (items.map silenced) = items.filter (!silenced ·) := by
  induction items with
  | nil => rfl
  | cons item rest ih =>
    unfold surviving at ih ⊢
    cases h : silenced item <;> simp [h, ih]

namespace Engine

/-- Whether a diagnostic is silenced, under the checker that reported it. -/
def judge (engine : Engine) (host : Host) (diagnostic : Diagnostic) : Logged Failure Bool :=
  engine.isSuppressed host diagnostic.checker diagnostic.element

/-- The verdicts on a batch. -/
def verdicts (engine : Engine) (host : Host) (schedule : Schedule) (batch : List Diagnostic) :
    Logged Failure (List Bool) :=
  if engine.config.parallelThreshold.toNat < batch.length then
    judgeScattered schedule (engine.judge host) batch
  else
    judgeInOrder (engine.judge host) batch

/-- The diagnostics of a batch that are not silenced. How many there are is recorded, unless the
batch is empty. -/
def survivors (engine : Engine) (host : Host) (schedule : Schedule) (batch : List Diagnostic) :
    Logged Failure (List Diagnostic) :=
  if batch.isEmpty then pure []
  else do
    let verdicts ← engine.verdicts host schedule batch
    let kept := surviving batch verdicts
    Logged.record (.kept kept.length batch.length)
    return kept

end Engine

end Suppression
