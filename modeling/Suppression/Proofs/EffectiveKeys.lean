import Suppression.Proofs.Validation
/-!
# Effective keys

The effective keys of a checker are the keys declared by the checkers that it reaches over links,
itself included: nothing is lost on the way and nothing is added, in whatever order the checkers are
registered and however they share ancestors and members.
-/

namespace Suppression.Registry

variable {checkers : List Checker} {registry : Registry}

/-- What a checker answers to is declared in the list, by a checker that it leads to. -/
theorem answers_iff_of_ofCheckers (h : (ofCheckers checkers).outcome = .ok registry)
    {id : CheckerId} {key : String} :
    registry.roster.Answers id key ↔ ∃ checker ∈ checkers,
      Relation.ReflTransGen (Names checkers) id checker.id ∧ key ∈ checker.keys := by
  obtain ⟨built, hlist⟩ := built_of_ofCheckers h
  have hcoherent := built.complete.coherent
  constructor
  · rintro ⟨target, checker, hreach, hchecker, hkey⟩
    obtain ⟨hmem, rfl⟩ := hcoherent.checker?_eq_some_iff.1 hchecker
    rw [hcoherent.reaches_iff, hlist] at hreach
    exact ⟨checker, hlist ▸ hmem, hreach, hkey⟩
  · rintro ⟨checker, hmem, hreach, hkey⟩
    rw [← hlist] at hmem hreach
    exact ⟨checker.id, checker, hcoherent.reaches_iff.2 hreach,
      hcoherent.checker?_eq_some_iff.2 ⟨hmem, rfl⟩, hkey⟩

/-- **Effective keys are the keys that are reached.** In a registry made from a list, every
registered checker has effective keys, and they are the keys declared by the checkers of the list to
which it leads over parents and members. -/
theorem mem_effectiveKeys_iff_reached (checkers : List Checker) (registry : Registry)
    (h : (ofCheckers checkers).outcome = .ok registry) (id : CheckerId)
    (registered : registry.contains id = true) :
    ∃ keys, registry.effectiveKeys id = .ok keys ∧ ∀ key, key ∈ keys ↔
      ∃ checker ∈ checkers, Relation.ReflTransGen (Names checkers) id checker.id ∧
        key ∈ checker.keys := by
  have hcomplete := (built_of_ofCheckers h).1.complete
  obtain ⟨keys, hkeys⟩ := hcomplete.exists_effectiveKeys registered
  refine ⟨keys, hkeys, ?_⟩
  intro key
  rw [hcomplete.mem_effectiveKeys hkeys key]
  exact answers_iff_of_ofCheckers h

/-- A composite of a composite, registered before its members, which share a parent. -/
def sharedBase : List Checker :=
  [Checker.composed "outer" ["inner", "right"], Checker.composed "inner" ["left", "right", "left"],
    Checker.withParent { id := "left", keys := ["l"] } "base",
    Checker.withParent { id := "right" } "base", { id := "base", keys := ["b"] }]

/-- Over its member the outermost composite leads to a member of that one. -/
theorem sharedBase_outer_left : Relation.ReflTransGen (Names sharedBase) "outer" "left" := by
  have houter : Names sharedBase "outer" "inner" := by unfold Names; decide
  have hinner : Names sharedBase "inner" "left" := by unfold Names; decide
  exact (Relation.ReflTransGen.single houter).tail hinner

/-- The outermost composite answers to the key of an inner member and to that of the shared
parent. -/
theorem sharedBase_outer_effectiveKeys : ∃ registry,
    (ofCheckers sharedBase).outcome = .ok registry ∧ registry.contains "outer" = true ∧
      ∃ keys, registry.effectiveKeys "outer" = .ok keys ∧ "b" ∈ keys ∧ "l" ∈ keys ∧
        ∀ key, key ∈ keys ↔ ∃ checker ∈ sharedBase,
          Relation.ReflTransGen (Names sharedBase) "outer" checker.id ∧ key ∈ checker.keys := by
  have hbuilds : (ofCheckers sharedBase).outcome.toOption.any (·.contains "outer") = true := by rfl
  cases h : (ofCheckers sharedBase).outcome with
  | error cause =>
    rw [h] at hbuilds
    exact absurd hbuilds Bool.false_ne_true
  | ok registry =>
    rw [h] at hbuilds
    obtain ⟨keys, hkeys, hmem⟩ :=
      mem_effectiveKeys_iff_reached sharedBase registry h "outer" hbuilds
    have hparent : Names sharedBase "left" "base" := by unfold Names; decide
    have hbase := sharedBase_outer_left.tail hparent
    refine ⟨registry, rfl, hbuilds, keys, hkeys, (hmem "b").2 ?_, (hmem "l").2 ?_, hmem⟩
    · exact ⟨{ id := "base", keys := ["b"] }, by decide, hbase, by decide⟩
    · exact ⟨Checker.withParent { id := "left", keys := ["l"] } "base", by decide,
        sharedBase_outer_left, by decide⟩

end Suppression.Registry
