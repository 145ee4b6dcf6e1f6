import Suppression.Proofs.Inheritance
/-!
# The reserved wildcard

No checker can be registered with the wildcard among its keys, and effective keys are declared keys
that are reached, so the wildcard gets into no effective keys however they are gathered
(`Registry.Complete.wildcard_not_mem`). A directive that names it behind a qualifier is thus a
directive like any other. As a directive of its own it silences every checker, and it is all that
silences a checker to which no key leads (`Engine.wildcard_reserved`).
-/

namespace Suppression

/-! ## Effective keys -/

/-- In a coherent roster no checker answers to the wildcard, over however many links. -/
theorem Roster.Coherent.not_answers_wildcard {roster : Roster} (coherent : roster.Coherent)
    (id : CheckerId) : ¬ roster.Answers id wildcard := by
  rintro ⟨target, checker, -, hchecker, hkey⟩
  obtain ⟨hmem, -⟩ := coherent.checker?_eq_some_iff.1 hchecker
  exact coherent.wildcard_free checker hmem hkey

/-- The wildcard is not among the effective keys of any checker. -/
theorem Registry.Complete.wildcard_not_mem {registry : Registry} (complete : registry.Complete)
    {id : CheckerId} {keys : KeySet} (h : registry.effectiveKeys id = .ok keys) :
    wildcard ∉ keys := by
  rw [complete.mem_effectiveKeys h]
  exact complete.coherent.not_answers_wildcard id

/-! ## Matches -/

/-- The nearest match is an accepted string of one of the elements. -/
theorem Host.accepts_of_nearest {host : Host} {accepts : String → Bool} {elements : List ElementId}
    {id : ElementId} {directive : String}
    (h : host.nearest accepts elements = some (id, directive)) : accepts directive = true := by
  obtain ⟨other, -, hother⟩ := List.exists_of_findSome?_eq_some h
  obtain ⟨found, hfound, heq⟩ := Option.map_eq_some_iff.1 hother
  rw [← (Prod.mk.inj heq).2]
  exact List.find?_some hfound

namespace Engine

variable {engine : Engine}

/-- The directive of a match is accepted. -/
theorem accepts_of_findMatch {checker : CheckerId} {keys : KeySet}
    (h : engine.registry.effectiveKeys checker = .ok keys) {host : Host} {element : ElementId}
    {found : Match} (hfound : engine.findMatch host checker element = .ok (some found)) :
    engine.accepts keys found.directive = true := by
  rw [findMatch_of_effectiveKeys h] at hfound
  unfold verdict at hfound
  split at hfound
  · next id directive hnearest =>
    rw [← Option.some.inj (Except.ok.inj hfound)]
    exact Host.accepts_of_nearest hnearest
  · split at hfound
    · exact absurd hfound (by simp)
    · -- no element carries it, so it is a global suppression
      obtain ⟨directive, hdirective, rfl⟩ := Option.map_eq_some_iff.1 (Except.ok.inj hfound)
      exact List.find?_some hdirective

/-- **The wildcard stays reserved.** In a registry that can be built it is not among the effective
keys of any checker, however these are gathered. So a directive that names the wildcard behind a
qualifier silences a checker exactly if a checker that is reached declares this very string as a
key, be qualified keys allowed or not. As it stands, the wildcard silences every registered checker
wherever it counts: on the scope chain or, unless that loops, among the global suppressions. To a
checker to which no declared key leads nothing else counts: it is silenced exactly where the
wildcard counts, and the match is the wildcard. -/
theorem wildcard_reserved (engine : Engine) (built : engine.registry.Built) (id : CheckerId)
    (registered : engine.registry.contains id = true) :
    ∃ keys, engine.registry.effectiveKeys id = .ok keys ∧ wildcard ∉ keys ∧
      (∀ (qualifier : String) (allowQualified : Bool), Directive.separator ∉ qualifier.toList →
        (Directive.silences (qualifier ++ String.singleton Directive.separator ++ wildcard) keys
            allowQualified = true ↔
          engine.registry.roster.Answers id
            (qualifier ++ String.singleton Directive.separator ++ wildcard))) ∧
      (∀ host element, wildcard ∈ engine.considered host element →
        (engine.isSuppressed host id element).outcome = .ok true) ∧
      ((∀ key, ¬ engine.registry.roster.Answers id key) → ∀ host element,
        ((engine.isSuppressed host id element).outcome = .ok true ↔
          wildcard ∈ engine.considered host element) ∧
        ∀ found, engine.findMatch host id element = .ok (some found) →
          found.directive = wildcard) := by
  obtain ⟨keys, hkeys⟩ := built.complete.exists_effectiveKeys registered
  have hmem : ∀ key, key ∈ keys ↔ engine.registry.roster.Answers id key :=
    built.complete.mem_effectiveKeys hkeys
  have hreserved : wildcard ∉ keys := built.complete.wildcard_not_mem hkeys
  refine ⟨keys, hkeys, hreserved, ?_, ?_, ?_⟩
  · intro qualifier allowQualified hfree
    rw [Directive.silences_qualified_iff hfree, ← hmem]
    refine ⟨?_, Or.inl⟩
    rintro (hexact | ⟨-, hall⟩)
    · exact hexact
    · exact absurd hall hreserved
  · intro host element hall
    exact isSuppressed_of_wildcard hkeys hall
  · intro keyless host element
    have haccepts : ∀ directive, engine.accepts keys directive = true ↔ directive = wildcard := by
      intro directive
      apply Directive.silences_iff_of_keyless
      intro key hkey
      exact keyless key ((hmem key).1 hkey)
    refine ⟨?_, ?_⟩
    · rw [isSuppressed_iff_considered hkeys]
      simp only [haccepts, exists_eq_right]
    · intro found hfound
      exact (haccepts _).1 (accepts_of_findMatch hkeys hfound)

/-- Two elements, of which the outer one carries a key, two qualified wildcards and the wildcard. -/
def wildcardOutside : Host where
  enclosing id := if id = 0 then some 1 else none
  strings id := if id = 1 then ["x", "q:all", "r:all", wildcard] else []

/-- A checker may declare a key that looks like a qualified wildcard, and then this one silences it
and another one does not; a composite of keyless checkers is silenced by the wildcard and does not
notice the other strings. -/
theorem wildcardOutside_findMatch : ∃ engine : Engine, engine.registry.Built ∧
    engine.registry.contains "x" = true ∧ engine.registry.contains "pack" = true ∧
    (∃ keys, engine.registry.effectiveKeys "x" = .ok keys ∧ wildcard ∉ keys ∧
      (Directive.silences "q:all" keys true = true ↔
        engine.registry.roster.Answers "x" "q:all") ∧
      (Directive.silences "r:all" keys true = true ↔
        engine.registry.roster.Answers "x" "r:all")) ∧
    (∀ key, ¬ engine.registry.roster.Answers "pack" key) ∧
    wildcard ∈ engine.considered wildcardOutside 0 ∧
    (engine.isSuppressed wildcardOutside "x" 0).outcome = .ok true ∧
    (engine.isSuppressed wildcardOutside "pack" 0).outcome = .ok true ∧
    ∃ found, engine.findMatch wildcardOutside "pack" 0 = .ok (some found) ∧
      found.directive = wildcard := by
  have hbuilds : (Registry.ofCheckers [{ id := "x", keys := ["x", "q:all"] }, { id := "mute" },
      Checker.composed "pack" ["mute", "mute"]]).outcome.toOption.any (fun registry =>
        registry.contains "x" && registry.contains "pack" &&
        decide (registry.effectiveKeys "pack" = .ok ∅) &&
        decide (wildcard ∈ considered ⟨registry, {}⟩ wildcardOutside 0) &&
        decide (findMatch ⟨registry, {}⟩ wildcardOutside "pack" 0 =
          .ok (some ⟨.element 1, wildcard⟩))) = true := by decide +kernel
  obtain ⟨registry, -, built, htest⟩ := Registry.exists_built_of_any hbuilds
  simp only [Bool.and_eq_true, decide_eq_true_eq] at htest
  obtain ⟨⟨⟨⟨hx, hpack⟩, hnokeys⟩, hall⟩, hfound⟩ := htest
  have hkeyless : ∀ key, ¬ registry.roster.Answers "pack" key := by
    intro key hanswers
    exact KeySet.not_mem_empty key ((built.complete.mem_effectiveKeys hnokeys key).2 hanswers)
  obtain ⟨keys, hkeys, hreserved, hqualified, hsilenced, -⟩ :=
    wildcard_reserved ⟨registry, {}⟩ built "x" hx
  obtain ⟨-, -, -, -, -, hmute⟩ := wildcard_reserved ⟨registry, {}⟩ built "pack" hpack
  obtain ⟨hiff, hmatch⟩ := hmute hkeyless wildcardOutside 0
  exact ⟨⟨registry, {}⟩, built, hx, hpack,
    ⟨keys, hkeys, hreserved, hqualified "q" true (by decide), hqualified "r" true (by decide)⟩,
    hkeyless, hall, hsilenced _ _ hall, hiff.2 hall, _, hfound, hmatch _ hfound⟩

end Engine

end Suppression
