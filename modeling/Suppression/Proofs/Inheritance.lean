import Suppression.Proofs.Widening
/-!
# Inherited verdicts

Resolution gives a checker the keys of its references once, when the registry is made; the search
along a scope chain knows nothing of references. Together they make verdicts composable: a checker
is silenced exactly if one of its references is or a string that counts speaks to the checker itself
(`isSuppressed_iff_references`). A checker never looks farther than its references do, because to
each of them it is a wider problem (`widens_of_mem_references`).
-/

namespace Suppression.Engine

variable {engine : Engine}

/-! ## The strings that count -/

/-- The strings that count at an element: those on its scope chain and, unless that loops, the
global suppressions. -/
def considered (engine : Engine) (host : Host) (element : ElementId) : List String :=
  (host.chain element).elements.flatMap host.strings ++
    if (host.chain element).revisited.isNone then engine.config.globalSuppressions else []

/-- A checker is silenced exactly if it accepts a string that counts. -/
theorem isSuppressed_iff_considered {checker : CheckerId} {keys : KeySet}
    (h : engine.registry.effectiveKeys checker = .ok keys) (host : Host) (element : ElementId) :
    (engine.isSuppressed host checker element).outcome = .ok true ↔
      ∃ directive ∈ engine.considered host element, engine.accepts keys directive = true := by
  rw [isSuppressed_outcome, findMatch_of_effectiveKeys h, verdict_isSome_iff,
    ← host.chain_revisited element, considered, ← List.any_eq_true, List.any_append]
  cases (host.chain element).revisited with
  | none => simp
  | some revisited => simp

/-- The wildcard silences every registered checker where it counts. -/
theorem isSuppressed_of_wildcard {checker : CheckerId} {keys : KeySet}
    (h : engine.registry.effectiveKeys checker = .ok keys) {host : Host} {element : ElementId}
    (hall : wildcard ∈ engine.considered host element) :
    (engine.isSuppressed host checker element).outcome = .ok true := by
  rw [isSuppressed_iff_considered h]
  exact ⟨wildcard, hall, Directive.silences_wildcard keys engine.config.allowQualifiedKeys⟩

/-- A checker without effective keys is not silenced, for it has no verdict. -/
theorem exists_effectiveKeys_of_isSuppressed {checker : CheckerId} {host : Host}
    {element : ElementId} (h : (engine.isSuppressed host checker element).outcome = .ok true) :
    ∃ keys, engine.registry.effectiveKeys checker = .ok keys := by
  cases hkeys : engine.registry.effectiveKeys checker with
  | ok keys => exact ⟨keys, rfl⟩
  | error cause =>
    rw [isSuppressed_outcome, findMatch_of_effectiveKeys_error hkeys] at h
    exact absurd h (by simp [Except.map])

/-! ## References -/

section

variable {id : CheckerId} {checker : Checker} {keys : KeySet}

/-- A checker accepts what its own keys accept and what the effective keys of its references do. -/
theorem accepts_iff_references (complete : engine.registry.Complete)
    (known : engine.registry.checker id = .ok checker)
    (h : engine.registry.effectiveKeys id = .ok keys) (directive : String) :
    engine.accepts keys directive = true ↔
      engine.accepts checker.ownKeys directive = true ∨ ∃ source ∈ checker.references, ∃ others,
        engine.registry.effectiveKeys source = .ok others ∧
          engine.accepts others directive = true := by
  have hkey := complete.mem_effectiveKeys_iff known h
  constructor
  · intro haccepts
    rcases Directive.silences_iff_addresses.1 haccepts with hall | ⟨key, hmem, haddresses⟩
    · exact Or.inl (Directive.silences_iff_addresses.2 (Or.inl hall))
    · rcases (hkey key).1 hmem with hown | ⟨source, hsource, others, hothers, hmem⟩
      · left
        rw [← Checker.mem_ownKeys] at hown
        exact Directive.silences_iff_addresses.2 (Or.inr ⟨key, hown, haddresses⟩)
      · right
        exact ⟨source, hsource, others, hothers,
          Directive.silences_iff_addresses.2 (Or.inr ⟨key, hmem, haddresses⟩)⟩
  · rintro (hown | ⟨source, hsource, others, hothers, haccepts⟩)
    · refine Directive.silences_mono (fun key hmem => ?_) (fun hallow => hallow) hown
      exact (hkey key).2 (Or.inl (Checker.mem_ownKeys.1 hmem))
    · refine Directive.silences_mono (fun key hmem => ?_) (fun hallow => hallow) haccepts
      exact (hkey key).2 (Or.inr ⟨source, hsource, others, hothers, hmem⟩)

/-- To a reference, the checker that refers to it is a wider problem. -/
theorem widens_of_mem_references (complete : engine.registry.Complete)
    (known : engine.registry.checker id = .ok checker)
    (h : engine.registry.effectiveKeys id = .ok keys) {source : CheckerId} {others : KeySet}
    (hsource : source ∈ checker.references)
    (hothers : engine.registry.effectiveKeys source = .ok others) (host : Host) :
    Widens engine engine host host others keys where
  enclosing _ := rfl
  strings _ := List.Subset.refl _
  globals := List.Subset.refl _
  qualified hallow := hallow
  keys key hmem :=
    (complete.mem_effectiveKeys_iff known h key).2 (Or.inr ⟨source, hsource, others, hothers, hmem⟩)

/-- A checker is silenced exactly if one of its references is or its own keys accept a string that
counts. -/
theorem isSuppressed_iff_reference_or_own (complete : engine.registry.Complete)
    (known : engine.registry.checker id = .ok checker) (host : Host) (element : ElementId) :
    (engine.isSuppressed host id element).outcome = .ok true ↔
      (∃ source ∈ checker.references,
        (engine.isSuppressed host source element).outcome = .ok true) ∨
      ∃ directive ∈ engine.considered host element,
        engine.accepts checker.ownKeys directive = true := by
  obtain ⟨keys, hkeys⟩ := complete.exists_effectiveKeys (complete.contains_of_checker known)
  rw [isSuppressed_iff_considered hkeys]
  constructor
  · rintro ⟨directive, hcounts, haccepts⟩
    rcases (accepts_iff_references complete known hkeys directive).1 haccepts with
      hown | ⟨source, hsource, others, hothers, hinherited⟩
    · exact Or.inr ⟨directive, hcounts, hown⟩
    · left
      refine ⟨source, hsource, ?_⟩
      rw [isSuppressed_iff_considered hothers]
      exact ⟨directive, hcounts, hinherited⟩
  · rintro (⟨source, hsource, hsilenced⟩ | ⟨directive, hcounts, hown⟩)
    · obtain ⟨others, hothers⟩ := exists_effectiveKeys_of_isSuppressed hsilenced
      rw [isSuppressed_iff_considered hothers] at hsilenced
      obtain ⟨directive, hcounts, haccepts⟩ := hsilenced
      exact ⟨directive, hcounts, (accepts_iff_references complete known hkeys directive).2
        (Or.inr ⟨source, hsource, others, hothers, haccepts⟩)⟩
    · exact ⟨directive, hcounts, (accepts_iff_references complete known hkeys directive).2
        (Or.inl hown)⟩

/-- A checker without own keys accepts the wildcard alone on its own account. -/
theorem accepts_ownKeys_of_keyless (h : checker.keys = []) (directive : String) :
    engine.accepts checker.ownKeys directive = true ↔ directive = wildcard := by
  apply Directive.silences_iff_of_keyless
  intro key hkey
  rw [Checker.mem_ownKeys, h] at hkey
  exact absurd hkey List.not_mem_nil

/-- A composite that only has members is silenced exactly if one of them is. -/
theorem isSuppressed_iff_member (complete : engine.registry.Complete)
    (known : engine.registry.checker id = .ok checker) (keyless : checker.keys = [])
    (orphan : checker.parent = none) (composed : checker.members ≠ []) (host : Host)
    (element : ElementId) :
    (engine.isSuppressed host id element).outcome = .ok true ↔
      ∃ member ∈ checker.members, (engine.isSuppressed host member element).outcome = .ok true := by
  have hreferences : checker.references = checker.members := by
    rw [Checker.references, orphan, Option.toList_none, List.nil_append]
  rw [isSuppressed_iff_reference_or_own complete known, hreferences]
  refine ⟨?_, Or.inl⟩
  rintro (hmember | ⟨directive, hcounts, hown⟩)
  · exact hmember
  · -- the wildcard silences the members too, and there is one
    rw [accepts_ownKeys_of_keyless keyless] at hown
    obtain ⟨member, hmember⟩ := List.exists_mem_of_ne_nil _ composed
    obtain ⟨others, hothers⟩ := complete.exists_effectiveKeys
      (complete.contains_of_mem_references known (hreferences ▸ hmember))
    exact ⟨member, hmember, isSuppressed_of_wildcard hothers (hown ▸ hcounts)⟩

/-- A checker has its match no farther out than any of its references. -/
theorem noFarther_of_mem_references (complete : engine.registry.Complete)
    (known : engine.registry.checker id = .ok checker) {source : CheckerId}
    (hsource : source ∈ checker.references) {host : Host} {element : ElementId}
    {found inherited : Match} (hfound : engine.findMatch host id element = .ok (some found))
    (hinherited : engine.findMatch host source element = .ok (some inherited)) :
    found.scope.NoFarther (host.chain element).elements inherited.scope := by
  obtain ⟨keys, hkeys⟩ := complete.exists_effectiveKeys (complete.contains_of_checker known)
  obtain ⟨others, hothers⟩ := complete.exists_effectiveKeys
    (complete.contains_of_mem_references known hsource)
  have widens := widens_of_mem_references complete known hkeys hsource hothers host
  have hgains := widens.gains_findMatch hothers hkeys element
  rw [hfound, hinherited] at hgains
  cases hgains with
  | nearer h => exact h

end

/-! ## Verdicts -/

/-- **Inheritance and composition of verdicts.** A registered checker is silenced at an element
exactly if one of its references is, or a string that counts there is the wildcard or silences the
checker's own keys. So what silences a parent or a member silences the checker; a composite that
only has members is silenced exactly if one of them is; and where both the checker and a reference
have a match, that of the checker is no farther out. -/
theorem isSuppressed_iff_references (engine : Engine) (built : engine.registry.Built) (host : Host)
    (element : ElementId) (id : CheckerId) (checker : Checker)
    (known : engine.registry.checker id = .ok checker) :
    ((engine.isSuppressed host id element).outcome = .ok true ↔
      (∃ source ∈ checker.references,
        (engine.isSuppressed host source element).outcome = .ok true) ∨
      ∃ directive ∈ engine.considered host element, directive = wildcard ∨
        Directive.silences directive checker.ownKeys engine.config.allowQualifiedKeys = true) ∧
    (∀ source ∈ checker.references,
      (engine.isSuppressed host source element).outcome = .ok true →
      (engine.isSuppressed host id element).outcome = .ok true) ∧
    (checker.keys = [] → checker.parent = none → checker.members ≠ [] →
      ((engine.isSuppressed host id element).outcome = .ok true ↔
        ∃ member ∈ checker.members,
          (engine.isSuppressed host member element).outcome = .ok true)) ∧
    ∀ source ∈ checker.references, ∀ found inherited,
      engine.findMatch host id element = .ok (some found) →
      engine.findMatch host source element = .ok (some inherited) →
      found.scope.NoFarther (host.chain element).elements inherited.scope := by
  have hiff := isSuppressed_iff_reference_or_own built.complete known host element
  refine ⟨?_, ?_, ?_, ?_⟩
  · rw [hiff]
    refine or_congr Iff.rfl (exists_congr fun directive => and_congr_right fun _ => ⟨Or.inr, ?_⟩)
    rintro (rfl | hown)
    · exact Directive.silences_wildcard checker.ownKeys engine.config.allowQualifiedKeys
    · exact hown
  · intro source hsource hsilenced
    exact hiff.2 (Or.inl ⟨source, hsource, hsilenced⟩)
  · intro keyless orphan composed
    exact isSuppressed_iff_member built.complete known keyless orphan composed host element
  · intro source hsource found inherited hfound hinherited
    exact noFarther_of_mem_references built.complete known hsource hfound hinherited

/-- In a loop, a checker has its match on an inner element and its parent on an outer one, and the
composite of the checker is silenced with it. -/
theorem coveredLoop_inherits : ∃ engine : Engine, engine.registry.Built ∧
    engine.registry.checker "y" = .ok { id := "y", parent := some "x", keys := ["w"] } ∧
    engine.registry.checker "pack" = .ok (Checker.composed "pack" ["y"]) ∧
    engine.findMatch coveredLoop "y" 0 = .ok (some ⟨.element 1, "w"⟩) ∧
    engine.findMatch coveredLoop "x" 0 = .ok (some ⟨.element 2, "q:x"⟩) ∧
    MatchScope.NoFarther (coveredLoop.chain 0).elements (.element 1) (.element 2) ∧
    (engine.isSuppressed coveredLoop "y" 0).outcome = .ok true ∧
    (engine.isSuppressed coveredLoop "pack" 0).outcome = .ok true := by
  have hbuilds : (Registry.ofCheckers [{ id := "x", keys := ["x"] },
      { id := "y", parent := some "x", keys := ["w"] },
      Checker.composed "pack" ["y"]]).outcome.toOption.any (fun registry =>
        decide (registry.checker "y" = .ok { id := "y", parent := some "x", keys := ["w"] }) &&
        decide (registry.checker "pack" = .ok (Checker.composed "pack" ["y"])) &&
        decide (findMatch ⟨registry, {}⟩ coveredLoop "y" 0 = .ok (some ⟨.element 1, "w"⟩)) &&
        decide (findMatch ⟨registry, {}⟩ coveredLoop "x" 0 = .ok (some ⟨.element 2, "q:x"⟩)) &&
        decide ((isSuppressed ⟨registry, {}⟩ coveredLoop "x" 0).outcome = .ok true)) = true := by
    decide +kernel
  obtain ⟨registry, -, built, htest⟩ := Registry.exists_built_of_any hbuilds
  simp only [Bool.and_eq_true, decide_eq_true_eq] at htest
  obtain ⟨⟨⟨⟨hy, hpack⟩, hfound⟩, hinherited⟩, hx⟩ := htest
  obtain ⟨-, hbelow, -, hplace⟩ :=
    isSuppressed_iff_references ⟨registry, {}⟩ built coveredLoop 0 "y" _ hy
  obtain ⟨-, -, hmember, -⟩ :=
    isSuppressed_iff_references ⟨registry, {}⟩ built coveredLoop 0 "pack" _ hpack
  have hsilenced := hbelow "x" (by simp [Checker.references]) hx
  exact ⟨⟨registry, {}⟩, built, hy, hpack, hfound, hinherited,
    hplace "x" (by simp [Checker.references]) _ _ hfound hinherited, hsilenced,
    (hmember rfl rfl (by simp [Checker.composed, Checker.members, CheckerKind.members])).2
      ⟨"y", by simp [Checker.composed, Checker.members, CheckerKind.members], hsilenced⟩⟩

end Suppression.Engine
