import Suppression.Proofs.Freezing
/-!
# Which lists of checkers make a registry

A list of checkers is refused for one of four reasons, looked for in this order: a checker that
declares the wildcard or takes a taken name, a reference that leads nowhere, a cycle of references.
The main statement (`outcome_ofCheckers_iff`) gives for each outcome the exact lists that have it,
in terms of the list alone.
-/

namespace Suppression

/-! ## Refused checkers -/

/-- The first checker that spoils the list is `id`, and it declares the wildcard. -/
def Reserves (checkers : List Checker) (id : CheckerId) : Prop :=
  ∃ before checker after, checkers = before ++ checker :: after ∧ Admissible before ∧
    wildcard ∈ checker.keys ∧ checker.id = id

/-- The first checker that spoils the list is `id`; it spares the wildcard, but an earlier checker
has its name. -/
def Repeats (checkers : List Checker) (id : CheckerId) : Prop :=
  ∃ before checker after, checkers = before ++ checker :: after ∧ Admissible before ∧
    wildcard ∉ checker.keys ∧ checker.id ∈ before.map (·.id) ∧ checker.id = id

/-- A list is admissible, or its first checker that spoils it has one of two faults. -/
theorem admissible_or_refused (checkers : List Checker) :
    Admissible checkers ∨ (∃ id, Reserves checkers id) ∨ ∃ id, Repeats checkers id := by
  by_cases h : Admissible checkers
  · exact Or.inl h
  · right
    obtain ⟨before, checker, after, heq, hbefore, hfault⟩ := exists_first_refused checkers h
    by_cases hkeys : wildcard ∈ checker.keys
    · exact Or.inl ⟨checker.id, before, checker, after, heq, hbefore, hkeys, rfl⟩
    · rcases hfault with hfault | hfault
      · exact absurd hfault hkeys
      · exact Or.inr ⟨checker.id, before, checker, after, heq, hbefore, hkeys, hfault, rfl⟩

namespace Registry

/-! ## Registering the list -/

/-- An admissible list is registered whole, and then its roster is frozen. -/
theorem outcome_ofCheckers_of_admissible {checkers : List Checker} (h : Admissible checkers) :
    ∃ roster : Roster, roster.Arises ∧ roster.checkers.toList = checkers ∧
      (ofCheckers checkers).outcome = roster.freeze.outcome := by
  obtain ⟨hok, hlist⟩ := Roster.coherent_empty.registerAll_of_admissible checkers h
  refine ⟨(Roster.empty.registerAll checkers).1, Roster.Arises.registerAll Roster.Arises.empty _,
    hlist, ?_⟩
  unfold ofCheckers Logged.andThen
  simp only [hok]

/-- A list is refused with the obstacle of its first checker that has one. -/
theorem outcome_ofCheckers_of_obstacle {before after : List Checker} {checker : Checker}
    {cause : Conflict} (hbefore : Admissible before)
    (h : (Roster.empty.registerAll before).1.obstacle? checker = some cause) :
    (ofCheckers (before ++ checker :: after)).outcome = .error (.conflict cause) := by
  unfold ofCheckers Logged.andThen
  simp only [Roster.coherent_empty.registerAll_of_refused hbefore h]

/-- A wildcard in the first checker that spoils the list is what the list is refused for. -/
theorem outcome_of_reserves {checkers : List Checker} {id : CheckerId}
    (h : Reserves checkers id) :
    (ofCheckers checkers).outcome = .error (.conflict (.reservedWildcard id)) := by
  obtain ⟨before, checker, after, rfl, hbefore, hkeys, rfl⟩ := h
  exact outcome_ofCheckers_of_obstacle hbefore (Roster.obstacle?_of_wildcard _ hkeys)

/-- A taken name in the first checker that spoils the list is what the list is refused for. -/
theorem outcome_of_repeats {checkers : List Checker} {id : CheckerId} (h : Repeats checkers id) :
    (ofCheckers checkers).outcome = .error (.conflict (.duplicateIdentity id)) := by
  obtain ⟨before, checker, after, rfl, hbefore, hkeys, htaken, rfl⟩ := h
  have hcoherent := Roster.coherent_empty.registerAll before
  have hlist := (Roster.coherent_empty.registerAll_of_admissible before hbefore).2
  refine outcome_ofCheckers_of_obstacle hbefore (hcoherent.obstacle?_of_taken hkeys ?_)
  rw [Roster.ids, hlist]
  exact htaken

/-! ## Freezing the roster -/

/-- A dangling reference is what an admissible list is refused for. -/
theorem outcome_of_dangles {checkers : List Checker} (h : Admissible checkers) {id : CheckerId}
    (hdangles : Dangles checkers id) :
    (ofCheckers checkers).outcome = .error (.unknownChecker id) := by
  obtain ⟨roster, arises, rfl, houtcome⟩ := outcome_ofCheckers_of_admissible h
  rw [houtcome, Roster.freeze_of_dangling (arises.coherent.dangling?_eq_some_iff.2 hdangles)]

/-- A cycle is what an admissible list without dangling references is refused for. -/
theorem outcome_of_cyclic {checkers : List Checker} (h : Admissible checkers)
    (closed : Closed checkers) (cyclic : Cyclic checkers) :
    ∃ path, (ofCheckers checkers).outcome = .error (.conflict (.cycle path)) := by
  obtain ⟨roster, arises, rfl, houtcome⟩ := outcome_ofCheckers_of_admissible h
  rw [houtcome]
  exact arises.coherent.freeze_of_cyclic closed cyclic

/-- An admissible list without dangling references and cycles makes a registry. -/
theorem outcome_of_not_cyclic {checkers : List Checker} (h : Admissible checkers)
    (closed : Closed checkers) (acyclic : ¬ Cyclic checkers) :
    ∃ registry, (ofCheckers checkers).outcome = .ok registry := by
  obtain ⟨roster, arises, rfl, houtcome⟩ := outcome_ofCheckers_of_admissible h
  rw [houtcome]
  exact arises.coherent.freeze_of_not_cyclic closed acyclic

/-- A registry made from a list is built, and holds the checkers of the list in order. -/
theorem built_of_ofCheckers {checkers : List Checker} {registry : Registry}
    (h : (ofCheckers checkers).outcome = .ok registry) :
    registry.Built ∧ registry.roster.checkers.toList = checkers := by
  rcases admissible_or_refused checkers with hadmissible | ⟨id, hreserves⟩ | ⟨id, hrepeats⟩
  · obtain ⟨roster, arises, hlist, houtcome⟩ := outcome_ofCheckers_of_admissible hadmissible
    rw [houtcome] at h
    refine ⟨⟨roster, arises, h⟩, ?_⟩
    rw [(arises.coherent.complete_of_freeze h).1, hlist]
  · rw [outcome_of_reserves hreserves] at h
    exact absurd h (by simp)
  · rw [outcome_of_repeats hrepeats] at h
    exact absurd h (by simp)

/-- A list makes a registry with a property if what it makes can be tested for that. -/
theorem exists_built_of_any {checkers : List Checker} {test : Registry → Bool}
    (h : (ofCheckers checkers).outcome.toOption.any test = true) :
    ∃ registry, (ofCheckers checkers).outcome = .ok registry ∧ registry.Built ∧
      test registry = true := by
  obtain ⟨registry, houtcome, htest⟩ := exists_ok_of_any h
  exact ⟨registry, houtcome, (built_of_ofCheckers houtcome).1, htest⟩

/-! ## The outcome -/

/-- The outcomes that a list may have, each with what is true of the list then. -/
inductive Judged (checkers : List Checker) : Except Failure Registry → Prop
  /-- The wildcard comes first. -/
  | reserved {id : CheckerId} (reserves : Reserves checkers id) :
      Judged checkers (.error (.conflict (.reservedWildcard id)))
  /-- A taken name comes first. -/
  | repeated {id : CheckerId} (repeats : Repeats checkers id) :
      Judged checkers (.error (.conflict (.duplicateIdentity id)))
  /-- All can be registered, but a reference leads nowhere. -/
  | dangling {id : CheckerId} (admissible : Admissible checkers) (dangles : Dangles checkers id) :
      Judged checkers (.error (.unknownChecker id))
  /-- All references lead somewhere, but there is a cycle. -/
  | cyclic {path : List CheckerId} (admissible : Admissible checkers) (closed : Closed checkers)
      (cyclic : Cyclic checkers) : Judged checkers (.error (.conflict (.cycle path)))
  /-- There is nothing to object. -/
  | accepted {registry : Registry} (admissible : Admissible checkers) (closed : Closed checkers)
      (acyclic : ¬ Cyclic checkers) : Judged checkers (.ok registry)

/-- Every list is judged by its first fault. -/
theorem judged_ofCheckers (checkers : List Checker) :
    Judged checkers (ofCheckers checkers).outcome := by
  rcases admissible_or_refused checkers with h | ⟨id, h⟩ | ⟨id, h⟩
  · rcases closed_or_dangles checkers with hclosed | ⟨id, hdangles⟩
    · by_cases hcyclic : Cyclic checkers
      · obtain ⟨path, hpath⟩ := outcome_of_cyclic h hclosed hcyclic
        rw [hpath]
        exact Judged.cyclic h hclosed hcyclic
      · obtain ⟨registry, hregistry⟩ := outcome_of_not_cyclic h hclosed hcyclic
        rw [hregistry]
        exact Judged.accepted h hclosed hcyclic
    · rw [outcome_of_dangles h hdangles]
      exact Judged.dangling h hdangles
  · rw [outcome_of_reserves h]
    exact Judged.reserved h
  · rw [outcome_of_repeats h]
    exact Judged.repeated h

/-- The resolution of a roster without dangling references never misses a checker. -/
theorem resolveAll_ne_unknownChecker {roster : Roster} (arises : roster.Arises)
    (h : roster.dangling? = none) (id : CheckerId) :
    (roster.resolveAll [] roster.ids).2 ≠ .error (.unknownChecker id) := by
  have closed := arises.coherent.dangling?_eq_none_iff_closed.1 h
  have hall := arises.coherent.resolvedAll_ids closed
  generalize roster.resolveAll [] roster.ids = result at hall
  cases hall <;> simp

/-- **The outcome of a list of checkers.** The first checker that spoils the list refuses it, for
the wildcard if it declares that and else for its name; then the first dangling reference; then a
cycle of references; and nothing else does. The resolution itself never finds a checker missing. -/
theorem outcome_ofCheckers_iff (checkers : List Checker) :
    (∀ id, (ofCheckers checkers).outcome = .error (.conflict (.reservedWildcard id)) ↔
      Reserves checkers id) ∧
    (∀ id, (ofCheckers checkers).outcome = .error (.conflict (.duplicateIdentity id)) ↔
      Repeats checkers id) ∧
    (∀ id, (ofCheckers checkers).outcome = .error (.unknownChecker id) ↔
      Admissible checkers ∧ Dangles checkers id) ∧
    ((∃ path, (ofCheckers checkers).outcome = .error (.conflict (.cycle path))) ↔
      Admissible checkers ∧ Closed checkers ∧ Cyclic checkers) ∧
    ((∃ registry, (ofCheckers checkers).outcome = .ok registry) ↔
      Admissible checkers ∧ Closed checkers ∧ ¬ Cyclic checkers) ∧
    ¬ ∃ (roster : Roster) (id : CheckerId), roster.Arises ∧ roster.dangling? = none ∧
      (roster.resolveAll [] roster.ids).2 = .error (.unknownChecker id) := by
  have hjudged := judged_ofCheckers checkers
  refine ⟨fun id => ⟨fun h => ?_, outcome_of_reserves⟩, fun id => ⟨fun h => ?_, outcome_of_repeats⟩,
    fun id => ⟨fun h => ?_, fun h => outcome_of_dangles h.1 h.2⟩,
    ⟨?_, fun h => outcome_of_cyclic h.1 h.2.1 h.2.2⟩,
    ⟨?_, fun h => outcome_of_not_cyclic h.1 h.2.1 h.2.2⟩,
    ?_⟩
  · rw [h] at hjudged
    cases hjudged with
    | reserved reserves => exact reserves
  · rw [h] at hjudged
    cases hjudged with
    | repeated repeats => exact repeats
  · rw [h] at hjudged
    cases hjudged with
    | dangling admissible dangles => exact ⟨admissible, dangles⟩
  · rintro ⟨path, h⟩
    rw [h] at hjudged
    cases hjudged with
    | cyclic admissible closed cyclic => exact ⟨admissible, closed, cyclic⟩
  · rintro ⟨registry, h⟩
    rw [h] at hjudged
    cases hjudged with
    | accepted admissible closed acyclic => exact ⟨admissible, closed, acyclic⟩
  · rintro ⟨roster, id, arises, hdangling, h⟩
    exact resolveAll_ne_unknownChecker arises hdangling id h

/-- Sharing an ancestor and listing a member twice are no cycles. -/
example : (ofCheckers [Checker.composed "all-in-one" ["left", "right", "left"],
    Checker.withParent { id := "left" } "base", Checker.withParent { id := "right" } "base",
    { id := "base" }]).outcome.toOption.isSome = true := by rfl

end Registry

end Suppression
