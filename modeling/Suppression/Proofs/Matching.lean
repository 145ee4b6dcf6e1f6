import Suppression.Engine
import Suppression.Proofs.ScopeChain
import Suppression.Proofs.Validation
/-!
# The matching rule over a whole chain

The search for a match stops at the first element that carries one and learns of a loop only when it
comes to the end. It finds what a search over the whole scope chain finds
(`Walk.search_eq_nearest`), so a verdict is a plain function of the longest stretch of ancestors,
the effective keys and the global suppressions (`findMatch_eq_verdict`).
-/

namespace Suppression

/-! ## The nearest match -/

namespace Host

/-- The nearest of some elements that carries an accepted string, with its first such string. -/
def nearest (host : Host) (accepts : String → Bool) (elements : List ElementId) :
    Option (ElementId × String) :=
  elements.findSome? fun id =>
    ((host.strings id).find? accepts).map fun directive => (id, directive)

/-- An element that carries an accepted string is nearer than the rest. -/
theorem nearest_cons_of_some {host : Host} {accepts : String → Bool} {id : ElementId}
    {directive : String} (h : (host.strings id).find? accepts = some directive)
    (rest : List ElementId) : host.nearest accepts (id :: rest) = some (id, directive) := by
  rw [nearest, List.findSome?_cons, h]
  rfl

/-- An element without an accepted string is passed over. -/
theorem nearest_cons_of_none {host : Host} {accepts : String → Bool} {id : ElementId}
    (h : (host.strings id).find? accepts = none) (rest : List ElementId) :
    host.nearest accepts (id :: rest) = host.nearest accepts rest := by
  rw [nearest, List.findSome?_cons, h]
  rfl

/-- The nearest match stands on one of the elements. -/
theorem mem_of_nearest {host : Host} {accepts : String → Bool} {elements : List ElementId}
    {id : ElementId} {directive : String}
    (h : host.nearest accepts elements = some (id, directive)) : id ∈ elements := by
  obtain ⟨other, hmem, hfound⟩ := List.exists_of_findSome?_eq_some h
  obtain ⟨_, -, heq⟩ := Option.map_eq_some_iff.1 hfound
  rw [← (Prod.mk.inj heq).1]
  exact hmem

/-- There is a nearest match exactly if any string of any of the elements is accepted. -/
theorem isSome_nearest (host : Host) (accepts : String → Bool) (elements : List ElementId) :
    (host.nearest accepts elements).isSome = (elements.flatMap host.strings).any accepts := by
  induction elements with
  | nil => rfl
  | cons id rest ih =>
    rw [List.flatMap_cons, List.any_append]
    cases h : (host.strings id).find? accepts with
    | some directive =>
      have hany : (host.strings id).any accepts = true := by
        rw [List.any_eq_true]
        exact ⟨directive, List.mem_of_find?_eq_some h, List.find?_some h⟩
      rw [nearest_cons_of_some h, hany]
      rfl
    | none =>
      have hany : (host.strings id).any accepts = false := by
        rw [List.any_eq_false]
        exact List.find?_eq_none.1 h
      rw [nearest_cons_of_none h, hany, ih, Bool.false_or]

end Host

/-- **A walk that stops at its first match finds what its whole chain has to offer.** -/
theorem Walk.search_eq_nearest (host : Host) (accepts : String → Bool) (fuel : Nat) (walk : Walk) :
    walk.search host accepts fuel =
      match host.nearest accepts (walk.run host fuel).elements with
      | some (id, directive) => .hit id directive
      | none =>
        match (walk.run host fuel).revisited with
        | none => .exhausted
        | some revisited => .looped revisited := by
  induction fuel generalizing walk with
  | zero => rfl
  | succ fuel ih =>
    rw [Walk.search, Walk.run]
    rcases walk.next host with ⟨_ | current, onward⟩
    · rfl
    · simp only
      cases h : (host.strings current).find? accepts with
      | some directive => rw [Host.nearest_cons_of_some h]
      | none => rw [Host.nearest_cons_of_none h, ← ih onward]

/-! ## Verdicts -/

namespace Engine

/-- What is to be said of a checker with certain keys at an element whose longest stretch of
ancestors is known: the nearest match in the stretch; else that an ancestor comes again, if one
does; else the first matching global suppression, if there is one. -/
def verdict (engine : Engine) (host : Host) (keys : KeySet) (element : ElementId)
    (elements : List ElementId) : Except Failure (Option Match) :=
  match host.nearest (engine.accepts keys) elements with
  | some (id, directive) => .ok (some ⟨.element id, directive⟩)
  | none =>
    match host.ancestor element elements.length with
    | some revisited => .error (.cyclicScope element revisited)
    | none =>
      .ok ((engine.config.globalSuppressions.find? (engine.accepts keys)).map (⟨.global, ·⟩))

/-- A match of a registered checker is the verdict over its scope chain. -/
theorem findMatch_of_effectiveKeys {engine : Engine} {checker : CheckerId} {keys : KeySet}
    (h : engine.registry.effectiveKeys checker = .ok keys) (host : Host) (element : ElementId) :
    engine.findMatch host checker element =
      engine.verdict host keys element (host.chain element).elements := by
  have hsearch : host.search (engine.accepts keys) element = _ :=
    Walk.search_eq_nearest host (engine.accepts keys) Host.stepLimit (Walk.start element)
  rw [findMatch, h, verdict, ← host.chain_revisited element]
  simp only [hsearch]
  rw [← Host.chain]
  cases host.nearest (engine.accepts keys) (host.chain element).elements with
  | some found => rfl
  | none =>
    cases (host.chain element).revisited with
    | none => rfl
    | some revisited => rfl

/-- Where no ancestor comes again, nobody is told of a loop. -/
theorem findMatch_ne_cyclicScope {engine : Engine} {host : Host} {element : ElementId}
    (h : host.ancestor element (host.chain element).elements.length = none) (checker : CheckerId)
    (other revisited : ElementId) :
    engine.findMatch host checker element ≠ .error (.cyclicScope other revisited) := by
  cases hkeys : engine.registry.effectiveKeys checker with
  | error cause =>
    rw [findMatch_of_effectiveKeys_error hkeys]
    rw [Registry.effectiveKeys] at hkeys
    split at hkeys
    · exact absurd hkeys (by simp)
    · -- the registry knows one failure only, an unknown checker
      rw [← Except.error.inj hkeys]
      simp
  | ok keys =>
    rw [findMatch_of_effectiveKeys hkeys, verdict, h]
    cases host.nearest (engine.accepts keys) (host.chain element).elements <;> simp

/-- Where no ancestor comes again, no verdict fails because of a loop. -/
theorem isSuppressed_ne_cyclicScope {engine : Engine} {host : Host} {element : ElementId}
    (h : host.ancestor element (host.chain element).elements.length = none) (checker : CheckerId)
    (other revisited : ElementId) :
    (engine.isSuppressed host checker element).outcome ≠ .error (.cyclicScope other revisited) := by
  rw [isSuppressed_outcome]
  have hfind : engine.findMatch host checker element ≠ .error (.cyclicScope other revisited) :=
    findMatch_ne_cyclicScope h checker other revisited
  cases hmatch : engine.findMatch host checker element with
  | error cause =>
    rw [hmatch] at hfind
    exact fun hcause => hfind (congrArg Except.error (Except.error.inj hcause))
  | ok found => simp [Except.map]

/-- The verdict is a match exactly if any string that counts is accepted: those of the stretch, and
the global suppressions unless an ancestor comes again. -/
theorem verdict_isSome_iff (engine : Engine) (host : Host) (keys : KeySet) (element : ElementId)
    (elements : List ElementId) :
    (engine.verdict host keys element elements).map Option.isSome = .ok true ↔
      ((elements.flatMap host.strings).any (engine.accepts keys) ||
        ((host.ancestor element elements.length).isNone &&
          engine.config.globalSuppressions.any (engine.accepts keys))) = true := by
  rw [← host.isSome_nearest, ← List.isSome_find?, verdict]
  cases host.nearest (engine.accepts keys) elements with
  | some found => simp [Except.map]
  | none =>
    cases host.ancestor element elements.length with
    | some revisited => simp [Except.map]
    | none => simp [Except.map]

/-- **The matching rule.** Whatever the host is like, there is a longest stretch of the element and
its ancestors without repetition, and it decides: a checker that is not registered is unknown; for
one that is, the match is the verdict over the stretch, and the checker is silenced exactly if any
string of the stretch, or, where the stretch does not run into a loop, any global suppression is
accepted. -/
theorem findMatch_eq_verdict (engine : Engine) (built : engine.registry.Built) (host : Host)
    (checker : CheckerId) (element : ElementId) :
    ∃ elements, host.LongestPrefix element elements ∧
      (engine.registry.contains checker = false →
        engine.findMatch host checker element = .error (.unknownChecker checker) ∧
        (engine.isSuppressed host checker element).outcome = .error (.unknownChecker checker)) ∧
      (engine.registry.contains checker = true →
        ∃ keys, engine.registry.effectiveKeys checker = .ok keys ∧
          engine.findMatch host checker element = engine.verdict host keys element elements ∧
          ((engine.isSuppressed host checker element).outcome = .ok true ↔
            ((elements.flatMap host.strings).any (engine.accepts keys) ||
              ((host.ancestor element elements.length).isNone &&
                engine.config.globalSuppressions.any (engine.accepts keys))) = true)) := by
  refine ⟨(host.chain element).elements, host.longestPrefix_chain element, ?_, ?_⟩
  · intro unregistered
    have hkeys := built.complete.effectiveKeys_of_not_contains unregistered
    have hfind := findMatch_of_effectiveKeys_error hkeys host element
    refine ⟨hfind, ?_⟩
    rw [isSuppressed_outcome, hfind]
    rfl
  · intro registered
    obtain ⟨keys, hkeys⟩ := built.complete.exists_effectiveKeys registered
    have hfind := findMatch_of_effectiveKeys hkeys host element
    refine ⟨keys, hkeys, hfind, ?_⟩
    rw [isSuppressed_outcome, hfind]
    exact engine.verdict_isSome_iff host keys element _

/-- An element inside a loop of two others, the outer of which carries a directive. -/
def tailLoop : Host where
  enclosing id := some (if id = 1 then 2 else 1)
  strings id := if id = 2 then ["q:x"] else []

/-- A checker is judged at an element that runs into a loop, and so is one that is
not registered. -/
theorem tailLoop_findMatch : ∃ engine : Engine, engine.registry.Built ∧
    engine.registry.contains "x" = true ∧ engine.registry.contains "ghost" = false ∧
    engine.findMatch tailLoop "ghost" 0 = .error (.unknownChecker "ghost") ∧
    ∃ elements keys, tailLoop.LongestPrefix 0 elements ∧
      engine.registry.effectiveKeys "x" = .ok keys ∧
      engine.findMatch tailLoop "x" 0 = engine.verdict tailLoop keys 0 elements := by
  have hbuilds : (Registry.ofCheckers [{ id := "x", keys := ["x"] }]).outcome.toOption.any
      (fun registry => registry.contains "x" && !registry.contains "ghost") = true := by rfl
  cases h : (Registry.ofCheckers [{ id := "x", keys := ["x"] }]).outcome with
  | error cause =>
    rw [h] at hbuilds
    exact absurd hbuilds Bool.false_ne_true
  | ok registry =>
    have built : registry.Built := (Registry.built_of_ofCheckers h).1
    rw [h, Except.toOption, Option.any_some, Bool.and_eq_true, Bool.not_eq_true'] at hbuilds
    obtain ⟨hx, hghost⟩ := hbuilds
    obtain ⟨-, -, hunknown, -⟩ := findMatch_eq_verdict ⟨registry, {}⟩ built tailLoop "ghost" 0
    obtain ⟨elements, hlongest, -, hmatch⟩ :=
      findMatch_eq_verdict ⟨registry, {}⟩ built tailLoop "x" 0
    obtain ⟨keys, hkeys, hfind, -⟩ := hmatch hx
    exact ⟨⟨registry, {}⟩, built, hx, hghost, (hunknown hghost).1, elements, keys, hlongest, hkeys,
      hfind⟩

end Engine

end Suppression
