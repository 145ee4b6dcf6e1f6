import Suppression.Proofs.Directives
import Suppression.Proofs.Matching
/-!
# More suppressions

One matching problem *widens* another if the elements are enclosed alike and it has at least the
same strings on every element, the same global suppressions, the same licence for qualified keys and
the same effective keys (`Widens`). The main statement is that nothing is lost on the way
(`isSuppressed_of_widens`): a match may only come nearer, a loop may only be covered up by a new
match, and no loop is reported that was not reported before.
-/

namespace Suppression

/-! ## Places on a chain -/

/-- One place is no farther out than another: on a chain, the element that comes no later; and
nothing is farther out than the global suppressions. -/
inductive MatchScope.NoFarther (chain : List ElementId) : MatchScope → MatchScope → Prop
  /-- The global suppressions stand behind everything. -/
  | behind (scope : MatchScope) : NoFarther chain scope .global
  /-- Of two elements of the chain the first comes no later. -/
  | along {i j : Nat} {near far : ElementId} (hij : i ≤ j) (hnear : chain[i]? = some near)
      (hfar : chain[j]? = some far) : NoFarther chain (.element near) (.element far)

namespace MatchScope.NoFarther

variable {chain : List ElementId} {near far : MatchScope}

/-- One more element in front of a chain changes nothing among the others. -/
theorem cons (h : NoFarther chain near far) (id : ElementId) :
    NoFarther (id :: chain) near far := by
  cases h with
  | behind => exact behind near
  | along hij hnear hfar =>
    exact along (Nat.succ_le_succ hij) (by rw [List.getElem?_cons_succ, hnear])
      (by rw [List.getElem?_cons_succ, hfar])

/-- Nothing on a chain is nearer than its first element. -/
theorem first {id other : ElementId} (h : other ∈ id :: chain) :
    NoFarther (id :: chain) (.element id) (.element other) := by
  obtain ⟨j, hj⟩ := List.getElem?_of_mem h
  exact along (Nat.zero_le j) rfl hj

end MatchScope.NoFarther

/-! ## Wider problems -/

/-- The second problem, given by an engine, a host and effective keys, has at least what the first
one has, and the same surroundings of every element. -/
structure Widens (engine wider : Engine) (host fuller : Host) (keys more : KeySet) : Prop where
  /-- The elements are enclosed alike. -/
  enclosing : ∀ id, fuller.enclosing id = host.enclosing id
  /-- Every element carries at least the same strings. -/
  strings : ∀ id, host.strings id ⊆ fuller.strings id
  /-- The global suppressions are there again. -/
  globals : engine.config.globalSuppressions ⊆ wider.config.globalSuppressions
  /-- Qualified keys are allowed if they were. -/
  qualified : engine.config.allowQualifiedKeys = true → wider.config.allowQualifiedKeys = true
  /-- The checker answers to at least the same keys. -/
  keys : ∀ key ∈ keys, key ∈ more

/-- What becomes of an answer about `element` when the problem is widened. -/
inductive Gains (element : ElementId) (chain : List ElementId) :
    Except Failure (Option Match) → Except Failure (Option Match) → Prop
  /-- A match stays or comes nearer. -/
  | nearer {found other : Match} (h : other.scope.NoFarther chain found.scope) :
      Gains element chain (.ok (some found)) (.ok (some other))
  /-- There is a match where there was none. -/
  | found (other : Match) : Gains element chain (.ok none) (.ok (some other))
  /-- There is a match before the loop comes to light. -/
  | covered (other : Match) (revisited : ElementId) :
      Gains element chain (.error (.cyclicScope element revisited)) (.ok (some other))
  /-- There is still no match. -/
  | missed : Gains element chain (.ok none) (.ok none)
  /-- The same loop comes to light. -/
  | looped (revisited : ElementId) :
      Gains element chain (.error (.cyclicScope element revisited))
        (.error (.cyclicScope element revisited))

/-- Any match is a gain over what the global suppressions have to offer. -/
theorem Gains.over_global (engine : Engine) (keys : KeySet) (element : ElementId)
    (chain : List ElementId) (other : Match) :
    Gains element chain (.ok (engine.globalMatch keys)) (.ok (some other)) := by
  rw [Engine.globalMatch]
  cases engine.config.globalSuppressions.find? (engine.accepts keys) with
  | some directive => exact Gains.nearer (MatchScope.NoFarther.behind other.scope)
  | none => exact Gains.found other

namespace Widens

variable {engine wider : Engine} {host fuller : Host} {keys more : KeySet}

/-- What was accepted is accepted. -/
theorem accepts (widens : Widens engine wider host fuller keys more) {directive : String}
    (h : engine.accepts keys directive = true) : wider.accepts more directive = true :=
  Directive.silences_mono widens.keys widens.qualified h

/-- Where one list has an accepted string, so has a longer one. -/
theorem exists_find? (widens : Widens engine wider host fuller keys more)
    {strings others : List String} (hsub : strings ⊆ others) {directive : String}
    (h : strings.find? (engine.accepts keys) = some directive) :
    ∃ other, others.find? (wider.accepts more) = some other := by
  rw [← Option.isSome_iff_exists, List.find?_isSome]
  exact ⟨directive, hsub (List.mem_of_find?_eq_some h), widens.accepts (List.find?_some h)⟩

/-- The nearest match stays or comes nearer. -/
theorem nearest (widens : Widens engine wider host fuller keys more) {elements : List ElementId}
    {far : ElementId} {directive : String}
    (h : host.nearest (engine.accepts keys) elements = some (far, directive)) :
    ∃ near other, fuller.nearest (wider.accepts more) elements = some (near, other) ∧
      MatchScope.NoFarther elements (.element near) (.element far) := by
  induction elements with
  | nil => exact absurd h (by simp [Host.nearest])
  | cons id rest ih =>
    have hfar : far ∈ id :: rest := Host.mem_of_nearest h
    cases hnew : (fuller.strings id).find? (wider.accepts more) with
    | some other =>
      exact ⟨id, other, Host.nearest_cons_of_some hnew rest, MatchScope.NoFarther.first hfar⟩
    | none =>
      cases hold : (host.strings id).find? (engine.accepts keys) with
      | some directive =>
        -- what the element carried it carries still
        obtain ⟨other, hother⟩ := widens.exists_find? (widens.strings id) hold
        rw [hnew] at hother
        exact absurd hother (by simp)
      | none =>
        rw [Host.nearest_cons_of_none hold] at h
        obtain ⟨near, other, hnear, hplace⟩ := ih h
        rw [Host.nearest_cons_of_none hnew]
        exact ⟨near, other, hnear, hplace.cons id⟩

/-- Where there is no match on the chain, the global suppressions have one if they had one. -/
theorem gains_global (widens : Widens engine wider host fuller keys more) (element : ElementId)
    (chain : List ElementId) :
    Gains element chain (.ok (engine.globalMatch keys)) (.ok (wider.globalMatch more)) := by
  cases hnew : wider.globalMatch more with
  | some other => exact Gains.over_global engine keys element chain other
  | none =>
    cases hold : engine.config.globalSuppressions.find? (engine.accepts keys) with
    | some directive =>
      obtain ⟨other, hother⟩ := widens.exists_find? widens.globals hold
      rw [Engine.globalMatch, hother] at hnew
      exact absurd hnew (by simp)
    | none =>
      rw [Engine.globalMatch, hold]
      exact Gains.missed

/-- The scope chains are the same. -/
theorem chain_eq (widens : Widens engine wider host fuller keys more) (element : ElementId) :
    fuller.chain element = host.chain element :=
  Host.chain_congr fun id _ => widens.enclosing id

/-- **An answer only gains when the problem is widened.** -/
theorem gains_findMatch (widens : Widens engine wider host fuller keys more)
    {checker other : CheckerId} (hkeys : engine.registry.effectiveKeys checker = .ok keys)
    (hmore : wider.registry.effectiveKeys other = .ok more) (element : ElementId) :
    Gains element (host.chain element).elements (engine.findMatch host checker element)
      (wider.findMatch fuller other element) := by
  have hancestor := fuller.chain_revisited element
  rw [widens.chain_eq element, host.chain_revisited] at hancestor
  rw [Engine.findMatch_of_effectiveKeys hkeys, Engine.findMatch_of_effectiveKeys hmore,
    widens.chain_eq element, Engine.verdict, Engine.verdict, ← hancestor]
  cases hold : host.nearest (engine.accepts keys) (host.chain element).elements with
  | some found =>
    obtain ⟨near, directive, hnear, hplace⟩ := widens.nearest hold
    rw [hnear]
    exact Gains.nearer hplace
  | none =>
    cases fuller.nearest (wider.accepts more) (host.chain element).elements with
    | some found =>
      cases host.ancestor element (host.chain element).elements.length with
      | some revisited => exact Gains.covered _ revisited
      | none => exact Gains.over_global engine keys element _ _
    | none =>
      cases host.ancestor element (host.chain element).elements.length with
      | some revisited => exact Gains.looped revisited
      | none => exact widens.gains_global element _

end Widens

/-! ## Verdicts -/

namespace Engine

/-- **Adding suppressions never loses one.** When a problem is widened, a checker that was silenced
is silenced; if the wider problem fails, then because of the same loop as the other one; and where
both have a match, the wider one has it no farther out. -/
theorem isSuppressed_of_widens (engine wider : Engine) (host fuller : Host)
    (checker other : CheckerId) (keys more : KeySet)
    (hkeys : engine.registry.effectiveKeys checker = .ok keys)
    (hmore : wider.registry.effectiveKeys other = .ok more)
    (widens : Widens engine wider host fuller keys more) (element : ElementId) :
    ((engine.isSuppressed host checker element).outcome = .ok true →
      (wider.isSuppressed fuller other element).outcome = .ok true) ∧
    (∀ cause, (wider.isSuppressed fuller other element).outcome = .error cause →
      ∃ revisited, cause = .cyclicScope element revisited ∧
        (engine.isSuppressed host checker element).outcome =
          .error (.cyclicScope element revisited)) ∧
    ∀ found further, engine.findMatch host checker element = .ok (some found) →
      wider.findMatch fuller other element = .ok (some further) →
      further.scope.NoFarther (host.chain element).elements found.scope := by
  have hgains := widens.gains_findMatch hkeys hmore element
  rw [isSuppressed_outcome, isSuppressed_outcome]
  generalize engine.findMatch host checker element = answer at hgains
  generalize wider.findMatch fuller other element = second at hgains
  refine ⟨?_, ?_, ?_⟩
  · intro hsilenced
    cases hgains with
    | nearer | found | covered => rfl
    | missed | looped => exact absurd hsilenced (by simp [Except.map])
  · intro cause hfails
    cases hgains with
    | nearer | found | covered | missed => exact absurd hfails (by simp [Except.map])
    | looped revisited => exact ⟨revisited, (Except.error.inj hfails).symm, rfl⟩
  · intro found further hfound hfurther
    cases hgains with
    | nearer h =>
      rw [← Option.some.inj (Except.ok.inj hfound), ← Option.some.inj (Except.ok.inj hfurther)]
      exact h
    | found | covered => exact absurd hfound (by simp)
    | missed | looped => exact absurd hfound (by simp)

/-- The loop of `tailLoop` with a directive on its first element, too. -/
def coveredLoop : Host where
  enclosing := tailLoop.enclosing
  strings id := if id = 1 then ["w"] else tailLoop.strings id

/-- A checker that is silenced in a loop is so where the loop carries more, and so is one that
inherits its keys, under an engine with a global suppression. -/
theorem coveredLoop_isSuppressed : ∃ (engine wider : Engine) (keys more : KeySet),
    engine.registry.effectiveKeys "x" = .ok keys ∧ wider.registry.effectiveKeys "y" = .ok more ∧
      Widens engine wider tailLoop coveredLoop keys more ∧
      (engine.isSuppressed tailLoop "x" 0).outcome = .ok true ∧
      (wider.isSuppressed coveredLoop "y" 0).outcome = .ok true := by
  have hbuilds : (Registry.ofCheckers [{ id := "x", keys := ["x"] },
      { id := "y", parent := some "x", keys := ["w"] }]).outcome.toOption.any (fun registry =>
        registry.contains "x" && registry.contains "y" &&
        decide (registry.checker "y" = .ok { id := "y", parent := some "x", keys := ["w"] }) &&
        decide ((isSuppressed ⟨registry, {}⟩ tailLoop "x" 0).outcome = .ok true)) = true := by rfl
  obtain ⟨registry, -, built, htest⟩ := Registry.exists_built_of_any hbuilds
  simp only [Bool.and_eq_true, decide_eq_true_eq] at htest
  obtain ⟨⟨⟨hx, hy⟩, hchecker⟩, hsilenced⟩ := htest
  obtain ⟨keys, hkeys⟩ := built.complete.exists_effectiveKeys hx
  obtain ⟨more, hmore⟩ := built.complete.exists_effectiveKeys hy
  have widens : Widens ⟨registry, {}⟩ ⟨registry, { globalSuppressions := ["g"] }⟩ tailLoop
      coveredLoop keys more := by
    refine ⟨fun id => rfl, fun id => ?_, by simp, fun h => h, fun key hkey => ?_⟩
    · by_cases hid : id = 1
      · simp [hid, tailLoop]
      · simp [coveredLoop, hid]
    · rw [built.complete.mem_effectiveKeys_iff hchecker hmore]
      exact Or.inr ⟨"x", by simp [Checker.references], keys, hkeys, hkey⟩
  obtain ⟨hkept, -, -⟩ := isSuppressed_of_widens ⟨registry, {}⟩
    ⟨registry, { globalSuppressions := ["g"] }⟩ tailLoop coveredLoop "x" "y" keys more hkeys hmore
    widens 0
  exact ⟨⟨registry, {}⟩, ⟨registry, { globalSuppressions := ["g"] }⟩, keys, more, hkeys, hmore,
    widens, hsilenced, hkept hsilenced⟩

end Engine

end Suppression
