import Suppression.Proofs.ArenaChain
import Suppression.Proofs.WalkCalls
/-!
# Global suppressions on top-level elements

Global suppressions could as well be written behind the strings of every element that nothing
encloses (`Arena.withTopStrings`): every chain of an arena ends at such an element, so they would be
found where they are found now, after everything that stands on the chain, in the same order and by
the same rule (`Engine.findMatch_withTopStrings`). Only the place that is reported would be another
one, the end of the chain.
-/

namespace Suppression

/-! ## Strings on top-level elements -/

/-- The element with further strings behind its own, if nothing encloses it. -/
def Element.withTopStrings (element : Element) (more : List String) : Element :=
  match element.enclosing with
  | none => { element with suppressions := element.suppressions ++ more }
  | some _ => element

namespace Element

variable {element : Element}

/-- The number of an element stays. -/
@[simp]
theorem id_withTopStrings (element : Element) (more : List String) :
    (element.withTopStrings more).id = element.id := by
  unfold withTopStrings
  cases element.enclosing <;> rfl

/-- What encloses an element stays. -/
@[simp]
theorem enclosing_withTopStrings (element : Element) (more : List String) :
    (element.withTopStrings more).enclosing = element.enclosing := by
  unfold withTopStrings
  cases h : element.enclosing <;> simp [h]

/-- An element that nothing encloses gets the strings. -/
theorem withTopStrings_of_none (h : element.enclosing = none) (more : List String) :
    element.withTopStrings more =
      { element with suppressions := element.suppressions ++ more } := by
  rw [withTopStrings, h]

/-- An element inside another one stays as it is. -/
theorem withTopStrings_of_some {outer : ElementId} (h : element.enclosing = some outer)
    (more : List String) : element.withTopStrings more = element := by
  rw [withTopStrings, h]

end Element

namespace Arena

/-- The arena with further strings behind those of every element that nothing encloses. -/
def withTopStrings (arena : Arena) (more : List String) : Arena :=
  ⟨arena.elements.map (·.withTopStrings more)⟩

variable {arena : Arena}

/-- The size stays. -/
@[simp]
theorem size_withTopStrings (arena : Arena) (more : List String) :
    (arena.withTopStrings more).size = arena.size := by
  simp [withTopStrings, size]

/-- The element of a number is the one with the strings. -/
@[simp]
theorem get?_withTopStrings (arena : Arena) (more : List String) (id : ElementId) :
    (arena.withTopStrings more).get? id = (arena.get? id).map (·.withTopStrings more) := by
  simp [withTopStrings, get?]

/-- What encloses an element stays. -/
theorem enclosing_withTopStrings (arena : Arena) (more : List String) (id : ElementId) :
    (arena.withTopStrings more).enclosing id = arena.enclosing id := by
  rw [enclosing, enclosing, get?_withTopStrings]
  cases arena.get? id <;> simp

/-- An element inside another one carries what it carried. -/
theorem strings_withTopStrings_of_some {id outer : ElementId}
    (h : arena.enclosing id = some outer) (more : List String) :
    (arena.withTopStrings more).strings id = arena.strings id := by
  obtain ⟨element, helement, houter⟩ := exists_of_enclosing h
  rw [strings, strings, get?_withTopStrings, helement, Option.map_some,
    Element.withTopStrings_of_some houter]

/-- A known element that nothing encloses carries the strings behind its own. -/
theorem strings_withTopStrings_of_none {id : ElementId} (known : (arena.get? id).isSome = true)
    (h : arena.enclosing id = none) (more : List String) :
    (arena.withTopStrings more).strings id = arena.strings id ++ more := by
  obtain ⟨element, helement⟩ := Option.isSome_iff_exists.1 known
  have hnone : element.enclosing = none := by
    rw [enclosing, helement] at h
    exact h
  rw [strings, strings, get?_withTopStrings, helement, Option.map_some,
    Element.withTopStrings_of_none hnone]
  rfl

/-! ## The arena comes about -/

/-- The strings can be written when an element is added. -/
theorem push_withTopStrings (arena : Arena) (more : List String) (kind : ElementKind)
    (name : String) (enclosing : Option ElementId) (suppressions : List String) :
    ((arena.push kind name enclosing suppressions).2).withTopStrings more =
      ((arena.withTopStrings more).push kind name enclosing
        (if enclosing.isNone then suppressions ++ more else suppressions)).2 := by
  have hnext : (arena.withTopStrings more).nextId = arena.nextId := by
    rw [nextId, nextId, size_withTopStrings]
  rw [push, push, hnext, withTopStrings, Array.map_push, withTopStrings]
  cases enclosing <;> rfl

/-- A call that adds or refuses an element is possible with the strings as well. -/
theorem Adds.withTopStrings {next : Arena} (adds : Adds arena next) (more : List String) :
    Adds (arena.withTopStrings more) (next.withTopStrings more) := by
  cases adds with
  | unit name suppressions =>
    rw [addCompilationUnit, push_withTopStrings]
    exact Adds.unit (arena.withTopStrings more) name (suppressions ++ more)
  | child enclosing kind name suppressions =>
    have hsame : ((arena.addChild enclosing kind name suppressions).2).withTopStrings more =
        ((arena.withTopStrings more).addChild enclosing kind name suppressions).2 := by
      have hget : ((arena.withTopStrings more).get? enclosing).isSome =
          (arena.get? enclosing).isSome := by
        rw [get?_withTopStrings, Option.isSome_map]
      by_cases hknown : (arena.get? enclosing).isSome = true
      · rw [addChild_of_known hknown, addChild_of_known (hget.trans hknown), push_withTopStrings]
        rfl
      · rw [addChild_of_unknown hknown, addChild_of_unknown (hget ▸ hknown)]
    rw [hsame]
    exact Adds.child (arena.withTopStrings more) enclosing kind name suppressions

/-- The strings misplace no element. -/
theorem firstMisplaced_withTopStrings (position : Nat) (elements : List Element)
    (more : List String) :
    firstMisplaced position (elements.map (·.withTopStrings more)) =
      firstMisplaced position elements := by
  induction elements generalizing position with
  | nil => rfl
  | cons first rest ih =>
    rw [List.map_cons, firstMisplaced, firstMisplaced, Element.id_withTopStrings,
      Element.enclosing_withTopStrings, ih]

/-- A list that is let in is let in with the strings. -/
theorem ofElements_withTopStrings {elements : List Element} (h : ofElements elements = .ok arena)
    (more : List String) :
    ofElements (elements.map (·.withTopStrings more)) = .ok (arena.withTopStrings more) := by
  obtain ⟨hplaced, hlist⟩ := ofElements_eq_ok_iff.1 h
  rw [ofElements_eq_ok_iff, firstMisplaced_withTopStrings]
  refine ⟨hplaced, ?_⟩
  rw [withTopStrings, hlist, List.map_toArray]

/-- An arena that arises does so with the strings. -/
theorem Arises.withTopStrings (arises : arena.Arises) (more : List String) :
    (arena.withTopStrings more).Arises := by
  induction arises with
  | empty =>
    have hempty : Arena.empty.withTopStrings more = Arena.empty := by
      simp [Arena.withTopStrings, Arena.empty]
    rw [hempty]
    exact Arises.empty
  | adds _ adds ih => exact ih.adds (adds.withTopStrings more)
  | replaced _ admitted ih => exact ih.replaced (ofElements_withTopStrings admitted more)
  | read _ admitted ih =>
    obtain ⟨elements, helements⟩ := exists_ofElements_of_ofText admitted
    exact ih.replaced (ofElements_withTopStrings helements more)

end Arena

/-! ## The end of a chain -/

namespace Host

/-- A chain that does not loop ends at an element that nothing encloses, and all before it are
enclosed by another one. -/
theorem chain_eq_concat {host : Host} {start : ElementId}
    (h : host.ancestor start (host.chain start).elements.length = none) :
    ∃ inner root, (host.chain start).elements = inner ++ [root] ∧ host.enclosing root = none ∧
      ∀ id ∈ inner, ∃ outer, host.enclosing id = some outer := by
  have hlongest := host.longestPrefix_chain start
  have hstep : ∀ n id, (host.chain start).elements[n]? = some id →
      host.ancestor start (n + 1) = host.enclosing id := fun _ _ => ancestor_chain_succ
  rcases List.eq_nil_or_concat (host.chain start).elements with hnil | ⟨inner, root, hconcat⟩
  · have hhead := host.head?_chain start
    rw [hnil] at hhead
    exact absurd hhead (by simp)
  · rw [List.concat_eq_append] at hconcat
    rw [hconcat] at h hstep hlongest
    refine ⟨inner, root, hconcat, ?_, ?_⟩
    · rw [← hstep inner.length root (by simp), ← h, List.length_append, List.length_singleton]
    · intro id hid
      obtain ⟨i, hi⟩ := List.getElem?_of_mem hid
      have hlt := (List.getElem?_eq_some_iff.1 hi).1
      have hlonger : i + 1 < (inner ++ [root]).length := by
        rw [List.length_append, List.length_singleton]
        omega
      rw [← hstep i id (by rw [List.getElem?_append_left hlt, hi]),
        hlongest.ancestor_eq (i + 1) hlonger, List.getElem?_eq_getElem hlonger]
      exact ⟨_, rfl⟩

/-- If only the last element gets more strings, these are searched after everything else. -/
theorem nearest_concat_of_append {host fuller : Host} {accepts : String → Bool}
    {inner : List ElementId} {root : ElementId} {more : List String}
    (hinner : ∀ id ∈ inner, fuller.strings id = host.strings id)
    (hroot : fuller.strings root = host.strings root ++ more) :
    fuller.nearest accepts (inner ++ [root]) =
      (host.nearest accepts (inner ++ [root])).or
        ((more.find? accepts).map fun directive => (root, directive)) := by
  induction inner with
  | nil =>
    simp only [nearest, List.nil_append, List.findSome?_cons, List.findSome?_nil, hroot,
      List.find?_append]
    cases (host.strings root).find? accepts <;> cases more.find? accepts <;> rfl
  | cons id rest ih =>
    have hid : fuller.strings id = host.strings id := hinner id List.mem_cons_self
    rw [List.cons_append]
    cases h : (host.strings id).find? accepts with
    | some directive =>
      rw [nearest_cons_of_some h, nearest_cons_of_some (hid ▸ h)]
      rfl
    | none =>
      rw [nearest_cons_of_none h, nearest_cons_of_none (hid ▸ h)]
      exact ih fun other ho => hinner other (List.mem_cons_of_mem id ho)

end Host

/-! ## Verdicts -/

/-- The place with the global suppressions moved to an element. -/
def MatchScope.anchored (root : ElementId) : MatchScope → MatchScope
  | .element id => .element id
  | .global => .element root

/-- The same directive, with the global suppressions moved to an element. -/
def Match.anchored (root : ElementId) (found : Match) : Match :=
  ⟨found.scope.anchored root, found.directive⟩

namespace Engine

/-- The engine without global suppressions. -/
def withoutGlobals (engine : Engine) : Engine :=
  { engine with config := { engine.config with globalSuppressions := [] } }

variable {host fuller : Host} {element root : ElementId} {inner : List ElementId}

/-- The verdict over a stretch without a loop, with the strings on its last element, is the verdict
with the strings as global suppressions, moved there. -/
theorem verdict_concat_of_append (engine : Engine) (keys : KeySet)
    (hend : host.ancestor element (inner ++ [root]).length = none)
    (hend' : fuller.ancestor element (inner ++ [root]).length = none)
    (hinner : ∀ id ∈ inner, fuller.strings id = host.strings id)
    (hroot : fuller.strings root = host.strings root ++ engine.config.globalSuppressions) :
    engine.withoutGlobals.verdict fuller keys element (inner ++ [root]) =
      (engine.verdict host keys element (inner ++ [root])).map
        (Option.map (Match.anchored root)) := by
  have haccepts : engine.withoutGlobals.accepts keys = engine.accepts keys := rfl
  rw [verdict, verdict, haccepts, Host.nearest_concat_of_append hinner hroot, hend, hend']
  cases host.nearest (engine.accepts keys) (inner ++ [root]) with
  | some found => rfl
  | none =>
    cases engine.config.globalSuppressions.find? (engine.accepts keys) with
    | some directive => rfl
    | none => rfl

/-- Moving the global suppressions to the last element of a chain moves the global matches there. -/
theorem findMatch_of_append (engine : Engine)
    (henclosing : ∀ id, fuller.enclosing id = host.enclosing id)
    (hchain : (host.chain element).elements = inner ++ [root])
    (hend : host.ancestor element (host.chain element).elements.length = none)
    (hinner : ∀ id ∈ inner, fuller.strings id = host.strings id)
    (hroot : fuller.strings root = host.strings root ++ engine.config.globalSuppressions)
    (checker : CheckerId) :
    engine.withoutGlobals.findMatch fuller checker element =
      (engine.findMatch host checker element).map (Option.map (Match.anchored root)) := by
  have hsame : fuller.chain element = host.chain element :=
    Host.chain_congr fun id _ => henclosing id
  have hend' := fuller.chain_revisited element
  rw [hsame, host.chain_revisited, hend, eq_comm] at hend'
  have hregistry : engine.withoutGlobals.registry.effectiveKeys checker =
      engine.registry.effectiveKeys checker := rfl
  cases hkeys : engine.registry.effectiveKeys checker with
  | error cause =>
    rw [findMatch_of_effectiveKeys_error hkeys,
      findMatch_of_effectiveKeys_error (hregistry.trans hkeys)]
    rfl
  | ok keys =>
    rw [findMatch_of_effectiveKeys hkeys, findMatch_of_effectiveKeys (hregistry.trans hkeys),
      hsame]
    rw [hchain] at hend hend' ⊢
    exact engine.verdict_concat_of_append keys hend hend' hinner hroot

/-- **Global suppressions act as if written on every top-level element.** Let an arena get the
global suppressions of an engine behind the strings of every element that nothing encloses, and let
the engine lose them. The arena could have come about so; and from every known element and for every
checker, registered or not, the verdicts are the same and so are the matches, but that a global
match then stands at the end of the chain. -/
theorem findMatch_withTopStrings (engine : Engine) (arena : Arena) (arises : arena.Arises)
    (checker : CheckerId) (id : ElementId) (known : (arena.get? id).isSome = true) :
    (arena.withTopStrings engine.config.globalSuppressions).Arises ∧
    ∃ root, (arena.host.chain id).elements.getLast? = some root ∧ arena.enclosing root = none ∧
      engine.withoutGlobals.findMatch
          (arena.withTopStrings engine.config.globalSuppressions).host checker id =
        (engine.findMatch arena.host checker id).map (Option.map (Match.anchored root)) ∧
      (engine.withoutGlobals.isSuppressed
          (arena.withTopStrings engine.config.globalSuppressions).host checker id).outcome =
        (engine.isSuppressed arena.host checker id).outcome := by
  refine ⟨arises.withTopStrings _, ?_⟩
  have hend := arises.ordered.ancestor_length_chain id
  obtain ⟨inner, root, hchain, hroot, hinner⟩ := Host.chain_eq_concat hend
  have hknown : (arena.get? root).isSome = true := by
    refine (arises.ordered.chain_of_known known).1 root ?_
    rw [hchain]
    exact List.mem_append_right inner List.mem_cons_self
  have hinner' : ∀ other ∈ inner,
      (arena.withTopStrings engine.config.globalSuppressions).host.strings other =
        arena.host.strings other := by
    intro other hother
    obtain ⟨outer, houter⟩ := hinner other hother
    exact Arena.strings_withTopStrings_of_some houter _
  have hroot' := Arena.strings_withTopStrings_of_none hknown hroot
    engine.config.globalSuppressions
  have hfind := engine.findMatch_of_append
    (arena.enclosing_withTopStrings engine.config.globalSuppressions) hchain hend hinner' hroot'
    checker
  refine ⟨root, by rw [hchain, List.getLast?_concat], hroot, hfind, ?_⟩
  rw [isSuppressed_outcome, isSuppressed_outcome, hfind]
  cases engine.findMatch arena.host checker id with
  | error cause => rfl
  | ok found => cases found <;> rfl

/-- A method without a directive of its own for a checker that a global suppression silences: with
the suppressions on the file, the match stands there. -/
theorem methodInClass_withTopStrings : ∃ engine : Engine,
    Arena.methodInClass.Arises ∧ (Arena.methodInClass.get? 2).isSome = true ∧
      engine.config.globalSuppressions = ["n", "q:g"] ∧
      engine.findMatch Arena.methodInClass.host "y" 2 = .ok (some ⟨.global, "q:g"⟩) ∧
      engine.withoutGlobals.findMatch (Arena.methodInClass.withTopStrings ["n", "q:g"]).host "y" 2 =
        .ok (some ⟨.element 0, "q:g"⟩) := by
  have hbuilds : (Registry.ofCheckers [{ id := "y", keys := ["g"] }]).outcome.toOption.any
      (fun registry => decide (findMatch ⟨registry, { globalSuppressions := ["n", "q:g"] }⟩
        Arena.methodInClass.host "y" 2 = .ok (some ⟨.global, "q:g"⟩))) = true := by rfl
  obtain ⟨registry, -, -, htest⟩ := Registry.exists_built_of_any hbuilds
  have hfound := of_decide_eq_true htest
  have harises : Arena.methodInClass.Arises :=
    Arena.Arises.empty.replaced
      (by rfl : Arena.ofElements Arena.methodInClass.toElements = .ok Arena.methodInClass)
  have hknown : (Arena.methodInClass.get? 2).isSome = true := by rfl
  obtain ⟨-, root, hlast, -, hmoved, -⟩ := findMatch_withTopStrings
    ⟨registry, { globalSuppressions := ["n", "q:g"] }⟩ Arena.methodInClass harises "y" 2 hknown
  have hroot : (Arena.methodInClass.host.chain 2).elements.getLast? = some 0 := by rfl
  rw [hfound] at hmoved
  obtain rfl : 0 = root := Option.some.inj (hroot.symm.trans hlast)
  exact ⟨⟨registry, { globalSuppressions := ["n", "q:g"] }⟩, harises, hknown, rfl, hfound, hmoved⟩

end Engine

end Suppression
