import Suppression.Proofs.ArenaChain
/-!
# Verdicts in a growing arena

A verdict depends on nothing but what encloses the elements of one scope chain and what strings they
carry (`Engine.findMatch_congr`). In an arena all elements of the chain are there before anything
that is added later, and no call changes an element that is there (`Arena.get?_performAll`). So the
verdicts on known elements outlast all further calls, those that succeed and those that are refused
(`Engine.findMatch_frame`).
-/

namespace Suppression

/-! ## Hosts that agree along a chain -/

/-- Another host gives every element of a scope chain the same enclosing element and the same
strings. -/
def Host.AgreesAlong (host : Host) (start : ElementId) (other : Host) : Prop :=
  ∀ id ∈ (host.chain start).elements,
    other.enclosing id = host.enclosing id ∧ other.strings id = host.strings id

/-- Hosts with the same strings on some elements have the same nearest match among these. -/
theorem Host.nearest_congr {host other : Host} {accepts : String → Bool} {elements : List ElementId}
    (agree : ∀ id ∈ elements, other.strings id = host.strings id) :
    other.nearest accepts elements = host.nearest accepts elements := by
  induction elements with
  | nil => rfl
  | cons id rest ih =>
    have hid : other.strings id = host.strings id := agree id List.mem_cons_self
    have hrest : other.nearest accepts rest = host.nearest accepts rest := by
      apply ih
      intro inner hinner
      exact agree inner (List.mem_cons_of_mem id hinner)
    unfold nearest at hrest ⊢
    rw [List.findSome?_cons, List.findSome?_cons, hid, hrest]

/-- A host that agrees along a chain has the same chain, loop included. -/
theorem Host.AgreesAlong.chain_eq {host other : Host} {start : ElementId}
    (agree : host.AgreesAlong start other) : other.chain start = host.chain start := by
  apply chain_congr
  intro id hid
  exact (agree id hid).1

/-- **A match depends only on the scope chain of its element**: on what encloses the elements of the
chain and on the strings that they carry. -/
theorem Engine.findMatch_congr {host other : Host} {start : ElementId}
    (agree : host.AgreesAlong start other) (engine : Engine) (checker : CheckerId) :
    engine.findMatch other checker start = engine.findMatch host checker start := by
  cases hkeys : engine.registry.effectiveKeys checker with
  | error cause =>
    rw [findMatch_of_effectiveKeys_error hkeys, findMatch_of_effectiveKeys_error hkeys]
  | ok keys =>
    have hchain : other.chain start = host.chain start := agree.chain_eq
    have hancestor : other.ancestor start (host.chain start).elements.length =
        host.ancestor start (host.chain start).elements.length := by
      rw [← host.chain_revisited, ← hchain, other.chain_revisited]
    have hnearest : other.nearest (engine.accepts keys) (host.chain start).elements =
        host.nearest (engine.accepts keys) (host.chain start).elements := by
      apply Host.nearest_congr
      intro id hid
      exact (agree id hid).2
    rw [findMatch_of_effectiveKeys hkeys, findMatch_of_effectiveKeys hkeys, hchain]
    unfold verdict
    rw [hnearest, hancestor]

namespace Arena

/-! ## Calls -/

/-- A call that is to add an element. -/
inductive Call where
  /-- An element that nothing encloses. -/
  | unit (name : String) (suppressions : List String)
  /-- An element inside another one. -/
  | child (enclosing : ElementId) (kind : ElementKind) (name : String) (suppressions : List String)

/-- The element that a call is to add, under its number. -/
def Call.element (id : ElementId) : Call → Element
  | .unit name suppressions => { id, kind := .compilationUnit, name, suppressions }
  | .child enclosing kind name suppressions =>
    { id, kind, name, enclosing := some enclosing, suppressions }

/-- What a call gives: the number of the new element or why it is refused, and the arena that there
is afterwards. -/
def answer (arena : Arena) : Call → Except Misplacement ElementId × Arena
  | .unit name suppressions =>
    let (id, next) := arena.addCompilationUnit name suppressions
    (.ok id, next)
  | .child enclosing kind name suppressions => arena.addChild enclosing kind name suppressions

/-- The arena after a call. -/
def perform (arena : Arena) (call : Call) : Arena := (arena.answer call).2

/-- The arena after some calls. -/
def performAll (arena : Arena) (calls : List Call) : Arena := calls.foldl perform arena

variable {arena next : Arena} {call : Call}

/-- **What a call can do.** Either it succeeds, gives the next number, and puts its element under
that number behind the others; or it is refused, and leaves the arena as it is. -/
theorem answer_cases (arena : Arena) (call : Call) :
    arena.answer call =
        (.ok arena.nextId, ⟨arena.elements.push (call.element arena.nextId)⟩) ∨
      ∃ cause, arena.answer call = (.error cause, arena) := by
  cases call with
  | unit name suppressions => exact Or.inl rfl
  | child enclosing kind name suppressions =>
    by_cases hknown : (arena.get? enclosing).isSome = true
    · exact Or.inl (addChild_of_known hknown kind name suppressions)
    · exact Or.inr ⟨_, addChild_of_unknown hknown kind name suppressions⟩

/-- A call that succeeds has given the next number and put its element behind the others. -/
theorem eq_push_of_answer {id : ElementId} (h : arena.answer call = (.ok id, next)) :
    id = arena.nextId ∧ next = ⟨arena.elements.push (call.element id)⟩ := by
  rcases arena.answer_cases call with hadded | ⟨cause, hrefused⟩
  · obtain ⟨hid, hnext⟩ := Prod.mk.inj (h.symm.trans hadded)
    obtain rfl := Except.ok.inj hid
    exact ⟨rfl, hnext⟩
  · exact absurd (h.symm.trans hrefused) (by simp)

/-- A refused call leaves the arena as it is. -/
theorem perform_of_refused {cause : Misplacement} (h : (arena.answer call).1 = .error cause) :
    arena.perform call = arena := by
  unfold perform
  rcases arena.answer_cases call with hadded | ⟨other, hrefused⟩
  · rw [hadded] at h
    exact absurd h (by simp)
  · rw [hrefused]

/-- No call changes an element of the arena. -/
theorem get?_perform {id : ElementId} (known : (arena.get? id).isSome = true) (call : Call) :
    (arena.perform call).get? id = arena.get? id := by
  unfold perform
  rcases arena.answer_cases call with hadded | ⟨cause, hrefused⟩
  · obtain ⟨element, helement⟩ := Option.isSome_iff_exists.1 known
    have hplace : id.toNat < arena.elements.size := (Array.getElem?_eq_some_iff.1 helement).1
    rw [hadded]
    unfold get?
    rw [Array.getElem?_push, if_neg (Nat.ne_of_lt hplace)]
  · rw [hrefused]

/-- **No sequence of calls changes an element of the arena.** -/
theorem get?_performAll {id : ElementId} (known : (arena.get? id).isSome = true)
    (calls : List Call) : (arena.performAll calls).get? id = arena.get? id := by
  unfold performAll
  induction calls generalizing arena with
  | nil => rfl
  | cons call rest ih =>
    have hfirst : (arena.perform call).get? id = arena.get? id := get?_perform known call
    rw [List.foldl_cons, ih (by rw [hfirst]; exact known), hfirst]

/-- A known element is enclosed after the calls by what enclosed it before. -/
theorem enclosing_performAll {id : ElementId} (known : (arena.get? id).isSome = true)
    (calls : List Call) : (arena.performAll calls).enclosing id = arena.enclosing id := by
  unfold enclosing
  rw [get?_performAll known]

/-- A known element carries after the calls what it carried before. -/
theorem strings_performAll {id : ElementId} (known : (arena.get? id).isSome = true)
    (calls : List Call) : (arena.performAll calls).strings id = arena.strings id := by
  unfold strings
  rw [get?_performAll known]

/-- An arena in order is, along the chain of a known element, the same after the calls: the chain
never leaves the elements that were there before. -/
theorem Ordered.agreesAlong_performAll (ordered : arena.Ordered) {id : ElementId}
    (known : (arena.get? id).isSome = true) (calls : List Call) :
    arena.host.AgreesAlong id (arena.performAll calls).host := by
  intro other hother
  have hknown : (arena.get? other).isSome = true := (ordered.chain_of_known known).1 other hother
  exact ⟨enclosing_performAll hknown calls, strings_performAll hknown calls⟩

end Arena

/-! ## Verdicts -/

/-- **A verdict depends only on the scope chain of its element, and growing an arena changes none.**
A host that agrees along the chain of an element, be it finite or a loop, has the same chain from
there and gives every checker of every engine the same match. So whatever calls are made on an
arena, and whichever of them are refused, an element that was there is what it was, is enclosed by
what enclosed it, carries what it carried, and has its chain and its matches unchanged; and a
refused call leaves the whole arena as it was. -/
theorem Engine.findMatch_frame :
    (∀ (host other : Host) (start : ElementId),
      (∀ id ∈ (host.chain start).elements,
        other.enclosing id = host.enclosing id ∧ other.strings id = host.strings id) →
      (other.chain start).elements = (host.chain start).elements ∧
      (other.chain start).revisited = (host.chain start).revisited ∧
      ∀ (engine : Engine) checker,
        engine.findMatch other checker start = engine.findMatch host checker start) ∧
    (∀ arena : Arena, arena.Arises → ∀ (calls : List Arena.Call) (id : ElementId),
      (arena.get? id).isSome = true →
      (arena.performAll calls).get? id = arena.get? id ∧
      (arena.performAll calls).enclosing id = arena.enclosing id ∧
      (arena.performAll calls).strings id = arena.strings id ∧
      (arena.performAll calls).host.chain id = arena.host.chain id ∧
      ∀ (engine : Engine) checker,
        engine.findMatch (arena.performAll calls).host checker id =
          engine.findMatch arena.host checker id) ∧
    ∀ (arena : Arena) (enclosing : ElementId) (kind : ElementKind) (name : String)
      (suppressions : List String) (cause : Misplacement),
      (arena.addChild enclosing kind name suppressions).1 = .error cause →
      (arena.addChild enclosing kind name suppressions).2 = arena := by
  refine ⟨?_, ?_, ?_⟩
  · intro host other start agree
    have hchain : other.chain start = host.chain start := Host.AgreesAlong.chain_eq agree
    rw [hchain]
    exact ⟨rfl, rfl, findMatch_congr agree⟩
  · intro arena arises calls id known
    have agree := arises.ordered.agreesAlong_performAll known calls
    exact ⟨Arena.get?_performAll known calls, Arena.enclosing_performAll known calls,
      Arena.strings_performAll known calls, agree.chain_eq, findMatch_congr agree⟩
  · intro arena enclosing kind name suppressions cause h
    have hanswer : (arena.answer (.child enclosing kind name suppressions)).1 = .error cause := h
    exact Arena.perform_of_refused hanswer

/-- The loop of `tailLoop` among elements that all carry the wildcard. -/
def Engine.loudLoop : Host where
  enclosing id := if id ≤ 2 then tailLoop.enclosing id else some 0
  strings id := if id ≤ 2 then tailLoop.strings id else [wildcard]

/-- Further elements of a file: one inside the method of `methodInClass`, one inside an element that
is not there, and a file. All of them carry the wildcard. -/
def Arena.loudCalls : List Arena.Call :=
  [.child 2 .localVariable "v" [wildcard], .child 9 .field "g" [wildcard], .unit "h" [wildcard]]

/-- Wildcards off a loop do not reach into it, and wildcards that are added to an arena do not reach
the elements that were there; the one that is refused is not there afterwards. -/
theorem Engine.loudCalls_findMatch : ∃ engine : Engine,
    (∀ id ∈ (tailLoop.chain 0).elements,
      loudLoop.enclosing id = tailLoop.enclosing id ∧ loudLoop.strings id = tailLoop.strings id) ∧
    engine.findMatch tailLoop "ghost" 0 = .error (.unknownChecker "ghost") ∧
    engine.findMatch tailLoop "y" 0 = .error (.cyclicScope 0 1) ∧
    engine.findMatch loudLoop "y" 0 = .error (.cyclicScope 0 1) ∧
    Arena.methodInClass.Arises ∧ (Arena.methodInClass.get? 2).isSome = true ∧
    engine.findMatch Arena.methodInClass.host "y" 2 = .ok none ∧
    engine.findMatch (Arena.methodInClass.performAll Arena.loudCalls).host "y" 2 = .ok none ∧
    (Arena.methodInClass.addChild 9 .field "g" [wildcard]).1 = .error (.unknownEnclosing 3 9) ∧
    (Arena.methodInClass.addChild 9 .field "g" [wildcard]).2 = Arena.methodInClass := by
  have hbuilds : (Registry.ofCheckers [{ id := "y", keys := ["g"] }]).outcome.toOption.any
      (fun registry =>
        decide (findMatch ⟨registry, {}⟩ tailLoop "ghost" 0 = .error (.unknownChecker "ghost")) &&
        decide (findMatch ⟨registry, {}⟩ tailLoop "y" 0 = .error (.cyclicScope 0 1)) &&
        decide (findMatch ⟨registry, {}⟩ Arena.methodInClass.host "y" 2 = .ok none)) = true := by
    decide +kernel
  obtain ⟨registry, -, -, htest⟩ := Registry.exists_built_of_any hbuilds
  simp only [Bool.and_eq_true, decide_eq_true_eq] at htest
  obtain ⟨⟨hghost, hloop⟩, hmethod⟩ := htest
  have hagree : ∀ id ∈ (tailLoop.chain 0).elements,
      loudLoop.enclosing id = tailLoop.enclosing id ∧
        loudLoop.strings id = tailLoop.strings id := by
    have helements : (tailLoop.chain 0).elements = [0, 1, 2] := by decide +kernel
    rw [helements]
    intro id hid
    simp only [List.mem_cons, List.not_mem_nil, or_false] at hid
    rcases hid with rfl | rfl | rfl <;> exact ⟨rfl, rfl⟩
  have harises : Arena.methodInClass.Arises :=
    Arena.Arises.empty.replaced
      (by rfl : Arena.ofElements Arena.methodInClass.toElements = .ok Arena.methodInClass)
  have hknown : (Arena.methodInClass.get? 2).isSome = true := by rfl
  have hrefused : (Arena.methodInClass.addChild 9 .field "g" [wildcard]).1 =
      .error (.unknownEnclosing 3 9) := by rfl
  obtain ⟨hhosts, harenas, hrefusals⟩ := findMatch_frame
  obtain ⟨-, -, hsame⟩ := hhosts tailLoop loudLoop 0 hagree
  obtain ⟨-, -, -, -, hkept⟩ := harenas Arena.methodInClass harises Arena.loudCalls 2 hknown
  exact ⟨⟨registry, {}⟩, hagree, hghost, hloop, (hsame _ _).trans hloop, harises, hknown, hmethod,
    (hkept _ _).trans hmethod, hrefused, hrefusals _ _ _ _ _ _ hrefused⟩

end Suppression
