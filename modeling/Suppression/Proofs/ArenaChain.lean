import Suppression.Proofs.ArenaOrder
import Suppression.Proofs.BatchFailure
import Suppression.Proofs.Matching
/-!
# Scope chains of an arena

In an arena that is in order every step outward leads to a smaller number, so a scope chain comes to
an end at an element that nothing encloses, and no question about such an arena is ever answered by
the report of a loop (`chain_of_arises`).
-/

namespace Suppression.Arena

variable {arena : Arena}

/-! ## Steps outward -/

/-- Only an element of the arena has an element around it. -/
theorem exists_of_enclosing {id outer : ElementId} (h : arena.enclosing id = some outer) :
    ∃ element, arena.get? id = some element ∧ element.enclosing = some outer :=
  Option.bind_eq_some_iff.1 h

/-- The element around another has a smaller number. -/
theorem Ordered.enclosing_lt (ordered : arena.Ordered) {id outer : ElementId}
    (h : arena.enclosing id = some outer) : outer < id := by
  obtain ⟨element, helement, houter⟩ := exists_of_enclosing h
  rw [UInt32.lt_iff_toNat_lt]
  exact ordered id.toNat element outer helement houter

/-- The element around another is in the arena. -/
theorem Ordered.isSome_get?_of_enclosing (ordered : arena.Ordered) {id outer : ElementId}
    (h : arena.enclosing id = some outer) : (arena.get? outer).isSome = true := by
  obtain ⟨element, helement, houter⟩ := exists_of_enclosing h
  have hlt := ordered id.toNat element outer helement houter
  have hsize := (Array.getElem?_eq_some_iff.1 helement).1
  rw [get?, Array.getElem?_eq_getElem (by omega)]
  rfl

/-- Further out the numbers are smaller. -/
theorem Ordered.ancestor_lt (ordered : arena.Ordered) {id : ElementId} {m n : Nat} (hmn : m < n)
    {inner outer : ElementId} (hinner : arena.host.ancestor id m = some inner)
    (houter : arena.host.ancestor id n = some outer) : outer < inner := by
  induction n generalizing outer with
  | zero => omega
  | succ n ih =>
    obtain ⟨middle, hmiddle, henclosing⟩ := Option.bind_eq_some_iff.1 houter
    have hlt : outer < middle := ordered.enclosing_lt henclosing
    by_cases hm : m = n
    · rw [← hm, hinner] at hmiddle
      rw [Option.some.inj hmiddle]
      exact hlt
    · exact UInt32.lt_trans hlt (ih (by omega) hmiddle)

/-- From an element of the arena, all steps outward stay in the arena. -/
theorem Ordered.isSome_get?_of_ancestor (ordered : arena.Ordered) {id : ElementId}
    (known : (arena.get? id).isSome = true) {n : Nat} {outer : ElementId}
    (h : arena.host.ancestor id n = some outer) : (arena.get? outer).isSome = true := by
  cases n with
  | zero =>
    rw [← Option.some.inj h]
    exact known
  | succ n =>
    obtain ⟨middle, -, henclosing⟩ := Option.bind_eq_some_iff.1 h
    exact ordered.isSome_get?_of_enclosing henclosing

/-! ## The end of a chain -/

/-- No ancestor follows a scope chain of an arena. -/
theorem Ordered.ancestor_length_chain (ordered : arena.Ordered) (id : ElementId) :
    arena.host.ancestor id (arena.host.chain id).elements.length = none := by
  cases h : arena.host.ancestor id (arena.host.chain id).elements.length with
  | none => rfl
  | some next =>
    have hlongest := arena.host.longestPrefix_chain id
    -- an ancestor that comes again would be further out than itself
    obtain ⟨i, hnext⟩ := List.getElem?_of_mem (hlongest.stuck h)
    have hi := (List.getElem?_eq_some_iff.1 hnext).1
    rw [← hlongest.ancestor_eq i hi] at hnext
    exact absurd (ordered.ancestor_lt hi hnext h) (UInt32.lt_irrefl next)

/-- A scope chain of an arena runs towards smaller numbers. -/
theorem Ordered.pairwise_chain (ordered : arena.Ordered) (id : ElementId) :
    (arena.host.chain id).elements.Pairwise (· > ·) := by
  have hlongest := arena.host.longestPrefix_chain id
  rw [List.pairwise_iff_getElem]
  intro i j hi hj hij
  have hinner := hlongest.ancestor_eq i hi
  have houter := hlongest.ancestor_eq j hj
  rw [List.getElem?_eq_getElem hi] at hinner
  rw [List.getElem?_eq_getElem hj] at houter
  exact ordered.ancestor_lt hij hinner houter

/-- The scope chain of an unknown element is that element alone. -/
theorem chain_of_unknown {id : ElementId} (unknown : arena.get? id = none) :
    (arena.host.chain id).elements = [id] := by
  have hnone : arena.host.enclosing id = none := by
    show arena.enclosing id = none
    rw [enclosing, unknown]
    rfl
  rw [Host.chain_of_enclosing_none hnone]

/-- The scope chain of a known element holds known elements, and nothing encloses the last one. -/
theorem Ordered.chain_of_known (ordered : arena.Ordered) {id : ElementId}
    (known : (arena.get? id).isSome = true) :
    (∀ other ∈ (arena.host.chain id).elements, (arena.get? other).isSome = true) ∧
      ∃ root element, (arena.host.chain id).elements.getLast? = some root ∧
        arena.get? root = some element ∧ element.enclosing = none := by
  have hlongest := arena.host.longestPrefix_chain id
  have hknown : ∀ other ∈ (arena.host.chain id).elements, (arena.get? other).isSome = true := by
    intro other hother
    obtain ⟨i, hi⟩ := List.getElem?_of_mem hother
    rw [← hlongest.ancestor_eq i (List.getElem?_eq_some_iff.1 hi).1] at hi
    exact ordered.isSome_get?_of_ancestor known hi
  refine ⟨hknown, ?_⟩
  have hend := ordered.ancestor_length_chain id
  rw [List.getLast?_eq_getElem?]
  cases hlength : (arena.host.chain id).elements.length with
  | zero =>
    -- the chain has at least the element itself
    rw [hlength] at hend
    exact absurd hend (by simp [Host.ancestor])
  | succ n =>
    have hn : n < (arena.host.chain id).elements.length := by omega
    have hroot := hlongest.ancestor_eq n hn
    rw [List.getElem?_eq_getElem hn] at hroot
    obtain ⟨element, helement⟩ := Option.isSome_iff_exists.1
      (hknown _ (List.getElem_mem hn))
    refine ⟨_, element, by rw [Nat.add_sub_cancel, List.getElem?_eq_getElem hn], helement, ?_⟩
    rw [hlength, Host.ancestor, hroot, Option.bind_some] at hend
    rw [← hend]
    show element.enclosing = (arena.get? _).bind (·.enclosing)
    rw [helement]
    rfl

/-! ## Arenas that arise -/

/-- **The scope chains of an arena.** In every arena that arises, and from every number, known or
not, the walk yields finitely many elements and then nothing, never having met one twice; their
numbers fall; an unknown element is alone, and from a known one all are known, up to one that
nothing encloses. So no engine ever reports a loop over such an arena, for one question or for a
batch. -/
theorem chain_of_arises (arena : Arena) (arises : arena.Arises) :
    (∀ id, ∃ elements, arena.host.chain id = ⟨elements, none⟩ ∧
      (∀ n, ((Walk.start id).steps arena.host n).map (fun step => (step.1, step.2.revisited)) =
        (List.range n).map fun i => (elements[i]?, none)) ∧
      elements.Pairwise (· > ·) ∧
      (arena.get? id = none → elements = [id]) ∧
      ((arena.get? id).isSome = true →
        (∀ other ∈ elements, (arena.get? other).isSome = true) ∧
          ∃ root element, elements.getLast? = some root ∧ arena.get? root = some element ∧
            element.enclosing = none)) ∧
    ∀ (engine : Engine) (element revisited : ElementId),
      (∀ checker id,
        engine.findMatch arena.host checker id ≠ .error (.cyclicScope element revisited)) ∧
      (∀ checker id, (engine.isSuppressed arena.host checker id).outcome ≠
        .error (.cyclicScope element revisited)) ∧
      (∀ diagnostic, (engine.judge arena.host diagnostic).outcome ≠
        .error (.cyclicScope element revisited)) ∧
      ∀ schedule batch, (engine.survivors arena.host schedule batch).outcome ≠
        .error (.cyclicScope element revisited) := by
  have hordered := arises.ordered
  refine ⟨?_, ?_⟩
  · intro id
    have hrevisited : (arena.host.chain id).revisited = none :=
      (arena.host.chain_revisited id).trans (hordered.ancestor_length_chain id)
    refine ⟨(arena.host.chain id).elements, by rw [← hrevisited], ?_, hordered.pairwise_chain id,
      chain_of_unknown, hordered.chain_of_known⟩
    intro n
    rw [arena.host.steps_start, hrevisited]
    simp
  · intro engine element revisited
    have hsuppressed : ∀ checker id, (engine.isSuppressed arena.host checker id).outcome ≠
        .error (.cyclicScope element revisited) := by
      intro checker id
      exact Engine.isSuppressed_ne_cyclicScope (hordered.ancestor_length_chain id) checker _ _
    refine ⟨?_, hsuppressed, fun diagnostic => hsuppressed _ _, ?_⟩
    · intro checker id
      exact Engine.findMatch_ne_cyclicScope (hordered.ancestor_length_chain id) checker _ _
    · intro schedule batch h
      obtain ⟨diagnostic, -, hfails⟩ := Engine.exists_of_survivors_eq_error h
      exact hsuppressed _ _ hfails

/-- A method in a class in a file. -/
def methodInClass : Arena :=
  ⟨#[{ id := 0, kind := .compilationUnit, name := "f" },
    { id := 1, kind := .type, name := "C", enclosing := some 0 },
    { id := 2, kind := .method, name := "m", enclosing := some 1, suppressions := ["x"] }]⟩

/-- The arena comes about by adding the file, the class and the method, and the chain of the method
ends in the file. -/
theorem methodInClass_chain : methodInClass.Arises ∧ (methodInClass.get? 2).isSome = true ∧
    methodInClass.get? 7 = none ∧
    (∃ elements root element, methodInClass.host.chain 2 = ⟨elements, none⟩ ∧
      elements.Pairwise (· > ·) ∧ elements.getLast? = some root ∧
      methodInClass.get? root = some element ∧ element.enclosing = none) ∧
    methodInClass.host.chain 7 = ⟨[7], none⟩ := by
  have hfile : (Arena.empty.addCompilationUnit "f" []).2.Arises :=
    Arises.empty.adds (Adds.unit Arena.empty "f" [])
  have hclass : Arises ⟨methodInClass.elements.take 2⟩ :=
    hfile.adds (Adds.child (Arena.empty.addCompilationUnit "f" []).2 0 .type "C" [])
  have harises : methodInClass.Arises :=
    hclass.adds (Adds.child ⟨methodInClass.elements.take 2⟩ 1 .method "m" ["x"])
  have hknown : (methodInClass.get? 2).isSome = true := by rfl
  have hunknown : methodInClass.get? 7 = none := by rfl
  obtain ⟨hchain, -⟩ := chain_of_arises methodInClass harises
  obtain ⟨elements, helements, -, hfalling, -, hends⟩ := hchain 2
  obtain ⟨-, root, element, hroot⟩ := hends hknown
  obtain ⟨others, hothers, -, -, halone, -⟩ := hchain 7
  rw [halone hunknown] at hothers
  exact ⟨harises, hknown, hunknown, ⟨elements, root, element, helements, hfalling, hroot⟩, hothers⟩

end Suppression.Arena
