import Mathlib.Data.List.Nodup
import Mathlib.Data.List.Perm.Subperm
import Suppression.Scope
/-!
# Scope chains

The scope chain of an element is the longest stretch of the element and its ancestors in which none
comes twice (`Host.longestPrefix_chain`), and it loops exactly if one more ancestor follows, which
is then the one at which it loops (`Host.chain_revisited`). There are finitely many elements, so the
walk always gets to the end of this stretch before its step limit, and the steps it takes are just
the elements of the chain and then nothing, for ever (`Host.steps_start`). What encloses other
elements does not matter to a chain (`Host.chain_congr`).
-/

namespace Suppression

namespace Host

/-! ## Stretches without repetition -/

/-- The elements are the first ancestors of `start`, itself included, and none comes twice. -/
structure FreePrefix (host : Host) (start : ElementId) (elements : List ElementId) : Prop where
  /-- The elements are the ancestors in order. -/
  ancestor_eq : ∀ n, n < elements.length → host.ancestor start n = elements[n]?
  /-- None comes twice. -/
  nodup : elements.Nodup

/-- The elements are the longest stretch of ancestors in which none comes twice. -/
structure LongestPrefix (host : Host) (start : ElementId) (elements : List ElementId) : Prop
    extends FreePrefix host start elements where
  /-- No such stretch is longer. -/
  longest : ∀ other, host.FreePrefix start other → other.length ≤ elements.length

variable {host : Host} {start : ElementId}

/-- Nothing at all is a stretch. -/
theorem freePrefix_nil (host : Host) (start : ElementId) : host.FreePrefix start [] :=
  ⟨by simp, List.nodup_nil⟩

/-- A stretch can be continued by the next ancestor if that is new. -/
theorem FreePrefix.concat {elements : List ElementId} (h : host.FreePrefix start elements)
    {next : ElementId} (hnext : host.ancestor start elements.length = some next)
    (new : next ∉ elements) : host.FreePrefix start (elements ++ [next]) := by
  refine ⟨?_, ?_⟩
  · intro n hn
    rw [List.length_append, List.length_singleton] at hn
    by_cases hlast : n = elements.length
    · rw [hlast, hnext, List.getElem?_append_right (by omega), Nat.sub_self]
      rfl
    · rw [List.getElem?_append_left (by omega)]
      exact h.ancestor_eq n (by omega)
  · rw [← List.concat_eq_append]
    exact List.Nodup.concat new h.nodup

/-- There are no more elements in a stretch than there are element numbers. -/
theorem FreePrefix.length_le {elements : List ElementId} (h : host.FreePrefix start elements) :
    elements.length ≤ UInt32.size := by
  have hnodup : (elements.map UInt32.toNat).Nodup :=
    h.nodup.map fun a b hab => UInt32.toNat_inj.1 hab
  have hmem : elements.map UInt32.toNat ⊆ List.range UInt32.size := by
    intro n hn
    obtain ⟨id, -, rfl⟩ := List.mem_map.1 hn
    exact List.mem_range.2 id.toNat_lt
  have hle := (hnodup.subperm hmem).length_le
  rw [List.length_map, List.length_range] at hle
  exact hle

/-- A stretch that cannot be continued is the longest. -/
theorem FreePrefix.longestPrefix {elements : List ElementId} (h : host.FreePrefix start elements)
    (stuck : ∀ next, host.ancestor start elements.length = some next → next ∈ elements) :
    host.LongestPrefix start elements := by
  refine ⟨h, ?_⟩
  intro other hother
  by_cases hle : other.length ≤ elements.length
  · exact hle
  · exfalso
    have hlt : elements.length < other.length := by omega
    have hnext := hother.ancestor_eq elements.length hlt
    rw [List.getElem?_eq_getElem hlt] at hnext
    obtain ⟨i, hi, heq⟩ := List.getElem_of_mem (stuck _ hnext)
    have hfirst := h.ancestor_eq i hi
    rw [hother.ancestor_eq i (by omega), List.getElem?_eq_getElem hi,
      List.getElem?_eq_getElem (by omega), heq, Option.some.injEq] at hfirst
    -- the element that comes again stands in the other stretch at two places
    have := (hother.nodup.getElem_inj_iff).1 hfirst
    omega

/-- The ancestor after the longest stretch, if there is one, is in the stretch. -/
theorem LongestPrefix.stuck {elements : List ElementId} (h : host.LongestPrefix start elements)
    {next : ElementId} (hnext : host.ancestor start elements.length = some next) :
    next ∈ elements := by
  by_cases hmem : next ∈ elements
  · exact hmem
  · have hlonger := h.longest _ (h.toFreePrefix.concat hnext hmem)
    rw [List.length_append, List.length_singleton] at hlonger
    omega

/-- There is only one longest stretch. -/
theorem LongestPrefix.unique {elements others : List ElementId}
    (h : host.LongestPrefix start elements) (h' : host.LongestPrefix start others) :
    elements = others := by
  have hlength : elements.length = others.length :=
    Nat.le_antisymm (h'.longest _ h.toFreePrefix) (h.longest _ h'.toFreePrefix)
  apply List.ext_getElem?
  intro n
  by_cases hn : n < elements.length
  · rw [← h.ancestor_eq n hn, h'.ancestor_eq n (by omega)]
  · rw [List.getElem?_eq_none (by omega), List.getElem?_eq_none (by omega)]

/-! ## Hosts that agree on a stretch -/

/-- Hosts that give the elements of a stretch the same surroundings have the same ancestors up to
the one after it. -/
theorem FreePrefix.ancestor_congr {elements : List ElementId}
    (h : host.FreePrefix start elements) {other : Host}
    (agree : ∀ id ∈ elements, other.enclosing id = host.enclosing id) {n : Nat}
    (hn : n ≤ elements.length) : other.ancestor start n = host.ancestor start n := by
  induction n with
  | zero => rfl
  | succ n ih =>
    have hlt : n < elements.length := by omega
    rw [ancestor, ancestor, ih (by omega), h.ancestor_eq n hlt, List.getElem?_eq_getElem hlt,
      Option.bind_some, Option.bind_some]
    exact agree _ (List.getElem_mem hlt)

/-- A host that gives the elements of the longest stretch the same surroundings has the same longest
stretch. -/
theorem LongestPrefix.congr {elements : List ElementId} (h : host.LongestPrefix start elements)
    {other : Host} (agree : ∀ id ∈ elements, other.enclosing id = host.enclosing id) :
    other.LongestPrefix start elements := by
  have hfree : other.FreePrefix start elements := by
    refine ⟨fun n hn => ?_, h.nodup⟩
    rw [h.ancestor_congr agree (Nat.le_of_lt hn)]
    exact h.ancestor_eq n hn
  refine hfree.longestPrefix fun next hnext => ?_
  rw [h.ancestor_congr agree (Nat.le_refl _)] at hnext
  exact h.stuck hnext

end Host

/-! ## The walk along a stretch -/

namespace Walk

/-- The walk has passed the elements of a stretch, stands before the next ancestor, and has met
nothing twice. -/
structure Follows (host : Host) (start : ElementId) (trail : List ElementId) (walk : Walk) :
    Prop where
  /-- The trail is a stretch without repetition. -/
  free : host.FreePrefix start trail
  /-- The next ancestor is pending. -/
  pending : walk.pending = host.ancestor start trail.length
  /-- The visited elements are those of the trail. -/
  visited : ∀ id, walk.visited.contains id = true ↔ id ∈ trail
  /-- Nothing has been met twice. -/
  revisited : walk.revisited = none

variable {host : Host} {start : ElementId} {trail : List ElementId} {walk : Walk}

/-- A walk that has not begun has an empty trail. -/
theorem follows_start (host : Host) (start : ElementId) :
    Follows host start [] (Walk.start start) :=
  ⟨host.freePrefix_nil start, rfl, by simp [Walk.start], rfl⟩

/-- Where no ancestor follows, the walk is over and stays as it is. -/
theorem Follows.next_of_ended (follows : Follows host start trail walk)
    (h : host.ancestor start trail.length = none) : walk.next host = (none, walk) :=
  next_of_pending_none (follows.pending.trans h)

/-- Where an ancestor follows that has been passed, the walk is over and says so. -/
theorem Follows.next_of_passed (follows : Follows host start trail walk) {current : ElementId}
    (h : host.ancestor start trail.length = some current) (passed : current ∈ trail) :
    walk.next host = (none, { walk with pending := none, revisited := some current }) :=
  next_of_visited (follows.pending.trans h) ((follows.visited current).2 passed)

/-- Where a new ancestor follows, the walk yields it and follows the longer trail. -/
theorem Follows.next_of_fresh (follows : Follows host start trail walk) {current : ElementId}
    (h : host.ancestor start trail.length = some current) (new : current ∉ trail) :
    ∃ onward, walk.next host = (some current, onward) ∧
      Follows host start (trail ++ [current]) onward := by
  have hvisited : walk.visited.contains current = false := by
    rw [← Bool.not_eq_true, follows.visited current]
    exact new
  refine ⟨_, next_of_new (follows.pending.trans h) hvisited, follows.free.concat h new, ?_, ?_,
    follows.revisited⟩
  · rw [List.length_append, List.length_singleton, Host.ancestor, h]
    rfl
  · intro id
    have hcompare : (compare current id == .eq) = true ↔ id = current := by
      rw [beq_iff_eq, Std.LawfulEqCmp.compare_eq_iff_eq, eq_comm]
    rw [Std.TreeSet.contains_insert, Bool.or_eq_true, follows.visited id, List.mem_append,
      List.mem_singleton, hcompare, or_comm]

/-- **A walk with enough steps left completes its trail to the longest stretch**, and it has looped
if one more ancestor follows that. -/
theorem Follows.run (follows : Follows host start trail walk) {fuel : Nat}
    (enough : UInt32.size < trail.length + fuel) :
    host.LongestPrefix start (trail ++ (walk.run host fuel).elements) ∧
      (walk.run host fuel).revisited =
        host.ancestor start (trail ++ (walk.run host fuel).elements).length := by
  -- every step takes one from the fuel and adds one to the trail, which cannot grow for ever
  induction fuel generalizing trail walk with
  | zero =>
    have hle := follows.free.length_le
    omega
  | succ fuel ih =>
    cases h : host.ancestor start trail.length with
    | none =>
      rw [Walk.run, follows.next_of_ended h]
      simp only [List.append_nil]
      refine ⟨follows.free.longestPrefix ?_, by rw [follows.revisited, h]⟩
      intro next hnext
      rw [h] at hnext
      exact absurd hnext (by simp)
    | some current =>
      by_cases hpassed : current ∈ trail
      · rw [Walk.run, follows.next_of_passed h hpassed]
        simp only [List.append_nil]
        refine ⟨follows.free.longestPrefix ?_, h.symm⟩
        intro next hnext
        rw [h] at hnext
        rw [← Option.some.inj hnext]
        exact hpassed
      · obtain ⟨onward, hnext, hfollows⟩ := follows.next_of_fresh h hpassed
        have hrun := ih hfollows (by rw [List.length_append, List.length_singleton]; omega)
        rw [Walk.run, hnext]
        rw [List.append_assoc, List.singleton_append] at hrun
        exact hrun

end Walk

namespace Host

/-! ## The chain -/

variable {host : Host}

/-- The step limit is enough for a walk from its start. -/
theorem run_start (host : Host) (start : ElementId) :
    host.LongestPrefix start (host.chain start).elements ∧
      (host.chain start).revisited = host.ancestor start (host.chain start).elements.length := by
  have enough : UInt32.size < ([] : List ElementId).length + stepLimit := by
    rw [List.length_nil, stepLimit]
    omega
  exact (Walk.follows_start host start).run enough

/-- **The scope chain is the longest stretch of ancestors without repetition.** -/
theorem longestPrefix_chain (host : Host) (start : ElementId) :
    host.LongestPrefix start (host.chain start).elements :=
  (host.run_start start).1

/-- The chain loops at the ancestor that follows it, if there is one. -/
theorem chain_revisited (host : Host) (start : ElementId) :
    (host.chain start).revisited = host.ancestor start (host.chain start).elements.length :=
  (host.run_start start).2

/-- The chain is the longest stretch, and loops at the ancestor after it. -/
theorem LongestPrefix.chain_eq {element : ElementId} {elements : List ElementId}
    (h : host.LongestPrefix element elements) :
    host.chain element = ⟨elements, host.ancestor element elements.length⟩ := by
  have helements := (host.longestPrefix_chain element).unique h
  rw [← helements, ← host.chain_revisited element]

/-- An element that nothing encloses is alone on its chain. -/
theorem chain_of_enclosing_none {element : ElementId} (h : host.enclosing element = none) :
    host.chain element = ⟨[element], none⟩ := by
  have hnone : host.ancestor element 1 = none := h
  have hfree : host.FreePrefix element [element] := by
    refine ⟨?_, List.nodup_singleton element⟩
    intro n hn
    rw [List.length_singleton, Nat.lt_one_iff] at hn
    rw [hn]
    rfl
  have hlongest : host.LongestPrefix element [element] := by
    refine hfree.longestPrefix fun next hnext => ?_
    rw [List.length_singleton, hnone] at hnext
    exact absurd hnext (by simp)
  rw [hlongest.chain_eq, List.length_singleton, hnone]

/-- **A scope chain depends on nothing but the surroundings of its own elements.** -/
theorem chain_congr {start : ElementId} {other : Host}
    (agree : ∀ id ∈ (host.chain start).elements, other.enclosing id = host.enclosing id) :
    other.chain start = host.chain start := by
  have hlongest := host.longestPrefix_chain start
  have helements : (other.chain start).elements = (host.chain start).elements :=
    (other.longestPrefix_chain start).unique (hlongest.congr agree)
  have hrevisited : (other.chain start).revisited = (host.chain start).revisited := by
    rw [other.chain_revisited, host.chain_revisited, helements]
    exact hlongest.ancestor_congr agree (Nat.le_refl _)
  rw [Chain.mk.injEq]
  exact ⟨helements, hrevisited⟩

/-- A chain stays below the step limit. -/
theorem length_chain_lt (host : Host) (start : ElementId) :
    (host.chain start).elements.length < stepLimit := by
  have hle := (host.longestPrefix_chain start).length_le
  rw [stepLimit]
  omega

end Host

/-! ## The steps of a walk -/

namespace Walk

variable {host : Host}

/-- A walk that is over takes no further step. -/
theorem steps_of_pending_none {walk : Walk} (h : walk.pending = none) (n : Nat) :
    walk.steps host n = List.replicate n (none, walk) := by
  induction n with
  | zero => rfl
  | succ n ih => rw [steps, next_of_pending_none h, ih, List.replicate_succ]

/-- A step that yields nothing ends the walk. -/
theorem pending_of_next_none {walk last : Walk} (h : walk.next host = (none, last)) :
    last.pending = none := by
  cases hpending : walk.pending with
  | none =>
    rw [next_of_pending_none hpending, Prod.mk.injEq] at h
    rw [← h.2]
    exact hpending
  | some current =>
    cases hvisited : walk.visited.contains current with
    | true =>
      rw [next_of_visited hpending hvisited, Prod.mk.injEq] at h
      rw [← h.2]
    | false =>
      rw [next_of_new hpending hvisited, Prod.mk.injEq] at h
      exact absurd h.1 (by simp)

/-- A step that yields an element has met nothing twice. -/
theorem revisited_of_next_some {walk onward : Walk} {current : ElementId}
    (h : walk.next host = (some current, onward)) : onward.revisited = walk.revisited := by
  cases hpending : walk.pending with
  | none =>
    rw [next_of_pending_none hpending, Prod.mk.injEq] at h
    exact absurd h.1 (by simp)
  | some next =>
    cases hvisited : walk.visited.contains next with
    | true =>
      rw [next_of_visited hpending hvisited, Prod.mk.injEq] at h
      exact absurd h.1 (by simp)
    | false =>
      rw [next_of_new hpending hvisited, Prod.mk.injEq] at h
      rw [← h.2]

/-- The steps of a walk that comes to its end before the fuel runs out: first the elements of its
chain, with nothing revisited yet, and from then on nothing, with what the chain has revisited. -/
theorem steps_eq_of_run (fuel : Nat) (walk : Walk)
    (h : (walk.run host fuel).elements.length < fuel) (n : Nat) :
    (walk.steps host n).map (fun step => (step.1, step.2.revisited)) =
      (List.range n).map fun i => ((walk.run host fuel).elements[i]?,
        if i < (walk.run host fuel).elements.length then walk.revisited
        else (walk.run host fuel).revisited) := by
  induction fuel generalizing walk n with
  | zero => omega
  | succ fuel ih =>
    cases n with
    | zero => rfl
    | succ n =>
      rw [steps, List.map_cons, List.range_succ_eq_map, List.map_cons, List.map_map]
      rw [Walk.run] at h ⊢
      rcases hstep : walk.next host with ⟨_ | current, onward⟩
      · rw [steps_of_pending_none (pending_of_next_none hstep)]
        simp [Function.comp_def]
      · rw [hstep] at h
        simp only [List.length_cons] at h
        have hsteps := ih onward (by omega) n
        rw [revisited_of_next_some hstep] at hsteps
        rw [hsteps, revisited_of_next_some hstep]
        simp [Function.comp_def]

end Walk

/-- **The steps from an element are its chain and then nothing.** After the elements of the chain no
step yields anything, and only then the walk says whether it has looped. -/
theorem Host.steps_start (host : Host) (start : ElementId) (n : Nat) :
    ((Walk.start start).steps host n).map (fun step => (step.1, step.2.revisited)) =
      (List.range n).map fun i => ((host.chain start).elements[i]?,
        if i < (host.chain start).elements.length then none else (host.chain start).revisited) :=
  Walk.steps_eq_of_run Host.stepLimit (Walk.start start) (host.length_chain_lt start) n

end Suppression
