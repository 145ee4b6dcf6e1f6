import Mathlib.Data.Set.Card
import Suppression.Proofs.ScopeChain
/-!
# Call after call

A walk may be asked for its next element as often as one likes. What it answers, and in which state
it is left, is read off the scope chain: the calls yield the elements of the chain in order and then
nothing (`Host.next_after`), and only a call after the last element tells of a loop
(`Host.revisited_after`). The chain holds exactly the elements that can be reached, so it is over
after as many calls as there are such elements, and one more (`Host.ncard_reachable`).
-/

namespace Suppression

namespace Walk

variable {host : Host}

/-! ## The state after some calls -/

/-- The walk after `n` steps. -/
def after (host : Host) : Nat → Walk → Walk
  | 0, walk => walk
  | n + 1, walk => after host n (walk.next host).2

/-- The last of the steps is taken by the walk as the others have left it. -/
theorem after_succ (n : Nat) (walk : Walk) :
    walk.after host (n + 1) = ((walk.after host n).next host).2 := by
  induction n generalizing walk with
  | zero => rfl
  | succ n ih => rw [after, ih, after]

/-- The steps of a walk are those of the states it goes through. -/
theorem steps_eq_map (n : Nat) (walk : Walk) :
    walk.steps host n = (List.range n).map fun i => (walk.after host i).next host := by
  induction n generalizing walk with
  | zero => rfl
  | succ n ih =>
    rw [steps, ih, List.range_succ_eq_map, List.map_cons, List.map_map]
    rfl

/-- After a step that yields nothing every later one yields nothing and leaves the walk as it is. -/
theorem next_after_of_none {walk : Walk} {m n : Nat}
    (h : ((walk.after host m).next host).1 = none) (hmn : m < n) :
    (walk.after host n).next host = (none, walk.after host n) := by
  have hpending : (walk.after host n).pending = none := by
    -- by induction on the steps taken since; the first of them is the one that yields nothing
    induction n with
    | zero => omega
    | succ n ih =>
      rw [after_succ]
      by_cases hm : m = n
      · rw [← hm]
        exact pending_of_next_none (Prod.ext h rfl)
      · rw [next_of_pending_none (ih (by omega))]
        exact ih (by omega)
  exact next_of_pending_none hpending

end Walk

namespace Host

variable {host : Host} {start : ElementId}

/-- What a call says and what the walk has revisited after it, read off the chain. -/
theorem call_after (host : Host) (start : ElementId) (n : Nat) :
    (((Walk.start start).after host n).next host).1 = (host.chain start).elements[n]? ∧
      ((Walk.start start).after host (n + 1)).revisited =
        if n < (host.chain start).elements.length then none
        else (host.chain start).revisited := by
  have hsteps := host.steps_start start (n + 1)
  rw [Walk.steps_eq_map, List.map_map] at hsteps
  have hcall := congrArg (·[n]?) hsteps
  simp only [List.getElem?_map, List.getElem?_range (Nat.lt_succ_self n), Option.map_some,
    Function.comp_apply, Option.some.injEq, Prod.mk.injEq] at hcall
  rw [Walk.after_succ]
  exact hcall

/-- The calls yield the chain in order and then nothing. -/
theorem next_after (host : Host) (start : ElementId) (n : Nat) :
    (((Walk.start start).after host n).next host).1 = (host.chain start).elements[n]? :=
  (host.call_after start n).1

/-- Only a call after the last element tells of a loop. -/
theorem revisited_after (host : Host) (start : ElementId) (n : Nat) :
    ((Walk.start start).after host n).revisited =
      if n ≤ (host.chain start).elements.length then none else (host.chain start).revisited := by
  cases n with
  | zero =>
    rw [if_pos (Nat.zero_le _)]
    rfl
  | succ n =>
    rw [(host.call_after start n).2]
    rfl

/-- What the first calls yield is the beginning of the chain. -/
theorem filterMap_steps_start (host : Host) (start : ElementId) (n : Nat) :
    ((Walk.start start).steps host n).filterMap (·.1) = (host.chain start).elements.take n := by
  rw [Walk.steps_eq_map]
  induction n with
  | zero => rfl
  | succ n ih =>
    rw [List.range_succ, List.map_append, List.filterMap_append, ih, List.take_add_one]
    congr 1
    simp only [List.map_cons, List.map_nil, List.filterMap_cons, List.filterMap_nil, next_after]
    cases (host.chain start).elements[n]? <;> rfl

/-! ## The chain as a sequence of links -/

/-- The element after a place of the chain encloses the one at that place. -/
theorem ancestor_chain_succ {n : Nat} {id : ElementId}
    (h : (host.chain start).elements[n]? = some id) :
    host.ancestor start (n + 1) = host.enclosing id := by
  have hn := (List.getElem?_eq_some_iff.1 h).1
  rw [ancestor, (host.longestPrefix_chain start).ancestor_eq n hn, h, Option.bind_some]

/-- The chain begins at its element. -/
theorem head?_chain (host : Host) (start : ElementId) :
    (host.chain start).elements.head? = some start := by
  have hlongest := host.longestPrefix_chain start
  rw [List.head?_eq_getElem?]
  cases hlength : (host.chain start).elements.length with
  | zero =>
    have hstuck : start ∈ (host.chain start).elements := hlongest.stuck (by rw [hlength]; rfl)
    rw [List.length_eq_zero_iff.1 hlength] at hstuck
    exact absurd hstuck (by simp)
  | succ n =>
    rw [← hlongest.ancestor_eq 0 (by omega)]
    rfl

/-- Each element of the chain is enclosed by the next. -/
theorem isChain_chain (host : Host) (start : ElementId) :
    (host.chain start).elements.IsChain fun id outer => host.enclosing id = some outer := by
  rw [List.isChain_iff_getElem]
  intro i hi
  rw [← ancestor_chain_succ (List.getElem?_eq_getElem (by omega)),
    (host.longestPrefix_chain start).ancestor_eq (i + 1) hi, List.getElem?_eq_getElem hi]

/-- The chain loops at the element around its last one, if there is one. -/
theorem chain_revisited_eq_enclosing (host : Host) (start : ElementId) :
    (host.chain start).revisited = (host.chain start).elements.getLast?.bind host.enclosing := by
  have hhead := host.head?_chain start
  rw [chain_revisited, List.getLast?_eq_getElem?]
  cases hlength : (host.chain start).elements.length with
  | zero =>
    rw [List.length_eq_zero_iff.1 hlength] at hhead
    exact absurd hhead (by simp)
  | succ n =>
    have hlast := List.getElem?_eq_getElem (l := (host.chain start).elements) (i := n) (by omega)
    rw [ancestor_chain_succ hlast, Nat.add_sub_cancel, hlast, Option.bind_some]

/-! ## The elements that can be reached -/

/-- The elements reached from `start` by going outward any number of times. -/
def reachable (host : Host) (start : ElementId) : Set ElementId :=
  {id | ∃ n, host.ancestor start n = some id}

/-- What can be reached is in the chain. -/
theorem mem_chain_of_ancestor {n : Nat} {id : ElementId} (h : host.ancestor start n = some id) :
    id ∈ (host.chain start).elements := by
  have hlongest := host.longestPrefix_chain start
  induction n generalizing id with
  | zero =>
    have hhead := host.head?_chain start
    rw [← Option.some.inj h]
    exact List.mem_of_head? hhead
  | succ n ih =>
    obtain ⟨inner, hinner, henclosing⟩ := Option.bind_eq_some_iff.1 h
    obtain ⟨i, hi⟩ := List.getElem?_of_mem (ih hinner)
    have hnext : host.ancestor start (i + 1) = some id := (ancestor_chain_succ hi).trans henclosing
    have hlt := (List.getElem?_eq_some_iff.1 hi).1
    by_cases hlast : i + 1 < (host.chain start).elements.length
    · rw [hlongest.ancestor_eq (i + 1) hlast] at hnext
      exact List.mem_of_getElem? hnext
    · -- the element around the last one, which comes again
      have hlength : i + 1 = (host.chain start).elements.length := by omega
      rw [hlength] at hnext
      exact hlongest.stuck hnext

/-- The chain holds exactly what can be reached. -/
theorem mem_chain_iff {id : ElementId} :
    id ∈ (host.chain start).elements ↔ id ∈ host.reachable start := by
  constructor
  · intro hmem
    obtain ⟨n, hn⟩ := List.getElem?_of_mem hmem
    refine ⟨n, ?_⟩
    rw [(host.longestPrefix_chain start).ancestor_eq n (List.getElem?_eq_some_iff.1 hn).1, hn]
  · rintro ⟨n, hn⟩
    exact mem_chain_of_ancestor hn

/-- There are as many elements in the chain as can be reached. -/
theorem ncard_reachable (host : Host) (start : ElementId) :
    (host.reachable start).ncard = (host.chain start).elements.length := by
  have heq : host.reachable start = ((host.chain start).elements.toFinset : Set ElementId) := by
    ext id
    rw [List.coe_toFinset]
    exact mem_chain_iff.symm
  rw [heq, Set.ncard_coe_finset,
    List.toFinset_card_of_nodup (host.longestPrefix_chain start).nodup]

/-- **What a walk does, call after call.** From any element of any host the calls yield, in order
and each once, certain elements: the first is the element itself, and each later one encloses the
one before. Once a call has yielded nothing, every later one yields nothing and leaves the walk as
it is. Either nothing encloses the last element, and the walk never tells of a loop; or what
encloses it is one of the elements again, and the walk tells of it after the call that finds nothing
more, and not before. A call yields nothing at the latest after as many calls as elements can be
reached. -/
theorem next_after_eq_getElem? (host : Host) (start : ElementId) :
    ∃ elements : List ElementId,
      (∀ n, ((Walk.start start).steps host n).filterMap (·.1) = elements.take n ∧
        (((Walk.start start).after host n).next host).1 = elements[n]?) ∧
      elements.Nodup ∧ elements.head? = some start ∧
      elements.IsChain (fun id outer => host.enclosing id = some outer) ∧
      (∀ m n, (((Walk.start start).after host m).next host).1 = none → m < n →
        ((Walk.start start).after host n).next host = (none, (Walk.start start).after host n)) ∧
      ((elements.getLast?.bind host.enclosing = none ∧
          ∀ n, ((Walk.start start).after host n).revisited = none) ∨
        ∃ again ∈ elements, elements.getLast?.bind host.enclosing = some again ∧
          ∀ n, ((Walk.start start).after host n).revisited =
            if n ≤ elements.length then none else some again) ∧
      elements.length = (host.reachable start).ncard ∧
      ∀ n, (host.reachable start).ncard ≤ n →
        (((Walk.start start).after host n).next host).1 = none := by
  have hlongest := host.longestPrefix_chain start
  refine ⟨(host.chain start).elements, ?_, hlongest.nodup, host.head?_chain start,
    host.isChain_chain start, ?_, ?_, (host.ncard_reachable start).symm, ?_⟩
  · intro n
    exact ⟨host.filterMap_steps_start start n, host.next_after start n⟩
  · intro m n hnone hmn
    exact Walk.next_after_of_none hnone hmn
  · rw [← chain_revisited_eq_enclosing]
    cases hrevisited : (host.chain start).revisited with
    | none =>
      left
      refine ⟨rfl, ?_⟩
      intro n
      rw [revisited_after, hrevisited, ite_self]
    | some again =>
      right
      refine ⟨again, ?_, rfl, ?_⟩
      · rw [chain_revisited] at hrevisited
        exact mem_chain_of_ancestor hrevisited
      · intro n
        rw [revisited_after, hrevisited]
  · intro n hn
    rw [ncard_reachable] at hn
    rw [next_after, List.getElem?_eq_none hn]

end Host

end Suppression
