import Suppression.Proofs.Freezing
/-!
# The tables of a registry

A registry answers from three tables: the list of its checkers, the index of their names and the
table of their effective keys. The first two are filled call by call while checkers are registered
or refused, the third one in another order when the registry is made, and yet they agree
(`Registry.tables_agree`): a name is found by every look-up (`Registry.Finds`) or by none
(`Registry.Misses`), and what is found are the checkers that were accepted, in the order in which
they were.
-/

namespace Suppression.Registry

/-- Every look-up finds a name. -/
structure Finds (registry : Registry) (id : CheckerId) : Prop where
  /-- It is listed. -/
  listed : id ∈ registry.ids
  /-- It is registered. -/
  contained : registry.contains id = true
  /-- There is a checker under it. -/
  checker : ∃ checker, registry.checker id = .ok checker
  /-- There are effective keys under it. -/
  effectiveKeys : ∃ keys, registry.effectiveKeys id = .ok keys

/-- No look-up finds a name, and those that have to say something name it as unknown. -/
structure Misses (registry : Registry) (id : CheckerId) : Prop where
  /-- It is not listed. -/
  not_listed : id ∉ registry.ids
  /-- It is not registered. -/
  not_contained : registry.contains id = false
  /-- There is no checker under it. -/
  checker : registry.checker id = .error (.unknownChecker id)
  /-- There are no effective keys under it. -/
  effectiveKeys : registry.effectiveKeys id = .error (.unknownChecker id)

/-- Without a checker in the roster, the name is unknown. -/
theorem checker_of_checker?_none {registry : Registry} {id : CheckerId}
    (h : registry.roster.checker? id = none) :
    registry.checker id = .error (.unknownChecker id) := by
  unfold checker
  rw [h]

namespace Complete

variable {registry : Registry}

/-- The checker of a name is the one in the list that bears it. -/
theorem checker_iff_mem (complete : registry.Complete) {id : CheckerId} {checker : Checker} :
    registry.checker id = .ok checker ↔
      checker ∈ registry.roster.checkers.toList ∧ checker.id = id := by
  rw [checker_eq_ok_iff, complete.coherent.checker?_eq_some_iff]

/-- A listed name is found by every look-up. -/
theorem finds_of_mem (complete : registry.Complete) {id : CheckerId} (h : id ∈ registry.ids) :
    registry.Finds id := by
  have hcontained : registry.contains id = true := complete.contains_iff.2 h
  obtain ⟨checker, hmem, hid⟩ := List.mem_map.1 h
  exact ⟨h, hcontained, ⟨checker, complete.checker_iff_mem.2 ⟨hmem, hid⟩⟩,
    complete.exists_effectiveKeys hcontained⟩

/-- A name that is not listed is found by no look-up. -/
theorem misses_of_not_mem (complete : registry.Complete) {id : CheckerId}
    (h : id ∉ registry.ids) : registry.Misses id := by
  have hcontained : registry.contains id = false := by
    rw [← Bool.not_eq_true, complete.contains_iff]
    exact h
  have hchecker : registry.roster.checker? id = none := by
    cases hfound : registry.roster.checker? id with
    | none => rfl
    | some checker => exact absurd (complete.coherent.mem_ids_iff.2 ⟨checker, hfound⟩) h
  exact ⟨h, hcontained, checker_of_checker?_none hchecker,
    complete.effectiveKeys_of_not_contains hcontained⟩

/-- A reference of a checker of the registry is found by every look-up. -/
theorem finds_of_mem_references (complete : registry.Complete) {checker : Checker}
    (h : checker ∈ registry.roster.checkers.toList) {source : CheckerId}
    (hsource : source ∈ checker.references) : registry.Finds source := by
  apply complete.finds_of_mem
  exact complete.closed.mem_ids h hsource

/-- Links lead from a listed name to names that every look-up finds. -/
theorem finds_of_reaches (complete : registry.Complete) {id target : CheckerId}
    (hreach : registry.roster.Reaches id target) (h : id ∈ registry.ids) :
    registry.Finds target := by
  induction hreach with
  | refl id => exact complete.finds_of_mem h
  | step link _ ih =>
    apply ih
    obtain ⟨checker, hchecker, hmiddle⟩ := link
    have hmem := (complete.coherent.checker?_eq_some_iff.1 hchecker).1
    exact (complete.finds_of_mem_references hmem (Checker.mem_references.2 hmiddle)).listed

end Complete

/-- **The tables of a registry agree.** Let any calls be made to register checkers, some of which
may fail, and let a registry be made in the end. Every look-up finds the names of the accepted
checkers, and none finds another name; the checker of a name is the one that was accepted under it;
the names are listed once each, in the order in which the checkers were accepted, and their number
is the size. Whatever a checker refers to, and whatever is reached over references from a listed
name, is found by every look-up. And the index tells for a name a place of the list at which the
checker of that name stands. -/
theorem tables_agree (requests : List Roster.Request) (registry : Registry)
    (h : (Roster.empty.requestAll requests).freeze.outcome = .ok registry) :
    (∀ id, (id ∈ (Roster.empty.acceptedAll requests).map (·.id) ∧ registry.Finds id) ∨
      (id ∉ (Roster.empty.acceptedAll requests).map (·.id) ∧ registry.Misses id)) ∧
    (∀ id checker, registry.checker id = .ok checker ↔
      checker ∈ Roster.empty.acceptedAll requests ∧ checker.id = id) ∧
    registry.ids = (Roster.empty.acceptedAll requests).map (·.id) ∧ registry.ids.Nodup ∧
    registry.size = (Roster.empty.acceptedAll requests).length ∧
    (∀ checker ∈ Roster.empty.acceptedAll requests, ∀ source ∈ checker.references,
      registry.Finds source) ∧
    (∀ id ∈ registry.ids, ∀ target, registry.roster.Reaches id target → registry.Finds target) ∧
    ∀ id place, registry.roster.index[id]? = some place →
      ∃ checker : Checker, registry.roster.checkers[place]? = some checker ∧ checker.id = id := by
  have arises := Roster.Arises.empty.requestAll requests
  obtain ⟨hroster, complete⟩ := arises.coherent.complete_of_freeze h
  have hlist : registry.roster.checkers.toList = Roster.empty.acceptedAll requests := by
    rw [hroster, Roster.checkers_requestAll]
    rfl
  have hids : registry.ids = (Roster.empty.acceptedAll requests).map (·.id) := by
    rw [← hlist]
    rfl
  refine ⟨?_, ?_, hids, complete.coherent.nodup_ids, ?_, ?_, ?_, ?_⟩
  · intro id
    rw [← hids]
    by_cases hid : id ∈ registry.ids
    · exact Or.inl ⟨hid, complete.finds_of_mem hid⟩
    · exact Or.inr ⟨hid, complete.misses_of_not_mem hid⟩
  · intro id checker
    rw [complete.checker_iff_mem, hlist]
  · rw [← hlist]
    rfl
  · intro checker hmem source hsource
    rw [← hlist] at hmem
    exact complete.finds_of_mem_references hmem hsource
  · intro id hid target hreach
    exact complete.finds_of_reaches hreach hid
  · intro id place hplace
    exact (complete.coherent.index_iff id place).1 hplace

/-- Calls of which some fail: a taken name, and in the midst of a list a wildcard. -/
def bumpyRequests : List Roster.Request :=
  [.several [Checker.composed "pack" ["child", "base", "child"]],
    .one { id := "base", keys := ["b"] }, .one { id := "base", keys := ["other"] },
    .several [Checker.withParent { id := "child" } "base", { id := "bad", keys := [wildcard] },
      { id := "late" }]]

/-- The registry that is made in the end holds the three checkers that were accepted, and knows no
other one. -/
theorem bumpyRequests_tables : ∃ registry,
    (Roster.empty.requestAll bumpyRequests).freeze.outcome = .ok registry ∧
    registry.ids = ["pack", "base", "child"] ∧
    registry.checker "base" = .ok { id := "base", keys := ["b"] } ∧
    registry.Finds "child" ∧ registry.Misses "bad" ∧ registry.Misses "late" := by
  have hbuilds : (Roster.empty.requestAll bumpyRequests).freeze.outcome.toOption.any
      (·.contains "pack") = true := by decide +kernel
  have haccepted : Roster.empty.acceptedAll bumpyRequests =
      [Checker.composed "pack" ["child", "base", "child"], { id := "base", keys := ["b"] },
        Checker.withParent { id := "child" } "base"] := by decide +kernel
  obtain ⟨registry, h, -⟩ := exists_ok_of_any hbuilds
  obtain ⟨hall, hchecker, hids, -, -, hreferences, -⟩ := tables_agree bumpyRequests registry h
  rw [haccepted] at hall hchecker hids hreferences
  have hmisses : ∀ id, id ∉ ["pack", "base", "child"] → registry.Misses id := by
    intro id hid
    rcases hall id with ⟨hmem, -⟩ | ⟨-, hmisses⟩
    · exact absurd hmem hid
    · exact hmisses
  refine ⟨registry, h, hids, (hchecker _ _).2 ⟨by simp, rfl⟩, ?_, hmisses "bad" (by decide),
    hmisses "late" (by decide)⟩
  exact hreferences _ List.mem_cons_self "child" (by decide)

end Suppression.Registry
