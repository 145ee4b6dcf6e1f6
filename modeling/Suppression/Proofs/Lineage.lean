import Mathlib.Data.List.Induction
import Mathlib.Data.List.Nodup
import Mathlib.Logic.Relation
import Suppression.Registry.Resolution
/-!
# Lineage

The references of a list of checkers make it a graph on names. This module says what the graph of a
list is (`Names`, `Cyclic`, `Dangles`) and which lists can be registered at all (`Admissible`),
without looking at how a roster stores its checkers. It also joins the two ways of following links:
the relation `Roster.Reaches` and the reflexive transitive closure.
-/

namespace Suppression

/-! ## The graph of a list of checkers -/

/-- One checker of a list names another as its parent or as a member. -/
def Names (checkers : List Checker) (source target : CheckerId) : Prop :=
  ∃ checker ∈ checkers, checker.id = source ∧
    (checker.parent = some target ∨ target ∈ checker.members)

/-- Some name leads back to itself over at least one link. -/
def Cyclic (checkers : List Checker) : Prop :=
  ∃ id, Relation.TransGen (Names checkers) id id

/-- Every parent and every member is a checker of the list. -/
def Closed (checkers : List Checker) : Prop :=
  ∀ checker ∈ checkers, ∀ id, checker.parent = some id ∨ id ∈ checker.members →
    id ∈ checkers.map (·.id)

/-- The references of a checker of a closed list are names of the list. -/
theorem Closed.mem_ids {checkers : List Checker} (closed : Closed checkers) {checker : Checker}
    (hmem : checker ∈ checkers) {id : CheckerId} (hid : id ∈ checker.references) :
    id ∈ checkers.map (·.id) :=
  closed checker hmem id (Checker.mem_references.1 hid)

/-- The first reference that leads nowhere, read checker by checker and in each the parent before
the members. -/
def Dangles (checkers : List Checker) (id : CheckerId) : Prop :=
  ∃ before after,
    checkers.flatMap (fun checker => checker.parent.toList ++ checker.members) =
      before ++ id :: after ∧
    (∀ other ∈ before, other ∈ checkers.map (·.id)) ∧ id ∉ checkers.map (·.id)

/-- No checker declares the wildcard and no name comes twice. -/
structure Admissible (checkers : List Checker) : Prop where
  /-- The wildcard is nobody's key. -/
  wildcard_free : ∀ checker ∈ checkers, wildcard ∉ checker.keys
  /-- The names are distinct. -/
  nodup_ids : (checkers.map (·.id)).Nodup

/-- The empty list is admissible. -/
theorem admissible_nil : Admissible [] := ⟨by simp, by simp⟩

/-- A further checker may stand behind an admissible list if it spares the wildcard and its name is
new. -/
theorem admissible_concat {checkers : List Checker} {checker : Checker} :
    Admissible (checkers ++ [checker]) ↔ Admissible checkers ∧ wildcard ∉ checker.keys ∧
      checker.id ∉ checkers.map (·.id) := by
  constructor
  · rintro ⟨hfree, hnodup⟩
    rw [List.map_append, List.map_singleton, ← List.concat_eq_append, List.nodup_concat] at hnodup
    exact ⟨⟨fun c hc => hfree c (by simp [hc]), hnodup.2⟩, hfree checker (by simp), hnodup.1⟩
  · rintro ⟨⟨hfree, hnodup⟩, hkeys, hnew⟩
    refine ⟨?_, ?_⟩
    · intro c hc
      rcases List.mem_append.1 hc with hc | hc
      · exact hfree c hc
      · rw [List.mem_singleton.1 hc]
        exact hkeys
    · rw [List.map_append, List.map_singleton, ← List.concat_eq_append, List.nodup_concat]
      exact ⟨hnew, hnodup⟩

/-- The front of an admissible list is admissible. -/
theorem Admissible.of_append {before after : List Checker} (h : Admissible (before ++ after)) :
    Admissible before := by
  refine ⟨fun c hc => h.wildcard_free c (by simp [hc]), ?_⟩
  have hnodup := h.nodup_ids
  rw [List.map_append] at hnodup
  exact (List.nodup_append.1 hnodup).1

/-- A list that is not admissible has a first checker that spoils it. -/
theorem exists_first_refused (checkers : List Checker) (h : ¬ Admissible checkers) :
    ∃ before checker after, checkers = before ++ checker :: after ∧ Admissible before ∧
      (wildcard ∈ checker.keys ∨ checker.id ∈ before.map (·.id)) := by
  -- from the back, because the fault of a checker depends on those before it
  induction checkers using List.reverseRecOn with
  | nil => exact absurd admissible_nil h
  | append_singleton checkers checker ih =>
    by_cases hfront : Admissible checkers
    · refine ⟨checkers, checker, [], rfl, hfront, ?_⟩
      rw [admissible_concat] at h
      by_cases hkeys : wildcard ∈ checker.keys
      · exact Or.inl hkeys
      · by_cases hnew : checker.id ∈ checkers.map (·.id)
        · exact Or.inr hnew
        · exact absurd ⟨hfront, hkeys, hnew⟩ h
    · obtain ⟨before, first, after, rfl, hbefore, hfirst⟩ := ih hfront
      exact ⟨before, first, after ++ [checker], by simp, hbefore, hfirst⟩

/-- Either every reference leads to a checker of the list, or a first one dangles. -/
theorem closed_or_dangles (checkers : List Checker) :
    Closed checkers ∨ ∃ id, Dangles checkers id := by
  cases h : (checkers.flatMap (·.references)).find? (· ∉ checkers.map (·.id)) with
  | none =>
    left
    intro checker hc id hid
    have hreference : id ∈ checkers.flatMap (·.references) :=
      List.mem_flatMap.2 ⟨checker, hc, Checker.mem_references.2 hid⟩
    simpa using List.find?_eq_none.1 h id hreference
  | some id =>
    right
    obtain ⟨hid, before, after, heq, hbefore⟩ := List.find?_eq_some_iff_append.1 h
    exact ⟨id, before, after, heq, fun other ho => by simpa using hbefore other ho,
      by simpa using hid⟩

/-! ## Following links -/

namespace Roster

/-- What is reached is reached over a chain of links. -/
theorem reaches_iff_reflTransGen (roster : Roster) (source target : CheckerId) :
    roster.Reaches source target ↔ Relation.ReflTransGen roster.Links source target := by
  constructor
  · intro h
    induction h with
    | refl id => exact Relation.ReflTransGen.refl
    | step link _ ih => exact Relation.ReflTransGen.head link ih
  · intro h
    induction h using Relation.ReflTransGen.head_induction_on with
    | refl => exact Reaches.refl target
    | head link _ ih => exact Reaches.step link ih

/-- A checker that reaches another is that checker or has a reference that reaches it. -/
theorem Reaches.cases_first {roster : Roster} {source target : CheckerId}
    (h : roster.Reaches source target) :
    source = target ∨ ∃ middle, roster.Links source middle ∧ roster.Reaches middle target := by
  cases h with
  | refl => exact Or.inl rfl
  | step link onward => exact Or.inr ⟨_, link, onward⟩

/-- Links lead only from registered checkers, to the references of the checker found there. -/
theorem links_of_checker? {roster : Roster} {source target : CheckerId} {checker : Checker}
    (h : roster.checker? source = some checker) :
    roster.Links source target ↔ target ∈ checker.references := by
  rw [Checker.mem_references]
  constructor
  · rintro ⟨other, hother, htarget⟩
    rw [h] at hother
    rw [Option.some.inj hother]
    exact htarget
  · intro htarget
    exact ⟨checker, h, htarget⟩

end Roster

end Suppression
