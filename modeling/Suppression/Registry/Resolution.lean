import Suppression.Registry.Roster
/-!
# Effective keys

A checker answers to its own keys and to the effective keys of all its references. They are found
depth first: the references of a checker are resolved before the checker itself, each checker once,
and the results are kept in a table in the order in which they become known. A reference to a
checker whose resolution is under way closes a cycle.

The table outlives a failure: it then holds the checkers that were resolved before it.

Beside the resolution stand the links it follows (`Roster.Links`) and what they reach
(`Roster.Reaches`).
-/

namespace Suppression

/-- Effective keys by checker, in the order in which they became known. -/
abbrev KeyTable := List (CheckerId × KeySet)

namespace Roster

/-! ## Links -/

/-- One checker refers to another as its parent or a member. -/
def Links (roster : Roster) (source target : CheckerId) : Prop :=
  ∃ checker, roster.checker? source = some checker ∧
    (checker.parent = some target ∨ target ∈ checker.members)

/-- One checker leads to another over any number of links. -/
inductive Reaches (roster : Roster) : CheckerId → CheckerId → Prop where
  /-- A checker leads to itself. -/
  | refl (id : CheckerId) : Reaches roster id id
  /-- A link, then further links. -/
  | step {source middle target : CheckerId} (link : roster.Links source middle)
      (onward : Reaches roster middle target) : Reaches roster source target

/-- The first reference to a checker that is not registered: checkers in order, and of each the
parent before the members. -/
def dangling? (roster : Roster) : Option CheckerId :=
  (roster.checkers.toList.flatMap (·.references)).find? (!roster.contains ·)

/-- No reference dangles exactly if all lead to registered checkers. -/
theorem dangling?_eq_none_iff {roster : Roster} :
    roster.dangling? = none ↔
      ∀ checker ∈ roster.checkers, ∀ id, checker.parent = some id ∨ id ∈ checker.members →
        roster.contains id = true := by
  simp only [dangling?, List.find?_eq_none, List.mem_flatMap, Checker.mem_references]
  constructor
  · intro h checker hc id hid
    simpa using h id ⟨checker, by simpa using hc, hid⟩
  · rintro h id ⟨checker, hc, hid⟩
    simpa using h checker (by simpa using hc) id hid

/-! ## Resolution -/

/-- The cycle that a further visit to `id` closes on the way `path`. -/
def cyclePath (path : List CheckerId) (id : CheckerId) : List CheckerId :=
  path.dropWhile (· ≠ id) ++ [id]

/-- Adds the keys of several checkers to a set, by way of `resolve`, up to the first failure. -/
def gather (resolve : KeyTable → CheckerId → KeyTable × Except Failure KeySet) :
    KeyTable → KeySet → List CheckerId → KeyTable × Except Failure KeySet
  | table, keys, [] => (table, .ok keys)
  | table, keys, id :: rest =>
    match resolve table id with
    | (table, .error cause) => (table, .error cause)
    | (table, .ok more) => gather resolve table (keys.union more) rest

/-- The effective keys of a checker. `path` lists the checkers whose resolution is under way,
outermost first, and `budget` is the number of registered checkers that are not among them; with
none left, a checker that is not on the path is not registered. -/
def resolve (roster : Roster) (budget : Nat) (path : List CheckerId) (table : KeyTable)
    (id : CheckerId) : KeyTable × Except Failure KeySet :=
  match table.lookup id with
  | some keys => (table, .ok keys)
  | none =>
    if id ∈ path then (table, .error (.conflict (.cycle (cyclePath path id))))
    else
      match roster.checker? id, budget with
      | some checker, budget + 1 =>
        match gather (resolve roster budget (path ++ [id])) table checker.ownKeys
          checker.references with
        | (table, .error cause) => (table, .error cause)
        | (table, .ok keys) => (table ++ [(id, keys)], .ok keys)
      | _, _ => (table, .error (.unknownChecker id))

/-- Resolves checkers one after the other, up to the first failure. -/
def resolveAll (roster : Roster) : KeyTable → List CheckerId → KeyTable × Except Failure Unit
  | table, [] => (table, .ok ())
  | table, id :: rest =>
    match roster.resolve roster.size [] table id with
    | (table, .error cause) => (table, .error cause)
    | (table, .ok _) => resolveAll roster table rest

end Roster

end Suppression
