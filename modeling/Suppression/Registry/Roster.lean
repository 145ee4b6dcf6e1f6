import Std.Data.TreeMap
import Suppression.Log
/-!
# Rosters

A roster holds the checkers registered so far, in order, with an index from names to places. A
checker joins unless it declares the wildcard as a key or its name is taken; whether the checkers it
refers to are registered is a question for later, so that they can be registered in any order.
-/

namespace Suppression

/-- The checkers registered so far. -/
structure Roster where
  /-- The checkers in the order of registration. -/
  checkers : Array Checker := #[]
  /-- The place of each name. -/
  index : Std.TreeMap CheckerId Nat := ∅

namespace Roster

instance : Inhabited Roster := ⟨{}⟩

/-- The roster without checkers. -/
def empty : Roster := {}

/-- The number of checkers. -/
def size (roster : Roster) : Nat := roster.checkers.size

/-- Whether nobody is registered. -/
def isEmpty (roster : Roster) : Bool := roster.checkers.isEmpty

/-- Whether a name is registered. -/
def contains (roster : Roster) (id : CheckerId) : Bool := roster.index.contains id

/-- The checker of a name. -/
def checker? (roster : Roster) (id : CheckerId) : Option Checker :=
  roster.index[id]?.bind (roster.checkers[·]?)

/-- The names in the order of registration. -/
def ids (roster : Roster) : List CheckerId := roster.checkers.toList.map (·.id)

/-! ## Joining -/

/-- What keeps a checker out, if anything does. A wildcard among its keys is found first. -/
def obstacle? (roster : Roster) (checker : Checker) : Option Conflict :=
  if checker.keys.contains wildcard then some (.reservedWildcard checker.id)
  else if roster.contains checker.id then some (.duplicateIdentity checker.id)
  else none

/-- The roster with one more checker, whatever its keys and name. -/
def push (roster : Roster) (checker : Checker) : Roster where
  checkers := roster.checkers.push checker
  index := roster.index.insert checker.id roster.size

/-- The roster with one more checker, if nothing keeps it out. -/
@[inline]
def insert (roster : Roster) (checker : Checker) : Except Conflict Roster :=
  match roster.obstacle? checker with
  | some cause => .error cause
  | none => .ok (roster.push checker)

/-- There is no obstacle exactly if the wildcard is no key and the name is free. -/
theorem obstacle?_eq_none_iff {roster : Roster} {checker : Checker} :
    roster.obstacle? checker = none ↔
      wildcard ∉ checker.keys ∧ roster.contains checker.id = false := by
  unfold obstacle?
  split
  · next h => simp_all
  · next h => split <;> simp_all

/-! ## Registering

Registering changes a roster even when a later checker of the same list is refused: the ones before
it stay. The result is therefore a roster together with the outcome. -/

/-- Registers one checker and records it; a refusal leaves the roster as it is. -/
def register (roster : Roster) (checker : Checker) : Roster × Logged Failure Unit :=
  match roster.insert checker with
  | .error cause => (roster, ⟨.error (.conflict cause), []⟩)
  | .ok next => (next, ⟨.ok (), [.registered checker]⟩)

/-- Registers checkers in order up to the first that is refused. -/
def registerAll (roster : Roster) : List Checker → Roster × Logged Failure Unit
  | [] => (roster, ⟨.ok (), []⟩)
  | checker :: rest =>
    match roster.register checker with
    | (same, ⟨.error cause, log⟩) => (same, ⟨.error cause, log⟩)
    | (next, ⟨.ok (), log⟩) =>
      let (last, others) := next.registerAll rest
      (last, ⟨others.outcome, log ++ others.log⟩)

end Roster

end Suppression
