import Suppression.Registry.Resolution
/-!
# Registries

A registry is a roster with the effective keys of all its checkers. It is made once, from a roster
without dangling references and cycles, and then only read.
-/

namespace Suppression

/-- Registered checkers and their effective keys. -/
structure Registry where
  /-- The checkers. -/
  roster : Roster
  /-- Their effective keys, in the order in which they became known. -/
  keyTable : KeyTable

/-- Makes the registry of a roster: references are checked, then effective keys resolved in the
order of registration. Every resolved checker is recorded, and the completed registry. -/
def Roster.freeze (roster : Roster) : Logged Failure Registry :=
  match roster.dangling? with
  | some id => ⟨.error (.unknownChecker id), []⟩
  | none =>
    let (keyTable, outcome) := roster.resolveAll [] roster.ids
    let log := keyTable.map fun (id, keys) => Event.resolved id keys
    match outcome with
    | .error cause => ⟨.error cause, log⟩
    | .ok () => ⟨.ok { roster, keyTable }, log ++ [.froze roster.size]⟩

namespace Registry

/-- Registers the checkers of a list and makes their registry. -/
def ofCheckers (checkers : List Checker) : Logged Failure Registry :=
  let (roster, registering) := Roster.empty.registerAll checkers
  registering.andThen fun () => roster.freeze

/-- All keys that silence a checker, the wildcard apart. -/
def effectiveKeys (registry : Registry) (id : CheckerId) : Except Failure KeySet :=
  match registry.keyTable.lookup id with
  | some keys => .ok keys
  | none => .error (.unknownChecker id)

/-- The checker of a name. -/
def checker (registry : Registry) (id : CheckerId) : Except Failure Checker :=
  match registry.roster.checker? id with
  | some found => .ok found
  | none => .error (.unknownChecker id)

/-- The members of a checker, in order; none for a standalone one. -/
def membersOf (registry : Registry) (id : CheckerId) : Except Failure (List CheckerId) :=
  (registry.checker id).map (·.members)

/-- Whether a name is registered. -/
def contains (registry : Registry) (id : CheckerId) : Bool := registry.roster.contains id

/-- The names in the order of registration. -/
def ids (registry : Registry) : List CheckerId := registry.roster.ids

/-- The number of checkers. -/
def size (registry : Registry) : Nat := registry.roster.size

/-- Whether the registry has no checker. -/
def isEmpty (registry : Registry) : Bool := registry.roster.isEmpty

end Registry

end Suppression
