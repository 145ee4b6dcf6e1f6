import Suppression.KeySet
/-!
# Checkers

A checker is known by its name. It declares keys of its own, may inherit from a parent checker, and
may be composed of members. The parent and the members are its *references*; through them it also
answers to the keys of other checkers.
-/

namespace Suppression

/-- The name of a checker. Two names are the same only if they are equal code point by code
point. -/
abbrev CheckerId := String

/-- The string that suppresses every checker. No checker may declare it as a key. -/
def wildcard : String := "all"

/-- Whether a checker runs alone or is composed of others. -/
inductive CheckerKind where
  /-- It reports findings of its own. -/
  | standalone
  /-- It runs its members in order. -/
  | composite (members : List CheckerId)
deriving DecidableEq, Inhabited

namespace CheckerKind

/-- The members of a composite, in order; a standalone checker has none. -/
def members : CheckerKind → List CheckerId
  | standalone => []
  | composite ids => ids

/-- Whether the kind is composite, even without members. -/
def isComposite : CheckerKind → Bool
  | standalone => false
  | composite _ => true

end CheckerKind

/-- What is known of one checker. -/
structure Checker where
  /-- Its name. -/
  id : CheckerId
  /-- The checker it inherits keys from. -/
  parent : Option CheckerId := none
  /-- The keys it declares itself, in order and as often as written. -/
  keys : List String := []
  /-- Whether it runs alone or is composed. -/
  kind : CheckerKind := .standalone
deriving DecidableEq, Inhabited

namespace Checker

/-- A composite with the given members. -/
def composed (id : CheckerId) (members : List CheckerId) : Checker :=
  { id, kind := .composite members }

/-- The checker below another parent. -/
def withParent (checker : Checker) (parent : CheckerId) : Checker :=
  { checker with parent := some parent }

/-- The checker with further keys after its own. -/
def withKeys (checker : Checker) (keys : List String) : Checker :=
  { checker with keys := checker.keys ++ keys }

/-- The members, in order. -/
def members (checker : Checker) : List CheckerId := checker.kind.members

/-- Whether the checker is composite. -/
def isComposite (checker : Checker) : Bool := checker.kind.isComposite

/-- The checkers it refers to: the parent, if any, then the members in order. -/
def references (checker : Checker) : List CheckerId :=
  checker.parent.toList ++ checker.members

/-- A reference is the parent or a member. -/
theorem mem_references {checker : Checker} {id : CheckerId} :
    id ∈ checker.references ↔ checker.parent = some id ∨ id ∈ checker.members := by
  simp [references]

/-- The set of the keys it declares itself. -/
def ownKeys (checker : Checker) : KeySet := KeySet.ofList checker.keys

/-- The own keys are the declared ones. -/
theorem mem_ownKeys {checker : Checker} {key : String} :
    key ∈ checker.ownKeys ↔ key ∈ checker.keys :=
  KeySet.mem_ofList

end Checker

end Suppression
