import Suppression.Checker
import Suppression.Element
/-!
# Failures

Why a request is refused, and the sentence that tells the user so. A *conflict* is found while
checkers are registered or their links are followed; a *misplacement* while elements are put in
order; a *failure* is whatever can go wrong when checkers are set up and asked.
-/

namespace Suppression

/-- An element as it is written in a sentence. -/
def elementText (id : ElementId) : String := "#" ++ Nat.repr id.toNat

/-- Why checkers cannot stand in one registry. -/
inductive Conflict where
  /-- A checker declares the wildcard as a key. -/
  | reservedWildcard (checker : CheckerId)
  /-- A name is taken already. -/
  | duplicateIdentity (checker : CheckerId)
  /-- References lead back to where they started; the path names its first checker twice. -/
  | cycle (path : List CheckerId)
deriving DecidableEq

/-- The sentence for a conflict. -/
def Conflict.message : Conflict → String
  | reservedWildcard checker => "checker " ++ checker ++ " declares the reserved key \"all\""
  | duplicateIdentity checker => "checker " ++ checker ++ " is registered more than once"
  | cycle path => "checker lineage forms a cycle: " ++ String.intercalate " -> " path

/-- Why checkers cannot be set up or asked. -/
inductive Failure where
  /-- No checker of this name is registered. -/
  | unknownChecker (checker : CheckerId)
  /-- The checkers contradict each other. -/
  | conflict (cause : Conflict)
  /-- A registry has been installed before. -/
  | alreadyInstalled
  /-- The way outward from an element comes back to one it has passed. -/
  | cyclicScope (element revisited : ElementId)
deriving DecidableEq

/-- The sentence for a failure. -/
def Failure.message : Failure → String
  | unknownChecker checker => "unknown checker: " ++ checker
  | conflict cause => "invalid checker registration: " ++ cause.message
  | alreadyInstalled => "a global key registry is already installed"
  | cyclicScope element revisited =>
    "enclosing chain of element " ++ elementText element ++ " loops back to " ++
      elementText revisited

/-- Why elements cannot stand in one arena. -/
inductive Misplacement where
  /-- An element does not have the number of its place. -/
  | outOfOrder (expected found : ElementId)
  /-- The enclosing element does not come earlier. -/
  | unknownEnclosing (element enclosing : ElementId)
deriving DecidableEq

/-- The sentence for a misplacement. -/
def Misplacement.message : Misplacement → String
  | outOfOrder expected found =>
    "element ids must be dense: expected " ++ elementText expected ++ ", found " ++
      elementText found
  | unknownEnclosing element enclosing =>
    "element " ++ elementText element ++ " is enclosed by " ++ elementText enclosing ++
      ", which does not precede it"

end Suppression
