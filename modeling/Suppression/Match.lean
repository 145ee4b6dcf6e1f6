import Suppression.Element
/-!
# Matches

A match names the suppression string that silences a checker and the place where it stands.
-/

namespace Suppression

/-- Where a matching directive stands. -/
inductive MatchScope where
  /-- On an element of the scope chain. -/
  | element (id : ElementId)
  /-- In the list of global suppressions. -/
  | global
deriving DecidableEq, Inhabited

/-- A directive that silences a checker, and its place. -/
structure Match where
  /-- The place. -/
  scope : MatchScope
  /-- The directive, as it is written there. -/
  directive : String
deriving DecidableEq, Inhabited

end Suppression
