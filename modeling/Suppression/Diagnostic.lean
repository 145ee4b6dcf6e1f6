import Suppression.Checker
import Suppression.Element
/-!
# Diagnostics

A diagnostic is something a checker reports about an element. One raised inside a composite names
the member that reported it.
-/

namespace Suppression

/-- A report of a checker about an element. -/
structure Diagnostic where
  /-- The checker that reports. -/
  checker : CheckerId
  /-- The element it is about. -/
  element : ElementId
  /-- The key of the message, if it has one. -/
  messageKey : Option String := none
  /-- The message, if there is one. -/
  message : Option String := none
deriving DecidableEq, Inhabited

end Suppression
