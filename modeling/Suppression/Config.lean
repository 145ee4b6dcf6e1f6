/-!
# Settings

How directives are matched and batches are judged.
-/

namespace Suppression

/-- The settings of an engine. -/
structure Config where
  /-- Directives that hold everywhere, in order. -/
  globalSuppressions : List String := []
  /-- Whether a directive may carry a qualifier before its key. -/
  allowQualifiedKeys : Bool := true
  /-- The size up to which a batch is judged in order. -/
  parallelThreshold : UInt64 := 256
deriving DecidableEq, Inhabited

end Suppression
