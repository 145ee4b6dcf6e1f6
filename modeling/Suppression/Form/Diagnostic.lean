import Suppression.Diagnostic
import Suppression.Json.Record
/-!
# The form of diagnostics
-/

namespace Suppression.Diagnostic

/-- A diagnostic as a record. -/
def record : Record Diagnostic where
  name := "Diagnostic"
  start := { checker := "", element := 0 }
  fields := [
    .needed "checker" .string (·.checker) (fun checker found => { found with checker }),
    .needed "element" .word32 (·.element) (fun element found => { found with element }),
    .optional "message_key" .string (·.messageKey)
      (fun messageKey found => { found with messageKey }),
    .optional "message" .string (·.message) (fun message found => { found with message })]

/-- The form of a diagnostic. -/
def form : Form Diagnostic := record.form

end Suppression.Diagnostic
