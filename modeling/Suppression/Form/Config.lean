import Suppression.Config
import Suppression.Json.Record
/-!
# The form of settings
-/

namespace Suppression.Config

/-- Settings as a record. A setting that is not given has its usual value. -/
def record : Record Config where
  name := "MatcherConfig"
  start := {}
  fields := [
    .defaulted "global_suppressions" (.list .string) (·.globalSuppressions)
      (fun globalSuppressions config => { config with globalSuppressions }),
    .defaulted "allow_qualified_keys" .bool (·.allowQualifiedKeys)
      (fun allowQualifiedKeys config => { config with allowQualifiedKeys }),
    .defaulted "parallel_threshold" .word64 (·.parallelThreshold)
      (fun parallelThreshold config => { config with parallelThreshold })]

/-- The form of settings. -/
def form : Form Config := record.form

end Suppression.Config
