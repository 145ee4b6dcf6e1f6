import Suppression.Json.Record
import Suppression.Json.Variant
import Suppression.Match
/-!
# The form of matches

The place of a match is the name `global`, or an object that holds the number of an element.
-/

namespace Suppression

namespace MatchScope

/-- The written name of a place on an element. -/
def elementName : String := "element"

/-- The written name of the global place. -/
def globalName : String := "global"

/-- The places by name. -/
def variants : List (Variant MatchScope) :=
  [.holding elementName fun levels text => do
      let (id, rest) ← Form.word32.read levels text
      return (.element id, rest),
    .plain globalName .global]

/-- The form of a place. -/
def form : Form MatchScope where
  write
    | .element id => .object [(elementName, Form.word32.write id)]
    | .global => .string globalName
  read := Variant.read variants

end MatchScope

namespace Match

/-- A match as a record. -/
def record : Record Match where
  name := "SuppressionMatch"
  start := { scope := .global, directive := "" }
  fields := [
    .needed "scope" MatchScope.form (·.scope) (fun scope found => { found with scope }),
    .needed "directive" .string (·.directive) (fun directive found => { found with directive })]

/-- The form of a match. -/
def form : Form Match := record.form

end Match

end Suppression
