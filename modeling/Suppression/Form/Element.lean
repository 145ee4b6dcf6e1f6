import Suppression.Arena
import Suppression.Json.Record
import Suppression.Json.Variant
/-!
# The form of elements and arenas

An element is a record, its number a plain number and its kind a name. An arena is the list of its
elements; a list that is read is let in only if its elements are in order.
-/

namespace Suppression

namespace ElementKind

/-- The form of a kind. -/
def form : Form ElementKind where
  write kind := .string kind.name
  read := Variant.read (all.map fun kind => .plain kind.name kind)

end ElementKind

namespace Element

/-- An element as a record. -/
def record : Record Element where
  name := "ProgramElement"
  start := { id := 0, kind := .other, name := "" }
  fields := [
    .needed "id" .word32 (·.id) (fun id element => { element with id }),
    .needed "kind" ElementKind.form (·.kind) (fun kind element => { element with kind }),
    .needed "name" .string (·.name) (fun name element => { element with name }),
    .optional "enclosing" .word32 (·.enclosing)
      (fun enclosing element => { element with enclosing }),
    .defaulted "suppressions" (.list .string) (·.suppressions)
      (fun suppressions element => { element with suppressions })]

/-- The form of an element. -/
def form : Form Element := record.form

end Element

namespace Arena

/-- The form of an arena. -/
def form : Form Arena :=
  (Form.list Element.form).through toElements fun elements =>
    (ofElements elements).mapError (.refused ·.message)

end Arena

end Suppression
