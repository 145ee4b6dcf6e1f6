/-!
# Program elements

A program element is a declaration of the analysed program. It knows the element that encloses it
and carries the suppression strings written on it.
-/

namespace Suppression

/-- The number of an element: a 32-bit word. -/
abbrev ElementId := UInt32

/-- What an element declares. -/
inductive ElementKind where
  | compilationUnit
  | package
  | type
  | method
  | field
  | localVariable
  | other
deriving DecidableEq, Inhabited

namespace ElementKind

/-- All kinds, in the order in which they are listed to the user. -/
def all : List ElementKind :=
  [compilationUnit, package, type, method, field, localVariable, other]

/-- Every kind is listed. -/
theorem mem_all (kind : ElementKind) : kind ∈ all := by
  cases kind <;> simp [all]

/-- The written name of a kind. -/
def name : ElementKind → String
  | compilationUnit => "compilation_unit"
  | package => "package"
  | type => "type"
  | method => "method"
  | field => "field"
  | localVariable => "variable"
  | other => "other"

/-- The kind with a given written name. -/
def ofName? (text : String) : Option ElementKind := all.find? (·.name == text)

/-- A kind is found again under its name. -/
theorem ofName?_name (kind : ElementKind) : ofName? kind.name = some kind := by
  cases kind <;> decide

end ElementKind

/-- One program element. -/
structure Element where
  /-- Its number. -/
  id : ElementId
  /-- What it declares. -/
  kind : ElementKind
  /-- Its name. -/
  name : String
  /-- The element around it; a compilation unit has none. -/
  enclosing : Option ElementId := none
  /-- The suppression strings written on it, in order. -/
  suppressions : List String := []
deriving DecidableEq, Inhabited

end Suppression
