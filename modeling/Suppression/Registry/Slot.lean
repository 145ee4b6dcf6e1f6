import Suppression.Registry.Basic
/-!
# The global registry

One place holds the registry that all parts of a program share. It is filled once and then stays as
it is.
-/

namespace Suppression

/-- The place of the shared registry. -/
structure Slot where
  /-- The registry, once one is installed. -/
  content : Option Registry := none

namespace Slot

instance : Inhabited Slot := ⟨{}⟩

/-- The slot in which nothing is installed. -/
def empty : Slot := {}

/-- Installs a registry and records it; a slot that is filled already refuses. -/
def install (slot : Slot) (registry : Registry) : Slot × Logged Failure Unit :=
  match slot.content with
  | some _ => (slot, ⟨.error .alreadyInstalled, []⟩)
  | none => (⟨some registry⟩, ⟨.ok (), [.installed registry.size]⟩)

/-- An empty slot takes what is installed. -/
theorem install_of_none {slot : Slot} (h : slot.content = none) (registry : Registry) :
    slot.install registry = (⟨some registry⟩, ⟨.ok (), [.installed registry.size]⟩) := by
  simp [install, h]

/-- What is installed stays. -/
theorem install_of_some {slot : Slot} {old : Registry} (h : slot.content = some old)
    (registry : Registry) :
    slot.install registry = (slot, ⟨.error .alreadyInstalled, []⟩) := by
  simp [install, h]

end Slot

end Suppression
