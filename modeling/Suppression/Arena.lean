import Suppression.Failure
import Suppression.Scope
/-!
# Arenas

An arena is the flat store of a program's elements. An element's number is its place, and it can be
added only inside an element that is there already, so every scope chain of an arena runs towards
smaller numbers. A list of elements from elsewhere is let in by `Arena.ofElements` if it has that
form (`ofElements_eq_ok_iff` says when).
-/

namespace Suppression

/-- The elements of a program, each at the place of its number. -/
structure Arena where
  /-- The elements in the order in which they were added. -/
  elements : Array Element := #[]
deriving DecidableEq, Inhabited

namespace Arena

/-- The arena without elements. -/
def empty : Arena := {}

/-- The number of elements. -/
def size (arena : Arena) : Nat := arena.elements.size

/-- Whether there is no element. -/
def isEmpty (arena : Arena) : Bool := arena.elements.isEmpty

/-- The element of a number. -/
def get? (arena : Arena) (id : ElementId) : Option Element := arena.elements[id.toNat]?

/-- The number that the next element gets: the element count, as a 32-bit word. -/
def nextId (arena : Arena) : ElementId := UInt32.ofNat arena.size

/-! ## Adding elements -/

/-- The arena with one more element, and the number of that element. -/
def push (arena : Arena) (kind : ElementKind) (name : String) (enclosing : Option ElementId)
    (suppressions : List String) : ElementId × Arena :=
  (arena.nextId,
    ⟨arena.elements.push { id := arena.nextId, kind, name, enclosing, suppressions }⟩)

/-- Adds an element that nothing encloses. -/
def addCompilationUnit (arena : Arena) (name : String) (suppressions : List String) :
    ElementId × Arena :=
  arena.push .compilationUnit name none suppressions

/-- Adds an element inside another one, which has to be in the arena. The arena that there is
afterwards comes with the number of the element or with the reason why it is refused. -/
@[inline]
def addChild (arena : Arena) (enclosing : ElementId) (kind : ElementKind) (name : String)
    (suppressions : List String) : Except Misplacement ElementId × Arena :=
  if (arena.get? enclosing).isSome then
    let (id, next) := arena.push kind name (some enclosing) suppressions
    (.ok id, next)
  else
    (.error (.unknownEnclosing arena.nextId enclosing), arena)

/-- Inside an element of the arena another one is added. -/
theorem addChild_of_known {arena : Arena} {enclosing : ElementId}
    (h : (arena.get? enclosing).isSome = true) (kind : ElementKind) (name : String)
    (suppressions : List String) :
    arena.addChild enclosing kind name suppressions =
      (.ok arena.nextId, (arena.push kind name (some enclosing) suppressions).2) :=
  if_pos h

/-- For want of the element around it an element is refused, and the arena stays as it is. -/
theorem addChild_of_unknown {arena : Arena} {enclosing : ElementId}
    (h : ¬ (arena.get? enclosing).isSome = true) (kind : ElementKind) (name : String)
    (suppressions : List String) :
    arena.addChild enclosing kind name suppressions =
      (.error (.unknownEnclosing arena.nextId enclosing), arena) :=
  if_neg h

/-- The elements before an added one stay what they are. -/
theorem getElem?_push_of_lt {arena : Arena} {kind : ElementKind} {name : String}
    {enclosing : Option ElementId} {suppressions : List String} {i : Nat} (h : i < arena.size) :
    (arena.push kind name enclosing suppressions).2.elements[i]? = arena.elements[i]? := by
  simp only [push, Array.getElem?_push]
  rw [if_neg (by simp only [size] at h; omega)]

/-! ## Looking outward -/

/-- The element around an element. -/
def enclosing (arena : Arena) (id : ElementId) : Option ElementId :=
  (arena.get? id).bind (·.enclosing)

/-- The suppression strings on an element; an unknown one has none. -/
def strings (arena : Arena) (id : ElementId) : List String :=
  ((arena.get? id).map (·.suppressions)).getD []

/-- The arena as a host of elements. -/
def host (arena : Arena) : Host := ⟨arena.enclosing, arena.strings⟩

/-! ## Elements from elsewhere -/

/-- Finds the first element that is not at the place of its number, or is inside an element that
does not come before it. Places count from `position`. -/
def firstMisplaced (position : Nat) : List Element → Option Misplacement
  | [] => none
  | element :: rest =>
    if element.id ≠ UInt32.ofNat position then
      some (.outOfOrder (UInt32.ofNat position) element.id)
    else
      match element.enclosing with
      | none => firstMisplaced (position + 1) rest
      | some enclosing =>
        if element.id ≤ enclosing then some (.unknownEnclosing element.id enclosing)
        else firstMisplaced (position + 1) rest

/-- The arena of a list of elements that are in order. -/
def ofElements (elements : List Element) : Except Misplacement Arena :=
  match firstMisplaced 0 elements with
  | some cause => .error cause
  | none => .ok ⟨elements.toArray⟩

/-- An arena is made of exactly the listed elements, and only if none is misplaced. -/
theorem ofElements_eq_ok_iff {elements : List Element} {arena : Arena} :
    ofElements elements = .ok arena ↔
      firstMisplaced 0 elements = none ∧ arena.elements = elements.toArray := by
  unfold ofElements
  cases h : firstMisplaced 0 elements with
  | some cause => simp
  | none =>
    cases arena
    simp [eq_comm]

/-- The elements in the order of their numbers. -/
def toElements (arena : Arena) : List Element := arena.elements.toList

/-- The numbers and names of all elements, in order. -/
def names (arena : Arena) : List (ElementId × String) :=
  arena.toElements.map fun element => (element.id, element.name)

end Arena

end Suppression
