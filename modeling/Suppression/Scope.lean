import Std.Data.TreeSet
import Suppression.Element
/-!
# Scopes

A host of program elements tells which element encloses which, and what suppression strings are
written on each. The *scope chain* of an element is the element, its enclosing element, the one
around that, and so on outward. A host is not trusted to keep its elements free of loops: the walk
along the chain remembers the elements it has passed and stops at the first one it meets again.

Two descriptions of the chain stand side by side: the walk, step by step (`Walk.next`), and the
iterated enclosing relation (`Host.ancestor`).
-/

namespace Suppression

/-- Read access to the elements of a program. -/
structure Host where
  /-- The element around an element. -/
  enclosing : ElementId → Option ElementId
  /-- The suppression strings on an element, in order. -/
  strings : ElementId → List String

namespace Host

/-- The element reached from `start` by going outward `n` times. -/
def ancestor (host : Host) (start : ElementId) : Nat → Option ElementId
  | 0 => some start
  | n + 1 => (host.ancestor start n).bind host.enclosing

/-- Going outward from the enclosing element is going outward once more. -/
theorem ancestor_succ' {host : Host} {start : ElementId} (n : Nat) :
    host.ancestor start (n + 1) = (host.enclosing start).bind (host.ancestor · n) := by
  induction n with
  | zero => cases h : host.enclosing start <;> simp [ancestor, h]
  | succ n ih =>
    rw [ancestor, ih]
    cases host.enclosing start <;> simp [ancestor]

end Host

/-! ## The walk -/

/-- The state of a walk outward. -/
structure Walk where
  /-- The element that comes next. -/
  pending : Option ElementId
  /-- The elements passed. -/
  visited : Std.TreeSet ElementId := ∅
  /-- The element at which the walk came back to its own trace. -/
  revisited : Option ElementId := none

namespace Walk

/-- The walk that has not begun. -/
def start (element : ElementId) : Walk := { pending := some element }

/-- One step: the next element of the chain, if there is one, and the walk after it. -/
def next (host : Host) (walk : Walk) : Option ElementId × Walk :=
  match walk.pending with
  | none => (none, walk)
  | some current =>
    if walk.visited.contains current then
      (none, { walk with pending := none, revisited := some current })
    else
      (some current,
        { walk with pending := host.enclosing current, visited := walk.visited.insert current })

/-- A walk with nothing ahead stays as it is. -/
theorem next_of_pending_none {host : Host} {walk : Walk} (h : walk.pending = none) :
    walk.next host = (none, walk) := by
  simp [next, h]

/-- A step onto an element that was passed ends the walk there. -/
theorem next_of_visited {host : Host} {walk : Walk} {current : ElementId}
    (h : walk.pending = some current) (hv : walk.visited.contains current = true) :
    walk.next host = (none, { walk with pending := none, revisited := some current }) := by
  simp [next, h, hv]

/-- A step onto a new element yields it and looks outward. -/
theorem next_of_new {host : Host} {walk : Walk} {current : ElementId}
    (h : walk.pending = some current) (hv : walk.visited.contains current = false) :
    walk.next host = (some current,
      { walk with pending := host.enclosing current, visited := walk.visited.insert current }) := by
  simp [next, h, hv]

/-- The results of the first `n` steps, each with the walk after it. -/
def steps (host : Host) : Nat → Walk → List (Option ElementId × Walk)
  | 0, _ => []
  | n + 1, walk =>
    let step := walk.next host
    step :: steps host n step.2

end Walk

/-! ## The whole chain -/

/-- A chain of elements, nearest first, and the element at which it closes into a loop. -/
structure Chain where
  /-- The elements, nearest first. -/
  elements : List ElementId
  /-- The element that comes again after the last one, if the chain loops. -/
  revisited : Option ElementId
deriving DecidableEq

namespace Walk

/-- Walks until nothing comes, for at most `fuel` steps. -/
def run (host : Host) : Nat → Walk → Chain
  | 0, walk => ⟨[], walk.revisited⟩
  | fuel + 1, walk =>
    match walk.next host with
    | (none, last) => ⟨[], last.revisited⟩
    | (some current, onward) =>
      let rest := run host fuel onward
      ⟨current :: rest.elements, rest.revisited⟩

end Walk

namespace Host

/-- No chain has more steps than this: there are that many elements, and one step finds the end. -/
def stepLimit : Nat := UInt32.size + 1

/-- The scope chain of an element. -/
def chain (host : Host) (start : ElementId) : Chain :=
  (Walk.start start).run host stepLimit

end Host

end Suppression
