import Suppression.Config
import Suppression.Directive
import Suppression.Registry.Slot
import Suppression.Scope
/-!
# The matching rule

An engine answers whether a checker is silenced at an element. The element's scope chain is searched
from the nearest element outward for a directive that silences the checker; the first one found is
the match. If the chain loops without a match, the host's data are at fault. Otherwise the global
suppressions are searched, as if they stood around every chain.
-/

namespace Suppression

/-! ## Searching a chain -/

/-- What a search along a scope chain comes to. -/
inductive ChainSearch where
  /-- An accepted string, on the nearest element that has one. -/
  | hit (element : ElementId) (directive : String)
  /-- The chain ends without an accepted string. -/
  | exhausted
  /-- The chain loops without an accepted string, and this element comes again. -/
  | looped (revisited : ElementId)
deriving DecidableEq

/-- A walk that has ended without a hit: it looped if it says so. -/
def Walk.missed (walk : Walk) : ChainSearch :=
  match walk.revisited with
  | none => .exhausted
  | some revisited => .looped revisited

/-- Walks on for at most `fuel` steps until an element carries an accepted string. -/
def Walk.search (host : Host) (accepts : String → Bool) : Nat → Walk → ChainSearch
  | 0, walk => walk.missed
  | fuel + 1, walk =>
    match walk.next host with
    | (none, last) => last.missed
    | (some current, onward) =>
      match (host.strings current).find? accepts with
      | some directive => .hit current directive
      | none => onward.search host accepts fuel

/-- Searches the scope chain of an element. -/
def Host.search (host : Host) (accepts : String → Bool) (element : ElementId) : ChainSearch :=
  (Walk.start element).search host accepts Host.stepLimit

/-! ## The engine -/

/-- A registry of checkers with settings. -/
structure Engine where
  /-- The checkers. -/
  registry : Registry
  /-- The settings. -/
  config : Config := {}

namespace Engine

/-- The engine over the global registry, once there is one. -/
def ofSlot (slot : Slot) (config : Config) : Option Engine :=
  slot.content.map ({ registry := ·, config })

/-- Whether a directive silences a checker that answers to `keys`. -/
def accepts (engine : Engine) (keys : KeySet) (directive : String) : Bool :=
  Directive.silences directive keys engine.config.allowQualifiedKeys

/-- The first global suppression that silences a checker, as a match. -/
def globalMatch (engine : Engine) (keys : KeySet) : Option Match :=
  (engine.config.globalSuppressions.find? (engine.accepts keys)).map (⟨.global, ·⟩)

/-- The nearest match of a checker at an element, or none. -/
def findMatch (engine : Engine) (host : Host) (checker : CheckerId) (element : ElementId) :
    Except Failure (Option Match) :=
  match engine.registry.effectiveKeys checker with
  | .error cause => .error cause
  | .ok keys =>
    match host.search (engine.accepts keys) element with
    | .hit scope directive => .ok (some ⟨.element scope, directive⟩)
    | .looped revisited => .error (.cyclicScope element revisited)
    | .exhausted => .ok (engine.globalMatch keys)

/-- A checker that is not registered has no verdict, whatever the host holds. -/
theorem findMatch_of_effectiveKeys_error {engine : Engine} {checker : CheckerId} {cause : Failure}
    (h : engine.registry.effectiveKeys checker = .error cause) (host : Host)
    (element : ElementId) : engine.findMatch host checker element = .error cause := by
  simp [findMatch, h]

/-- Whether a checker is silenced at an element. The verdict is recorded. -/
def isSuppressed (engine : Engine) (host : Host) (checker : CheckerId) (element : ElementId) :
    Logged Failure Bool :=
  match engine.findMatch host checker element with
  | .error cause => ⟨.error cause, []⟩
  | .ok (some found) => ⟨.ok true, [.suppressed checker element found]⟩
  | .ok none => ⟨.ok false, [.notSuppressed checker element]⟩

/-- The verdict is whether there is a match. -/
theorem isSuppressed_outcome (engine : Engine) (host : Host) (checker : CheckerId)
    (element : ElementId) :
    (engine.isSuppressed host checker element).outcome =
      (engine.findMatch host checker element).map Option.isSome := by
  unfold isSuppressed
  split <;> simp_all [Except.map]

end Engine

end Suppression
