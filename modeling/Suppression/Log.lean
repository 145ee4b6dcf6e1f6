import Suppression.Failure
import Suppression.Match
import Suppression.Text.Quoted
/-!
# Log records

Some operations leave records of what they did. A record is an event; its level, the component that
writes it and its wording follow from the event. `Logged` is a computation that may fail and keeps
the records written until then.
-/

namespace Suppression

/-- How much attention a record asks for. -/
inductive Level where
  | debug
  | trace
deriving DecidableEq

/-- The part of the program that writes a record. -/
inductive Component where
  | registry
  | globalRegistry
  | manifest
  | matching
  | batch
deriving DecidableEq

/-- Something that happened. -/
inductive Event where
  /-- A checker was accepted. -/
  | registered (checker : Checker)
  /-- The effective keys of a checker are known. -/
  | resolved (checker : CheckerId) (keys : KeySet)
  /-- A registry of so many checkers was completed. -/
  | froze (count : Nat)
  /-- A registry of so many checkers became the global one. -/
  | installed (count : Nat)
  /-- A manifest of so many checkers was read from a file. -/
  | loaded (count : Nat) (path : String)
  /-- A checker is silenced at an element. -/
  | suppressed (checker : CheckerId) (element : ElementId) (found : Match)
  /-- A checker is not silenced at an element. -/
  | notSuppressed (checker : CheckerId) (element : ElementId)
  /-- So many findings of a batch were kept. -/
  | kept (count total : Nat)
deriving DecidableEq

namespace Event

/-- The level of a record. -/
def level : Event → Level
  | resolved .. | notSuppressed .. => .trace
  | registered .. | froze .. | installed .. | loaded .. | suppressed .. | kept .. => .debug

/-- The component that writes a record. -/
def component : Event → Component
  | registered .. | resolved .. | froze .. => .registry
  | installed .. => .globalRegistry
  | loaded .. => .manifest
  | suppressed .. | notSuppressed .. => .matching
  | kept .. => .batch

/-- A name of a checker as it stands in a list of members. -/
def memberText (id : CheckerId) : String := "CheckerId(" ++ Text.quote id ++ ")"

/-- The keys of a set in a row. -/
def keySetText (keys : KeySet) : String :=
  "SuppressionKeySet(" ++ Text.enclose "\x7b" "\x7d" (keys.toList.map Text.quote) ++ ")"

/-- The place of a match. -/
def scopeText : MatchScope → String
  | .element id => "Element(ElementId(" ++ Nat.repr id.toNat ++ "))"
  | .global => "Global"

/-- The wording of a record. -/
def text : Event → String
  | registered checker =>
    "registering checker " ++ checker.id ++
      " (parent: " ++ Text.quoteOption checker.parent ++
      ", keys: " ++ Text.quoteList checker.keys ++
      ", members: " ++ Text.enclose "[" "]" (checker.members.map memberText) ++ ")"
  | resolved checker keys => "checker " ++ checker ++ " recognizes " ++ keySetText keys
  | froze count => "froze key registry with " ++ Nat.repr count ++ " checkers"
  | installed count => "installed global key registry (" ++ Nat.repr count ++ " checkers)"
  | loaded count path => "loaded " ++ Nat.repr count ++ " checkers from " ++ path
  | suppressed checker element found =>
    "suppressed " ++ checker ++ " at " ++ elementText element ++ ": " ++
      Text.quote found.directive ++ " via " ++ scopeText found.scope
  | notSuppressed checker element =>
    "not suppressed: " ++ checker ++ " at " ++ elementText element
  | kept count total =>
    "suppression filter kept " ++ Nat.repr count ++ " of " ++ Nat.repr total ++ " diagnostics"

end Event

/-! ## Computations with a log -/

/-- What a computation comes to, and the records it leaves; a failed one keeps its records. -/
structure Logged (ε α : Type) where
  /-- The value, or why there is none. -/
  outcome : Except ε α
  /-- The records, oldest first. -/
  log : List Event := []

namespace Logged

variable {ε δ α β : Type}

/-- The continuation runs if there is a value, and its records come after. -/
def andThen (first : Logged ε α) (next : α → Logged ε β) : Logged ε β :=
  match first.outcome with
  | .error cause => ⟨.error cause, first.log⟩
  | .ok value =>
    let second := next value
    ⟨second.outcome, first.log ++ second.log⟩

/-- The same computation with its value changed. -/
def map (f : α → β) (first : Logged ε α) : Logged ε β := ⟨first.outcome.map f, first.log⟩

instance : Monad (Logged ε) where
  pure value := ⟨.ok value, []⟩
  map := map
  bind := andThen

/-- Writes one record. -/
def record (event : Event) : Logged ε Unit := ⟨.ok (), [event]⟩

/-- The same computation with its failure put in another form. -/
def mapError (f : ε → δ) (first : Logged ε α) : Logged δ α :=
  ⟨first.outcome.mapError f, first.log⟩

/-- A plain value leaves no record. -/
@[simp]
theorem pure_eq (value : α) : (pure value : Logged ε α) = ⟨.ok value, []⟩ := rfl

/-- Changing the value leaves the records as they are. -/
@[simp]
theorem map_eq (f : α → β) (first : Logged ε α) :
    f <$> first = ⟨first.outcome.map f, first.log⟩ := rfl

/-- A failure stops the computation. -/
@[simp]
theorem bind_error (cause : ε) (log : List Event) (next : α → Logged ε β) :
    (Logged.mk (.error cause) log >>= next) = ⟨.error cause, log⟩ := rfl

/-- Records of the continuation follow those before it. -/
@[simp]
theorem bind_ok (value : α) (log : List Event) (next : α → Logged ε β) :
    (Logged.mk (.ok value) log >>= next) =
      ⟨(next value).outcome, log ++ (next value).log⟩ := rfl

end Logged

end Suppression
