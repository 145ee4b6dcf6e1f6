import Suppression.Proofs.Registration
/-!
# Registering up to the first refusal

A list of checkers is registered in one call as if each checker were registered in a call of its
own, until one is refused: those before it have joined, it and those after it have left no trace,
and the call comes to what its own call would have come to (`Roster.registerAll_stops`). A refusal
leaves the roster as it is, so at every point at which registering may stop the roster is in order
(`Roster.requestAll_stops`), and a later call or the making of the registry can go on from there.
-/

namespace Suppression.Roster

/-! ## Calls that are refused -/

/-- A single call that fails leaves the roster as it is, and no record. -/
theorem register_of_error {roster : Roster} {checker : Checker} {cause : Failure}
    (h : (roster.register checker).2.outcome = .error cause) :
    roster.register checker = (roster, ⟨.error cause, []⟩) := by
  cases hobs : roster.obstacle? checker with
  | none =>
    rw [register_of_free hobs] at h
    exact absurd h (by simp)
  | some conflict =>
    rw [register_of_obstacle hobs] at h ⊢
    rw [← Except.error.inj h]

/-! ## One by one -/

/-- The checkers are registered one by one, in calls of their own that all succeed, and this leads
from one roster to another. -/
inductive Joins : Roster → List Checker → Roster → Prop
  /-- Nobody is left to register. -/
  | nil (roster : Roster) : Joins roster [] roster
  /-- The first checker is accepted, and then the others are. -/
  | cons {roster last : Roster} {checker : Checker} {rest : List Checker}
      (accepted : (roster.register checker).2.outcome = .ok ())
      (others : Joins (roster.register checker).1 rest last) : Joins roster (checker :: rest) last

/-- What registering checkers one by one until one is refused may come to, with the records that it
leaves. -/
inductive Stops (roster : Roster) (checkers : List Checker) : Roster × Logged Failure Unit → Prop
  /-- All are accepted. -/
  | never {last : Roster} (joins : roster.Joins checkers last)
      (added : last.checkers.toList = roster.checkers.toList ++ checkers) :
      Stops roster checkers (last, ⟨.ok (), checkers.map .registered⟩)
  /-- One is refused, and those before it are accepted. -/
  | refused {before after : List Checker} {checker : Checker} {last : Roster} {cause : Failure}
      (split : checkers = before ++ checker :: after) (joins : roster.Joins before last)
      (added : last.checkers.toList = roster.checkers.toList ++ before)
      (refused : last.register checker = (last, ⟨.error cause, []⟩)) :
      Stops roster checkers (last, ⟨.error cause, before.map .registered⟩)

/-- If the first checker is accepted, the others decide where registering stops. -/
theorem Stops.cons {roster : Roster} {checker : Checker} {rest : List Checker} {last : Roster}
    {outcome : Except Failure Unit} {log : List Event} (h : roster.obstacle? checker = none)
    (stops : (roster.push checker).Stops rest (last, ⟨outcome, log⟩)) :
    roster.Stops (checker :: rest) (last, ⟨outcome, .registered checker :: log⟩) := by
  have hregister := register_of_free h
  have haccepted : (roster.register checker).2.outcome = .ok () := by rw [hregister]
  have hjoins : ∀ {front : List Checker}, (roster.push checker).Joins front last →
      roster.Joins (checker :: front) last := by
    intro front joins
    refine Joins.cons haccepted ?_
    rw [hregister]
    exact joins
  have hadded : ∀ {front : List Checker},
      last.checkers.toList = (roster.push checker).checkers.toList ++ front →
      last.checkers.toList = roster.checkers.toList ++ checker :: front := by
    intro front added
    rw [added, checkers_push, List.append_assoc, List.singleton_append]
  cases stops with
  | never joins added => exact Stops.never (hjoins joins) (hadded added)
  | @refused before after other _ cause split joins added refused =>
    have hsplit : checker :: rest = (checker :: before) ++ other :: after := by
      rw [split, List.cons_append]
    exact Stops.refused hsplit (hjoins joins) (hadded added) refused

/-- **A list is registered up to its first checker that is refused**, exactly as by single calls. -/
theorem registerAll_stops (roster : Roster) (checkers : List Checker) :
    roster.Stops checkers (roster.registerAll checkers) := by
  induction checkers generalizing roster with
  | nil =>
    have hadded : roster.checkers.toList = roster.checkers.toList ++ [] := by simp
    exact Stops.never (Joins.nil roster) hadded
  | cons checker rest ih =>
    cases h : roster.obstacle? checker with
    | none =>
      rw [registerAll_cons_of_free rest h]
      exact Stops.cons h (ih (roster.push checker))
    | some cause =>
      rw [registerAll_cons_of_obstacle rest h]
      have hsplit : checker :: rest = [] ++ checker :: rest := (List.nil_append _).symm
      have hadded : roster.checkers.toList = roster.checkers.toList ++ [] := by simp
      exact Stops.refused hsplit (Joins.nil roster) hadded (register_of_obstacle h)

/-! ## After any calls -/

/-- **After any calls, successful or not, a roster is in order and registers as it should.** No name
comes twice, nobody declares the wildcard, and the index tells for a name the place at which the
checker of that name stands, and no other place. A single call that fails leaves the whole roster as
it is. A call for a list does what single calls for its checkers do up to the first that is refused,
and comes to what that one comes to. -/
theorem requestAll_stops (requests : List Request) :
    ((Roster.empty.requestAll requests).checkers.toList.map (·.id)).Nodup ∧
    (∀ checker ∈ (Roster.empty.requestAll requests).checkers.toList, wildcard ∉ checker.keys) ∧
    (∀ id place, (Roster.empty.requestAll requests).index[id]? = some place ↔
      ∃ checker : Checker, (Roster.empty.requestAll requests).checkers[place]? = some checker ∧
        checker.id = id) ∧
    (∀ checker cause,
      ((Roster.empty.requestAll requests).register checker).2.outcome = .error cause →
      ((Roster.empty.requestAll requests).register checker).1 =
        Roster.empty.requestAll requests) ∧
    ∀ checkers, (Roster.empty.requestAll requests).Stops checkers
      ((Roster.empty.requestAll requests).registerAll checkers) := by
  have coherent : (Roster.empty.requestAll requests).Coherent :=
    (Arises.empty.requestAll requests).coherent
  refine ⟨coherent.nodup_ids, coherent.wildcard_free, coherent.index_iff, ?_, registerAll_stops _⟩
  intro checker cause h
  rw [register_of_error h]

/-- A list that is cut short by a wildcard, and then a taken name. -/
def shortRequests : List Request :=
  [.several [{ id := "a" }, { id := "bad", keys := ["x", wildcard] }, { id := "late" }],
    .one { id := "a", keys := ["y"] }]

/-- A list with a taken name. -/
def tripped : List Checker := [{ id := "late" }, { id := "a" }, { id := "b" }]

/-- After these calls a taken name is refused without a trace, and a list is registered up to it. -/
theorem shortRequests_stops :
    ((Roster.empty.requestAll shortRequests).register { id := "a" }).2.outcome =
      .error (.conflict (.duplicateIdentity "a")) ∧
    ((Roster.empty.requestAll shortRequests).register { id := "a" }).1 =
      Roster.empty.requestAll shortRequests ∧
    ∃ before checker after last, tripped = before ++ checker :: after ∧
      (Roster.empty.requestAll shortRequests).Joins before last ∧
      ((Roster.empty.requestAll shortRequests).registerAll tripped).1 = last ∧
      (last.register checker).2.outcome = .error (.conflict (.duplicateIdentity "a")) := by
  obtain ⟨-, -, -, hrefused, hstops⟩ := requestAll_stops shortRequests
  have htaken : ((Roster.empty.requestAll shortRequests).register { id := "a" }).2.outcome =
      .error (.conflict (.duplicateIdentity "a")) := by rfl
  have houtcome : ((Roster.empty.requestAll shortRequests).registerAll tripped).2.outcome =
      .error (.conflict (.duplicateIdentity "a")) := by rfl
  have hlist := hstops tripped
  refine ⟨htaken, hrefused _ _ htaken, ?_⟩
  generalize (Roster.empty.requestAll shortRequests).registerAll tripped = result
    at hlist houtcome
  cases hlist with
  | never joins added => exact absurd houtcome (by simp)
  | @refused before after checker last cause split joins added refused =>
    refine ⟨before, checker, after, last, split, joins, rfl, ?_⟩
    rw [refused]
    exact houtcome

end Suppression.Roster
