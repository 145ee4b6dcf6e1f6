import Mathlib.Data.List.Flatten
import Suppression.Proofs.CyclePath
/-!
# Runs of the resolution

The resolution told call by call, with one stack for all calls: a checker is put on it when its
references are followed and taken off when its keys are known, and after a failure the stack stays
as it is. A run has no budget, so that there is one is a statement: every roster has exactly one, it
ends with what freezing computes, the stack never holds a checker twice, and each checker is entered
once at most (`Roster.freeze_ends`). What makes it end is that the stack is made of distinct
registered checkers (`Roster.Underway`), so it cannot become longer than the roster.
-/

namespace Suppression.Roster

/-! ## Calls -/

/-- What the calls work on. -/
structure Progress where
  /-- The checkers under way, outermost first. -/
  path : List CheckerId
  /-- The keys that are known. -/
  table : KeyTable

/-- The checker is under way. -/
def Progress.enter (state : Progress) (id : CheckerId) : Progress :=
  { state with path := state.path ++ [id] }

/-- The last checker is not under way any more, and the keys of a checker are known. -/
def Progress.leave (state : Progress) (id : CheckerId) (keys : KeySet) : Progress :=
  ⟨state.path.dropLast, state.table ++ [(id, keys)]⟩

/-- What there is to do. One type for both, so that the runs are one inductive relation. -/
inductive Job where
  /-- Find the keys of a checker. -/
  | one (id : CheckerId)
  /-- Add the keys of several checkers to a set. -/
  | several (keys : KeySet) (targets : List CheckerId)

/-- The number of calls with which a job begins. -/
def Job.calls : Job → Nat
  | one _ => 1
  | several _ targets => targets.length

/-- What happens to a checker. -/
inductive Turn where
  /-- A call asks for its keys. -/
  | asked
  /-- They are not known, and its references are followed. -/
  | entered
  /-- They are known now. -/
  | left
deriving DecidableEq

/-- What happens to a checker, and how many calls are open and which checkers under way then. -/
structure Moment where
  /-- What happens. -/
  turn : Turn
  /-- The checker. -/
  id : CheckerId
  /-- The number of calls that have begun and not ended. -/
  depth : Nat
  /-- The checkers under way. -/
  path : List CheckerId
deriving DecidableEq

/-- The checkers with a turn of one kind, in order. -/
def idsAt (turn : Turn) (moments : List Moment) : List CheckerId :=
  (moments.filter (·.turn = turn)).map (·.id)

@[simp] theorem idsAt_nil (turn : Turn) : idsAt turn [] = [] := rfl

@[simp] theorem idsAt_cons (turn : Turn) (moment : Moment) (moments : List Moment) :
    idsAt turn (moment :: moments) =
      if moment.turn = turn then moment.id :: idsAt turn moments else idsAt turn moments := by
  unfold idsAt
  by_cases h : moment.turn = turn <;> simp [h]

@[simp] theorem idsAt_append (turn : Turn) (moments others : List Moment) :
    idsAt turn (moments ++ others) = idsAt turn moments ++ idsAt turn others := by
  simp [idsAt]

/-- A job is done in some nested calls: it takes one state to another with an outcome, and this is
what happens meanwhile. -/
inductive Runs (roster : Roster) :
    Nat → Progress → Job → Progress → Except Failure KeySet → List Moment → Prop
  /-- The keys of the checker are known. -/
  | known {depth : Nat} {state : Progress} {id : CheckerId} {keys : KeySet}
      (found : state.table.lookup id = some keys) :
      Runs roster depth state (.one id) state (.ok keys) [⟨.asked, id, depth, state.path⟩]
  /-- The checker is under way. -/
  | returns {depth : Nat} {state : Progress} {id : CheckerId}
      (fresh : state.table.lookup id = none) (again : id ∈ state.path) :
      Runs roster depth state (.one id) state
        (.error (.conflict (.cycle (cyclePath state.path id))))
        [⟨.asked, id, depth, state.path⟩]
  /-- There is no such checker. -/
  | misses {depth : Nat} {state : Progress} {id : CheckerId}
      (fresh : state.table.lookup id = none) (off : id ∉ state.path)
      (unknown : roster.checker? id = none) :
      Runs roster depth state (.one id) state (.error (.unknownChecker id))
        [⟨.asked, id, depth, state.path⟩]
  /-- The keys of all references are added to those of the checker. -/
  | settles {depth : Nat} {state inner : Progress} {id : CheckerId} {checker : Checker}
      {keys : KeySet} {moments : List Moment}
      (fresh : state.table.lookup id = none) (off : id ∉ state.path)
      (found : roster.checker? id = some checker)
      (body : Runs roster (depth + 1) (state.enter id)
        (.several checker.ownKeys checker.references) inner (.ok keys) moments) :
      Runs roster depth state (.one id) (inner.leave id keys) (.ok keys)
        (⟨.asked, id, depth, state.path⟩ :: ⟨.entered, id, depth, (state.enter id).path⟩ ::
          (moments ++ [⟨.left, id, depth, (inner.leave id keys).path⟩]))
  /-- One of the references fails, and everything stays as it is then. -/
  | fails {depth : Nat} {state inner : Progress} {id : CheckerId} {checker : Checker}
      {cause : Failure} {moments : List Moment}
      (fresh : state.table.lookup id = none) (off : id ∉ state.path)
      (found : roster.checker? id = some checker)
      (body : Runs roster (depth + 1) (state.enter id)
        (.several checker.ownKeys checker.references) inner (.error cause) moments) :
      Runs roster depth state (.one id) inner (.error cause)
        (⟨.asked, id, depth, state.path⟩ :: ⟨.entered, id, depth, (state.enter id).path⟩ :: moments)
  /-- No checker is left. -/
  | done {depth : Nat} {state : Progress} {keys : KeySet} :
      Runs roster depth state (.several keys []) state (.ok keys) []
  /-- The keys of the first checker are added, and the others follow. -/
  | adds {depth : Nat} {state middle last : Progress} {keys more : KeySet} {id : CheckerId}
      {rest : List CheckerId} {outcome : Except Failure KeySet} {moments others : List Moment}
      (first : Runs roster depth state (.one id) middle (.ok more) moments)
      (onward : Runs roster depth middle (.several (keys.union more) rest) last outcome others) :
      Runs roster depth state (.several keys (id :: rest)) last outcome (moments ++ others)
  /-- The first checker fails. -/
  | stops {depth : Nat} {state last : Progress} {keys : KeySet} {id : CheckerId}
      {rest : List CheckerId} {cause : Failure} {moments : List Moment}
      (first : Runs roster depth state (.one id) last (.error cause) moments) :
      Runs roster depth state (.several keys (id :: rest)) last (.error cause) moments

/-! ## What every run does -/

namespace Runs

variable {roster : Roster} {depth : Nat} {state last : Progress} {job : Job}
  {outcome : Except Failure KeySet} {moments : List Moment}

/-- **A run that does not fail leaves the stack as it was.** -/
theorem path_eq (runs : roster.Runs depth state job last outcome moments) {keys : KeySet}
    (ok : outcome = .ok keys) : last.path = state.path := by
  induction runs generalizing keys with
  | known found => rfl
  | done => rfl
  | returns fresh again => exact absurd ok (by simp)
  | misses fresh off unknown => exact absurd ok (by simp)
  | fails fresh off found body ih => exact absurd ok (by simp)
  | stops first ih => exact absurd ok (by simp)
  | @settles depth state inner id checker keys moments fresh off found body ih =>
    show inner.path.dropLast = state.path
    rw [ih rfl]
    exact List.dropLast_concat
  | adds first onward ihFirst ihOnward => rw [ihOnward ok, ihFirst rfl]

/-- What is settled stays settled. -/
theorem settled (runs : roster.Runs depth state job last outcome moments) {other : CheckerId}
    (h : Settled state.table other) : Settled last.table other := by
  induction runs with
  | known found => exact h
  | done => exact h
  | returns fresh again => exact h
  | misses fresh off unknown => exact h
  | settles fresh off found body ih => exact settled_snoc.2 (Or.inl (ih h))
  | fails fresh off found body ih => exact ih h
  | adds first onward ihFirst ihOnward => exact ihOnward (ihFirst h)
  | stops first ih => exact ih h

/-- A call that enters its checker follows the references, and then either the keys are known or the
failure is passed on. -/
theorem exists_body {id : CheckerId} {checker : Checker}
    (runs : roster.Runs depth state (.one id) last outcome moments)
    (fresh : state.table.lookup id = none) (off : id ∉ state.path)
    (found : roster.checker? id = some checker) :
    (∃ inner keys inside,
      roster.Runs (depth + 1) (state.enter id) (.several checker.ownKeys checker.references) inner
        (.ok keys) inside ∧ last = inner.leave id keys ∧ outcome = .ok keys ∧
      moments = ⟨.asked, id, depth, state.path⟩ :: ⟨.entered, id, depth, (state.enter id).path⟩ ::
        (inside ++ [⟨.left, id, depth, (inner.leave id keys).path⟩])) ∨
    ∃ cause inside,
      roster.Runs (depth + 1) (state.enter id) (.several checker.ownKeys checker.references) last
        (.error cause) inside ∧ outcome = .error cause ∧
      moments = ⟨.asked, id, depth, state.path⟩ :: ⟨.entered, id, depth, (state.enter id).path⟩ ::
        inside := by
  cases runs with
  | known found' => exact absurd (fresh.symm.trans found') (by simp)
  | returns fresh' again => exact absurd again off
  | misses fresh' off' unknown => exact absurd (found.symm.trans unknown) (by simp)
  | settles fresh' off' found' body =>
    obtain rfl := Option.some.inj (found.symm.trans found')
    exact Or.inl ⟨_, _, _, body, rfl, rfl, rfl⟩
  | fails fresh' off' found' body =>
    obtain rfl := Option.some.inj (found.symm.trans found')
    exact Or.inr ⟨_, _, body, rfl, rfl⟩

/-- **A job has one run at most.** -/
theorem unique (runs : roster.Runs depth state job last outcome moments) {last' : Progress}
    {outcome' : Except Failure KeySet} {moments' : List Moment}
    (others : roster.Runs depth state job last' outcome' moments') :
    last = last' ∧ outcome = outcome' ∧ moments = moments' := by
  induction runs generalizing last' outcome' moments' with
  | known found => cases others <;> simp_all
  | returns fresh again => cases others <;> simp_all
  | misses fresh off unknown => cases others <;> simp_all
  | done => cases others; exact ⟨rfl, rfl, rfl⟩
  | settles fresh off found body ih =>
    rcases others.exists_body fresh off found with
      ⟨inner, keys, inside, body', rfl, rfl, rfl⟩ | ⟨cause, inside, body', rfl, rfl⟩
    · obtain ⟨rfl, hkeys, rfl⟩ := ih body'
      obtain rfl := Except.ok.inj hkeys
      exact ⟨rfl, rfl, rfl⟩
    · exact absurd (ih body').2.1 (by simp)
  | fails fresh off found body ih =>
    rcases others.exists_body fresh off found with
      ⟨inner, keys, inside, body', rfl, rfl, rfl⟩ | ⟨cause, inside, body', rfl, rfl⟩
    · exact absurd (ih body').2.1 (by simp)
    · obtain ⟨rfl, hcause, rfl⟩ := ih body'
      exact ⟨rfl, hcause, rfl⟩
  | adds first onward ihFirst ihOnward =>
    cases others with
    | adds first' onward' =>
      obtain ⟨rfl, hmore, rfl⟩ := ihFirst first'
      obtain rfl := Except.ok.inj hmore
      obtain ⟨rfl, rfl, rfl⟩ := ihOnward onward'
      exact ⟨rfl, rfl, rfl⟩
    | stops first' => exact absurd (ihFirst first').2.1 (by simp)
  | stops first ih =>
    cases others with
    | adds first' onward' => exact absurd (ih first').2.1 (by simp)
    | stops first' =>
      obtain ⟨rfl, hcause, rfl⟩ := ih first'
      exact ⟨rfl, hcause, rfl⟩

/-! ### The stack -/

/-- The stack holds distinct registered checkers, and at most one more call is open. -/
structure InBounds (roster : Roster) (moment : Moment) : Prop where
  /-- No checker is under way twice. -/
  nodup : moment.path.Nodup
  /-- Only registered checkers are under way. -/
  registered : ∀ id ∈ moment.path, id ∈ roster.ids
  /-- All open calls but the last have put their checker on the stack. -/
  depth_le : moment.depth ≤ moment.path.length + 1

/-- There is at most one more open call than there are checkers. -/
theorem InBounds.depth_le_size {moment : Moment} (bounds : InBounds roster moment) :
    moment.depth ≤ roster.size + 1 := by
  have hlength := length_le_size bounds.nodup bounds.registered
  have hdepth := bounds.depth_le
  omega

/-- What happens on a path that is in order is in bounds. -/
theorem InBounds.of_underway {path : List CheckerId} {budget : Nat}
    (underway : roster.Underway path budget) (hdepth : depth ≤ path.length + 1) {turn : Turn}
    {id : CheckerId} : InBounds roster ⟨turn, id, depth, path⟩ :=
  ⟨underway.nodup, underway.registered, hdepth⟩

/-- When a checker is entered, the stack stays in order and grows with the depth. -/
theorem exists_underway_enter (indexed : roster.Indexed) {budget : Nat}
    (underway : roster.Underway state.path budget) (hdepth : depth = state.path.length + 1)
    {id : CheckerId} {checker : Checker} (off : id ∉ state.path)
    (found : roster.checker? id = some checker) :
    ∃ rest, roster.Underway (state.enter id).path rest ∧
      depth + 1 = (state.enter id).path.length + 1 := by
  obtain ⟨rest, -, hentered⟩ := underway.enter (indexed.mem_ids_iff.2 ⟨checker, found⟩) off
  refine ⟨rest, hentered, ?_⟩
  show depth + 1 = (state.path ++ [id]).length + 1
  rw [List.length_append, List.length_singleton, hdepth]

/-- **At every moment the stack holds distinct registered checkers.** -/
theorem inBounds (runs : roster.Runs depth state job last outcome moments)
    (indexed : roster.Indexed) {budget : Nat} (underway : roster.Underway state.path budget)
    (hdepth : depth = state.path.length + 1) : ∀ moment ∈ moments, InBounds roster moment := by
  -- a call begins with a longer stack than the call around it, so the induction is for all stacks
  induction runs generalizing budget with
  | done => simp
  | known found => exact List.forall_mem_singleton.2 (.of_underway underway hdepth.le)
  | returns fresh again => exact List.forall_mem_singleton.2 (.of_underway underway hdepth.le)
  | misses fresh off unknown => exact List.forall_mem_singleton.2 (.of_underway underway hdepth.le)
  | @settles depth state inner id checker keys moments fresh off found body ih =>
    obtain ⟨rest, hentered, hinner⟩ := exists_underway_enter indexed underway hdepth off found
    have hleft : (inner.leave id keys).path = state.path :=
      (settles fresh off found body).path_eq rfl
    rw [List.forall_mem_cons, List.forall_mem_cons, List.forall_mem_append,
      List.forall_mem_singleton, hleft]
    exact ⟨.of_underway underway hdepth.le, .of_underway hentered (by omega), ih hentered hinner,
      .of_underway underway hdepth.le⟩
  | @fails depth state inner id checker cause moments fresh off found body ih =>
    obtain ⟨rest, hentered, hinner⟩ := exists_underway_enter indexed underway hdepth off found
    rw [List.forall_mem_cons, List.forall_mem_cons]
    exact ⟨.of_underway underway hdepth.le, .of_underway hentered (by omega), ih hentered hinner⟩
  | adds first onward ihFirst ihOnward =>
    have hpath := first.path_eq rfl
    rw [List.forall_mem_append]
    exact ⟨ihFirst underway hdepth, ihOnward (hpath ▸ underway) (hpath ▸ hdepth)⟩
  | stops first ih => exact ih underway hdepth

/-! ### Each checker once -/

/-- The checkers that are entered: none that is settled or under way at first, none twice, and all
of them are settled at last unless there is a failure. -/
structure EntersOnce (roster : Roster) (state last : Progress) (outcome : Except Failure KeySet)
    (entered : List CheckerId) : Prop where
  /-- Only registered checkers are entered. -/
  known : ∀ id ∈ entered, ∃ checker, roster.checker? id = some checker
  /-- A settled checker is not entered. -/
  unsettled : ∀ id ∈ entered, ¬ Settled state.table id
  /-- A checker that is under way is not entered. -/
  off : ∀ id ∈ entered, id ∉ state.path
  /-- No checker is entered twice. -/
  nodup : entered.Nodup
  /-- Without a failure, all of them are settled. -/
  settled : ∀ keys, outcome = .ok keys → ∀ id ∈ entered, Settled last.table id

/-- Where nothing is entered, nothing is entered twice. -/
theorem EntersOnce.nil : EntersOnce roster state last outcome [] :=
  ⟨by simp, by simp, by simp, List.nodup_nil, by simp⟩

/-- A checker that is entered is not entered again by what follows from it. -/
theorem EntersOnce.cons {inner : Progress} {result : Except Failure KeySet} {id : CheckerId}
    {checker : Checker} {entered : List CheckerId} (fresh : state.table.lookup id = none)
    (hoff : id ∉ state.path) (found : roster.checker? id = some checker)
    (body : EntersOnce roster (state.enter id) inner result entered)
    (hsettled : ∀ keys, outcome = .ok keys → ∀ other ∈ id :: entered, Settled last.table other) :
    EntersOnce roster state last outcome (id :: entered) := by
  have houtside : ∀ other ∈ entered, other ∉ state.path ++ [id] := body.off
  refine ⟨?_, ?_, ?_, ?_, hsettled⟩
  · rw [List.forall_mem_cons]
    exact ⟨⟨checker, found⟩, body.known⟩
  · rw [List.forall_mem_cons]
    exact ⟨not_settled_iff.2 fresh, body.unsettled⟩
  · rw [List.forall_mem_cons]
    exact ⟨hoff, fun other hother hpath => houtside other hother (List.mem_append_left [id] hpath)⟩
  · rw [List.nodup_cons]
    exact ⟨fun hid => houtside id hid (by simp), body.nodup⟩

/-- What a first run has entered is settled, so a second run does not enter it again. -/
theorem EntersOnce.append {middle : Progress} {more : KeySet} {entered others : List CheckerId}
    (first : EntersOnce roster state middle (.ok more) entered)
    (onward : EntersOnce roster middle last outcome others) (hpath : middle.path = state.path)
    (hmiddle : ∀ {id}, Settled state.table id → Settled middle.table id)
    (hlast : ∀ {id}, Settled middle.table id → Settled last.table id) :
    EntersOnce roster state last outcome (entered ++ others) := by
  refine ⟨?_, ?_, ?_, ?_, ?_⟩
  · rw [List.forall_mem_append]
    exact ⟨first.known, onward.known⟩
  · rw [List.forall_mem_append]
    exact ⟨first.unsettled, fun id hid hsettled => onward.unsettled id hid (hmiddle hsettled)⟩
  · rw [List.forall_mem_append]
    exact ⟨first.off, hpath ▸ onward.off⟩
  · refine List.nodup_append.2 ⟨first.nodup, onward.nodup, ?_⟩
    rintro id hid other hother rfl
    exact onward.unsettled id hother (first.settled more rfl id hid)
  · intro keys ok
    rw [List.forall_mem_append]
    exact ⟨fun id hid => hlast (first.settled more rfl id hid), onward.settled keys ok⟩

/-- **A checker is entered once at most.** -/
theorem entersOnce (runs : roster.Runs depth state job last outcome moments) :
    EntersOnce roster state last outcome (idsAt .entered moments) := by
  induction runs with
  | known found => exact .nil
  | returns fresh again => exact .nil
  | misses fresh off unknown => exact .nil
  | done => exact .nil
  | @settles depth state inner id checker keys moments fresh off found body ih =>
    have hsettled : ∀ other ∈ id :: idsAt .entered moments,
        Settled (inner.leave id keys).table other := by
      rw [List.forall_mem_cons]
      exact ⟨settled_snoc.2 (Or.inr rfl),
        fun other hother => settled_snoc.2 (Or.inl (ih.settled keys rfl other hother))⟩
    simpa using EntersOnce.cons fresh off found ih fun _ _ => hsettled
  | @fails depth state inner id checker cause moments fresh off found body ih =>
    simpa using EntersOnce.cons fresh off found ih fun _ ok => absurd ok (by simp)
  | adds first onward ihFirst ihOnward =>
    rw [idsAt_append]
    exact ihFirst.append ihOnward (first.path_eq rfl) first.settled onward.settled
  | stops first ih => exact ⟨ih.known, ih.unsettled, ih.off, ih.nodup, by simp⟩

end Runs

variable {roster : Roster}

/-! ## How many calls -/

/-- What distinct members of a list give is no longer than what the list gives. -/
theorem length_flatMap_le {ids others : List CheckerId} (nodup : ids.Nodup) (hsub : ids ⊆ others)
    (give : CheckerId → List CheckerId) :
    (ids.flatMap give).length ≤ (others.flatMap give).length := by
  obtain ⟨chosen, hperm, hsublist⟩ := nodup.subperm hsub
  rw [← (hperm.flatMap_right give).length_eq]
  exact (hsublist.flatMap give).length_le

/-- The references of the checker of a name, if there is one. -/
def referencesOf (roster : Roster) (id : CheckerId) : List CheckerId :=
  (roster.checker? id).elim [] (·.references)

/-- Under a name there are the references of the checker that is found there. -/
theorem referencesOf_of_checker? {id : CheckerId} {checker : Checker}
    (found : roster.checker? id = some checker) : roster.referencesOf id = checker.references := by
  rw [referencesOf, found]
  rfl

/-- Under all names there are the references of all checkers. -/
theorem Indexed.flatMap_referencesOf (indexed : roster.Indexed) :
    roster.ids.flatMap roster.referencesOf = roster.checkers.toList.flatMap (·.references) := by
  rw [ids, List.flatMap_map]
  apply List.flatMap_congr
  intro checker hchecker
  exact referencesOf_of_checker? (indexed.checker?_eq_some_iff.2 ⟨hchecker, rfl⟩)

/-- **No call is made but for a checker that is asked for at first and for a reference of one that
is entered.** So the calls are at most as many as these. -/
theorem Runs.length_asked_le {depth : Nat} {state last : Progress} {job : Job}
    {outcome : Except Failure KeySet} {moments : List Moment}
    (runs : roster.Runs depth state job last outcome moments) :
    (idsAt .asked moments).length ≤
      job.calls + ((idsAt .entered moments).flatMap roster.referencesOf).length := by
  induction runs with
  | known found => simp [Job.calls]
  | returns fresh again => simp [Job.calls]
  | misses fresh off unknown => simp [Job.calls]
  | done => simp
  | settles fresh off found body ih =>
    simp only [Job.calls, idsAt_cons, ↓reduceIte, reduceCtorEq, idsAt_append, idsAt_nil,
      List.append_nil, List.length_cons, List.flatMap_cons, List.length_append,
      referencesOf_of_checker? found] at ih ⊢
    omega
  | fails fresh off found body ih =>
    simp only [Job.calls, idsAt_cons, ↓reduceIte, reduceCtorEq, List.length_cons,
      List.flatMap_cons, List.length_append, referencesOf_of_checker? found] at ih ⊢
    omega
  | adds first onward ihFirst ihOnward =>
    simp only [Job.calls, idsAt_append, List.length_append, List.length_cons,
      List.flatMap_append] at ihFirst ihOnward ⊢
    omega
  | stops first ih =>
    simp only [Job.calls, List.length_cons] at ih ⊢
    omega

/-! ## There is a run -/

/-- If there is a run for every call, there is one for several. -/
theorem exists_runs_gather {depth : Nat} {path : List CheckerId}
    {resolve : KeyTable → CheckerId → KeyTable × Except Failure KeySet} (targets : List CheckerId)
    (hruns : ∀ table target, ∃ last moments, roster.Runs depth ⟨path, table⟩ (.one target)
      ⟨last, (resolve table target).1⟩ (resolve table target).2 moments)
    (table : KeyTable) (keys : KeySet) :
    ∃ last moments, roster.Runs depth ⟨path, table⟩ (.several keys targets)
      ⟨last, (gather resolve table keys targets).1⟩ (gather resolve table keys targets).2
      moments := by
  induction targets generalizing table keys with
  | nil => exact ⟨path, [], .done⟩
  | cons id rest ih =>
    obtain ⟨last, moments, hfirst⟩ := hruns table id
    rw [gather]
    generalize resolve table id = result at hfirst
    obtain ⟨middle, outcome⟩ := result
    cases outcome with
    | error cause => exact ⟨last, moments, .stops hfirst⟩
    | ok more =>
      obtain rfl : last = path := hfirst.path_eq rfl
      obtain ⟨last', others, honward⟩ := ih middle (keys.union more)
      exact ⟨last', moments ++ others, .adds hfirst honward⟩

/-- A call that does not enter its checker has a run. -/
theorem exists_runs_of_not_enters {depth budget : Nat} {path : List CheckerId} {table : KeyTable}
    {id : CheckerId} (h : ¬ (table.lookup id = none ∧ id ∉ path ∧
      ∃ checker, roster.checker? id = some checker)) :
    ∃ last moments, roster.Runs depth ⟨path, table⟩ (.one id)
      ⟨last, (roster.resolve budget path table id).1⟩ (roster.resolve budget path table id).2
      moments := by
  unfold resolve
  cases fresh : table.lookup id with
  | some keys => exact ⟨path, _, .known fresh⟩
  | none =>
    by_cases hpath : id ∈ path
    · simp only [if_pos hpath]
      exact ⟨path, _, .returns fresh hpath⟩
    · cases found : roster.checker? id with
      | none =>
        simp only [if_neg hpath]
        exact ⟨path, _, .misses fresh hpath found⟩
      | some checker => exact absurd ⟨fresh, hpath, checker, found⟩ h

/-- **Every call has a run**, and it comes to what the resolution computes. -/
theorem exists_runs (indexed : roster.Indexed) {budget : Nat} {path : List CheckerId}
    (underway : roster.Underway path budget) (depth : Nat) (table : KeyTable) (id : CheckerId) :
    ∃ last moments, roster.Runs depth ⟨path, table⟩ (.one id)
      ⟨last, (roster.resolve budget path table id).1⟩ (roster.resolve budget path table id).2
      moments := by
  -- on the budget, which is the number of checkers that can still be entered
  induction budget generalizing path depth table id with
  | zero =>
    apply exists_runs_of_not_enters
    rintro ⟨-, hoff, hfound⟩
    obtain ⟨rest, hrest, -⟩ := underway.enter (indexed.mem_ids_iff.2 hfound) hoff
    omega
  | succ budget ih =>
    by_cases henters : table.lookup id = none ∧ id ∉ path ∧
        ∃ checker, roster.checker? id = some checker
    · obtain ⟨fresh, hoff, checker, found⟩ := henters
      obtain ⟨rest, hrest, hentered⟩ := underway.enter (indexed.mem_ids_iff.2 ⟨checker, found⟩) hoff
      obtain rfl : budget = rest := by omega
      obtain ⟨last, moments, hbody⟩ := exists_runs_gather checker.references
        (ih hentered (depth + 1)) table checker.ownKeys
      unfold resolve
      simp only [fresh, if_neg hoff, found]
      generalize gather (roster.resolve budget (path ++ [id])) table checker.ownKeys
        checker.references = result at hbody
      obtain ⟨later, outcome⟩ := result
      cases outcome with
      | error cause => exact ⟨last, _, .fails fresh hoff found hbody⟩
      | ok keys =>
        have hsettles : roster.Runs depth ⟨path, table⟩ (.one id)
            (Progress.leave ⟨last, later⟩ id keys) (.ok keys) _ :=
          .settles fresh hoff found hbody
        exact ⟨last.dropLast, _, hsettles⟩
    · exact exists_runs_of_not_enters henters

/-- Resolving checkers one after the other is gathering their keys and forgetting them. -/
theorem resolveAll_eq_gather (table : KeyTable) (keys : KeySet) (ids : List CheckerId) :
    roster.resolveAll table ids =
      ((gather (roster.resolve roster.size []) table keys ids).1,
        (gather (roster.resolve roster.size []) table keys ids).2.map fun _ => ()) := by
  induction ids generalizing table keys with
  | nil => rfl
  | cons id rest ih =>
    rw [resolveAll, gather]
    generalize roster.resolve roster.size [] table id = result
    obtain ⟨later, outcome⟩ := result
    cases outcome with
    | error cause => rfl
    | ok more => exact ih later (keys.union more)

/-! ## Freezing -/

/-- How a roster is frozen: nothing is asked for if a reference dangles; otherwise all checkers are,
in the order of registration, and the keys that are known then make the registry. -/
inductive Freezes (roster : Roster) : Except Failure Registry → List Moment → Prop
  /-- A reference dangles. -/
  | dangles {id : CheckerId} (dangling : roster.dangling? = some id) :
      Freezes roster (.error (.unknownChecker id)) []
  /-- All checkers are asked for. -/
  | resolves {last : Progress} {outcome : Except Failure KeySet} {moments : List Moment}
      (closed : roster.dangling? = none)
      (runs : roster.Runs 1 ⟨[], []⟩ (.several ∅ roster.ids) last outcome moments) :
      Freezes roster (outcome.map fun _ => ⟨roster, last.table⟩) moments

/-- A roster is frozen in one way. -/
theorem Freezes.unique {outcome outcome' : Except Failure Registry} {moments moments' : List Moment}
    (freezes : roster.Freezes outcome moments) (others : roster.Freezes outcome' moments') :
    outcome = outcome' ∧ moments = moments' := by
  cases freezes with
  | dangles dangling =>
    cases others with
    | dangles dangling' =>
      obtain rfl := Option.some.inj (dangling.symm.trans dangling')
      exact ⟨rfl, rfl⟩
    | resolves closed' runs' => exact absurd (dangling.symm.trans closed') (by simp)
  | resolves closed runs =>
    cases others with
    | dangles dangling' => exact absurd (closed.symm.trans dangling') (by simp)
    | resolves closed' runs' =>
      obtain ⟨rfl, rfl, rfl⟩ := runs.unique runs'
      exact ⟨rfl, rfl⟩

/-- Every roster is frozen, and it comes to what freezing computes. -/
theorem Indexed.exists_freezes (indexed : roster.Indexed) :
    ∃ moments, roster.Freezes roster.freeze.outcome moments := by
  cases hdangling : roster.dangling? with
  | some id =>
    rw [freeze_of_dangling hdangling]
    exact ⟨[], .dangles hdangling⟩
  | none =>
    obtain ⟨last, moments, runs⟩ := exists_runs_gather roster.ids
      (exists_runs indexed (underway_nil roster) 1) [] ∅
    have hfreezes := Freezes.resolves hdangling runs
    rw [freeze_outcome_of_closed hdangling, resolveAll_eq_gather [] ∅]
    generalize gather (roster.resolve roster.size []) [] ∅ roster.ids = result at hfreezes
    obtain ⟨table, outcome⟩ := result
    refine ⟨moments, ?_⟩
    cases outcome with
    | error cause => exact hfreezes
    | ok keys => exact hfreezes

namespace Freezes

variable {outcome : Except Failure Registry} {moments : List Moment}

/-- While a roster is frozen, the stack is in order. -/
theorem inBounds (freezes : roster.Freezes outcome moments) (indexed : roster.Indexed) :
    ∀ moment ∈ moments, Runs.InBounds roster moment := by
  cases freezes with
  | dangles dangling => simp
  | resolves closed runs => exact runs.inBounds indexed (underway_nil roster) rfl

/-- While a roster is frozen, no checker is entered twice. -/
theorem nodup_entered (freezes : roster.Freezes outcome moments) :
    (idsAt .entered moments).Nodup := by
  cases freezes with
  | dangles dangling => exact List.nodup_nil
  | resolves closed runs => exact runs.entersOnce.nodup

/-- To freeze a roster takes a call for each checker and one for each reference at most. -/
theorem length_asked_le (freezes : roster.Freezes outcome moments) (indexed : roster.Indexed) :
    (idsAt .asked moments).length ≤
      roster.size + (roster.checkers.toList.flatMap (·.references)).length := by
  cases freezes with
  | dangles dangling => exact Nat.zero_le _
  | resolves closed runs =>
    have honce := runs.entersOnce
    have hentered : idsAt .entered moments ⊆ roster.ids :=
      fun id hid => indexed.mem_ids_iff.2 (honce.known id hid)
    calc (idsAt .asked moments).length
        ≤ roster.ids.length + ((idsAt .entered moments).flatMap roster.referencesOf).length :=
          runs.length_asked_le
      _ ≤ roster.ids.length + (roster.ids.flatMap roster.referencesOf).length :=
          Nat.add_le_add_left (length_flatMap_le honce.nodup hentered _) _
      _ = roster.size + (roster.checkers.toList.flatMap (·.references)).length := by
          rw [length_ids, indexed.flatMap_referencesOf]

end Freezes

/-- **Freezing ends, whatever the references are.** Let a roster have come from any calls; its
checkers may be their own parents, lie on cycles of parents and members, or be shared. Then there
is one way in which it is frozen, and it comes to the registry or the failure that is computed. At
every moment of it the stack holds distinct registered checkers, so there is at most one more open
call than there are checkers. No checker is entered twice, so there is a call for each checker and
one for each reference at most. -/
theorem freeze_ends (arises : roster.Arises) :
    ∃ moments, roster.Freezes roster.freeze.outcome moments ∧
      (∀ outcome others, roster.Freezes outcome others →
        outcome = roster.freeze.outcome ∧ others = moments) ∧
      (∀ moment ∈ moments, moment.path.Nodup ∧
        (∀ id ∈ moment.path, roster.contains id = true) ∧
        moment.depth ≤ moment.path.length + 1 ∧ moment.depth ≤ roster.size + 1) ∧
      (idsAt .entered moments).Nodup ∧
      (idsAt .asked moments).length ≤
        roster.size + (roster.checkers.toList.flatMap (·.references)).length := by
  have indexed := arises.coherent.indexed
  obtain ⟨moments, freezes⟩ := indexed.exists_freezes
  refine ⟨moments, freezes, ?_, ?_, freezes.nodup_entered, freezes.length_asked_le indexed⟩
  · intro outcome others hothers
    exact hothers.unique freezes
  · intro moment hmoment
    have bounds := freezes.inBounds indexed moment hmoment
    exact ⟨bounds.nodup, fun id hid => indexed.contains_iff.2 (bounds.registered id hid),
      bounds.depth_le, bounds.depth_le_size⟩

/-- A checker that is its own parent and its own member. -/
def knotRoster : Roster :=
  (Roster.empty.registerAll [(Checker.composed "knot" ["knot"]).withParent "knot"]).1

/-- A second call finds the checker under way, and there is no third one. So one more call can be
open than there are checkers. -/
theorem knotRoster_freezes : knotRoster.Arises ∧
    ∃ moments, moments = [⟨.asked, "knot", 1, []⟩, ⟨.entered, "knot", 1, ["knot"]⟩,
        ⟨.asked, "knot", knotRoster.size + 1, ["knot"]⟩] ∧
      knotRoster.Freezes knotRoster.freeze.outcome moments ∧
      knotRoster.freeze.outcome = .error (.conflict (.cycle ["knot", "knot"])) ∧
      ∀ moment ∈ moments, moment.path.Nodup ∧ moment.depth ≤ knotRoster.size + 1 := by
  have harises : knotRoster.Arises := Arises.registerAll Arises.empty _
  have hfreezes : knotRoster.Freezes (.error (.conflict (.cycle ["knot", "knot"])))
      [⟨.asked, "knot", 1, []⟩, ⟨.entered, "knot", 1, ["knot"]⟩,
        ⟨.asked, "knot", knotRoster.size + 1, ["knot"]⟩] := by
    have hinner : knotRoster.Runs 2 (Progress.enter ⟨[], []⟩ "knot")
        (.several ∅ ["knot", "knot"]) ⟨["knot"], []⟩
        (.error (.conflict (.cycle ["knot", "knot"]))) [⟨.asked, "knot", 2, ["knot"]⟩] :=
      .stops (.returns rfl (by decide))
    have houter : knotRoster.Runs 1 ⟨[], []⟩ (.several ∅ knotRoster.ids) ⟨["knot"], []⟩
        (.error (.conflict (.cycle ["knot", "knot"])))
        [⟨.asked, "knot", 1, []⟩, ⟨.entered, "knot", 1, ["knot"]⟩,
          ⟨.asked, "knot", 2, ["knot"]⟩] :=
      .stops (.fails rfl List.not_mem_nil rfl hinner)
    exact .resolves rfl houter
  obtain ⟨moments, hcomputed, hunique, hbounds, -⟩ := freeze_ends harises
  obtain ⟨houtcome, rfl⟩ := hunique _ _ hfreezes
  refine ⟨harises, _, rfl, hcomputed, houtcome.symm, ?_⟩
  intro moment hmoment
  obtain ⟨hnodup, -, -, hdepth⟩ := hbounds moment hmoment
  exact ⟨hnodup, hdepth⟩

end Suppression.Roster
