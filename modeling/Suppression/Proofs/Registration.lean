import Suppression.Proofs.Lineage
import Suppression.Registry.Basic
/-!
# Registration

A roster is *coherent* if its index tells the place of every name and nobody declares the wildcard.
Every roster that arises by registering checkers is coherent, whether or not some of them were
refused (`Arises.coherent`), and a coherent roster is as good as its list of checkers: look-ups,
links and dangling references can be read off that list. Registering a list lets in all of it or
stops at the first checker that makes it inadmissible.
-/

namespace Suppression.Roster

/-! ## Coherent rosters -/

/-- The index tells the place of every name. -/
def Indexed (roster : Roster) : Prop :=
  ∀ id place, roster.index[id]? = some place ↔
    ∃ checker : Checker, roster.checkers[place]? = some checker ∧ checker.id = id

/-- The index agrees with the checkers, and the wildcard is nobody's key. -/
structure Coherent (roster : Roster) : Prop where
  /-- The wildcard is nobody's key. -/
  wildcard_free : ∀ checker ∈ roster.checkers.toList, wildcard ∉ checker.keys
  /-- The index tells the place of every name. -/
  index_iff : ∀ id place, roster.index[id]? = some place ↔
    ∃ checker : Checker, roster.checkers[place]? = some checker ∧ checker.id = id

/-- The empty roster is coherent. -/
theorem coherent_empty : Roster.empty.Coherent := by
  refine ⟨?_, ?_⟩
  · intro checker hc
    simp [Roster.empty] at hc
  · intro id place
    simp [Roster.empty]

/-- A checker that joins stands behind the others. -/
theorem checkers_push (roster : Roster) (checker : Checker) :
    (roster.push checker).checkers.toList = roster.checkers.toList ++ [checker] :=
  Array.toList_push

/-- After a checker has joined, a place holds a name if it did before, or if it is the new place and
the name is that of the checker. -/
theorem exists_push_iff (roster : Roster) (checker : Checker) (id : CheckerId) (place : Nat) :
    (∃ other : Checker, (roster.push checker).checkers[place]? = some other ∧ other.id = id) ↔
      (place = roster.size ∧ checker.id = id) ∨
        ∃ other : Checker, roster.checkers[place]? = some other ∧ other.id = id := by
  rw [Roster.push, Array.getElem?_push, size]
  by_cases hplace : place = roster.checkers.size
  · have hnone : roster.checkers[place]? = none := Array.getElem?_eq_none (by omega)
    rw [if_pos hplace, hnone]
    simp [hplace]
  · rw [if_neg hplace]
    simp [hplace]

/-- A checker without an obstacle leaves the roster coherent. -/
theorem Coherent.push {roster : Roster} (coherent : roster.Coherent) {checker : Checker}
    (h : roster.obstacle? checker = none) : (roster.push checker).Coherent := by
  obtain ⟨hkeys, hnew⟩ := obstacle?_eq_none_iff.1 h
  have hfresh : roster.index[checker.id]? = none := by
    rw [contains, Std.TreeMap.contains_eq_isSome_getElem?] at hnew
    exact Option.isNone_iff_eq_none.1 (Option.isSome_eq_false_iff.1 hnew)
  refine ⟨?_, ?_⟩
  · intro other ho
    rw [checkers_push, List.mem_append] at ho
    rcases ho with ho | ho
    · exact coherent.wildcard_free other ho
    · rw [List.mem_singleton.1 ho]
      exact hkeys
  · intro id place
    rw [exists_push_iff, ← coherent.index_iff id place, Roster.push, Std.TreeMap.getElem?_insert]
    by_cases hid : checker.id = id
    · -- no older checker of this name stands in the index
      subst hid
      rw [if_pos (by simp), hfresh]
      simp [eq_comm]
    · rw [if_neg (by simpa using hid)]
      simp [hid]

namespace Indexed

variable {roster : Roster}

/-- The checker of a name is the one in the list that bears it. -/
theorem checker?_eq_some_iff (indexed : roster.Indexed) {id : CheckerId} {checker : Checker} :
    roster.checker? id = some checker ↔ checker ∈ roster.checkers.toList ∧ checker.id = id := by
  rw [checker?, Option.bind_eq_some_iff]
  constructor
  · rintro ⟨place, hplace, hchecker⟩
    obtain ⟨other, hother, hid⟩ := (indexed id place).1 hplace
    rw [hchecker] at hother
    obtain rfl := Option.some.inj hother
    exact ⟨Array.mem_toList_iff.2 (Array.mem_of_getElem? hchecker), hid⟩
  · rintro ⟨hmem, hid⟩
    obtain ⟨place, hplace⟩ := List.getElem?_of_mem hmem
    rw [Array.getElem?_toList] at hplace
    exact ⟨place, (indexed id place).2 ⟨checker, hplace, hid⟩, hplace⟩

/-- The names in the index are the names in the list. -/
theorem contains_iff (indexed : roster.Indexed) {id : CheckerId} :
    roster.contains id = true ↔ id ∈ roster.ids := by
  rw [contains, Std.TreeMap.contains_eq_isSome_getElem?, Option.isSome_iff_exists, ids,
    List.mem_map]
  constructor
  · rintro ⟨place, hplace⟩
    obtain ⟨checker, hchecker, hid⟩ := (indexed id place).1 hplace
    exact ⟨checker, Array.mem_toList_iff.2 (Array.mem_of_getElem? hchecker), hid⟩
  · rintro ⟨checker, hmem, hid⟩
    obtain ⟨place, hplace⟩ := List.getElem?_of_mem hmem
    rw [Array.getElem?_toList] at hplace
    exact ⟨place, (indexed id place).2 ⟨checker, hplace, hid⟩⟩

/-- A name is registered exactly if a checker is found under it. -/
theorem mem_ids_iff (indexed : roster.Indexed) {id : CheckerId} :
    id ∈ roster.ids ↔ ∃ checker, roster.checker? id = some checker := by
  rw [ids, List.mem_map]
  constructor
  · rintro ⟨checker, hmem, hid⟩
    exact ⟨checker, indexed.checker?_eq_some_iff.2 ⟨hmem, hid⟩⟩
  · rintro ⟨checker, hchecker⟩
    exact ⟨checker, indexed.checker?_eq_some_iff.1 hchecker⟩

/-- All references are registered exactly if the list of checkers is closed. -/
theorem forall_contains_iff_closed (indexed : roster.Indexed) :
    (∀ checker ∈ roster.checkers, ∀ id, checker.parent = some id ∨ id ∈ checker.members →
      roster.contains id = true) ↔ Closed roster.checkers.toList := by
  constructor
  · intro h checker hc id hid
    exact indexed.contains_iff.1 (h checker (Array.mem_toList_iff.1 hc) id hid)
  · intro h checker hc id hid
    exact indexed.contains_iff.2 (h checker (Array.mem_toList_iff.2 hc) id hid)

end Indexed

namespace Coherent

variable {roster : Roster}

/-- The index of a coherent roster agrees with its checkers. -/
theorem indexed (coherent : roster.Coherent) : roster.Indexed := coherent.index_iff

/-- The checker of a name is the one in the list that bears it. -/
theorem checker?_eq_some_iff (coherent : roster.Coherent) {id : CheckerId} {checker : Checker} :
    roster.checker? id = some checker ↔ checker ∈ roster.checkers.toList ∧ checker.id = id :=
  coherent.indexed.checker?_eq_some_iff

/-- The names in the index are the names in the list. -/
theorem contains_iff (coherent : roster.Coherent) {id : CheckerId} :
    roster.contains id = true ↔ id ∈ roster.ids :=
  coherent.indexed.contains_iff

/-- A name is registered exactly if a checker is found under it. -/
theorem mem_ids_iff (coherent : roster.Coherent) {id : CheckerId} :
    id ∈ roster.ids ↔ ∃ checker, roster.checker? id = some checker :=
  coherent.indexed.mem_ids_iff

/-- The names of a coherent roster are distinct. -/
theorem nodup_ids (coherent : roster.Coherent) : roster.ids.Nodup := by
  rw [ids, List.Nodup, List.pairwise_map, List.pairwise_iff_getElem]
  intro i j hi hj hij heq
  -- the index tells one place for a name, so equal names stand at the same place
  have place : ∀ k (hk : k < roster.checkers.toList.length),
      roster.index[(roster.checkers.toList[k]).id]? = some k := by
    intro k hk
    refine (coherent.index_iff _ k).2 ⟨roster.checkers.toList[k], ?_, rfl⟩
    rw [← Array.getElem?_toList, List.getElem?_eq_getElem hk]
  have hplace := place i hi
  rw [heq, place j hj] at hplace
  exact absurd (Option.some.inj hplace) (by omega)

/-- The checkers of a coherent roster are an admissible list. -/
theorem admissible (coherent : roster.Coherent) : Admissible roster.checkers.toList :=
  ⟨coherent.wildcard_free, coherent.nodup_ids⟩

/-- The links of a coherent roster are those of its list. -/
theorem links_eq (coherent : roster.Coherent) :
    roster.Links = Names roster.checkers.toList := by
  funext source target
  refine propext ⟨?_, ?_⟩
  · rintro ⟨checker, hchecker, htarget⟩
    obtain ⟨hmem, hid⟩ := coherent.checker?_eq_some_iff.1 hchecker
    exact ⟨checker, hmem, hid, htarget⟩
  · rintro ⟨checker, hmem, hid, htarget⟩
    exact ⟨checker, coherent.checker?_eq_some_iff.2 ⟨hmem, hid⟩, htarget⟩

/-- Reaching in a coherent roster is following references of its list. -/
theorem reaches_iff (coherent : roster.Coherent) {source target : CheckerId} :
    roster.Reaches source target ↔
      Relation.ReflTransGen (Names roster.checkers.toList) source target := by
  rw [reaches_iff_reflTransGen, coherent.links_eq]

/-- The first dangling reference of a coherent roster is that of its list. -/
theorem dangling?_eq_some_iff (coherent : roster.Coherent) {id : CheckerId} :
    roster.dangling? = some id ↔ Dangles roster.checkers.toList id := by
  have hmiss : ∀ other, (!roster.contains other) = true ↔
      other ∉ roster.checkers.toList.map (·.id) := by
    intro other
    rw [Bool.not_eq_true', ← Bool.not_eq_true, coherent.contains_iff, ids]
  rw [dangling?, List.find?_eq_some_iff_append, Dangles]
  constructor
  · rintro ⟨hid, before, after, heq, hbefore⟩
    refine ⟨before, after, heq, fun other ho => ?_, (hmiss id).1 hid⟩
    by_cases hmem : other ∈ roster.checkers.toList.map (·.id)
    · exact hmem
    · exact absurd ((hmiss other).2 hmem) (by simpa using hbefore other ho)
  · rintro ⟨before, after, heq, hbefore, hid⟩
    refine ⟨(hmiss id).2 hid, before, after, heq, fun other ho => ?_⟩
    have hmem : roster.contains other = true := coherent.contains_iff.2 (hbefore other ho)
    simpa using hmem

/-- No reference of a coherent roster dangles exactly if its list is closed. -/
theorem dangling?_eq_none_iff_closed (coherent : roster.Coherent) :
    roster.dangling? = none ↔ Closed roster.checkers.toList := by
  rw [dangling?_eq_none_iff, coherent.indexed.forall_contains_iff_closed]

end Coherent

/-! ## Registering -/

/-- A checker with an obstacle is refused for it, and the roster stays as it is. -/
theorem register_of_obstacle {roster : Roster} {checker : Checker} {cause : Conflict}
    (h : roster.obstacle? checker = some cause) :
    roster.register checker = (roster, ⟨.error (.conflict cause), []⟩) := by
  rw [register, insert, h]

/-- A checker without an obstacle joins. -/
theorem register_of_free {roster : Roster} {checker : Checker}
    (h : roster.obstacle? checker = none) :
    roster.register checker = (roster.push checker, ⟨.ok (), [.registered checker]⟩) := by
  rw [register, insert, h]

/-- In a coherent roster nothing keeps a checker out exactly if the longer list is admissible. -/
theorem Coherent.obstacle?_eq_none_iff {roster : Roster} (coherent : roster.Coherent)
    {checker : Checker} :
    roster.obstacle? checker = none ↔ Admissible (roster.checkers.toList ++ [checker]) := by
  rw [Roster.obstacle?_eq_none_iff, admissible_concat, ← Bool.not_eq_true, coherent.contains_iff]
  exact ⟨fun h => ⟨coherent.admissible, h⟩, fun h => h.2⟩

/-- A wildcard among the keys is the obstacle, whatever the name. -/
theorem obstacle?_of_wildcard (roster : Roster) {checker : Checker}
    (h : wildcard ∈ checker.keys) :
    roster.obstacle? checker = some (.reservedWildcard checker.id) := by
  rw [obstacle?, if_pos (by simpa using h)]

/-- A taken name is the obstacle of a checker that spares the wildcard. -/
theorem Coherent.obstacle?_of_taken {roster : Roster} (coherent : roster.Coherent)
    {checker : Checker} (hkeys : wildcard ∉ checker.keys) (h : checker.id ∈ roster.ids) :
    roster.obstacle? checker = some (.duplicateIdentity checker.id) := by
  rw [obstacle?, if_neg (by simpa using hkeys), if_pos (coherent.contains_iff.2 h)]

/-- Registering one checker, accepted or refused, keeps a roster coherent. -/
theorem Coherent.register {roster : Roster} (coherent : roster.Coherent) (checker : Checker) :
    (roster.register checker).1.Coherent := by
  cases h : roster.obstacle? checker with
  | none =>
    rw [register_of_free h]
    exact coherent.push h
  | some cause =>
    rw [register_of_obstacle h]
    exact coherent

/-- A list is registered like its first checker and then the rest, unless the first is refused. -/
theorem registerAll_cons_of_free {roster : Roster} {checker : Checker} (rest : List Checker)
    (h : roster.obstacle? checker = none) :
    roster.registerAll (checker :: rest) =
      (((roster.push checker).registerAll rest).1,
        ⟨((roster.push checker).registerAll rest).2.outcome,
          .registered checker :: ((roster.push checker).registerAll rest).2.log⟩) := by
  rw [registerAll, register_of_free h]
  rfl

/-- If the first checker of a list is refused, the list is refused for it. -/
theorem registerAll_cons_of_obstacle {roster : Roster} {checker : Checker} {cause : Conflict}
    (rest : List Checker) (h : roster.obstacle? checker = some cause) :
    roster.registerAll (checker :: rest) = (roster, ⟨.error (.conflict cause), []⟩) := by
  rw [registerAll, register_of_obstacle h]

/-- Registering a list, to its end or not, keeps a roster coherent. -/
theorem Coherent.registerAll {roster : Roster} (coherent : roster.Coherent)
    (checkers : List Checker) : (roster.registerAll checkers).1.Coherent := by
  induction checkers generalizing roster with
  | nil => exact coherent
  | cons checker rest ih =>
    cases h : roster.obstacle? checker with
    | none =>
      rw [registerAll_cons_of_free rest h]
      exact ih (coherent.push h)
    | some cause =>
      rw [registerAll_cons_of_obstacle rest h]
      exact coherent

/-- A list that stays admissible behind the roster is let in whole. -/
theorem Coherent.registerAll_of_admissible {roster : Roster} (coherent : roster.Coherent)
    (checkers : List Checker) (h : Admissible (roster.checkers.toList ++ checkers)) :
    (roster.registerAll checkers).2.outcome = .ok () ∧
      (roster.registerAll checkers).1.checkers.toList = roster.checkers.toList ++ checkers := by
  induction checkers generalizing roster with
  | nil => exact ⟨rfl, by simp [Roster.registerAll]⟩
  | cons checker rest ih =>
    rw [List.append_cons] at h
    have hfree : roster.obstacle? checker = none := coherent.obstacle?_eq_none_iff.2 h.of_append
    rw [← checkers_push] at h
    obtain ⟨hok, hcheckers⟩ := ih (coherent.push hfree) h
    rw [registerAll_cons_of_free rest hfree]
    refine ⟨hok, ?_⟩
    rw [hcheckers, checkers_push, List.append_assoc, List.singleton_append]

/-- After a front that is let in whole, the rest of a list decides. -/
theorem registerAll_append_outcome {roster : Roster} {before : List Checker}
    (h : (roster.registerAll before).2.outcome = .ok ()) (after : List Checker) :
    (roster.registerAll (before ++ after)).2.outcome =
      ((roster.registerAll before).1.registerAll after).2.outcome := by
  induction before generalizing roster with
  | nil => rfl
  | cons checker rest ih =>
    cases hobs : roster.obstacle? checker with
    | none =>
      rw [registerAll_cons_of_free rest hobs] at h ⊢
      rw [List.cons_append, registerAll_cons_of_free (rest ++ after) hobs]
      exact ih h
    | some cause =>
      rw [registerAll_cons_of_obstacle rest hobs] at h
      exact absurd h (by simp)

/-- A list is refused for the first checker with an obstacle. -/
theorem Coherent.registerAll_of_refused {roster : Roster} (coherent : roster.Coherent)
    {before after : List Checker} {checker : Checker} {cause : Conflict}
    (hbefore : Admissible (roster.checkers.toList ++ before))
    (h : (roster.registerAll before).1.obstacle? checker = some cause) :
    (roster.registerAll (before ++ checker :: after)).2.outcome = .error (.conflict cause) := by
  have hok := (coherent.registerAll_of_admissible before hbefore).1
  rw [registerAll_append_outcome hok, registerAll_cons_of_obstacle after h]

/-! ## Rosters that arise by registering -/

/-- The rosters that can come about, by calls that succeed and calls that fail. -/
inductive Arises : Roster → Prop
  /-- There is nobody at first. -/
  | empty : Arises Roster.empty
  /-- One checker is registered, or refused. -/
  | register {roster : Roster} (arises : Arises roster) (checker : Checker) :
      Arises (roster.register checker).1
  /-- A list is registered, up to the first checker that is refused. -/
  | registerAll {roster : Roster} (arises : Arises roster) (checkers : List Checker) :
      Arises (roster.registerAll checkers).1

/-- **Every roster that arises is coherent.** -/
theorem Arises.coherent {roster : Roster} (arises : roster.Arises) : roster.Coherent := by
  induction arises with
  | empty => exact coherent_empty
  | register _ checker ih => exact ih.register checker
  | registerAll _ checkers ih => exact ih.registerAll checkers

/-! ## One call after another -/

/-- A call that registers. -/
inductive Request where
  /-- One checker is to be registered. -/
  | one (checker : Checker)
  /-- The checkers of a list are to be registered. -/
  | several (checkers : List Checker)

/-- The checkers that a call is to register, in order. -/
def Request.checkers : Request → List Checker
  | one checker => [checker]
  | several checkers => checkers

/-- What a call comes to. -/
def request (roster : Roster) : Request → Roster × Logged Failure Unit
  | .one checker => roster.register checker
  | .several checkers => roster.registerAll checkers

/-- The roster after some calls, whether they succeed or fail. -/
def requestAll (roster : Roster) (requests : List Request) : Roster :=
  requests.foldl (fun roster request => (roster.request request).1) roster

/-- The checkers of a list that are accepted when they are registered in order: all before the first
that is refused. -/
def accepted (roster : Roster) : List Checker → List Checker
  | [] => []
  | checker :: rest =>
    match roster.register checker with
    | (_, ⟨.error _, _⟩) => []
    | (next, ⟨.ok (), _⟩) => checker :: next.accepted rest

/-- The checkers that are accepted by some calls, in order. -/
def acceptedAll (roster : Roster) : List Request → List Checker
  | [] => []
  | request :: rest =>
    roster.accepted request.checkers ++ (roster.request request).1.acceptedAll rest

/-- A checker without an obstacle is accepted, and then the rest of its list. -/
theorem accepted_cons_of_free {roster : Roster} {checker : Checker} (rest : List Checker)
    (h : roster.obstacle? checker = none) :
    roster.accepted (checker :: rest) = checker :: (roster.push checker).accepted rest := by
  rw [accepted, register_of_free h]

/-- With the first checker that has an obstacle a list is over. -/
theorem accepted_cons_of_obstacle {roster : Roster} {checker : Checker} {cause : Conflict}
    (rest : List Checker) (h : roster.obstacle? checker = some cause) :
    roster.accepted (checker :: rest) = [] := by
  rw [accepted, register_of_obstacle h]

/-- Registering a list puts the accepted checkers behind the others. -/
theorem checkers_registerAll (roster : Roster) (checkers : List Checker) :
    (roster.registerAll checkers).1.checkers.toList =
      roster.checkers.toList ++ roster.accepted checkers := by
  induction checkers generalizing roster with
  | nil => simp [registerAll, accepted]
  | cons checker rest ih =>
    cases h : roster.obstacle? checker with
    | some cause =>
      rw [registerAll_cons_of_obstacle rest h, accepted_cons_of_obstacle rest h, List.append_nil]
    | none =>
      rw [registerAll_cons_of_free rest h, accepted_cons_of_free rest h, ih, checkers_push,
        List.append_assoc, List.singleton_append]

/-- A call puts the checkers that it accepts behind the others. -/
theorem checkers_request (roster : Roster) (request : Request) :
    (roster.request request).1.checkers.toList =
      roster.checkers.toList ++ roster.accepted request.checkers := by
  cases request with
  | several checkers => exact checkers_registerAll roster checkers
  | one checker =>
    show (roster.register checker).1.checkers.toList =
      roster.checkers.toList ++ roster.accepted [checker]
    cases h : roster.obstacle? checker with
    | some cause =>
      rw [register_of_obstacle h, accepted_cons_of_obstacle [] h, List.append_nil]
    | none =>
      rw [register_of_free h, accepted_cons_of_free [] h]
      exact checkers_push roster checker

/-- **Calls put the checkers that they accept behind the others**, in order, and change nothing
else in the list. -/
theorem checkers_requestAll (roster : Roster) (requests : List Request) :
    (roster.requestAll requests).checkers.toList =
      roster.checkers.toList ++ roster.acceptedAll requests := by
  unfold requestAll
  induction requests generalizing roster with
  | nil => simp [acceptedAll]
  | cons request rest ih =>
    rw [List.foldl_cons, ih, checkers_request, acceptedAll, List.append_assoc]

/-- A roster that arises does so still after some calls. -/
theorem Arises.requestAll {roster : Roster} (arises : roster.Arises) (requests : List Request) :
    (roster.requestAll requests).Arises := by
  unfold Roster.requestAll
  induction requests generalizing roster with
  | nil => exact arises
  | cons request rest ih =>
    rw [List.foldl_cons]
    apply ih
    cases request with
    | one checker => exact Arises.register arises checker
    | several checkers => exact Arises.registerAll arises checkers

end Suppression.Roster
