import Suppression.Proofs.EffectiveKeys
import Suppression.Proofs.Matching
/-!
# What a checker depends on

The answers of a checker depend on the checkers that it leads to, on the sets of their keys and on
the sets of their references, and on nothing else: not on the order of the list or of the members,
not on repetitions, and not on checkers that it does not lead to. `AlikeFrom` says that two lists
agree on all that matters to one checker, and the main statement (`findMatch_of_alikeFrom`) that its
effective keys and matches are then the same. Whether a list makes a registry at all does not depend
on its order either.
-/

namespace Suppression

/-! ## Lists in another order -/

section

variable {first second : List Checker}

/-- The graph of a list does not depend on its order. -/
theorem names_of_perm (h : first.Perm second) : Names first = Names second := by
  funext source target
  refine propext (exists_congr fun checker => ?_)
  rw [h.mem_iff]

/-- Whether a list can be registered does not depend on its order. -/
theorem Admissible.of_perm (admissible : Admissible first) (h : first.Perm second) :
    Admissible second := by
  refine ⟨fun checker hc => admissible.wildcard_free checker (h.mem_iff.2 hc), ?_⟩
  exact (h.map (·.id)).nodup_iff.1 admissible.nodup_ids

/-- Whether all references lead to checkers of the list does not depend on its order. -/
theorem Closed.of_perm (closed : Closed first) (h : first.Perm second) : Closed second := by
  intro checker hc id hid
  rw [← (h.map (·.id)).mem_iff]
  exact closed checker (h.mem_iff.2 hc) id hid

end

/-! ## Lists that agree below a checker -/

/-- One checker can stand for another: it has the same name, the same set of keys and the same set
of references. -/
structure Checker.Alike (a b : Checker) : Prop where
  /-- The names are equal. -/
  id_eq : a.id = b.id
  /-- The keys are the same, in any order and however often. -/
  mem_keys : ∀ key, key ∈ a.keys ↔ key ∈ b.keys
  /-- The references are the same, in any order and however often. -/
  mem_references : ∀ id, a.parent = some id ∨ id ∈ a.members ↔ b.parent = some id ∨ id ∈ b.members

/-- Checkers can stand for each other if each has what the other has. -/
theorem Checker.alike_iff_subset {a b : Checker} :
    a.Alike b ↔ a.id = b.id ∧ (a.keys ⊆ b.keys ∧ b.keys ⊆ a.keys) ∧
      a.references ⊆ b.references ∧ b.references ⊆ a.references := by
  simp only [List.subset_def, Checker.mem_references]
  constructor
  · rintro ⟨hid, hkeys, hreferences⟩
    exact ⟨hid, ⟨fun {key} => (hkeys key).1, fun {key} => (hkeys key).2⟩,
      fun {id} => (hreferences id).1, fun {id} => (hreferences id).2⟩
  · rintro ⟨hid, ⟨hkeys, hkeys'⟩, hreferences, hreferences'⟩
    exact ⟨hid, fun key => ⟨@hkeys key, @hkeys' key⟩,
      fun id => ⟨@hreferences id, @hreferences' id⟩⟩

instance (a b : Checker) : Decidable (a.Alike b) :=
  decidable_of_iff' _ Checker.alike_iff_subset

/-- Standing for each other is mutual. -/
theorem Checker.Alike.symm {a b : Checker} (h : a.Alike b) : b.Alike a :=
  ⟨h.id_eq.symm, fun key => (h.mem_keys key).symm, fun id => (h.mem_references id).symm⟩

/-- A checker leads to the same checkers in two lists, and each of them can stand for the other. -/
structure AlikeFrom (first second : List Checker) (id : CheckerId) : Prop where
  /-- The same names are reached. -/
  reached : ∀ target, Relation.ReflTransGen (Names first) id target ↔
    Relation.ReflTransGen (Names second) id target
  /-- The checkers of a name that is reached can stand for each other. -/
  alike : ∀ a ∈ first, ∀ b ∈ second, Relation.ReflTransGen (Names first) id a.id → a.id = b.id →
    a.Alike b

section

variable {first second : List Checker} {id : CheckerId}

/-- Agreement is mutual. -/
theorem AlikeFrom.symm (h : AlikeFrom first second id) : AlikeFrom second first id := by
  refine ⟨fun target => (h.reached target).symm, ?_⟩
  intro a ha b hb hreach heq
  refine (h.alike b hb a ha ?_ heq.symm).symm
  rw [h.reached, ← heq]
  exact hreach

/-- From a checker of a closed list, all links lead to checkers of the list. -/
theorem Closed.mem_ids_of_reflTransGen (closed : Closed first) {target : CheckerId}
    (hid : id ∈ first.map (·.id)) (hreach : Relation.ReflTransGen (Names first) id target) :
    target ∈ first.map (·.id) := by
  induction hreach with
  | refl => exact hid
  | tail _ hnames _ =>
    obtain ⟨checker, hmem, -, htarget⟩ := hnames
    exact closed checker hmem _ htarget

/-- What is declared below a checker is declared below it in a list that agrees. -/
theorem AlikeFrom.declares (h : AlikeFrom first second id) (closed : Closed second)
    (hid : id ∈ second.map (·.id)) {key : String}
    (hdeclares : ∃ a ∈ first, Relation.ReflTransGen (Names first) id a.id ∧ key ∈ a.keys) :
    ∃ b ∈ second, Relation.ReflTransGen (Names second) id b.id ∧ key ∈ b.keys := by
  obtain ⟨a, ha, hreach, hkey⟩ := hdeclares
  have hreach' := (h.reached a.id).1 hreach
  obtain ⟨b, hb, heq⟩ := List.mem_map.1 (closed.mem_ids_of_reflTransGen hid hreach')
  refine ⟨b, hb, ?_, ((h.alike a ha b hb hreach heq.symm).mem_keys key).1 hkey⟩
  rw [heq]
  exact hreach'

/-- Two checkers of an admissible list that have the same name are the same. -/
theorem Admissible.eq_of_id_eq (admissible : Admissible first) {a b : Checker} (ha : a ∈ first)
    (hb : b ∈ first) (h : a.id = b.id) : a = b :=
  List.inj_on_of_nodup_map admissible.nodup_ids ha hb h

/-- A list in which something can stand for every checker that is led to agrees from there. -/
theorem alikeFrom_of_twins (closed : Closed first) (admissible : Admissible second)
    (hid : id ∈ first.map (·.id))
    (twins : ∀ a ∈ first, Relation.ReflTransGen (Names first) id a.id → ∃ b ∈ second, a.Alike b) :
    AlikeFrom first second id := by
  -- the checker of the second list is the twin, because its name is not taken twice
  have alike : ∀ a ∈ first, ∀ b ∈ second, Relation.ReflTransGen (Names first) id a.id →
      a.id = b.id → a.Alike b := by
    intro a ha b hb hreach heq
    obtain ⟨twin, htwin, halike⟩ := twins a ha hreach
    rw [admissible.eq_of_id_eq hb htwin (heq.symm.trans halike.id_eq)]
    exact halike
  refine ⟨fun target => ⟨fun hreach => ?_, fun hreach => ?_⟩, alike⟩
  · induction hreach with
    | refl => exact Relation.ReflTransGen.refl
    | tail hfront hnames ih =>
      obtain ⟨a, ha, rfl, htarget⟩ := hnames
      obtain ⟨b, hb, halike⟩ := twins a ha hfront
      exact ih.tail ⟨b, hb, halike.id_eq.symm, (halike.mem_references _).1 htarget⟩
  · induction hreach with
    | refl => exact Relation.ReflTransGen.refl
    | tail _ hnames ih =>
      obtain ⟨b, hb, rfl, htarget⟩ := hnames
      obtain ⟨a, ha, heq⟩ := List.mem_map.1 (closed.mem_ids_of_reflTransGen hid ih)
      have halike := alike a ha b hb (heq ▸ ih) heq
      exact ih.tail ⟨a, ha, heq, (halike.mem_references _).2 htarget⟩

end

namespace Registry

/-! ## Registries of lists -/

section

variable {checkers : List Checker} {registry : Registry}

/-- A list makes a registry exactly if it can be registered and has neither dangling references nor
cycles. -/
theorem exists_outcome_eq_ok_iff : (∃ registry, (ofCheckers checkers).outcome = .ok registry) ↔
    Admissible checkers ∧ Closed checkers ∧ ¬ Cyclic checkers := by
  constructor
  · rintro ⟨registry, h⟩
    have hjudged := judged_ofCheckers checkers
    rw [h] at hjudged
    cases hjudged with
    | accepted admissible closed acyclic => exact ⟨admissible, closed, acyclic⟩
  · rintro ⟨admissible, closed, acyclic⟩
    exact outcome_of_not_cyclic admissible closed acyclic

/-- The registered names are those of the list. -/
theorem contains_iff_of_ofCheckers (h : (ofCheckers checkers).outcome = .ok registry)
    {id : CheckerId} : registry.contains id = true ↔ id ∈ checkers.map (·.id) := by
  obtain ⟨built, hlist⟩ := built_of_ofCheckers h
  rw [built.complete.contains_iff, Roster.ids, hlist]

/-- A list in another order makes a registry if the list does. -/
theorem exists_outcome_of_perm {other : List Checker} (h : checkers.Perm other)
    (builds : ∃ registry, (ofCheckers checkers).outcome = .ok registry) :
    ∃ registry, (ofCheckers other).outcome = .ok registry := by
  rw [exists_outcome_eq_ok_iff] at builds ⊢
  obtain ⟨admissible, closed, acyclic⟩ := builds
  refine ⟨admissible.of_perm h, closed.of_perm h, ?_⟩
  rw [Cyclic, ← names_of_perm h]
  exact acyclic

end

/-! ## Agreeing answers -/

/-- In two registries a checker has the same effective keys and, whatever the settings and the host,
the same matches. -/
structure AnswersAlike (registry other : Registry) (id : CheckerId) : Prop where
  /-- There are effective keys, and they are the same. -/
  effectiveKeys : ∃ keys, registry.effectiveKeys id = .ok keys ∧ other.effectiveKeys id = .ok keys
  /-- The matches are the same. -/
  findMatch : ∀ config host element, Engine.findMatch ⟨registry, config⟩ host id element =
    Engine.findMatch ⟨other, config⟩ host id element

section

variable {first second : List Checker} {registry other : Registry} {id : CheckerId}

/-- A checker answers alike if it has the same effective keys, for a match depends on nothing else
in the registry. -/
theorem answersAlike_of_effectiveKeys {keys : KeySet} (h : registry.effectiveKeys id = .ok keys)
    (h' : other.effectiveKeys id = .ok keys) : registry.AnswersAlike other id := by
  refine ⟨⟨keys, h, h'⟩, fun config host element => ?_⟩
  rw [Engine.findMatch, Engine.findMatch, h, h']
  rfl

/-- Where two lists agree, the answers are the same. -/
theorem answersAlike_of_alikeFrom (hfirst : (ofCheckers first).outcome = .ok registry)
    (hsecond : (ofCheckers second).outcome = .ok other) (h : registry.contains id = true)
    (h' : other.contains id = true) (alike : AlikeFrom first second id) :
    registry.AnswersAlike other id := by
  have hcomplete := (built_of_ofCheckers hfirst).1.complete
  have hcomplete' := (built_of_ofCheckers hsecond).1.complete
  obtain ⟨keys, hkeys⟩ := hcomplete.exists_effectiveKeys h
  obtain ⟨others, hothers⟩ := hcomplete'.exists_effectiveKeys h'
  have hclosed := (exists_outcome_eq_ok_iff.1 ⟨registry, hfirst⟩).2.1
  have hclosed' := (exists_outcome_eq_ok_iff.1 ⟨other, hsecond⟩).2.1
  rw [contains_iff_of_ofCheckers hfirst] at h
  rw [contains_iff_of_ofCheckers hsecond] at h'
  have heq : keys = others := by
    apply KeySet.ext_mem
    intro key
    rw [hcomplete.mem_effectiveKeys hkeys, hcomplete'.mem_effectiveKeys hothers,
      answers_iff_of_ofCheckers hfirst, answers_iff_of_ofCheckers hsecond]
    exact ⟨alike.declares hclosed' h', alike.symm.declares hclosed h⟩
  subst heq
  exact answersAlike_of_effectiveKeys hkeys hothers

/-- Where something in the second list can stand for every checker of the first, the answers are the
same for all of these. -/
theorem answersAlike_of_twins (hfirst : (ofCheckers first).outcome = .ok registry)
    (hsecond : (ofCheckers second).outcome = .ok other)
    (twins : ∀ a ∈ first, ∃ b ∈ second, a.Alike b) (h : registry.contains id = true) :
    registry.AnswersAlike other id := by
  have hclosed := (exists_outcome_eq_ok_iff.1 ⟨registry, hfirst⟩).2.1
  have hadmissible := (exists_outcome_eq_ok_iff.1 ⟨other, hsecond⟩).1
  have hid := (contains_iff_of_ofCheckers hfirst).1 h
  have hother : other.contains id = true := by
    obtain ⟨a, ha, rfl⟩ := List.mem_map.1 hid
    obtain ⟨b, hb, halike⟩ := twins a ha
    rw [contains_iff_of_ofCheckers hsecond, halike.id_eq]
    exact List.mem_map_of_mem hb
  exact answersAlike_of_alikeFrom hfirst hsecond h hother
    (alikeFrom_of_twins hclosed hadmissible hid fun a ha _ => twins a ha)

end

/-- **The answers of a checker depend only on what it leads to.** In the registries of two lists
that agree from a checker on, it has the same effective keys and the same matches. A list in another
order makes a registry exactly if the list does. And so it does not matter to the checkers of a list
if it is put in another order, if it is extended, or if checkers that name their keys and references
in another order or more than once stand for its own. -/
theorem answersAlike_of_agreement :
    (∀ (first second : List Checker) (registry other : Registry),
      (ofCheckers first).outcome = .ok registry → (ofCheckers second).outcome = .ok other →
      ∀ id, registry.contains id = true → other.contains id = true →
        AlikeFrom first second id → registry.AnswersAlike other id) ∧
    (∀ first second : List Checker, first.Perm second →
      ((∃ registry, (ofCheckers first).outcome = .ok registry) ↔
        ∃ registry, (ofCheckers second).outcome = .ok registry)) ∧
    ∀ (first second : List Checker) (registry other : Registry),
      (ofCheckers first).outcome = .ok registry → (ofCheckers second).outcome = .ok other →
      (∀ a ∈ first, ∃ b ∈ second, a.Alike b) →
        ∀ id, registry.contains id = true → registry.AnswersAlike other id := by
  refine ⟨?_, ?_, ?_⟩
  · intro first second registry other hfirst hsecond id h h' alike
    exact answersAlike_of_alikeFrom hfirst hsecond h h' alike
  · intro first second h
    exact ⟨exists_outcome_of_perm h, exists_outcome_of_perm h.symm⟩
  · intro first second registry other hfirst hsecond twins id h
    exact answersAlike_of_twins hfirst hsecond twins h

/-- The checkers of `sharedBase` in another order, some of them with repetitions, and the outermost
one in a further composite. -/
def wrappedBase : List Checker :=
  [Checker.composed "wrap" ["outer"], { id := "base", keys := ["b", "b"] },
    Checker.withParent { id := "right" } "base", Checker.composed "inner" ["right", "left"],
    Checker.withParent { id := "left", keys := ["l"] } "base",
    Checker.composed "outer" ["right", "inner", "right"]]

/-- The outermost composite of `sharedBase` answers alike in both orders, and both lists make a
registry. -/
theorem wrappedBase_answersAlike : ∃ registry other,
    (ofCheckers sharedBase).outcome = .ok registry ∧
      (ofCheckers wrappedBase).outcome = .ok other ∧ registry.contains "outer" = true ∧
      other.contains "outer" = true ∧ AlikeFrom sharedBase wrappedBase "outer" ∧
      sharedBase.Perm sharedBase.reverse ∧
      (∃ registry, (ofCheckers sharedBase.reverse).outcome = .ok registry) ∧
      registry.AnswersAlike other "outer" ∧ registry.AnswersAlike other "base" := by
  have hshared : (ofCheckers sharedBase).outcome.toOption.any (fun registry =>
      registry.contains "outer" && registry.contains "base") = true := by rfl
  have hwrapped : (ofCheckers wrappedBase).outcome.toOption.any (·.contains "outer") = true := by
    rfl
  have htwins : ∀ a ∈ sharedBase, ∃ b ∈ wrappedBase, a.Alike b := by decide
  have hperm : sharedBase.Perm sharedBase.reverse := (List.reverse_perm sharedBase).symm
  obtain ⟨registry, hfirst, -, htest⟩ := exists_built_of_any hshared
  obtain ⟨other, hsecond, -, h'⟩ := exists_built_of_any hwrapped
  obtain ⟨h, hbase⟩ := Bool.and_eq_true_iff.1 htest
  have halike : AlikeFrom sharedBase wrappedBase "outer" :=
    alikeFrom_of_twins (exists_outcome_eq_ok_iff.1 ⟨registry, hfirst⟩).2.1
      (exists_outcome_eq_ok_iff.1 ⟨other, hsecond⟩).1 ((contains_iff_of_ofCheckers hfirst).1 h)
      fun a ha _ => htwins a ha
  obtain ⟨hagree, hbuilds, hextended⟩ := answersAlike_of_agreement
  exact ⟨registry, other, hfirst, hsecond, h, h', halike, hperm,
    (hbuilds sharedBase sharedBase.reverse hperm).1 ⟨registry, hfirst⟩,
    hagree sharedBase wrappedBase registry other hfirst hsecond "outer" h h' halike,
    hextended sharedBase wrappedBase registry other hfirst hsecond htwins "base" hbase⟩

end Registry

end Suppression
