import Suppression.Proofs.Resolution
/-!
# Freezing a roster

What comes of a roster when it is frozen: a dangling reference or a cycle refuses it, and otherwise
its registry is *complete* (`Registry.Complete`): every registered checker has an entry, and the
table is one that has grown from nothing. What a registry answers is then read off the graph of its
checkers.
-/

namespace Suppression

/-- What passes a test as far as there is a value is a value that passes it. -/
theorem exists_ok_of_any {ε α : Type} {outcome : Except ε α} {test : α → Bool}
    (h : outcome.toOption.any test = true) : ∃ value, outcome = .ok value ∧ test value = true := by
  cases outcome with
  | error cause => exact absurd h Bool.false_ne_true
  | ok value => exact ⟨value, rfl, h⟩

namespace Registry

/-- A registry as freezing makes it. -/
structure Complete (registry : Registry) : Prop where
  /-- The index agrees with the checkers. -/
  coherent : registry.roster.Coherent
  /-- Every reference leads to a registered checker. -/
  closed : Closed registry.roster.checkers.toList
  /-- The table has grown from nothing. -/
  grows : registry.roster.Grows (fun _ => True) [] registry.keyTable
  /-- Every registered checker has its keys. -/
  settled : ∀ id ∈ registry.roster.ids, Settled registry.keyTable id

/-- The registries that can be built: by freezing a roster that arose by registering. -/
def Built (registry : Registry) : Prop :=
  ∃ roster : Roster, roster.Arises ∧ roster.freeze.outcome = .ok registry

/-- The checker of a name is the one that stands under it in the roster. -/
theorem checker_eq_ok_iff {registry : Registry} {id : CheckerId} {checker : Checker} :
    registry.checker id = .ok checker ↔ registry.roster.checker? id = some checker := by
  rw [Registry.checker]
  cases registry.roster.checker? id <;> simp

namespace Complete

variable {registry : Registry}

/-- A registered name is found in the index. -/
theorem contains_iff (complete : registry.Complete) {id : CheckerId} :
    registry.contains id = true ↔ id ∈ registry.roster.ids :=
  complete.coherent.contains_iff

/-- The table of a complete registry holds the keys that are reached. -/
theorem faithful (complete : registry.Complete) : registry.roster.Faithful registry.keyTable :=
  complete.grows.faithful (Roster.faithful_nil registry.roster)

/-- A checker has effective keys exactly if it is registered. -/
theorem settled_iff (complete : registry.Complete) {id : CheckerId} :
    Settled registry.keyTable id ↔ id ∈ registry.roster.ids := by
  constructor
  · intro hsettled
    rcases complete.grows.known_of_settled hsettled with hold | hknown
    · exact absurd hold (not_settled_iff.2 rfl)
    · exact complete.coherent.mem_ids_iff.2 hknown
  · exact complete.settled id

/-- The effective keys of a registered checker are found. -/
theorem exists_effectiveKeys (complete : registry.Complete) {id : CheckerId}
    (registered : registry.contains id = true) :
    ∃ keys, registry.effectiveKeys id = .ok keys := by
  obtain ⟨keys, hkeys⟩ := complete.settled id (complete.contains_iff.1 registered)
  exact ⟨keys, by rw [effectiveKeys, hkeys]⟩

/-- There are no effective keys under a name that is not registered. -/
theorem effectiveKeys_of_not_contains (complete : registry.Complete) {id : CheckerId}
    (h : registry.contains id = false) :
    registry.effectiveKeys id = .error (.unknownChecker id) := by
  have hid : id ∉ registry.roster.ids := by
    intro hmem
    rw [complete.contains_iff.2 hmem] at h
    exact absurd h (by simp)
  rw [← complete.settled_iff, not_settled_iff] at hid
  rw [effectiveKeys, hid]

/-- The effective keys of a checker are those to which it answers. -/
theorem mem_effectiveKeys (complete : registry.Complete) {id : CheckerId} {keys : KeySet}
    (h : registry.effectiveKeys id = .ok keys) (key : String) :
    key ∈ keys ↔ registry.roster.Answers id key := by
  cases hfound : registry.keyTable.lookup id with
  | none =>
    rw [effectiveKeys, hfound] at h
    exact absurd h (by simp)
  | some found =>
    rw [effectiveKeys, hfound] at h
    rw [← Except.ok.inj h]
    exact complete.faithful id found hfound key

/-- A name under which there is a checker is registered. -/
theorem contains_of_checker (complete : registry.Complete) {id : CheckerId} {checker : Checker}
    (known : registry.checker id = .ok checker) : registry.contains id = true := by
  rw [complete.contains_iff, complete.coherent.mem_ids_iff]
  exact ⟨checker, checker_eq_ok_iff.1 known⟩

/-- The references of a registered checker are registered. -/
theorem contains_of_mem_references (complete : registry.Complete) {id : CheckerId}
    {checker : Checker} (known : registry.checker id = .ok checker) {source : CheckerId}
    (h : source ∈ checker.references) : registry.contains source = true := by
  rw [checker_eq_ok_iff, complete.coherent.checker?_eq_some_iff] at known
  exact complete.contains_iff.2 (complete.closed.mem_ids known.1 h)

/-- The effective keys of a checker are its own and the effective keys of its references. -/
theorem mem_effectiveKeys_iff (complete : registry.Complete) {id : CheckerId} {checker : Checker}
    (known : registry.checker id = .ok checker) {keys : KeySet}
    (h : registry.effectiveKeys id = .ok keys) (key : String) :
    key ∈ keys ↔ key ∈ checker.keys ∨ ∃ source ∈ checker.references, ∃ others,
      registry.effectiveKeys source = .ok others ∧ key ∈ others := by
  rw [complete.mem_effectiveKeys h, Roster.answers_iff (checker_eq_ok_iff.1 known)]
  refine or_congr Iff.rfl (exists_congr fun source => and_congr_right fun hsource => ?_)
  constructor
  · intro hanswers
    obtain ⟨others, hothers⟩ :=
      complete.exists_effectiveKeys (complete.contains_of_mem_references known hsource)
    exact ⟨others, hothers, (complete.mem_effectiveKeys hothers key).2 hanswers⟩
  · rintro ⟨others, hothers, hkey⟩
    exact (complete.mem_effectiveKeys hothers key).1 hkey

/-- The references of a complete registry form no cycle. -/
theorem not_cyclic (complete : registry.Complete) :
    ¬ Cyclic registry.roster.checkers.toList := by
  rintro ⟨id, hcycle⟩
  rw [← complete.coherent.links_eq] at hcycle
  obtain ⟨middle, ⟨checker, hchecker, -⟩, -⟩ := Relation.TransGen.head'_iff.1 hcycle
  have hid := complete.coherent.mem_ids_iff.2 ⟨checker, hchecker⟩
  exact complete.grows.not_transGen_self (Roster.linkClosed_nil registry.roster)
    (complete.settled id hid) (not_settled_iff.2 rfl) hcycle

end Complete

end Registry

namespace Roster

/-! ## What freezing comes to -/

/-- A dangling reference refuses the roster. -/
theorem freeze_of_dangling {roster : Roster} {id : CheckerId} (h : roster.dangling? = some id) :
    roster.freeze = ⟨.error (.unknownChecker id), []⟩ := by
  rw [freeze, h]

/-- Without dangling references, the resolution decides. -/
theorem freeze_outcome_of_closed {roster : Roster} (h : roster.dangling? = none) :
    roster.freeze.outcome =
      (roster.resolveAll [] roster.ids).2.map
        fun _ => { roster, keyTable := (roster.resolveAll [] roster.ids).1 } := by
  rw [freeze, h]
  simp only
  cases (roster.resolveAll [] roster.ids).2 <;> rfl

/-- Resolving all registered checkers of a closed roster settles them or closes a cycle. -/
theorem Coherent.resolvedAll_ids {roster : Roster} (coherent : roster.Coherent)
    (closed : Closed roster.checkers.toList) :
    roster.ResolvedAll [] roster.ids (roster.resolveAll [] roster.ids) :=
  resolveAll_resolvedAll coherent closed [] fun _ h => h

/-- A coherent roster that can be frozen gives a complete registry of its checkers. -/
theorem Coherent.complete_of_freeze {roster : Roster} (coherent : roster.Coherent)
    {registry : Registry} (h : roster.freeze.outcome = .ok registry) :
    registry.roster = roster ∧ registry.Complete := by
  cases hdangling : roster.dangling? with
  | some id =>
    rw [freeze_of_dangling hdangling] at h
    exact absurd h (by simp)
  | none =>
    have closed := coherent.dangling?_eq_none_iff_closed.1 hdangling
    have hall := coherent.resolvedAll_ids closed
    rw [freeze_outcome_of_closed hdangling] at h
    generalize roster.resolveAll [] roster.ids = result at hall h
    cases hall with
    | returns grows split settled returns => exact absurd h (by simp [Except.map])
    | settles grows settled =>
      rw [← Except.ok.inj h]
      exact ⟨rfl, coherent, closed, grows, settled⟩

/-- A closed roster with a cycle is refused for a cycle. -/
theorem Coherent.freeze_of_cyclic {roster : Roster} (coherent : roster.Coherent)
    (closed : Closed roster.checkers.toList) (cyclic : Cyclic roster.checkers.toList) :
    ∃ path, roster.freeze.outcome = .error (.conflict (.cycle path)) := by
  have hdangling := coherent.dangling?_eq_none_iff_closed.2 closed
  have hall := coherent.resolvedAll_ids closed
  have hcomplete : ∀ registry, roster.freeze.outcome = .ok registry →
      registry.roster = roster ∧ registry.Complete :=
    fun _ => coherent.complete_of_freeze
  rw [freeze_outcome_of_closed hdangling] at hcomplete ⊢
  generalize roster.resolveAll [] roster.ids = result at hall hcomplete
  cases hall with
  | @returns _ _ _ way _ target grows split settled returns => exact ⟨cyclePath way target, rfl⟩
  | settles grows settled =>
    -- the registry would be complete, and such a registry has no cycle
    obtain ⟨hroster, complete⟩ := hcomplete _ rfl
    exact absurd (hroster ▸ cyclic) complete.not_cyclic

/-- A closed roster without a cycle can be frozen. -/
theorem Coherent.freeze_of_not_cyclic {roster : Roster} (coherent : roster.Coherent)
    (closed : Closed roster.checkers.toList) (acyclic : ¬ Cyclic roster.checkers.toList) :
    ∃ registry, roster.freeze.outcome = .ok registry := by
  have hall := coherent.resolvedAll_ids closed
  rw [freeze_outcome_of_closed (coherent.dangling?_eq_none_iff_closed.2 closed)]
  generalize roster.resolveAll [] roster.ids = result at hall
  cases hall with
  | settles grows settled => exact ⟨_, rfl⟩
  | @returns _ _ _ way _ target grows split settled returns =>
    have hcycle := returns.transGen_self
    rw [coherent.links_eq] at hcycle
    exact absurd ⟨target, hcycle⟩ acyclic

end Roster

/-- A registry that can be built is complete. -/
theorem Registry.Built.complete {registry : Registry} (built : registry.Built) :
    registry.Complete := by
  obtain ⟨roster, arises, hfreeze⟩ := built
  exact (arises.coherent.complete_of_freeze hfreeze).2

end Suppression
