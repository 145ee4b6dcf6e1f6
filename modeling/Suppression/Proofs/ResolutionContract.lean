import Suppression.Proofs.ResolutionRun
/-!
# The contract of the resolution

What a single call asks of the state in which it is made, and what it gives for that. The state has
to be sound (`Roster.Sound`): distinct checkers on the stack, none of them settled, and a table that
is closed under links and holds the keys that are reached. Then a call settles its checker and
everything reached from it, and leaves a sound state with the same stack; or it finds that this
cannot be done, because of a cycle or because the stack is reached (`Roster.resolve_contract`).
Freezing begins in a sound state (`Roster.Coherent.sound_nil`).
-/

namespace Suppression.Roster

/-! ## States -/

/-- A state in which a checker may be asked for. -/
structure Sound (roster : Roster) (state : Progress) : Prop where
  /-- The index agrees with the checkers. -/
  indexed : roster.Indexed
  /-- Every reference is in the index. -/
  closed : ∀ checker ∈ roster.checkers, ∀ id,
    checker.parent = some id ∨ id ∈ checker.members → roster.contains id = true
  /-- No checker is under way twice. -/
  nodup : state.path.Nodup
  /-- Only registered checkers are under way. -/
  registered : ∀ id ∈ state.path, roster.contains id = true
  /-- No settled checker is under way. -/
  unsettled : ∀ id ∈ state.path, ¬ Settled state.table id
  /-- The references of settled checkers are settled. -/
  linkClosed : roster.LinkClosed state.table
  /-- The settled checkers have the keys that they reach. -/
  faithful : roster.Faithful state.table

/-- A checker is reached and not settled yet. -/
def Pending (roster : Roster) (table : KeyTable) (id other : CheckerId) : Prop :=
  roster.Reaches id other ∧ ¬ Settled table other

/-- A link between two checkers that are reached and not settled yet. -/
def PendingLinks (roster : Roster) (table : KeyTable) (id source target : CheckerId) : Prop :=
  roster.Links source target ∧ roster.Pending table id source ∧ roster.Pending table id target

namespace Sound

variable {roster : Roster} {state : Progress}

/-- The stack of a sound state leaves as much budget as there are other checkers. -/
theorem underway (sound : roster.Sound state) :
    roster.Underway state.path (roster.size - state.path.length) := by
  have hregistered : ∀ id ∈ state.path, id ∈ roster.ids :=
    fun id hid => sound.indexed.contains_iff.1 (sound.registered id hid)
  have hlength := length_le_size sound.nodup hregistered
  exact ⟨sound.nodup, hregistered, by omega⟩

/-- In a sound state, a call settles its checker or closes a cycle. -/
theorem resolved (sound : roster.Sound state) {id : CheckerId}
    (registered : roster.contains id = true) :
    roster.Resolved state.path state.table id
      (roster.resolve (roster.size - state.path.length) state.path state.table id) :=
  resolve_resolved sound.indexed (sound.indexed.forall_contains_iff_closed.1 sound.closed)
    sound.underway state.table (sound.indexed.contains_iff.1 registered)

/-- A sound state stays sound while the table grows by checkers off the stack. -/
theorem of_grows (sound : roster.Sound state) {id : CheckerId} {later : KeyTable}
    (grows : roster.Grows (fun other => roster.Reaches id other ∧ other ∉ state.path) state.table
      later) : roster.Sound ⟨state.path, later⟩ where
  indexed := sound.indexed
  closed := sound.closed
  nodup := sound.nodup
  registered := sound.registered
  unsettled other hother := by
    apply not_settled_iff.2
    apply grows.lookup_eq_none (not_settled_iff.1 (sound.unsettled other hother))
    rintro ⟨-, hoff⟩
    exact hoff hother
  linkClosed := grows.linkClosed sound.linkClosed
  faithful := grows.faithful sound.faithful

end Sound

/-- At first, with nobody under way and nobody settled, the state of a closed roster is sound. More
generally it is so whoever is under way, as long as these are distinct and registered. -/
theorem Coherent.sound_nil {roster : Roster} (coherent : roster.Coherent)
    (closed : roster.dangling? = none) {path : List CheckerId} (nodup : path.Nodup)
    (registered : ∀ id ∈ path, roster.contains id = true) : roster.Sound ⟨path, []⟩ where
  indexed := coherent.indexed
  closed := dangling?_eq_none_iff.1 closed
  nodup := nodup
  registered := registered
  unsettled _ _ := not_settled_iff.2 rfl
  linkClosed := linkClosed_nil roster
  faithful := faithful_nil roster

/-! ## What keeps a call from success -/

section

variable {roster : Roster} {admits : CheckerId → Prop} {table later : KeyTable} {id : CheckerId}

/-- If a checker is settled at last, so is what was pending. -/
theorem Grows.settled_of_pending (grows : roster.Grows admits table later)
    (linkClosed : roster.LinkClosed table) (settled : Settled later id) {other : CheckerId}
    (pending : roster.Pending table id other) : Settled later other :=
  (grows.linkClosed linkClosed).settled_of_reaches pending.1 settled

/-- If a checker is settled at last, there was no cycle of pending checkers. -/
theorem Grows.not_pending_cycle (grows : roster.Grows admits table later)
    (linkClosed : roster.LinkClosed table) (settled : Settled later id) :
    ¬ ∃ start, Relation.TransGen (roster.PendingLinks table id) start start := by
  rintro ⟨start, hcycle⟩
  obtain ⟨middle, ⟨-, pending, -⟩, -⟩ := Relation.TransGen.head'_iff.1 hcycle
  have hstart : Settled later start := grows.settled_of_pending linkClosed settled pending
  apply grows.not_transGen_self linkClosed hstart pending.2
  exact Relation.TransGen.mono (fun _ _ h => h.1) _ _ hcycle

/-- If a checker is settled at last, what was pending has been let in. -/
theorem Grows.admits_of_pending (grows : roster.Grows admits table later)
    (linkClosed : roster.LinkClosed table) (settled : Settled later id) {other : CheckerId}
    (pending : roster.Pending table id other) : admits other := by
  have hother : Settled later other := grows.settled_of_pending linkClosed settled pending
  exact (grows.settled_cases hother).resolve_left pending.2

/-- A way back is one of pending checkers, to one of them or to one under way. -/
theorem Returns.pending_cycle_or_mem {path : List CheckerId} {way : List CheckerId}
    {target : CheckerId} (returns : roster.Returns path later id way target)
    (grows : roster.Grows admits table later) :
    (∃ start, Relation.TransGen (roster.PendingLinks table id) start start) ∨
      ∃ other ∈ path, roster.Pending table id other := by
  have hpending : ∀ other ∈ way ++ [target], roster.Pending table id other := by
    intro other hother
    refine ⟨(reaches_iff_reflTransGen _ _ _).2 (returns.reflTransGen hother), ?_⟩
    intro hsettled
    exact not_settled_iff.2 (returns.unsettled other hother) (grows.settled hsettled)
  rcases List.mem_append.1 returns.back with hpath | hway
  · exact Or.inr ⟨target, hpath, hpending target (by simp)⟩
  · left
    refine ⟨target, Relation.TransGen.mono ?_ _ _ (returns.transGen_of_mem hway)⟩
    rintro source next ⟨hlink, hsource, hnext⟩
    exact ⟨hlink, hpending source hsource, hpending next hnext⟩

/-- A checker from which a way back has been found was not settled. -/
theorem Returns.not_settled {path : List CheckerId} {way : List CheckerId} {target : CheckerId}
    (returns : roster.Returns path later id way target) (grows : roster.Grows admits table later) :
    ¬ Settled table id := by
  have hid : id ∈ way ++ [target] := List.mem_of_head? returns.starts
  intro hsettled
  exact not_settled_iff.2 (returns.unsettled id hid) (grows.settled hsettled)

end

/-! ## The contract -/

/-- **The contract of one call.** In a sound state, let a registered checker be asked for. The call
has a run, and comes to what the resolution computes. If it returns keys, they are those declared
by the checkers reached; the stack is as it was; what was settled has the keys that it had; the
state is sound again; and exactly the checkers reached that were not settled are so now. It returns
keys if the checker was settled, or if the checkers reached that were not form no cycle among
themselves and none of them is on the stack; in all other cases it reports a cycle. -/
theorem resolve_contract {roster : Roster} {state : Progress} (sound : roster.Sound state)
    {id : CheckerId} (registered : roster.contains id = true) (depth : Nat) :
    ∃ last outcome moments, roster.Runs depth state (.one id) last outcome moments ∧
      roster.resolve (roster.size - state.path.length) state.path state.table id =
        (last.table, outcome) ∧
      (∀ keys, outcome = .ok keys →
        (∀ key, key ∈ keys ↔ roster.Answers id key) ∧
        last.path = state.path ∧
        (∀ other found, state.table.lookup other = some found →
          last.table.lookup other = some found) ∧
        roster.Sound last ∧
        ∀ other, Settled last.table other ∧ ¬ Settled state.table other ↔
          roster.Pending state.table id other) ∧
      ((∃ keys, outcome = .ok keys) ↔ Settled state.table id ∨
        (¬ ∃ start, Relation.TransGen (roster.PendingLinks state.table id) start start) ∧
          ∀ other ∈ state.path, ¬ roster.Pending state.table id other) ∧
      ((¬ ∃ keys, outcome = .ok keys) →
        ∃ path, outcome = .error (.conflict (.cycle path))) := by
  obtain ⟨path, moments, runs⟩ :=
    exists_runs sound.indexed sound.underway depth state.table id
  have hresolved := sound.resolved registered
  generalize roster.resolve (roster.size - state.path.length) state.path state.table id = result
    at runs hresolved
  cases hresolved with
  | @settles later keys grows found =>
    have hpath : path = state.path := runs.path_eq rfl
    have hsound : roster.Sound ⟨path, later⟩ := hpath ▸ sound.of_grows grows
    have hid : Settled later id := ⟨keys, found⟩
    refine ⟨⟨path, later⟩, .ok keys, moments, runs, rfl, ?_, ?_, ?_⟩
    · rintro _ ⟨⟩
      refine ⟨hsound.faithful id keys found, hpath, fun _ _ => grows.lookup, hsound, ?_⟩
      intro other
      constructor
      · rintro ⟨hsettled, hnew⟩
        exact ⟨((grows.settled_cases hsettled).resolve_left hnew).1, hnew⟩
      · intro pending
        exact ⟨grows.settled_of_pending sound.linkClosed hid pending, pending.2⟩
    · refine ⟨fun _ => Or.inr ⟨grows.not_pending_cycle sound.linkClosed hid, ?_⟩,
        fun _ => ⟨keys, rfl⟩⟩
      intro other hother pending
      exact (grows.admits_of_pending sound.linkClosed hid pending).2 hother
    · intro h
      exact absurd ⟨keys, rfl⟩ h
  | @returns later way target grows returns =>
    refine ⟨⟨path, later⟩, _, moments, runs, rfl, ?_, ?_, fun _ => ⟨_, rfl⟩⟩
    · intro keys hkeys
      exact absurd hkeys (by simp)
    · constructor
      · rintro ⟨keys, hkeys⟩
        exact absurd hkeys (by simp)
      · rintro (hsettled | ⟨hacyclic, hoff⟩)
        · exact absurd hsettled (returns.not_settled grows)
        · rcases returns.pending_cycle_or_mem grows with hcycle | ⟨other, hother, pending⟩
          · exact absurd hcycle hacyclic
          · exact absurd pending (hoff other hother)

/-- In `snaredRoster`, while `lead` is under way, the checker outside the cycle is settled and the
state is sound again; then `a` is asked for in it, and a cycle is reported. -/
theorem snaredRoster_contract : snaredRoster.Sound ⟨["lead"], []⟩ ∧
    snaredRoster.contains "calm" = true ∧ snaredRoster.contains "a" = true ∧
    ∃ middle, snaredRoster.Sound middle ∧ middle.path = ["lead"] ∧
      (∀ other, Settled middle.table other ↔ snaredRoster.Pending [] "calm" other) ∧
      ∃ last path, snaredRoster.resolve (snaredRoster.size - middle.path.length) middle.path
        middle.table "a" = (last, .error (.conflict (.cycle path))) := by
  have hsound : snaredRoster.Sound ⟨["lead"], []⟩ :=
    (Arises.registerAll Arises.empty _).coherent.sound_nil rfl (by decide) (by decide)
  have hcalm : snaredRoster.contains "calm" = true := by decide
  have ha : snaredRoster.contains "a" = true := by decide
  obtain ⟨middle, outcome, -, -, hresolve, hok, -, -⟩ := resolve_contract hsound hcalm 2
  have hcomputed : snaredRoster.resolve (snaredRoster.size - 1) ["lead"] [] "calm" =
      ([("calm", ∅)], .ok ∅) := rfl
  obtain ⟨htable, houtcome⟩ := Prod.mk.inj (hcomputed.symm.trans hresolve)
  obtain ⟨-, hpath, -, hmiddle, hnew⟩ := hok ∅ houtcome.symm
  have hsettled : ∀ other, Settled middle.table other ↔ snaredRoster.Pending [] "calm" other := by
    intro other
    rw [← hnew other]
    exact ⟨fun h => ⟨h, not_settled_iff.2 rfl⟩, fun h => h.1⟩
  obtain ⟨last, result, -, -, hfailed, -, -, hcycle⟩ := resolve_contract hmiddle ha 2
  have herror : ¬ ∃ keys, result = .ok keys := by
    rintro ⟨keys, rfl⟩
    rw [hpath, ← htable] at hfailed
    have hcomputed : (snaredRoster.resolve (snaredRoster.size - 1) ["lead"] [("calm", ∅)] "a").2 =
      .error (.conflict (.cycle ["a", "b", "a"])) := rfl
    exact absurd (hcomputed.symm.trans (congrArg Prod.snd hfailed)) (by simp)
  obtain ⟨path, rfl⟩ := hcycle herror
  exact ⟨hsound, hcalm, ha, middle, hmiddle, hpath, hsettled, last.table, path, hfailed⟩

end Suppression.Roster
