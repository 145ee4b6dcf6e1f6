import Suppression.Proofs.CyclePath
/-!
# The log of a resolution

What is recorded while a roster is frozen tells how its effective keys were found. A checker is
recorded once, with the keys that it will keep, and after all to which it refers; a completed
registry is recorded last. If a cycle stops the resolution, the records up to then are still of this
kind, and none is of a checker that leads to a cycle (`Roster.freeze_log`). The reason is that
records are made in the order in which the table of keys grows, so what they tell is read off its
growth (`Roster.Grows.settled_before`).
-/

namespace Suppression

/-! ## Entries of a growing table -/

namespace Roster.Grows

variable {roster : Roster} {admits : CheckerId → Prop} {table : KeyTable}

/-- The entries of a table grown from nothing are what is looked up in it. -/
theorem mem_iff_lookup (grows : roster.Grows admits [] table) {id : CheckerId} {keys : KeySet} :
    (id, keys) ∈ table ↔ table.lookup id = some keys := by
  induction grows with
  | refl => simp
  | snoc _ _ fresh _ _ _ ih =>
    rw [lookup_snoc fresh, List.mem_append, ih, List.mem_singleton, Prod.mk.injEq]

/-- A checker is settled in a table grown from nothing exactly if it has an entry. -/
theorem settled_iff_mem (grows : roster.Grows admits [] table) {id : CheckerId} :
    Settled table id ↔ id ∈ table.map Prod.fst := by
  rw [List.mem_map]
  constructor
  · rintro ⟨keys, hkeys⟩
    exact ⟨(id, keys), grows.mem_iff_lookup.2 hkeys, rfl⟩
  · rintro ⟨⟨other, keys⟩, hmem, rfl⟩
    exact ⟨keys, grows.mem_iff_lookup.1 hmem⟩

/-- No checker has two entries in a table grown from nothing. -/
theorem nodup (grows : roster.Grows admits [] table) : (table.map Prod.fst).Nodup := by
  induction grows with
  | refl => exact List.nodup_nil
  | snoc earlier _ fresh _ _ _ ih =>
    rw [List.map_append, List.map_singleton, ← List.concat_eq_append]
    refine ih.concat ?_
    rw [← earlier.settled_iff_mem]
    exact not_settled_iff.2 fresh

/-- **An entry comes after the entries of all references.** -/
theorem settled_before (grows : roster.Grows admits [] table) {before after : KeyTable}
    {id : CheckerId} {keys : KeySet} (split : table = before ++ (id, keys) :: after)
    {checker : Checker} (known : roster.checker? id = some checker) {target : CheckerId}
    (htarget : target ∈ checker.references) : target ∈ before.map Prod.fst := by
  induction grows generalizing after with
  | refl => exact absurd split (by simp)
  | @snoc earlier last found _ grown _ _ hfound settled _ ih =>
    rcases List.eq_nil_or_concat' after with rfl | ⟨inner, entry, rfl⟩
    · -- the last entry: its references were settled when it was added
      obtain ⟨rfl, hentry⟩ := List.append_inj' split rfl
      obtain ⟨rfl, -⟩ := Prod.mk.inj (List.cons.inj hentry).1
      rw [hfound] at known
      obtain rfl := Option.some.inj known
      exact grown.settled_iff_mem.1 (settled target htarget)
    · rw [← List.cons_append, ← List.append_assoc] at split
      exact ih (List.append_inj' split rfl).1

end Roster.Grows

/-- Effective keys are those that stand in the table. -/
theorem Registry.effectiveKeys_eq_ok_iff {registry : Registry} {id : CheckerId} {keys : KeySet} :
    registry.effectiveKeys id = .ok keys ↔ registry.keyTable.lookup id = some keys := by
  unfold effectiveKeys
  cases registry.keyTable.lookup id <;> simp

/-! ## Records -/

/-- The checker whose keys a record tells. -/
def Event.resolved? : Event → Option CheckerId
  | .resolved id _ => some id
  | _ => none

namespace Roster

/-- The records of the entries of a table. -/
def recordsOf (table : KeyTable) : List Event :=
  table.map fun entry => .resolved entry.1 entry.2

/-- The checkers that are recorded are those with an entry. -/
theorem filterMap_recordsOf (table : KeyTable) :
    (recordsOf table).filterMap Event.resolved? = table.map Prod.fst := by
  induction table with
  | nil => rfl
  | cons entry rest ih => exact congrArg (entry.1 :: ·) ih

/-- The record of a registry tells of no further checker. -/
theorem filterMap_recordsOf_froze (table : KeyTable) (count : Nat) :
    (recordsOf table ++ [Event.froze count]).filterMap Event.resolved? = table.map Prod.fst := by
  rw [List.filterMap_append, filterMap_recordsOf]
  exact List.append_nil _

/-- The records of the entries are recorded. -/
theorem mem_recordsOf {table : KeyTable} {id : CheckerId} {keys : KeySet} :
    .resolved id keys ∈ recordsOf table ↔ (id, keys) ∈ table := by
  simp [recordsOf]

/-- Every record of a log that tells the keys of a checker comes after records of its parent and of
all its members. -/
def ToldInOrder (roster : Roster) (log : List Event) : Prop :=
  ∀ before id keys after, log = before ++ .resolved id keys :: after →
    ∀ checker ∈ roster.checkers.toList, checker.id = id →
      ∀ target, checker.parent = some target ∨ target ∈ checker.members →
        target ∈ before.filterMap Event.resolved?

/-- The entries of a table grown from nothing are recorded in order. -/
theorem Grows.toldInOrder {roster : Roster} (coherent : roster.Coherent)
    {admits : CheckerId → Prop} {table : KeyTable} (grows : roster.Grows admits [] table) :
    roster.ToldInOrder (recordsOf table) := by
  intro before id keys after split checker hchecker hid target htarget
  obtain ⟨front, rest, rfl, rfl, hrest⟩ := List.map_eq_append_iff.1 split
  obtain ⟨entry, back, rfl, hentry, -⟩ := List.map_eq_cons_iff.1 hrest
  obtain ⟨rfl, rfl⟩ := Event.resolved.inj hentry
  rw [← recordsOf, filterMap_recordsOf]
  exact grows.settled_before rfl (coherent.checker?_eq_some_iff.2 ⟨hchecker, hid⟩)
    (Checker.mem_references.2 htarget)

/-- A record of another kind behind a log in order does not disturb it. -/
theorem ToldInOrder.concat {roster : Roster} {log : List Event} (told : roster.ToldInOrder log)
    {event : Event} (h : event.resolved? = none) : roster.ToldInOrder (log ++ [event]) := by
  intro before id keys after split
  rcases List.eq_nil_or_concat' after with rfl | ⟨inner, last, rfl⟩
  · obtain ⟨-, hlast⟩ := List.append_inj' split rfl
    rw [(List.cons.inj hlast).1] at h
    exact absurd h (by simp [Event.resolved?])
  · rw [← List.cons_append, ← List.append_assoc] at split
    exact told before id keys inner (List.append_inj' split rfl).1

/-! ## The log of freezing -/

variable {roster : Roster}

/-- A log of effective keys only. -/
def TellsKeysOnly (log : List Event) : Prop := ∀ event ∈ log, ∃ id keys, event = .resolved id keys

/-- The records of the entries of a table are of this kind. -/
theorem tellsKeysOnly_recordsOf (table : KeyTable) : TellsKeysOnly (recordsOf table) := by
  intro event hevent
  obtain ⟨entry, -, rfl⟩ := List.mem_map.1 hevent
  exact ⟨entry.1, entry.2, rfl⟩

/-- What freezing a roster comes to, with its log: a reference leads nowhere, and nothing is done;
or the table has grown until every checker had an entry, or until a cycle was met, and its entries
are recorded. -/
inductive Frozen (roster : Roster) : Logged Failure Registry → Prop
  /-- A reference leads nowhere. -/
  | dangles {id : CheckerId} : Frozen roster ⟨.error (.unknownChecker id), []⟩
  /-- Every checker has an entry. -/
  | completes {table : KeyTable} (complete : Registry.Complete ⟨roster, table⟩) :
      Frozen roster ⟨.ok ⟨roster, table⟩, recordsOf table ++ [.froze roster.size]⟩
  /-- There is a cycle. -/
  | stops {table : KeyTable} {path : List CheckerId}
      (grows : roster.Grows (fun _ => True) [] table) :
      Frozen roster ⟨.error (.conflict (.cycle path)), recordsOf table⟩

/-- Freezing comes to nothing else. -/
theorem Coherent.frozen (coherent : roster.Coherent) : roster.Frozen roster.freeze := by
  unfold freeze
  cases hdangling : roster.dangling? with
  | some id => exact .dangles
  | none =>
    have closed := coherent.dangling?_eq_none_iff_closed.1 hdangling
    have hall := coherent.resolvedAll_ids closed
    generalize roster.resolveAll [] roster.ids = result at hall
    cases hall with
    | settles grows settled => exact .completes ⟨coherent, closed, grows, settled⟩
    | returns grows split settled returns => exact .stops grows

/-- **What the freezing of a roster leaves in the log**, whatever calls the roster has come from. If
there is a registry, every registered checker is recorded once, with its effective keys and after
its parent and members, nothing else is recorded before the registry is completed, and that comes
last, with the number of checkers. If a cycle is reported, nothing but checkers is recorded, none
twice, each after its parent and members, and none that leads to a cycle. If a reference leads
nowhere, nothing is recorded. -/
theorem freeze_log (arises : roster.Arises) :
    (∀ registry, roster.freeze.outcome = .ok registry →
      (∃ told, roster.freeze.log = told ++ [.froze registry.size] ∧ TellsKeysOnly told) ∧
      (roster.freeze.log.filterMap Event.resolved?).Nodup ∧
      (∀ id, id ∈ roster.freeze.log.filterMap Event.resolved? ↔ registry.contains id = true) ∧
      (∀ id keys, .resolved id keys ∈ roster.freeze.log ↔
        registry.effectiveKeys id = .ok keys) ∧
      roster.ToldInOrder roster.freeze.log) ∧
    (∀ path, roster.freeze.outcome = .error (.conflict (.cycle path)) →
      TellsKeysOnly roster.freeze.log ∧
      (roster.freeze.log.filterMap Event.resolved?).Nodup ∧
      roster.ToldInOrder roster.freeze.log ∧
      ∀ id ∈ roster.freeze.log.filterMap Event.resolved?,
        ¬ LeadsToCycle roster.checkers.toList id) ∧
    ∀ id, roster.freeze.outcome = .error (.unknownChecker id) → roster.freeze.log = [] := by
  have coherent := arises.coherent
  have hfrozen := coherent.frozen
  generalize roster.freeze = result at hfrozen
  cases hfrozen with
  | dangles =>
    refine ⟨?_, ?_, fun _ _ => rfl⟩
    · intro registry h
      exact absurd h (by simp)
    · intro path h
      exact absurd h (by simp)
  | @completes table complete =>
    refine ⟨?_, ?_, ?_⟩
    · rintro registry ⟨⟩
      have grows : roster.Grows (fun _ => True) [] table := complete.grows
      rw [filterMap_recordsOf_froze]
      refine ⟨⟨_, rfl, tellsKeysOnly_recordsOf table⟩, grows.nodup, ?_, ?_,
        (grows.toldInOrder coherent).concat rfl⟩
      · intro id
        rw [← grows.settled_iff_mem, complete.settled_iff, complete.contains_iff]
      · intro id keys
        rw [List.mem_append, mem_recordsOf, grows.mem_iff_lookup,
          Registry.effectiveKeys_eq_ok_iff]
        simp
    · intro path h
      exact absurd h (by simp)
    · intro id h
      exact absurd h (by simp)
  | @stops table found grows =>
    refine ⟨?_, ?_, ?_⟩
    · intro registry h
      exact absurd h (by simp)
    · intro path _
      rw [filterMap_recordsOf]
      refine ⟨tellsKeysOnly_recordsOf table, grows.nodup, grows.toldInOrder coherent, ?_⟩
      intro id hid
      exact grows.not_leadsToCycle coherent (grows.settled_iff_mem.2 hid)
    · intro id h
      exact absurd h (by simp)

/-- A composite that stands before its members, which share a parent. -/
def fanRoster : Roster :=
  (Roster.empty.registerAll [Checker.composed "fan" ["left", "right", "left"],
    Checker.withParent { id := "left" } "base", Checker.withParent { id := "right" } "base",
    { id := "base", keys := ["b"] }]).1

/-- A checker whose parent is not there. -/
def orphanRoster : Roster := (Roster.empty.registerAll [Checker.withParent { id := "x" } "y"]).1

/-- The shared parent is recorded once and first, and the composite last; of the checkers of
`snaredRoster` only the one outside the cycle is recorded; and for an orphan nothing is. -/
theorem fanRoster_log :
    (fanRoster.Arises ∧ ∃ registry, fanRoster.freeze.outcome = .ok registry ∧
      fanRoster.freeze.log.filterMap Event.resolved? = ["base", "left", "right", "fan"] ∧
      ["base", "left", "right", "fan"].Nodup ∧
      (∀ id, id ∈ ["base", "left", "right", "fan"] ↔ registry.contains id = true) ∧
      fanRoster.ToldInOrder fanRoster.freeze.log) ∧
    (snaredRoster.Arises ∧
      snaredRoster.freeze.outcome = .error (.conflict (.cycle ["a", "b", "a"])) ∧
      snaredRoster.freeze.log.filterMap Event.resolved? = ["calm"] ∧
      ¬ LeadsToCycle snaredRoster.checkers.toList "calm") ∧
    orphanRoster.Arises ∧ orphanRoster.freeze.outcome = .error (.unknownChecker "y") ∧
      orphanRoster.freeze.log = [] := by
  have hfan : fanRoster.Arises := Arises.registerAll Arises.empty _
  have hsnared : snaredRoster.Arises := Arises.registerAll Arises.empty _
  have horphan : orphanRoster.Arises := Arises.registerAll Arises.empty _
  have hcycle : snaredRoster.freeze.outcome = .error (.conflict (.cycle ["a", "b", "a"])) := by
    rfl
  have hdangling : orphanRoster.freeze.outcome = .error (.unknownChecker "y") := by rfl
  have htold : fanRoster.freeze.log.filterMap Event.resolved? =
      ["base", "left", "right", "fan"] := by rfl
  have hcalm : snaredRoster.freeze.log.filterMap Event.resolved? = ["calm"] := by rfl
  have hbuilds : fanRoster.freeze.outcome.toOption.any (fun _ => true) = true := by rfl
  obtain ⟨registry, hregistry, -⟩ := exists_ok_of_any hbuilds
  obtain ⟨hok, -, -⟩ := freeze_log hfan
  obtain ⟨-, hnodup, hmem, -, horder⟩ := hok registry hregistry
  obtain ⟨-, hstopped, -⟩ := freeze_log hsnared
  obtain ⟨-, -, -, houtside⟩ := hstopped _ hcycle
  obtain ⟨-, -, hnothing⟩ := freeze_log horphan
  rw [htold] at hnodup hmem
  rw [hcalm] at houtside
  exact ⟨⟨hfan, registry, hregistry, htold, hnodup, hmem, horder⟩,
    ⟨hsnared, hcycle, hcalm, houtside "calm" (List.mem_singleton_self _)⟩, horphan, hdangling,
    hnothing _ hdangling⟩

end Roster

end Suppression
