import Suppression.Proofs.Freezing
/-!
# The reported cycle

A roster whose references form a cycle is refused with a path of names. The path is cut out of the
checkers under way where the repeated one stands, so it is a cycle that passes no checker twice
(`SimpleCycle`) and leaves out the checkers that only led there. Resolution goes through the
checkers in the order of registration, and one that is settled leads to no cycle; so what is
reported is reached from the first registered checker that leads to a cycle at all
(`simpleCycle_of_freeze`).
-/

namespace Suppression

/-! ## Cycles as paths -/

/-- A path of names that is a cycle: it follows parents and members of some checkers, comes back to
its first checker with its last step, and passes no checker twice before. -/
structure SimpleCycle (checkers : List Checker) (path : List CheckerId) : Prop where
  /-- There is at least one step. -/
  two_le_length : 2 ≤ path.length
  /-- The path ends where it started. -/
  closes : path.head? = path.getLast?
  /-- Before it ends there, no checker comes twice. -/
  nodup : path.dropLast.Nodup
  /-- It passes only registered checkers. -/
  registered : ∀ id ∈ path.dropLast, id ∈ checkers.map (·.id)
  /-- Each checker has the next one as its parent or among its members. -/
  linked : path.IsChain fun source target => ∃ checker ∈ checkers, checker.id = source ∧
    (checker.parent = some target ∨ target ∈ checker.members)

/-- A cycle can be reached from a name. -/
def LeadsToCycle (checkers : List Checker) (id : CheckerId) : Prop :=
  ∃ target, Relation.ReflTransGen (Names checkers) id target ∧
    Relation.TransGen (Names checkers) target target

/-- Every member of a chain is reached from the first one. -/
theorem reflTransGen_of_isChain {α : Type} {r : α → α → Prop} {first other : α} {rest : List α}
    (h : (first :: rest).IsChain r) (hother : other ∈ first :: rest) :
    Relation.ReflTransGen r first other := by
  rcases List.mem_cons.1 hother with rfl | hother
  · exact Relation.ReflTransGen.refl
  · have hpairwise := List.isChain_iff_pairwise.1 (h.imp fun _ _ => Relation.ReflTransGen.single)
    exact (List.pairwise_cons.1 hpairwise).1 other hother

/-- Every member of a chain that comes back to its start leads back to itself. -/
theorem transGen_self_of_isChain {α : Type} {r : α → α → Prop} {start id : α} {loop : List α}
    (h : (start :: (loop ++ [start])).IsChain r) (hid : id ∈ start :: loop) :
    Relation.TransGen r id id := by
  have hto : Relation.ReflTransGen r start id := by
    apply reflTransGen_of_isChain h
    rw [← List.cons_append]
    exact List.mem_append_left [start] hid
  obtain ⟨before, after, hsplit⟩ := List.append_of_mem hid
  rw [← List.cons_append, hsplit, List.append_assoc, List.cons_append] at h
  have hback : Relation.TransGen r id start := Roster.transGen_of_isChain h.right_of_append
  exact hback.trans_left hto

namespace SimpleCycle

variable {checkers : List Checker}

/-- A chain that comes back to its first checker is a cycle if it passes no checker twice before. -/
theorem of_isChain {start : CheckerId} {loop : List CheckerId}
    (hchain : (start :: (loop ++ [start])).IsChain (Names checkers))
    (hnodup : (start :: loop).Nodup) : SimpleCycle checkers (start :: (loop ++ [start])) := by
  have hfront : (start :: (loop ++ [start])).dropLast = start :: loop := by
    rw [← List.cons_append, List.dropLast_concat]
  refine ⟨?_, ?_, ?_, ?_, ?_⟩
  · simp
  · rw [← List.cons_append, List.getLast?_concat]
    rfl
  · rw [hfront]
    exact hnodup
  · intro id hid
    rw [hfront] at hid
    -- whoever leads anywhere is registered
    obtain ⟨next, ⟨checker, hmem, rfl, -⟩, -⟩ :=
      Relation.TransGen.head'_iff.1 (transGen_self_of_isChain hchain hid)
    exact List.mem_map_of_mem hmem
  · exact hchain

/-- A cycle is a chain of names that starts and ends with the same one. -/
theorem exists_loop {path : List CheckerId} (cycle : SimpleCycle checkers path) :
    ∃ start loop, path = start :: (loop ++ [start]) ∧
      (start :: (loop ++ [start])).IsChain (Names checkers) := by
  have hchain : path.IsChain (Names checkers) := cycle.linked
  have hlength := cycle.two_le_length
  have hcloses := cycle.closes
  cases path with
  | nil => exact absurd hlength (by simp)
  | cons start rest =>
    rcases List.eq_nil_or_concat' rest with rfl | ⟨loop, last, rfl⟩
    · exact absurd hlength (by simp)
    · rw [← List.cons_append, List.getLast?_concat, List.cons_append, List.head?_cons,
        Option.some.injEq] at hcloses
      subst hcloses
      exact ⟨start, loop, rfl, hchain⟩

/-- Everything on a cycle leads back to itself. -/
theorem transGen_self {path : List CheckerId} (cycle : SimpleCycle checkers path) {id : CheckerId}
    (hid : id ∈ path) : Relation.TransGen (Names checkers) id id := by
  obtain ⟨start, loop, rfl, hchain⟩ := cycle.exists_loop
  apply transGen_self_of_isChain hchain
  rcases List.mem_cons.1 hid with rfl | hid
  · exact List.mem_cons_self
  · rcases List.mem_append.1 hid with hid | hid
    · exact List.mem_cons_of_mem start hid
    · rw [List.mem_singleton.1 hid]
      exact List.mem_cons_self

end SimpleCycle

namespace Roster

/-! ## The path that is reported -/

variable {roster : Roster}

/-- The path of a cycle leaves out what was under way before the checker that comes again. -/
theorem cyclePath_of_not_mem {lead : List CheckerId} {target : CheckerId} (h : target ∉ lead)
    (loop : List CheckerId) :
    cyclePath (lead ++ target :: loop) target = target :: (loop ++ [target]) := by
  have hlead : ∀ id ∈ lead, decide (id ≠ target) = true := by
    intro id hid
    rw [decide_eq_true_eq]
    rintro rfl
    exact h hid
  rw [cyclePath, List.dropWhile_append_of_pos hlead, List.dropWhile_cons_of_neg (by simp),
    List.cons_append]

/-- A way back splits into a lead and a loop, and the path of the cycle is the loop. -/
theorem Returns.exists_loop {table : KeyTable} {id target : CheckerId} {way : List CheckerId}
    (returns : roster.Returns [] table id way target) :
    ∃ lead loop, way = lead ++ target :: loop ∧
      cyclePath way target = target :: (loop ++ [target]) := by
  have hback : target ∈ way := by simpa using returns.back
  obtain ⟨lead, loop, rfl⟩ := List.append_of_mem hback
  have hnodup : (lead ++ target :: loop).Nodup := returns.nodup
  refine ⟨lead, loop, rfl, cyclePath_of_not_mem ?_ loop⟩
  intro hlead
  exact (List.nodup_append.1 hnodup).2.2 target hlead target List.mem_cons_self rfl

/-- The path of a way back is a simple cycle. -/
theorem Returns.simpleCycle (coherent : roster.Coherent) {table : KeyTable}
    {id target : CheckerId} {way : List CheckerId}
    (returns : roster.Returns [] table id way target) :
    SimpleCycle roster.checkers.toList (cyclePath way target) := by
  obtain ⟨lead, loop, rfl, hpath⟩ := returns.exists_loop
  have hchain := returns.chain
  rw [List.append_assoc, List.cons_append, coherent.links_eq] at hchain
  have hnodup : (lead ++ target :: loop).Nodup := returns.nodup
  rw [hpath]
  exact SimpleCycle.of_isChain hchain.right_of_append (List.nodup_append.1 hnodup).2.1

/-- Everything on a way back is reached from where the way started. -/
theorem Returns.reflTransGen {path : List CheckerId} {table : KeyTable} {id target : CheckerId}
    {way : List CheckerId} (returns : roster.Returns path table id way target) {other : CheckerId}
    (h : other ∈ way ++ [target]) : Relation.ReflTransGen roster.Links id other := by
  obtain ⟨rest, hrest⟩ := List.head?_eq_some_iff.1 returns.starts
  have hchain := returns.chain
  rw [hrest] at hchain h
  exact reflTransGen_of_isChain hchain h

/-- Everything on the path of a way back is reached from where the way started. -/
theorem Returns.reaches_of_mem {table : KeyTable} {id target other : CheckerId}
    {way : List CheckerId} (returns : roster.Returns [] table id way target)
    (h : other ∈ cyclePath way target) : Relation.ReflTransGen roster.Links id other := by
  apply returns.reflTransGen
  obtain ⟨lead, loop, rfl, hpath⟩ := returns.exists_loop
  rw [hpath] at h
  rw [List.append_assoc, List.cons_append]
  exact List.mem_append_right lead h

/-- A checker that is settled in a table grown from nothing leads to no cycle. -/
theorem Grows.not_leadsToCycle (coherent : roster.Coherent) {admits : CheckerId → Prop}
    {table : KeyTable} (grows : roster.Grows admits [] table) {id : CheckerId}
    (settled : Settled table id) : ¬ LeadsToCycle roster.checkers.toList id := by
  rintro ⟨target, hreach, hcycle⟩
  rw [← coherent.reaches_iff] at hreach
  rw [← coherent.links_eq] at hcycle
  have hclosed := grows.linkClosed (linkClosed_nil roster)
  have htarget : Settled table target := hclosed.settled_of_reaches hreach settled
  exact grows.not_transGen_self (linkClosed_nil roster) htarget (not_settled_iff.2 rfl) hcycle

/-- Resolution that fails because of a cycle has failed at the first checker that leads to one. -/
theorem Coherent.exists_returns_of_freeze (coherent : roster.Coherent) {path : List CheckerId}
    (h : roster.freeze.outcome = .error (.conflict (.cycle path))) :
    ∃ (before after way : List CheckerId) (first target : CheckerId) (later : KeyTable),
      roster.ids = before ++ first :: after ∧ path = cyclePath way target ∧
      roster.Returns [] later first way target ∧
      ∀ other ∈ before, ¬ LeadsToCycle roster.checkers.toList other := by
  cases hdangling : roster.dangling? with
  | some id =>
    rw [freeze_of_dangling hdangling] at h
    exact absurd h (by simp)
  | none =>
    have closed := coherent.dangling?_eq_none_iff_closed.1 hdangling
    have hall := coherent.resolvedAll_ids closed
    rw [freeze_outcome_of_closed hdangling] at h
    generalize roster.resolveAll [] roster.ids = result at hall h
    cases hall with
    | settles grows settled => exact absurd h (by simp [Except.map])
    | @returns later before after way first target grows split settled returns =>
      have hpath : path = cyclePath way target := by simpa [Except.map] using h.symm
      exact ⟨before, after, way, first, target, later, split, hpath, returns,
        fun other hother => grows.not_leadsToCycle coherent (settled other hother)⟩

/-- **The cycle that is reported.** If a roster is refused because of a cycle, whatever calls it has
come from, the path is a simple cycle of parents and members, so that everything on it leads back to
itself; and there is a first registered checker from which a cycle can be reached, from which all of
the path is reached. -/
theorem simpleCycle_of_freeze (arises : roster.Arises) {path : List CheckerId}
    (h : roster.freeze.outcome = .error (.conflict (.cycle path))) :
    SimpleCycle roster.checkers.toList path ∧
      (∀ id ∈ path, Relation.TransGen (Names roster.checkers.toList) id id) ∧
      ∃ before first after, roster.ids = before ++ first :: after ∧
        LeadsToCycle roster.checkers.toList first ∧
        (∀ other ∈ before, ¬ LeadsToCycle roster.checkers.toList other) ∧
        ∀ id ∈ path, Relation.ReflTransGen (Names roster.checkers.toList) first id := by
  have coherent := arises.coherent
  obtain ⟨before, after, way, first, target, later, hsplit, rfl, returns, hbefore⟩ :=
    coherent.exists_returns_of_freeze h
  have hcycle : SimpleCycle roster.checkers.toList (cyclePath way target) :=
    returns.simpleCycle coherent
  have hreach : ∀ id ∈ cyclePath way target,
      Relation.ReflTransGen (Names roster.checkers.toList) first id := by
    intro id hid
    rw [← coherent.links_eq]
    exact returns.reaches_of_mem hid
  have htarget : target ∈ cyclePath way target :=
    List.mem_append_right _ (List.mem_singleton_self _)
  exact ⟨hcycle, fun id hid => hcycle.transGen_self hid, before, first, after, hsplit,
    ⟨target, hreach target htarget, hcycle.transGen_self htarget⟩, hbefore, hreach⟩

/-- A checker that nothing else concerns, one whose parent is done with before its member leads into
a cycle, and the cycle itself. -/
def snaredRoster : Roster :=
  (Roster.empty.registerAll [{ id := "calm" },
    { id := "lead", parent := some "calm", kind := .composite ["a"] },
    Checker.composed "a" ["calm", "b"], Checker.withParent { id := "b" } "a"]).1

/-- Only the cycle of `a` and `b` is reported, not what led there. -/
theorem snaredRoster_simpleCycle : snaredRoster.Arises ∧
    snaredRoster.freeze.outcome = .error (.conflict (.cycle ["a", "b", "a"])) ∧
    SimpleCycle snaredRoster.checkers.toList ["a", "b", "a"] ∧
    ∃ before first after, ["calm", "lead", "a", "b"] = before ++ first :: after ∧
      LeadsToCycle snaredRoster.checkers.toList first ∧
      Relation.ReflTransGen (Names snaredRoster.checkers.toList) first "b" := by
  have harises : snaredRoster.Arises := Arises.registerAll Arises.empty _
  have hfreeze : snaredRoster.freeze.outcome = .error (.conflict (.cycle ["a", "b", "a"])) := by
    rfl
  obtain ⟨hcycle, -, before, first, after, hsplit, hleads, -, hreach⟩ :=
    simpleCycle_of_freeze harises hfreeze
  exact ⟨harises, hfreeze, hcycle, before, first, after, hsplit, hleads, hreach "b" (by simp)⟩

end Roster

end Suppression
