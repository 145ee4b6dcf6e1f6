import Mathlib.Data.List.Chain
import Mathlib.Data.List.Perm.Subperm
import Suppression.Proofs.KeyTable
/-!
# Resolution

What one call of the depth-first resolution comes to, in every situation in which it is made. Either
it settles its checker, and on the way just checkers that are reached from it; or it has followed
links back to a checker whose resolution is under way, and reports the cycle that this closes
(`resolve_resolved`). There is no third case: a checker that is not registered is never met, and the
budget never runs out.
-/

namespace Suppression.Roster

/-! ## The checkers under way -/

/-- The path of a call: distinct registered checkers, and the budget counts the others. -/
structure Underway (roster : Roster) (path : List CheckerId) (budget : Nat) : Prop where
  /-- No checker is under way twice. -/
  nodup : path.Nodup
  /-- Only registered checkers are under way. -/
  registered : ∀ id ∈ path, id ∈ roster.ids
  /-- The budget is the number of registered checkers that are not on the path. -/
  length_add : path.length + budget = roster.size

/-- There are as many names as checkers. -/
theorem length_ids (roster : Roster) : roster.ids.length = roster.size := by simp [ids, size]

/-- No path of distinct registered checkers is longer than the roster. -/
theorem length_le_size {roster : Roster} {path : List CheckerId} (nodup : path.Nodup)
    (registered : ∀ id ∈ path, id ∈ roster.ids) : path.length ≤ roster.size := by
  rw [← length_ids]
  exact (nodup.subperm registered).length_le

/-- Nobody is under way at first. -/
theorem underway_nil (roster : Roster) : roster.Underway [] roster.size :=
  ⟨List.nodup_nil, by simp, by simp⟩

/-- As long as there is a registered checker off the path, there is budget to enter it. -/
theorem Underway.enter {roster : Roster} {path : List CheckerId} {budget : Nat}
    (underway : roster.Underway path budget) {id : CheckerId} (registered : id ∈ roster.ids)
    (new : id ∉ path) : ∃ rest, budget = rest + 1 ∧ roster.Underway (path ++ [id]) rest := by
  have hnodup : (path ++ [id]).Nodup := by
    rw [← List.concat_eq_append]
    exact List.Nodup.concat new underway.nodup
  have hmem : ∀ other ∈ path ++ [id], other ∈ roster.ids := by
    intro other ho
    rcases List.mem_append.1 ho with ho | ho
    · exact underway.registered other ho
    · rw [List.mem_singleton.1 ho]
      exact registered
  have hle : (path ++ [id]).length ≤ roster.size := length_le_size hnodup hmem
  have hadd := underway.length_add
  rw [List.length_append, List.length_singleton] at hle
  refine ⟨budget - 1, by omega, hnodup, hmem, ?_⟩
  rw [List.length_append, List.length_singleton]
  omega

/-! ## Coming back -/

/-- A way over links, from `id` through checkers that are not settled, whose last step `target` is a
checker of the way itself or of the path before it. -/
structure Returns (roster : Roster) (path : List CheckerId) (table : KeyTable) (id : CheckerId)
    (way : List CheckerId) (target : CheckerId) : Prop where
  /-- Each checker of the way links to the next, and the last one to the target. -/
  chain : (way ++ [target]).IsChain roster.Links
  /-- The way starts at the checker asked for. -/
  starts : (way ++ [target]).head? = some id
  /-- The target has been passed before. -/
  back : target ∈ path ++ way
  /-- Nothing before it has been passed twice. -/
  nodup : (path ++ way).Nodup
  /-- None of the checkers on the way is settled. -/
  unsettled : ∀ other ∈ way ++ [target], table.lookup other = none

/-- A way back from a reference is a way back from the checker that refers. -/
theorem Returns.cons {roster : Roster} {path : List CheckerId} {table : KeyTable}
    {id source : CheckerId} {way : List CheckerId} {target : CheckerId}
    (returns : roster.Returns (path ++ [id]) table source way target)
    (link : roster.Links id source) (fresh : table.lookup id = none) :
    roster.Returns path table id (id :: way) target := by
  obtain ⟨hchain, hstarts, hback, hnodup, hunsettled⟩ := returns
  rw [List.append_assoc, List.singleton_append] at hback hnodup
  refine ⟨?_, rfl, hback, hnodup, ?_⟩
  · rw [List.cons_append, List.isChain_cons, hstarts]
    refine ⟨?_, hchain⟩
    intro next hnext
    rw [← Option.mem_some.1 hnext]
    exact link
  · intro other ho
    rw [List.cons_append, List.mem_cons] at ho
    rcases ho with rfl | ho
    · exact fresh
    · exact hunsettled other ho

/-- A chain of at least one step leads from its first member to its last. -/
theorem transGen_of_isChain {α : Type} {r : α → α → Prop} {first last : α} {between : List α}
    (h : (first :: (between ++ [last])).IsChain r) : Relation.TransGen r first last := by
  cases between with
  | nil => exact Relation.TransGen.single (List.isChain_pair.1 h)
  | cons next rest =>
    rw [List.cons_append, List.isChain_cons_cons] at h
    refine Relation.TransGen.head' h.1 ?_
    exact List.relationReflTransGen_of_exists_isChain_cons (rest ++ [last]) h.2 (by simp)

/-- A way back to one of its own checkers contains a cycle. -/
theorem Returns.transGen_of_mem {roster : Roster} {path : List CheckerId} {table : KeyTable}
    {id : CheckerId} {way : List CheckerId} {target : CheckerId}
    (returns : roster.Returns path table id way target) (h : target ∈ way) :
    Relation.TransGen (fun source next => roster.Links source next ∧ source ∈ way ++ [target] ∧
      next ∈ way ++ [target]) target target := by
  -- the target stands on the way, and the rest of the way leads from there back to it
  have hchain := returns.chain.imp_of_mem_imp fun _ _ hsource hnext hlink =>
    (⟨hlink, hsource, hnext⟩ : _ ∧ _ ∧ _)
  obtain ⟨lead, loop, hway⟩ := List.append_of_mem h
  have hsplit : way ++ [target] = lead ++ target :: (loop ++ [target]) := by
    rw [hway, List.append_assoc, List.cons_append]
  rw [hsplit] at hchain ⊢
  exact transGen_of_isChain hchain.right_of_append

/-- A way back that nothing is under way before contains a cycle. -/
theorem Returns.transGen_self {roster : Roster} {table : KeyTable} {id : CheckerId}
    {way : List CheckerId} {target : CheckerId} (returns : roster.Returns [] table id way target) :
    Relation.TransGen roster.Links target target :=
  Relation.TransGen.mono (fun _ _ h => h.1) _ _ (returns.transGen_of_mem returns.back)

/-! ## One call -/

/-- What a call may come to: the checker is settled, or a cycle is closed. In both cases the table
has grown by checkers that are reached from the one asked for and are not under way. -/
inductive Resolved (roster : Roster) (path : List CheckerId) (table : KeyTable) (id : CheckerId) :
    KeyTable × Except Failure KeySet → Prop
  /-- The checker is settled with the keys that are returned. -/
  | settles {later : KeyTable} {keys : KeySet}
      (grows : roster.Grows (fun other => roster.Reaches id other ∧ other ∉ path) table later)
      (found : later.lookup id = some keys) : Resolved roster path table id (later, .ok keys)
  /-- The links have come back, and the cycle is returned. -/
  | returns {later : KeyTable} {way : List CheckerId} {target : CheckerId}
      (grows : roster.Grows (fun other => roster.Reaches id other ∧ other ∉ path) table later)
      (returns : roster.Returns path later id way target) :
      Resolved roster path table id
        (later, .error (.conflict (.cycle (cyclePath (path ++ way) target))))

/-- What gathering the keys of several checkers may come to: all of them are settled and their keys
are added, or from one of them a cycle is closed. -/
inductive Gathered (roster : Roster) (path : List CheckerId) (table : KeyTable) (start : KeySet)
    (targets : List CheckerId) : KeyTable × Except Failure KeySet → Prop
  /-- All are settled. -/
  | settles {later : KeyTable} {keys : KeySet}
      (grows : roster.Grows (fun other => ∃ target ∈ targets, roster.Reaches target other ∧
        other ∉ path) table later)
      (settled : ∀ target ∈ targets, Settled later target)
      (assembled : ∀ key, key ∈ keys ↔ key ∈ start ∨ ∃ target ∈ targets, Grants later target key) :
      Gathered roster path table start targets (later, .ok keys)
  /-- From one of them the links have come back. -/
  | returns {later : KeyTable} {source : CheckerId} {way : List CheckerId} {target : CheckerId}
      (grows : roster.Grows (fun other => ∃ target ∈ targets, roster.Reaches target other ∧
        other ∉ path) table later)
      (mem : source ∈ targets) (returns : roster.Returns path later source way target) :
      Gathered roster path table start targets
        (later, .error (.conflict (.cycle (cyclePath (path ++ way) target))))

/-- A cycle closed from the first checker is one closed from among all. -/
theorem Gathered.cons_of_returns {roster : Roster} {path : List CheckerId} {table later : KeyTable}
    {start : KeySet} {id target : CheckerId} {rest way : List CheckerId}
    (grows : roster.Grows (fun other => roster.Reaches id other ∧ other ∉ path) table later)
    (returns : roster.Returns path later id way target) :
    roster.Gathered path table start (id :: rest)
      (later, .error (.conflict (.cycle (cyclePath (path ++ way) target)))) := by
  refine Gathered.returns (grows.mono ?_) List.mem_cons_self returns
  intro other ho
  exact ⟨id, List.mem_cons_self, ho⟩

/-- Once the first checker is settled and its keys are added, the others decide. -/
theorem Gathered.cons_of_settles {roster : Roster} {path : List CheckerId}
    {table middle : KeyTable} {start more : KeySet} {id : CheckerId} {rest : List CheckerId}
    {result : KeyTable × Except Failure KeySet}
    (grows : roster.Grows (fun other => roster.Reaches id other ∧ other ∉ path) table middle)
    (found : middle.lookup id = some more)
    (others : roster.Gathered path middle (start.union more) rest result) :
    roster.Gathered path table start (id :: rest) result := by
  have hfirst : ∀ other, roster.Reaches id other ∧ other ∉ path →
      ∃ target ∈ id :: rest, roster.Reaches target other ∧ other ∉ path :=
    fun other ho => ⟨id, List.mem_cons_self, ho⟩
  have hrest : ∀ other, (∃ target ∈ rest, roster.Reaches target other ∧ other ∉ path) →
      ∃ target ∈ id :: rest, roster.Reaches target other ∧ other ∉ path := by
    rintro other ⟨target, ht, ho⟩
    exact ⟨target, List.mem_cons_of_mem id ht, ho⟩
  cases others with
  | returns grows' mem returns =>
    exact Gathered.returns ((grows.mono hfirst).trans (grows'.mono hrest))
      (List.mem_cons_of_mem id mem) returns
  | @settles last keys grows' settled assembled =>
    have hlast : last.lookup id = some more := grows'.lookup found
    refine Gathered.settles ((grows.mono hfirst).trans (grows'.mono hrest))
      (List.forall_mem_cons.2 ⟨⟨more, hlast⟩, settled⟩) ?_
    intro key
    have hid : Grants last id key ↔ key ∈ more := by
      constructor
      · rintro ⟨others, hothers, hkey⟩
        rw [hlast] at hothers
        rw [Option.some.inj hothers]
        exact hkey
      · intro hkey
        exact ⟨more, hlast, hkey⟩
    rw [assembled key, KeySet.mem_union, List.exists_mem_cons_iff, hid, or_assoc]

/-- Gathering keeps what each single call does. -/
theorem gather_gathered {roster : Roster} {path : List CheckerId}
    {resolve : KeyTable → CheckerId → KeyTable × Except Failure KeySet} (targets : List CheckerId)
    (resolved : ∀ table, ∀ target ∈ targets,
      roster.Resolved path table target (resolve table target))
    (table : KeyTable) (start : KeySet) :
    roster.Gathered path table start targets (gather resolve table start targets) := by
  induction targets generalizing table start with
  | nil =>
    rw [gather]
    exact Gathered.settles Grows.refl (by simp) (by simp)
  | cons id rest ih =>
    have hfirst := resolved table id (by simp)
    have hrest := ih fun table target ht => resolved table target (List.mem_cons_of_mem id ht)
    rw [gather]
    generalize resolve table id = result at hfirst
    cases hfirst with
    | settles grows found => exact Gathered.cons_of_settles grows found (hrest _ _)
    | returns grows returns => exact Gathered.cons_of_returns grows returns

/-- A call about a checker that is settled or under way. -/
theorem resolved_of_seen {roster : Roster} {path : List CheckerId} {table : KeyTable}
    {id : CheckerId} {budget : Nat} (nodup : path.Nodup) (seen : Settled table id ∨ id ∈ path) :
    roster.Resolved path table id (roster.resolve budget path table id) := by
  unfold resolve
  cases htable : table.lookup id with
  | some keys => exact Resolved.settles Grows.refl htable
  | none =>
    have hpath : id ∈ path := by
      rcases seen with hsettled | hpath
      · exact absurd hsettled (not_settled_iff.2 htable)
      · exact hpath
    simp only
    rw [if_pos hpath]
    have returns : roster.Returns path table id [] id := by
      refine ⟨by simp, rfl, by simpa using hpath, by simpa using nodup, ?_⟩
      intro other ho
      rw [List.nil_append, List.mem_singleton] at ho
      rw [ho]
      exact htable
    have hresolved := Resolved.returns Grows.refl returns
    rw [List.append_nil] at hresolved
    exact hresolved

/-- A call about a new checker does what gathering the keys of its references does, and settles the
checker last. -/
theorem resolved_of_new {roster : Roster} {path : List CheckerId} {table : KeyTable}
    {id : CheckerId} {checker : Checker} {budget : Nat} (new : table.lookup id = none)
    (off : id ∉ path) (known : roster.checker? id = some checker)
    (gathered : roster.Gathered (path ++ [id]) table checker.ownKeys checker.references
      (gather (roster.resolve budget (path ++ [id])) table checker.ownKeys checker.references)) :
    roster.Resolved path table id (roster.resolve (budget + 1) path table id) := by
  unfold resolve
  simp only [new, if_neg off, known]
  generalize gather (roster.resolve budget (path ++ [id])) table checker.ownKeys
    checker.references = result at gathered
  have hadmits : ∀ other, (∃ target ∈ checker.references, roster.Reaches target other ∧
      other ∉ path ++ [id]) → roster.Reaches id other ∧ other ∉ path := by
    rintro other ⟨target, ht, hreach, hout⟩
    refine ⟨Reaches.step ((links_of_checker? known).2 ht) hreach, ?_⟩
    exact fun hin => hout (List.mem_append_left [id] hin)
  -- the checker itself is under way, so none of the inner calls can have settled it
  have hself : ¬ ∃ target ∈ checker.references, roster.Reaches target id ∧ id ∉ path ++ [id] := by
    rintro ⟨target, -, -, hout⟩
    exact hout (by simp)
  cases gathered with
  | settles grows settled assembled =>
    have hfresh := grows.lookup_eq_none new hself
    refine Resolved.settles (Grows.snoc (grows.mono hadmits) ⟨Reaches.refl id, off⟩ hfresh known
      settled ?_) ((lookup_snoc hfresh).2 (Or.inr ⟨rfl, rfl⟩))
    intro key
    rw [assembled key, Checker.mem_ownKeys]
  | @returns later source way target grows mem returns =>
    have hfresh := grows.lookup_eq_none new hself
    have hreturns := returns.cons ((links_of_checker? known).2 mem) hfresh
    rw [List.append_assoc, List.singleton_append]
    exact Resolved.returns (grows.mono hadmits) hreturns

/-- **Every call settles its checker or closes a cycle.** -/
theorem resolve_resolved {roster : Roster} (indexed : roster.Indexed)
    (closed : Closed roster.checkers.toList) {budget : Nat} {path : List CheckerId}
    (underway : roster.Underway path budget) (table : KeyTable) {id : CheckerId}
    (registered : id ∈ roster.ids) :
    roster.Resolved path table id (roster.resolve budget path table id) := by
  -- a longer path leaves a smaller budget, so the induction has to be for all paths
  induction budget generalizing path table id with
  | zero =>
    by_cases hpath : id ∈ path
    · exact resolved_of_seen underway.nodup (Or.inr hpath)
    · -- without budget, every registered checker is on the path
      obtain ⟨rest, hrest, -⟩ := underway.enter registered hpath
      exact absurd hrest (by omega)
  | succ budget ih =>
    by_cases hseen : Settled table id ∨ id ∈ path
    · exact resolved_of_seen underway.nodup hseen
    · obtain ⟨hnew, hpath⟩ := not_or.1 hseen
      obtain ⟨rest, hrest, hentered⟩ := underway.enter registered hpath
      obtain rfl : budget = rest := by omega
      obtain ⟨checker, hchecker⟩ := indexed.mem_ids_iff.1 registered
      have hmem := (indexed.checker?_eq_some_iff.1 hchecker).1
      have hgathered := gather_gathered checker.references
        (fun table target ht => ih hentered table (closed.mem_ids hmem ht)) table
        checker.ownKeys
      exact resolved_of_new (not_settled_iff.1 hnew) hpath hchecker hgathered

/-! ## One call after another -/

/-- What resolving a list of checkers may come to: all are settled, or after some that are settled
one closes a cycle. -/
inductive ResolvedAll (roster : Roster) (table : KeyTable) (ids : List CheckerId) :
    KeyTable × Except Failure Unit → Prop
  /-- All are settled. -/
  | settles {later : KeyTable} (grows : roster.Grows (fun _ => True) table later)
      (settled : ∀ id ∈ ids, Settled later id) : ResolvedAll roster table ids (later, .ok ())
  /-- One of them closes a cycle, and those before it are settled. -/
  | returns {later : KeyTable} {before after way : List CheckerId} {id target : CheckerId}
      (grows : roster.Grows (fun _ => True) table later) (split : ids = before ++ id :: after)
      (settled : ∀ other ∈ before, Settled later other)
      (returns : roster.Returns [] later id way target) :
      ResolvedAll roster table ids (later, .error (.conflict (.cycle (cyclePath way target))))

/-- Once the first checker is settled, the others decide. -/
theorem ResolvedAll.cons {roster : Roster} {table middle : KeyTable} {id : CheckerId}
    {rest : List CheckerId} {result : KeyTable × Except Failure Unit}
    (grows : roster.Grows (fun _ => True) table middle) (settled : Settled middle id)
    (others : roster.ResolvedAll middle rest result) :
    roster.ResolvedAll table (id :: rest) result := by
  cases others with
  | settles grows' hrest =>
    exact ResolvedAll.settles (grows.trans grows')
      (List.forall_mem_cons.2 ⟨grows'.settled settled, hrest⟩)
  | @returns later before after way source target grows' split hbefore returns =>
    have hsplit : id :: rest = (id :: before) ++ source :: after := by
      rw [split, List.cons_append]
    exact ResolvedAll.returns (grows.trans grows') hsplit
      (List.forall_mem_cons.2 ⟨grows'.settled settled, hbefore⟩) returns

/-- Resolving a list settles it or closes a cycle from its first checker that leads to one. -/
theorem resolveAll_resolvedAll {roster : Roster} (coherent : roster.Coherent)
    (closed : Closed roster.checkers.toList) (table : KeyTable) {ids : List CheckerId}
    (registered : ∀ id ∈ ids, id ∈ roster.ids) :
    roster.ResolvedAll table ids (roster.resolveAll table ids) := by
  induction ids generalizing table with
  | nil =>
    rw [resolveAll]
    exact ResolvedAll.settles Grows.refl (by simp)
  | cons id rest ih =>
    have hfirst := resolve_resolved coherent.indexed closed (underway_nil roster) table
      (registered id (by simp))
    have hrest := fun table =>
      ih table fun other ho => registered other (List.mem_cons_of_mem id ho)
    rw [resolveAll]
    generalize roster.resolve roster.size [] table id = result at hfirst
    cases hfirst with
    | settles grows found =>
      exact ResolvedAll.cons (grows.mono fun _ _ => trivial) ⟨_, found⟩ (hrest _)
    | returns grows returns =>
      have split : id :: rest = [] ++ id :: rest := rfl
      exact ResolvedAll.returns (grows.mono fun _ _ => trivial) split (by simp) returns

end Suppression.Roster
