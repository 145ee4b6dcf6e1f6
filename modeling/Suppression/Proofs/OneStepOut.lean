import Suppression.Proofs.ArenaChain
import Suppression.Proofs.WalkCalls
/-!
# One step outward

The answer at an element follows from its own strings and the answer at the element around it. The
two walks keep different traces, and on a loop they come to their ends at different places: from an
element on the loop the walk comes back to that element, and from one that only runs into the loop
it comes back to where it entered (`Host.chain_of_onLoop`, `Host.chain_of_not_onLoop`). Still an
answer is passed on unchanged, and only the report of a loop is put in terms of the inner element
(`Engine.PassesOn`).

In an arena there are no loops, so remembering what was passed makes no difference there: the walk
gives what plain recursion over the enclosing elements gives (`Arena.outward`, `Arena.climb`).
-/

namespace Suppression

namespace Host

variable {host : Host} {element around : ElementId}

/-! ## Chains of an element and of the one around it -/

/-- Going outward from an element leads back to it. -/
def OnLoop (host : Host) (element : ElementId) : Prop :=
  ∃ n, 0 < n ∧ host.ancestor element n = some element

/-- A step outward from an element is one from the element around it less. -/
theorem ancestor_of_enclosing (h : host.enclosing element = some around) (n : Nat) :
    host.ancestor element (n + 1) = host.ancestor around n := by
  rw [ancestor_succ', h, Option.bind_some]

/-- An element is on a loop exactly if it is on the chain of the element around it. -/
theorem onLoop_iff_mem_chain (h : host.enclosing element = some around) :
    host.OnLoop element ↔ element ∈ (host.chain around).elements := by
  rw [mem_chain_iff]
  constructor
  · rintro ⟨n, hpos, hback⟩
    obtain ⟨m, rfl⟩ : ∃ m, n = m + 1 := ⟨n - 1, by omega⟩
    rw [ancestor_of_enclosing h] at hback
    exact ⟨m, hback⟩
  · rintro ⟨m, hback⟩
    rw [← ancestor_of_enclosing h] at hback
    exact ⟨m + 1, Nat.succ_pos m, hback⟩

/-- A stretch from the element around another is continued inward by that other one. -/
theorem FreePrefix.cons {elements : List ElementId} (free : host.FreePrefix around elements)
    (h : host.enclosing element = some around) (new : element ∉ elements) :
    host.FreePrefix element (element :: elements) := by
  refine ⟨?_, List.nodup_cons.2 ⟨new, free.nodup⟩⟩
  intro n hn
  cases n with
  | zero => rfl
  | succ n =>
    rw [ancestor_of_enclosing h, List.getElem?_cons_succ]
    exact free.ancestor_eq n (by simpa using hn)

/-- Off the loops, the chain of an element is the element and then the chain of the one
around it. -/
theorem chain_of_not_onLoop (h : host.enclosing element = some around)
    (off : ¬ host.OnLoop element) :
    host.chain element =
      ⟨element :: (host.chain around).elements, (host.chain around).revisited⟩ := by
  rw [onLoop_iff_mem_chain h] at off
  have houter := host.longestPrefix_chain around
  have hfree := houter.toFreePrefix.cons h off
  have hlongest : host.LongestPrefix element (element :: (host.chain around).elements) := by
    refine hfree.longestPrefix fun next hnext => ?_
    rw [List.length_cons, ancestor_of_enclosing h] at hnext
    exact List.mem_cons_of_mem element (houter.stuck hnext)
  rw [hlongest.chain_eq, List.length_cons, ancestor_of_enclosing h, host.chain_revisited]

/-- Nothing but the end of its chain follows an element on the chain of the one around it. -/
theorem after_of_enclosing (h : host.enclosing element = some around)
    {loop after : List ElementId}
    (hsplit : (host.chain around).elements = loop ++ element :: after) : after = [] := by
  have hchain := host.isChain_chain around
  have hhead := host.head?_chain around
  have hnodup := (host.longestPrefix_chain around).nodup
  rw [hsplit] at hchain hhead hnodup
  cases after with
  | nil => rfl
  | cons next after =>
    -- the next one would be the one around the element again, with which the chain begins
    have hnext : host.enclosing element = some next :=
      (List.isChain_cons_cons.1 hchain.right_of_append).1
    rw [h, Option.some.injEq] at hnext
    subst hnext
    exfalso
    cases loop with
    | nil =>
      rw [List.nil_append, List.head?_cons, Option.some.injEq] at hhead
      subst hhead
      exact (List.nodup_cons.1 hnodup).1 List.mem_cons_self
    | cons first loop =>
      rw [List.cons_append, List.head?_cons, Option.some.injEq] at hhead
      subst hhead
      refine (List.nodup_cons.1 hnodup).1 (List.mem_append_right loop ?_)
      exact List.mem_cons_of_mem element List.mem_cons_self

/-- On a loop, the chain of an element is the chain of the one around it turned by one place, and it
comes back to the element. -/
theorem chain_of_onLoop (h : host.enclosing element = some around) (on : host.OnLoop element) :
    ∃ loop, host.chain around = ⟨loop ++ [element], some around⟩ ∧
      host.chain element = ⟨element :: loop, some element⟩ := by
  obtain ⟨loop, after, hsplit⟩ := List.append_of_mem ((onLoop_iff_mem_chain h).1 on)
  obtain rfl := after_of_enclosing h hsplit
  have houter := host.longestPrefix_chain around
  rw [hsplit] at houter
  have hlast : host.ancestor around loop.length = some element := by
    rw [houter.ancestor_eq loop.length (by simp)]
    simp
  have hfront : host.FreePrefix around loop := by
    refine ⟨fun n hn => ?_, (List.nodup_append.1 houter.nodup).1⟩
    rw [houter.ancestor_eq n (by simp; omega), List.getElem?_append_left hn]
  have hnew : element ∉ loop := by
    intro hmem
    exact (List.nodup_append.1 houter.nodup).2.2 element hmem element List.mem_cons_self rfl
  have hlongest : host.LongestPrefix element (element :: loop) := by
    refine (hfront.cons h hnew).longestPrefix fun next hnext => ?_
    rw [List.length_cons, ancestor_of_enclosing h, hlast, Option.some.injEq] at hnext
    exact hnext ▸ List.mem_cons_self
  refine ⟨loop, ?_, ?_⟩
  · rw [houter.chain_eq, List.length_append, List.length_singleton, ancestor, hlast,
      Option.bind_some, h]
  · rw [hlongest.chain_eq, List.length_cons, ancestor_of_enclosing h, hlast]

/-- The chain of an element begins with it. -/
theorem exists_chain_eq_cons (host : Host) (element : ElementId) :
    ∃ rest, (host.chain element).elements = element :: rest :=
  List.head?_eq_some_iff.1 (host.head?_chain element)

/-- An element without an accepted string does not matter at the end either. -/
theorem nearest_concat_of_none {accepts : String → Bool} {id : ElementId}
    (h : (host.strings id).find? accepts = none) (elements : List ElementId) :
    host.nearest accepts (elements ++ [id]) = host.nearest accepts elements := by
  rw [nearest, List.findSome?_append, List.findSome?_singleton, h, Option.map_none, Option.or_none]
  rfl

end Host

namespace Engine

variable {engine : Engine} {host : Host} {keys : KeySet} {element around : ElementId}

/-! ## Passing an answer on -/

/-- What the answer at an element without a match of its own is, given the answer at the element
around it: the same, except that a loop is reported for the inner element, and as coming back to
that element if it is on the loop. -/
inductive PassesOn (host : Host) (element around : ElementId) :
    Except Failure (Option Match) → Except Failure (Option Match) → Prop
  /-- An answer, be it a match or none, is passed on unchanged. -/
  | answer (found : Option Match) : PassesOn host element around (.ok found) (.ok found)
  /-- From an element on the loop the walk comes back to that element. -/
  | onLoop (on : host.OnLoop element) (revisited : ElementId) :
      PassesOn host element around (.error (.cyclicScope around revisited))
        (.error (.cyclicScope element element))
  /-- From any other element it comes back to where it does from the element around. -/
  | offLoop (off : ¬ host.OnLoop element) (revisited : ElementId) :
      PassesOn host element around (.error (.cyclicScope around revisited))
        (.error (.cyclicScope element revisited))

/-- What is to be said of an element with a certain scope chain. -/
def report (engine : Engine) (host : Host) (keys : KeySet) (element : ElementId) (chain : Chain) :
    Except Failure (Option Match) :=
  match host.nearest (engine.accepts keys) chain.elements, chain.revisited with
  | some (id, directive), _ => .ok (some ⟨.element id, directive⟩)
  | none, some revisited => .error (.cyclicScope element revisited)
  | none, none => .ok (engine.globalMatch keys)

/-- A match of a registered checker is read off the scope chain. -/
theorem findMatch_eq_report {checker : CheckerId}
    (h : engine.registry.effectiveKeys checker = .ok keys) (host : Host) (element : ElementId) :
    engine.findMatch host checker element =
      engine.report host keys element (host.chain element) := by
  rw [findMatch_of_effectiveKeys h, verdict, ← host.chain_revisited, report]
  cases host.nearest (engine.accepts keys) (host.chain element).elements with
  | some found => rfl
  | none => cases (host.chain element).revisited <;> rfl

/-- A match of the element itself is nearer than any other. -/
theorem report_of_own {directive : String}
    (own : (host.strings element).find? (engine.accepts keys) = some directive) :
    engine.report host keys element (host.chain element) =
      .ok (some ⟨.element element, directive⟩) := by
  obtain ⟨rest, hrest⟩ := host.exists_chain_eq_cons element
  rw [report, hrest, Host.nearest_cons_of_some own]

/-- Where nothing encloses an element without a match, the global suppressions decide. -/
theorem report_of_enclosing_none (own : (host.strings element).find? (engine.accepts keys) = none)
    (h : host.enclosing element = none) :
    engine.report host keys element (host.chain element) = .ok (engine.globalMatch keys) := by
  rw [Host.chain_of_enclosing_none h, report, Host.nearest_cons_of_none own]
  rfl

/-- **An element without a match passes the answer of the one around it on.** -/
theorem passesOn_report (own : (host.strings element).find? (engine.accepts keys) = none)
    (h : host.enclosing element = some around) :
    PassesOn host element around (engine.report host keys around (host.chain around))
      (engine.report host keys element (host.chain element)) := by
  by_cases on : host.OnLoop element
  · obtain ⟨loop, haround, helement⟩ := Host.chain_of_onLoop h on
    rw [haround, helement, report, report, Host.nearest_cons_of_none own,
      Host.nearest_concat_of_none own]
    cases host.nearest (engine.accepts keys) loop with
    | some found => exact PassesOn.answer _
    | none => exact PassesOn.onLoop on around
  · rw [Host.chain_of_not_onLoop h on, report, report, Host.nearest_cons_of_none own]
    cases host.nearest (engine.accepts keys) (host.chain around).elements with
    | some found => exact PassesOn.answer _
    | none =>
      cases (host.chain around).revisited with
      | none => exact PassesOn.answer _
      | some revisited => exact PassesOn.offLoop on revisited

/-- An answer is passed on as it is. -/
theorem PassesOn.eq_ok {found : Option Match} {inner : Except Failure (Option Match)}
    (passes : PassesOn host element around (.ok found) inner) : inner = .ok found := by
  cases passes
  rfl

/-- From an element on the loop a report is put as coming back to it. -/
theorem PassesOn.eq_of_onLoop {revisited : ElementId} {inner : Except Failure (Option Match)}
    (passes : PassesOn host element around (.error (.cyclicScope around revisited)) inner)
    (on : host.OnLoop element) : inner = .error (.cyclicScope element element) := by
  cases passes with
  | onLoop => rfl
  | offLoop off => exact absurd on off

/-- From an element off the loop a report is put as coming back to where it did. -/
theorem PassesOn.eq_of_not_onLoop {revisited : ElementId} {inner : Except Failure (Option Match)}
    (passes : PassesOn host element around (.error (.cyclicScope around revisited)) inner)
    (off : ¬ host.OnLoop element) : inner = .error (.cyclicScope element revisited) := by
  cases passes with
  | onLoop on => exact absurd on off
  | offLoop => rfl

/-- What is found at the element around another is found at that one, unless it has a match of its
own. -/
theorem PassesOn.isSome {outer inner : Except Failure (Option Match)}
    (passes : PassesOn host element around outer inner)
    (found : outer.map Option.isSome = .ok true) : inner.map Option.isSome = .ok true := by
  cases passes with
  | answer => exact found
  | onLoop => exact absurd found (by simp [Except.map])
  | offLoop => exact absurd found (by simp [Except.map])

/-- A checker that is silenced at an element is silenced at every element inside it. -/
theorem isSome_report_of_ancestor {n : Nat} {outer : ElementId}
    (h : host.ancestor element n = some outer)
    (found : (engine.report host keys outer (host.chain outer)).map Option.isSome = .ok true) :
    (engine.report host keys element (host.chain element)).map Option.isSome = .ok true := by
  -- by induction on the steps outward, from the inner element's own step on
  induction n generalizing element with
  | zero =>
    rw [Option.some.inj h]
    exact found
  | succ n ih =>
    rw [Host.ancestor_succ'] at h
    obtain ⟨around, haround, hrest⟩ := Option.bind_eq_some_iff.1 h
    cases own : (host.strings element).find? (engine.accepts keys) with
    | some directive =>
      rw [report_of_own own]
      rfl
    | none => exact (passesOn_report own haround).isSome (ih hrest)

end Engine

/-! ## Plain recursion in an arena -/

namespace Arena

variable {arena : Arena}

/-- The element and those around it, by recursion over the enclosing elements. -/
def outward (ordered : arena.Ordered) (id : ElementId) : List ElementId :=
  match h : arena.enclosing id with
  | none => [id]
  | some outer =>
    have := UInt32.lt_iff_toNat_lt.1 (ordered.enclosing_lt h)
    id :: outward ordered outer
termination_by id.toNat

/-- The match at an element, by recursion over the enclosing elements: its own first accepted
string, else the match at the element around it, and beyond the outermost one what is given for
there. -/
def climb (ordered : arena.Ordered) (accepts : String → Bool) (beyond : Option Match)
    (id : ElementId) : Option Match :=
  match (arena.strings id).find? accepts with
  | some directive => some ⟨.element id, directive⟩
  | none =>
    match h : arena.enclosing id with
    | none => beyond
    | some outer =>
      have := UInt32.lt_iff_toNat_lt.1 (ordered.enclosing_lt h)
      climb ordered accepts beyond outer
termination_by id.toNat

/-- No element of an arena is on a loop. -/
theorem Ordered.not_onLoop (ordered : arena.Ordered) (id : ElementId) : ¬ arena.host.OnLoop id := by
  rintro ⟨n, hpos, hback⟩
  exact UInt32.lt_irrefl id (ordered.ancestor_lt hpos rfl hback)

/-- The scope chain in an arena is what plain recursion gives. -/
theorem Ordered.chain_eq_outward (ordered : arena.Ordered) (id : ElementId) :
    arena.host.chain id = ⟨outward ordered id, none⟩ := by
  fun_induction outward with
  | case1 id h => exact Host.chain_of_enclosing_none h
  | case2 id outer h _ ih =>
    rw [Host.chain_of_not_onLoop h (ordered.not_onLoop id), ih]

/-- The report on an element of an arena is what plain recursion gives. -/
theorem Ordered.report_eq_climb (ordered : arena.Ordered) (engine : Engine) (keys : KeySet)
    (id : ElementId) :
    engine.report arena.host keys id (arena.host.chain id) =
      .ok (climb ordered (engine.accepts keys) (engine.globalMatch keys) id) := by
  fun_induction climb with
  | case1 id directive own => exact Engine.report_of_own own
  | case2 id own h => exact Engine.report_of_enclosing_none own h
  | case3 id own outer h _ ih =>
    have hpasses := @Engine.passesOn_report engine arena.host keys id outer own h
    rw [ih] at hpasses
    exact hpasses.eq_ok

end Arena

namespace Engine

/-! ## The answer at an element -/

/-- **One step outward.** For a registered checker, whatever the host and the settings: an element
with an accepted string of its own has the first of these as its match, and any other element passes
the answer of the element around it on. So whatever is silenced at an element is silenced at every
element inside it; and in an arena the walk that remembers what it has passed gives what plain
recursion over the enclosing elements gives. -/
theorem findMatch_one_step_out (engine : Engine) (built : engine.registry.Built)
    (checker : CheckerId) (registered : engine.registry.contains checker = true) :
    ∃ keys, engine.registry.effectiveKeys checker = .ok keys ∧
      (∀ (host : Host) (element around : ElementId), host.enclosing element = some around →
        (∀ directive, (host.strings element).find? (engine.accepts keys) = some directive →
          engine.findMatch host checker element = .ok (some ⟨.element element, directive⟩)) ∧
        ((host.strings element).find? (engine.accepts keys) = none →
          PassesOn host element around (engine.findMatch host checker around)
            (engine.findMatch host checker element))) ∧
      (∀ (host : Host) (element outer : ElementId) (n : Nat),
        host.ancestor element n = some outer →
        (engine.isSuppressed host checker outer).outcome = .ok true →
        (engine.isSuppressed host checker element).outcome = .ok true) ∧
      ∀ (arena : Arena) (arises : arena.Arises) (element : ElementId),
        arena.host.chain element = ⟨arena.outward arises.ordered element, none⟩ ∧
        engine.findMatch arena.host checker element = .ok
          (arena.climb arises.ordered (engine.accepts keys) (engine.globalMatch keys) element) := by
  obtain ⟨keys, hkeys⟩ := built.complete.exists_effectiveKeys registered
  have hfind := findMatch_eq_report hkeys
  refine ⟨keys, hkeys, ?_, ?_, ?_⟩
  · intro host element around h
    refine ⟨?_, ?_⟩
    · intro directive own
      rw [hfind, report_of_own own]
    · intro own
      rw [hfind, hfind]
      exact passesOn_report own h
  · intro host element outer n h found
    rw [isSuppressed_outcome, hfind] at found ⊢
    exact isSome_report_of_ancestor h found
  · intro arena arises element
    refine ⟨arises.ordered.chain_eq_outward element, ?_⟩
    rw [hfind]
    exact arises.ordered.report_eq_climb engine keys element

/-- A match on a loop is passed on to the other element of the loop and to one outside. Without a
match the loop is reported from both, from the one on the loop as coming back to itself. -/
theorem tailLoop_one_step_out : ∃ engine : Engine, engine.registry.Built ∧
    engine.registry.contains "x" = true ∧ engine.registry.contains "y" = true ∧
    tailLoop.OnLoop 1 ∧ ¬ tailLoop.OnLoop 0 ∧
    engine.findMatch tailLoop "x" 2 = .ok (some ⟨.element 2, "q:x"⟩) ∧
    engine.findMatch tailLoop "x" 1 = .ok (some ⟨.element 2, "q:x"⟩) ∧
    (engine.isSuppressed tailLoop "x" 0).outcome = .ok true ∧
    engine.findMatch tailLoop "y" 2 = .error (.cyclicScope 2 2) ∧
    engine.findMatch tailLoop "y" 1 = .error (.cyclicScope 1 1) ∧
    engine.findMatch tailLoop "y" 0 = .error (.cyclicScope 0 1) := by
  have hbuilds : (Registry.ofCheckers [{ id := "x", keys := ["x"] },
      { id := "y", keys := ["y"] }]).outcome.toOption.any (fun registry =>
        registry.contains "x" && registry.contains "y" &&
        decide (registry.effectiveKeys "x" = .ok (KeySet.ofList ["x"])) &&
        decide (findMatch ⟨registry, {}⟩ tailLoop "y" 2 = .error (.cyclicScope 2 2))) = true := by
    decide +kernel
  obtain ⟨registry, -, built, htest⟩ := Registry.exists_built_of_any hbuilds
  simp only [Bool.and_eq_true, decide_eq_true_eq] at htest
  obtain ⟨⟨⟨hx, hy⟩, hkeys⟩, hlooped⟩ := htest
  have on : tailLoop.OnLoop 1 := ⟨2, by omega, rfl⟩
  have off : ¬ tailLoop.OnLoop 0 := by
    rw [Host.onLoop_iff_mem_chain (show tailLoop.enclosing 0 = some 1 from rfl)]
    decide +kernel
  obtain ⟨keys, hsame, hstep, hinside, -⟩ := findMatch_one_step_out ⟨registry, {}⟩ built "x" hx
  obtain rfl : KeySet.ofList ["x"] = keys := Except.ok.inj (hkeys.symm.trans hsame)
  have hfound := (hstep tailLoop 2 1 rfl).1 "q:x" (by rfl)
  have hpassed := (hstep tailLoop 1 2 rfl).2 rfl
  rw [hfound] at hpassed
  have hsilenced := hinside tailLoop 0 2 2 rfl (by rw [isSuppressed_outcome, hfound]; rfl)
  obtain ⟨_, -, hpasses, -⟩ := findMatch_one_step_out ⟨registry, {}⟩ built "y" hy
  have haround := (hpasses tailLoop 1 2 rfl).2 rfl
  rw [hlooped] at haround
  have hreported := haround.eq_of_onLoop on
  have houtside := (hpasses tailLoop 0 1 rfl).2 rfl
  rw [hreported] at houtside
  exact ⟨⟨registry, {}⟩, built, hx, hy, on, off, hfound, hpassed.eq_ok, hsilenced, hlooped,
    hreported, houtside.eq_of_not_onLoop off⟩

end Engine
end Suppression
