import Suppression.Engine
import Suppression.Proofs.Freezing
/-!
# One registry for all threads

Threads make registries, install them in the one shared slot, read the slot and take engines from
it. The slot is looked at and filled in one step, and the threads' calls may be interleaved in any
order. The main statement (`Sharing.installs_once`) is that the first registry that a thread comes
to install is the one that all threads see from then on: nothing is seen before, no other registry
is ever let in, and what is installed has been made before.

All that a call can come to is said once (`Sharing.Happens`); the rest follows by induction along
the run, from what one step does to an empty slot and to a filled one.
-/

namespace Suppression.Sharing

/-! ## Threads and their calls -/

/-- A call that a thread makes. -/
inductive Call where
  /-- Makes a registry, which may fail. -/
  | make (making : Logged Failure Registry)
  /-- Installs a registry. -/
  | install (registry : Registry)
  /-- Reads the slot. -/
  | read
  /-- Takes an engine over the shared registry. -/
  | engine (config : Config)

/-- A call with its result. -/
inductive Happening where
  /-- A registry was made, or could not be. -/
  | made (making : Logged Failure Registry)
  /-- A registry was to be installed. -/
  | installed (registry : Registry) (result : Logged Failure Unit)
  /-- The slot was read, and had this content. -/
  | read (content : Option Registry)
  /-- An engine was asked for. -/
  | engine (config : Config) (engine : Option Engine)

namespace Call

/-- What happens by a call, and the slot after it. -/
def perform (slot : Slot) : Call → Happening × Slot
  | make making => (.made making, slot)
  | install registry => (.installed registry (slot.install registry).2, (slot.install registry).1)
  | read => (.read slot.content, slot)
  | engine config => (.engine config (Engine.ofSlot slot config), slot)

/-- The registry that comes out of a call, if one does. -/
def yield : Call → List Registry
  | make making => making.outcome.toOption.toList
  | install _ | read | engine _ => []

/-- Whether a call can be made once certain registries are made: only those can be installed. -/
def Reached (made : List Registry) : Call → Prop
  | install registry => registry ∈ made
  | make _ | read | engine _ => True

end Call

/-- Threads at work. -/
structure State where
  /-- The place they share. -/
  slot : Slot
  /-- The registries that were made so far; threads may pass them on. -/
  made : List Registry
  /-- The calls that each thread has still to make. -/
  threads : List (List Call)

/-- Nothing is made yet, and the slot is empty. -/
def State.initial (threads : List (List Call)) : State := ⟨Slot.empty, [], threads⟩

/-- One of the threads, whichever, makes its next call. -/
inductive Step : State → Happening → State → Prop
  | act {slot : Slot} {made : List Registry} {call : Call} {calls : List Call}
      (front back : List (List Call)) (h : call.Reached made) :
      Step ⟨slot, made, front ++ (call :: calls) :: back⟩ (call.perform slot).1
        ⟨(call.perform slot).2, made ++ call.yield, front ++ calls :: back⟩

/-- Any number of calls, one after another, by threads in any order. -/
inductive Run : State → List Happening → State → Prop
  | done (state : State) : Run state [] state
  | step {start middle last : State} {happening : Happening} {trace : List Happening}
      (first : Step start happening middle) (rest : Run middle trace last) :
      Run start (happening :: trace) last

/-! ## What a call comes to -/

/-- All that can happen at a slot, with the slot after it. -/
inductive Happens : Slot → Happening → Slot → Prop
  /-- Making a registry has nothing to do with the slot. -/
  | made (slot : Slot) (making : Logged Failure Registry) : Happens slot (.made making) slot
  /-- An empty slot takes what is installed. -/
  | first (registry : Registry) :
      Happens Slot.empty (.installed registry ⟨.ok (), [.installed registry.size]⟩) ⟨some registry⟩
  /-- A filled slot takes nothing. -/
  | refused (old registry : Registry) :
      Happens ⟨some old⟩ (.installed registry ⟨.error .alreadyInstalled, []⟩) ⟨some old⟩
  /-- What is read is the content. -/
  | read (slot : Slot) : Happens slot (.read slot.content) slot
  /-- An engine is one over the content. -/
  | engine (slot : Slot) (config : Config) :
      Happens slot (.engine config (Engine.ofSlot slot config)) slot

/-- A call comes to one of these. -/
theorem happens_perform (slot : Slot) (call : Call) :
    Happens slot (call.perform slot).1 (call.perform slot).2 := by
  cases call with
  | make making => exact Happens.made slot making
  | install registry =>
    obtain ⟨content⟩ := slot
    cases content with
    | none =>
      show Happens ⟨none⟩ (.installed registry (Slot.install ⟨none⟩ registry).2)
        (Slot.install ⟨none⟩ registry).1
      rw [Slot.install_of_none rfl]
      exact Happens.first registry
    | some old =>
      show Happens ⟨some old⟩ (.installed registry (Slot.install ⟨some old⟩ registry).2)
        (Slot.install ⟨some old⟩ registry).1
      rw [Slot.install_of_some rfl]
      exact Happens.refused old registry
  | read => exact Happens.read slot
  | engine config => exact Happens.engine slot config

/-- So does a step. -/
theorem Step.happens {start next : State} {happening : Happening}
    (step : Step start happening next) : Happens start.slot happening next.slot := by
  cases step with
  | @act slot _ call _ _ _ _ => exact happens_perform slot call

/-- A thing that can happen as long as nothing is installed: nothing is seen. -/
inductive Vacant : Happening → Prop
  | made (making : Logged Failure Registry) : Vacant (.made making)
  | read : Vacant (.read none)
  | engine (config : Config) : Vacant (.engine config none)

/-- A thing that can happen once a registry is installed: that one is seen, and no other let in. -/
inductive Filled (first : Registry) : Happening → Prop
  | made (making : Logged Failure Registry) : Filled first (.made making)
  | installed (registry : Registry) :
      Filled first (.installed registry ⟨.error .alreadyInstalled, []⟩)
  | read : Filled first (.read (some first))
  | engine (config : Config) : Filled first (.engine config (some { registry := first, config }))

/-- At a filled slot the content stays. -/
theorem Happens.filled {first : Registry} {happening : Happening} {slot : Slot}
    (h : Happens ⟨some first⟩ happening slot) : slot = ⟨some first⟩ ∧ Filled first happening := by
  cases h with
  | made _ making => exact ⟨rfl, Filled.made making⟩
  | refused _ registry => exact ⟨rfl, Filled.installed registry⟩
  | read _ => exact ⟨rfl, Filled.read⟩
  | engine _ config => exact ⟨rfl, Filled.engine config⟩

/-- An empty slot stays empty, or a registry is installed in it. -/
theorem Happens.of_empty {happening : Happening} {slot : Slot}
    (h : Happens Slot.empty happening slot) :
    (slot = Slot.empty ∧ Vacant happening) ∨
      ∃ first, happening = .installed first ⟨.ok (), [.installed first.size]⟩ ∧
        slot = ⟨some first⟩ := by
  cases h with
  | made _ making => exact Or.inl ⟨rfl, Vacant.made making⟩
  | first registry => exact Or.inr ⟨registry, rfl, rfl⟩
  | read _ => exact Or.inl ⟨rfl, Vacant.read⟩
  | engine _ config => exact Or.inl ⟨rfl, Vacant.engine config⟩

/-! ## Along a run -/

/-- What is installed stays, and is all that is seen. -/
theorem Run.filled {start last : State} {trace : List Happening} {first : Registry}
    (run : Run start trace last) (h : start.slot = ⟨some first⟩) :
    last.slot = ⟨some first⟩ ∧ ∀ happening ∈ trace, Filled first happening := by
  induction run with
  | done state => exact ⟨h, by simp⟩
  | step step _ ih =>
    have hstep := step.happens
    rw [h] at hstep
    obtain ⟨hmiddle, hfirst⟩ := hstep.filled
    obtain ⟨hlast, hrest⟩ := ih hmiddle
    exact ⟨hlast, List.forall_mem_cons.2 ⟨hfirst, hrest⟩⟩

/-- A run from an empty slot falls into what happens before the first installation and what happens
after it. -/
theorem Run.of_empty {start last : State} {trace : List Happening}
    (run : Run start trace last) (h : start.slot = Slot.empty) :
    (last.slot = Slot.empty ∧ ∀ happening ∈ trace, Vacant happening) ∨
      ∃ before first after,
        trace = before ++ .installed first ⟨.ok (), [.installed first.size]⟩ :: after ∧
          (∀ happening ∈ before, Vacant happening) ∧ (∀ happening ∈ after, Filled first happening) ∧
          last.slot = ⟨some first⟩ := by
  induction run with
  | done state => exact Or.inl ⟨h, by simp⟩
  | @step _ _ _ happening trace step rest ih =>
    have hstep := step.happens
    rw [h] at hstep
    rcases hstep.of_empty with ⟨hmiddle, hvacant⟩ | ⟨first, rfl, hmiddle⟩
    · rcases ih hmiddle with ⟨hlast, hrest⟩ | ⟨before, first, after, rfl, hbefore, hafter, hlast⟩
      · exact Or.inl ⟨hlast, List.forall_mem_cons.2 ⟨hvacant, hrest⟩⟩
      · exact Or.inr ⟨happening :: before, first, after, rfl,
          List.forall_mem_cons.2 ⟨hvacant, hbefore⟩, hafter, hlast⟩
    · -- From here on the slot is filled.
      obtain ⟨hlast, hafter⟩ := rest.filled hmiddle
      exact Or.inr ⟨[], first, trace, rfl, by simp, hafter, hlast⟩

/-! ## Where an installed registry comes from -/

/-- A registry was made, successfully, in the course of a run. -/
def MadeIn (past : List Happening) (registry : Registry) : Prop :=
  ∃ making : Logged Failure Registry, .made making ∈ past ∧ making.outcome = .ok registry

/-- It stays so when more happens. -/
theorem MadeIn.append {past : List Happening} {registry : Registry} (h : MadeIn past registry)
    (more : List Happening) : MadeIn (past ++ more) registry := by
  obtain ⟨making, hmem, houtcome⟩ := h
  exact ⟨making, List.mem_append_left more hmem, houtcome⟩

/-- What comes out of a call was made by it. -/
theorem madeIn_of_mem_yield {call : Call} {registry : Registry} (h : registry ∈ call.yield)
    (slot : Slot) : MadeIn [(call.perform slot).1] registry := by
  cases call with
  | make making =>
    cases houtcome : making.outcome with
    | error cause => simp [Call.yield, houtcome, Except.toOption] at h
    | ok found =>
      simp only [Call.yield, houtcome, Except.toOption, Option.mem_toList,
        Option.some.injEq] at h
      subst h
      exact ⟨making, List.mem_singleton.2 rfl, houtcome⟩
  | install _ => simp [Call.yield] at h
  | read => simp [Call.yield] at h
  | engine _ => simp [Call.yield] at h

/-- A step leaves only registries that were made. -/
theorem Step.madeIn {start next : State} {happening : Happening} {past : List Happening}
    (step : Step start happening next) (h : ∀ registry ∈ start.made, MadeIn past registry) :
    ∀ registry ∈ next.made, MadeIn (past ++ [happening]) registry := by
  cases step with
  | @act slot made call _ _ _ _ =>
    intro registry hmem
    rcases List.mem_append.1 hmem with hmem | hmem
    · exact (h registry hmem).append _
    · obtain ⟨making, hmaking, houtcome⟩ := madeIn_of_mem_yield hmem slot
      exact ⟨making, List.mem_append_right past hmaking, houtcome⟩

/-- What a step installs was among the registries made. -/
theorem Step.mem_made_of_installed {start next : State} {registry : Registry}
    {result : Logged Failure Unit} (step : Step start (.installed registry result) next) :
    registry ∈ start.made := by
  generalize hhappening : Happening.installed registry result = happening at step
  cases step with
  | @act slot made call _ _ _ h =>
    cases call with
    | install other =>
      injection hhappening with hregistry
      rw [hregistry]
      exact h
    | make _ | read | engine _ => cases hhappening

/-- Before a registry is installed, or refused, it is made. -/
theorem Run.madeIn_of_installed {start last : State} {trace : List Happening}
    (run : Run start trace last) {past before after : List Happening} {registry : Registry}
    {result : Logged Failure Unit} (hmade : ∀ made ∈ start.made, MadeIn past made)
    (h : trace = before ++ .installed registry result :: after) :
    MadeIn (past ++ before) registry := by
  induction run generalizing past before with
  | done state => simp at h
  | @step _ _ _ happening _ step _ ih =>
    cases before with
    | nil =>
      injection h with hhappening
      subst hhappening
      rw [List.append_nil]
      exact hmade registry step.mem_made_of_installed
    | cons head before =>
      injection h with hhead hrest
      subst hhead
      have hmadeIn := ih (step.madeIn hmade) hrest
      rw [List.append_assoc] at hmadeIn
      exact hmadeIn

/-! ## The run of a program -/

/-- **What is installed first is what all threads see.** Let threads run with any calls, interleaved
in any way, over an empty slot. Either no registry is ever installed, and nothing is seen; or there
is a first call to install one, and it succeeds, with a registry made before. Until then nothing is
seen. Afterwards every other installation is refused, every read gives that registry, and every
engine taken is the one made over it, so that the two answer alike whatever they are asked. And
however the run goes on, a filled slot stays as it is. -/
theorem installs_once (threads : List (List Call)) (trace : List Happening) (last : State)
    (run : Run (State.initial threads) trace last) :
    ((last.slot = Slot.empty ∧ ∀ happening ∈ trace, Vacant happening) ∨
      ∃ before first after,
        trace = before ++ .installed first ⟨.ok (), [.installed first.size]⟩ :: after ∧
          MadeIn before first ∧ (∀ happening ∈ before, Vacant happening) ∧
          (∀ happening ∈ after, Filled first happening) ∧ last.slot = ⟨some first⟩) ∧
    ∀ onward final first, Run last onward final → last.slot = ⟨some first⟩ →
      final.slot = ⟨some first⟩ ∧ ∀ happening ∈ onward, Filled first happening := by
  constructor
  · rcases run.of_empty rfl with hempty | ⟨before, first, after, heq, hbefore, hafter, hlast⟩
    · exact Or.inl hempty
    · have hnone : ∀ made ∈ (State.initial threads).made, MadeIn [] made := by
        intro made hmem
        exact absurd hmem List.not_mem_nil
      have hmade := run.madeIn_of_installed hnone heq
      exact Or.inr ⟨before, first, after, heq, hmade, hbefore, hafter, hlast⟩
  · intro onward final first hrun hfirst
    exact hrun.filled hfirst

/-- The calls of two threads: the first one fails to make a registry before it makes another one,
and while it installs that, the second thread is about to install its own. -/
def twoThreads (first second : Registry) : List (List Call) :=
  [[.engine {}, .make (Registry.ofCheckers [Checker.withParent { id := "first" } "base"]),
      .make (Registry.ofCheckers [{ id := "first" }]), .install first, .read],
    [.make (Registry.ofCheckers [{ id := "second" }]), .read, .install second, .engine {}]]

/-- What happens if the second thread has its registry first, but comes too late to install it. -/
def lateSecond (first second : Registry) : List Happening :=
  [.engine {} none, .made (Registry.ofCheckers [{ id := "second" }]),
    .made (Registry.ofCheckers [Checker.withParent { id := "first" } "base"]),
    .made (Registry.ofCheckers [{ id := "first" }]), .read none,
    .installed first ⟨.ok (), [.installed first.size]⟩,
    .installed second ⟨.error .alreadyInstalled, []⟩, .read (some first),
    .engine {} (some { registry := first })]

/-- The two threads may run in this way. The slot holds the registry of the first one in the end,
and that one was made before it was installed, seen by nobody before and by everybody afterwards. -/
theorem lateSecond_installs : ∃ first second last,
    (Registry.ofCheckers [{ id := "first" }]).outcome = .ok first ∧
    (Registry.ofCheckers [{ id := "second" }]).outcome = .ok second ∧
    Run (State.initial (twoThreads first second)) (lateSecond first second) last ∧
    last.slot = ⟨some first⟩ ∧
    ∃ before after, lateSecond first second =
        before ++ .installed first ⟨.ok (), [.installed first.size]⟩ :: after ∧
      MadeIn before first ∧ (∀ happening ∈ before, Vacant happening) ∧
      ∀ happening ∈ after, Filled first happening := by
  have hbuildsFirst : (Registry.ofCheckers [{ id := "first" }]).outcome.toOption.any
      (·.contains "first") = true := by decide +kernel
  have hbuildsSecond : (Registry.ofCheckers [{ id := "second" }]).outcome.toOption.any
      (·.contains "second") = true := by decide +kernel
  obtain ⟨first, hfirst, -⟩ := exists_ok_of_any hbuildsFirst
  obtain ⟨second, hsecond, -⟩ := exists_ok_of_any hbuildsSecond
  have hrun : ∃ last,
      Run (State.initial (twoThreads first second)) (lateSecond first second) last := by
    -- A call of the first thread has the other thread behind it, one of the second in front of it.
    refine ⟨_, Run.step (Step.act [] [_] trivial) <| Run.step (Step.act [_] [] trivial) <|
      Run.step (Step.act [] [_] trivial) <| Run.step (Step.act [] [_] trivial) <|
      Run.step (Step.act [_] [] trivial) <| Run.step (Step.act [] [_] ?_) <|
      Run.step (Step.act [_] [] ?_) <| Run.step (Step.act [] [_] trivial) <|
      Run.step (Step.act [_] [] trivial) <| Run.done _⟩
    · simp [Call.Reached, Call.yield, hfirst, Except.toOption]
    · simp [Call.Reached, Call.yield, hsecond, Except.toOption]
  obtain ⟨last, run⟩ := hrun
  obtain ⟨hsplit, -⟩ := installs_once _ _ last run
  rcases hsplit with
    ⟨-, hvacant⟩ | ⟨before, found, after, heq, hmade, hbefore, hafter, hlast⟩
  · have hinstalled := hvacant (.installed first ⟨.ok (), [.installed first.size]⟩)
      (by simp [lateSecond])
    cases hinstalled
  · have hmem : Happening.installed found ⟨.ok (), [.installed found.size]⟩ ∈
        lateSecond first second := by
      rw [heq]
      exact List.mem_append_right before List.mem_cons_self
    have hfound : found = first := by
      simp only [lateSecond, List.mem_cons, reduceCtorEq, Happening.installed.injEq,
        Logged.mk.injEq, and_false, List.not_mem_nil, or_false, false_or] at hmem
      exact hmem.1
    subst hfound
    exact ⟨found, second, last, hfirst, hsecond, run, hlast, before, after, heq, hmade, hbefore,
      hafter⟩

end Suppression.Sharing
