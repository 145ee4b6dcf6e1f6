import Suppression.Proofs.ArenaOrder
/-!
# Admission to an arena

There are two accounts of what a good list of elements is. One judges the whole list: every element
has to have the number of its place and to be inside an element of an earlier place, if inside any
(`Element.InPlace`). The other adds one element after the other and refuses a child for want of the
element around it (`Arena.Replays`). As long as every place has a number of its own the two agree: a
list is let in exactly if its elements, added again in their order, make an arena of just that list
(`ofElements_eq_ok_iff_inPlace`, `replays_iff`). A list that is not let in is refused for its first
misplaced element (`firstMisplaced_eq_some_iff`).
-/

namespace Suppression

/-! ## Elements at their places -/

namespace Element

/-- The element has the number of its place, and one that encloses it has an earlier place. -/
structure InPlace (place : Nat) (element : Element) : Prop where
  /-- Its number is its place. -/
  id_eq : element.id.toNat = place
  /-- What encloses it comes earlier. -/
  enclosing_lt : ∀ outer, element.enclosing = some outer → outer.toNat < place

/-- What is wrong with an element at a place. A wrong number comes before all else. -/
inductive Misplaced (place : Nat) (element : Element) : Misplacement → Prop
  /-- It has another number. -/
  | outOfOrder (h : element.id.toNat ≠ place) :
      Misplaced place element (.outOfOrder (UInt32.ofNat place) element.id)
  /-- It has the number of the place but is inside an element that does not come earlier. -/
  | unknownEnclosing {outer : ElementId} (id_eq : element.id.toNat = place)
      (henclosing : element.enclosing = some outer) (h : place ≤ outer.toNat) :
      Misplaced place element (.unknownEnclosing element.id outer)

variable {place : Nat} {element : Element}

/-- A number is that of a place exactly if it is the place, as long as places have numbers. -/
theorem toNat_eq_iff {id : ElementId} (h : place < UInt32.size) :
    id.toNat = place ↔ id = UInt32.ofNat place := by
  rw [← UInt32.toNat_inj, UInt32.toNat_ofNat_of_lt' h]

/-- Where nothing encloses an element, its number decides. -/
theorem inPlace_iff_of_none (h : element.enclosing = none) :
    element.InPlace place ↔ element.id.toNat = place := by
  refine ⟨InPlace.id_eq, fun hid => ⟨hid, ?_⟩⟩
  intro outer houter
  rw [h] at houter
  exact absurd houter (by simp)

/-- Where something encloses an element, that has to come earlier. -/
theorem inPlace_iff_of_some {outer : ElementId} (h : element.enclosing = some outer) :
    element.InPlace place ↔ element.id.toNat = place ∧ outer.toNat < place := by
  refine ⟨fun hplace => ⟨hplace.id_eq, hplace.enclosing_lt outer h⟩, ?_⟩
  rintro ⟨hid, hlt⟩
  refine ⟨hid, ?_⟩
  intro other hother
  rw [h, Option.some.injEq] at hother
  rw [← hother]
  exact hlt

/-- An element is in its place or something is wrong with it there. -/
theorem inPlace_or_misplaced (place : Nat) (element : Element) :
    element.InPlace place ∨ ∃ cause, element.Misplaced place cause := by
  by_cases hid : element.id.toNat = place
  · cases henclosing : element.enclosing with
    | none => exact .inl ((inPlace_iff_of_none henclosing).2 hid)
    | some outer =>
      by_cases hlt : outer.toNat < place
      · exact .inl ((inPlace_iff_of_some henclosing).2 ⟨hid, hlt⟩)
      · exact .inr ⟨_, .unknownEnclosing hid henclosing (by omega)⟩
  · exact .inr ⟨_, .outOfOrder hid⟩

/-- Not both. -/
theorem Misplaced.not_inPlace {cause : Misplacement} (h : element.Misplaced place cause) :
    ¬ element.InPlace place := by
  intro hplace
  cases h with
  | outOfOrder hid => exact hid hplace.id_eq
  | unknownEnclosing _ henclosing hle =>
    have hlt := hplace.enclosing_lt _ henclosing
    omega

end Element

namespace Arena

/-- The elements of a list are in the places from `position` on. -/
def InPlaceFrom (position : Nat) (elements : List Element) : Prop :=
  ∀ (i : Nat) (element : Element), elements[i]? = some element → element.InPlace (position + i)

/-- Nothing is in place anywhere. -/
theorem inPlaceFrom_nil (position : Nat) : InPlaceFrom position [] := by
  intro i element helement
  simp at helement

/-- A list is in place if its first element is, and the rest one place further. -/
theorem inPlaceFrom_cons {position : Nat} {first : Element} {rest : List Element} :
    InPlaceFrom position (first :: rest) ↔
      first.InPlace position ∧ InPlaceFrom (position + 1) rest := by
  -- place `i` of the rest is place `i + 1` of the list
  have hplace : ∀ i, position + 1 + i = position + (i + 1) := by
    intro i
    omega
  constructor
  · intro h
    refine ⟨h 0 first rfl, ?_⟩
    intro i element helement
    rw [hplace i]
    exact h (i + 1) element helement
  · rintro ⟨hfirst, hrest⟩ i element helement
    cases i with
    | zero =>
      rw [List.getElem?_cons_zero, Option.some.injEq] at helement
      rw [← helement]
      exact hfirst
    | succ i =>
      rw [← hplace i]
      exact hrest i element helement

/-! ## The first misplaced element -/

section

variable {position : Nat} {first : Element} {rest elements : List Element} {cause : Misplacement}

/-- An element in its place is passed over. -/
theorem firstMisplaced_cons_of_inPlace (hposition : position < UInt32.size)
    (h : first.InPlace position) :
    firstMisplaced position (first :: rest) = firstMisplaced (position + 1) rest := by
  have hid : first.id = UInt32.ofNat position := (Element.toNat_eq_iff hposition).1 h.id_eq
  rw [firstMisplaced, if_neg (not_not_intro hid)]
  cases henclosing : first.enclosing with
  | none => rfl
  | some outer =>
    have hlt := h.enclosing_lt outer henclosing
    have hle : ¬ first.id ≤ outer := by
      rw [UInt32.le_iff_toNat_le, h.id_eq]
      omega
    simp only [if_neg hle]

/-- What is wrong with the first element is what is wrong with the list. -/
theorem firstMisplaced_cons_of_misplaced (hposition : position < UInt32.size)
    (h : first.Misplaced position cause) :
    firstMisplaced position (first :: rest) = some cause := by
  rw [firstMisplaced]
  cases h with
  | outOfOrder hid => exact if_pos fun heq => hid ((Element.toNat_eq_iff hposition).2 heq)
  | @unknownEnclosing outer hid henclosing hle =>
    have hle' : first.id ≤ outer := by
      rw [UInt32.le_iff_toNat_le, hid]
      exact hle
    rw [Element.toNat_eq_iff hposition] at hid
    rw [if_neg (not_not_intro hid), henclosing]
    exact if_pos hle'

/-- A list is faultless exactly if its elements are in place. -/
theorem firstMisplaced_eq_none_iff_inPlaceFrom (h : position + elements.length ≤ UInt32.size) :
    firstMisplaced position elements = none ↔ InPlaceFrom position elements := by
  induction elements generalizing position with
  | nil => simp [firstMisplaced, inPlaceFrom_nil]
  | cons first rest ih =>
    rw [List.length_cons] at h
    rw [inPlaceFrom_cons, ← ih (by omega)]
    rcases first.inPlace_or_misplaced position with hfirst | ⟨cause, hfirst⟩
    · rw [firstMisplaced_cons_of_inPlace (by omega) hfirst]
      simp [hfirst]
    · rw [firstMisplaced_cons_of_misplaced (by omega) hfirst]
      simp [hfirst.not_inPlace]

/-- The fault of a list is that of its first misplaced element. -/
theorem firstMisplaced_eq_some_iff (h : position + elements.length ≤ UInt32.size) :
    firstMisplaced position elements = some cause ↔
      ∃ before element after, elements = before ++ element :: after ∧
        InPlaceFrom position before ∧ element.Misplaced (position + before.length) cause := by
  induction elements generalizing position with
  | nil => simp [firstMisplaced]
  | cons first rest ih =>
    rw [List.length_cons] at h
    rcases first.inPlace_or_misplaced position with hfirst | ⟨other, hfirst⟩
    · rw [firstMisplaced_cons_of_inPlace (by omega) hfirst, ih (by omega)]
      constructor
      · rintro ⟨before, element, after, rfl, hbefore, hfault⟩
        refine ⟨first :: before, element, after, rfl, inPlaceFrom_cons.2 ⟨hfirst, hbefore⟩, ?_⟩
        rw [List.length_cons, Nat.add_comm before.length, ← Nat.add_assoc]
        exact hfault
      · rintro ⟨before, element, after, heq, hbefore, hfault⟩
        cases before with
        | nil =>
          obtain ⟨rfl, -⟩ := List.cons.inj heq
          exact absurd hfirst hfault.not_inPlace
        | cons head before =>
          obtain ⟨rfl, rfl⟩ := List.cons.inj heq
          refine ⟨before, element, after, rfl, (inPlaceFrom_cons.1 hbefore).2, ?_⟩
          rw [Nat.add_assoc, Nat.add_comm 1]
          exact hfault
    · rw [firstMisplaced_cons_of_misplaced (by omega) hfirst, Option.some.injEq]
      constructor
      · rintro rfl
        exact ⟨[], first, rest, rfl, inPlaceFrom_nil position, hfirst⟩
      · rintro ⟨before, element, after, heq, hbefore, hfault⟩
        cases before with
        | nil =>
          obtain ⟨rfl, -⟩ := List.cons.inj heq
          rw [List.length_nil, Nat.add_zero] at hfault
          have hsame : firstMisplaced position (first :: rest) = some cause :=
            firstMisplaced_cons_of_misplaced (by omega) hfault
          rw [firstMisplaced_cons_of_misplaced (by omega) hfirst] at hsame
          exact Option.some.inj hsame
        | cons head before =>
          obtain ⟨rfl, -⟩ := List.cons.inj heq
          exact absurd (inPlaceFrom_cons.1 hbefore).1 hfirst.not_inPlace

/-! ## Lists that are let in -/

/-- A list is let in, as it is, exactly if its elements are in place. -/
theorem ofElements_eq_ok_iff_inPlace {arena : Arena} (h : elements.length ≤ UInt32.size) :
    ofElements elements = .ok arena ↔ InPlaceFrom 0 elements ∧ arena.toElements = elements := by
  rw [ofElements_eq_ok_iff, firstMisplaced_eq_none_iff_inPlaceFrom (by omega), toElements]
  refine and_congr_right fun _ => ?_
  rw [← Array.toList_inj, List.toList_toArray]

/-- A list is refused for its fault. -/
theorem ofElements_eq_error_iff :
    ofElements elements = .error cause ↔ firstMisplaced 0 elements = some cause := by
  rw [ofElements]
  cases firstMisplaced 0 elements <;> simp

end

/-! ## Adding again -/

/-- Adds an element like a given one: by the call for elements that nothing encloses, or by the one
for all others. -/
def addLike (arena : Arena) (element : Element) : Except Misplacement ElementId × Arena :=
  match element.enclosing with
  | none =>
    let (id, next) := arena.addCompilationUnit element.name element.suppressions
    (.ok id, next)
  | some outer => arena.addChild outer element.kind element.name element.suppressions

/-- Elements like those of a list are added one after the other; every call succeeds and gives the
number that the element of the list has. -/
inductive Replays : Arena → List Element → Arena → Prop
  /-- Nothing is left to add. -/
  | done (arena : Arena) : Replays arena [] arena
  /-- One is added, and then the rest. -/
  | add {arena next final : Arena} {element : Element} {rest : List Element}
      (added : arena.addLike element = (.ok element.id, next))
      (further : Replays next rest final) : Replays arena (element :: rest) final

variable {arena : Arena}

/-- The elements of an arena are those whose number is below its size. -/
theorem isSome_get?_iff {id : ElementId} :
    (arena.get? id).isSome = true ↔ id.toNat < arena.size := by
  rw [get?, size]
  by_cases h : id.toNat < arena.elements.size
  · simp [h]
  · simp [h]

/-- An element is added under its own number exactly if that is the next place, and then just that
element is added. -/
theorem push_like_eq_iff {element : Element} {next : Arena} (hsize : arena.size < UInt32.size) :
    arena.push element.kind element.name element.enclosing element.suppressions =
        (element.id, next) ↔
      element.id.toNat = arena.size ∧ next.toElements = arena.toElements ++ [element] := by
  have hlist : (⟨arena.elements.push element⟩ : Arena) = next ↔
      next.toElements = arena.toElements ++ [element] := by
    cases next
    rw [Arena.mk.injEq, ← Array.toList_inj, Array.toList_push, eq_comm, toElements, toElements]
  rw [Element.toNat_eq_iff hsize, ← hlist, push, nextId, Prod.mk.injEq, eq_comm]
  refine and_congr_right fun hid => ?_
  rw [← hid]

/-- One element is added again under its own number exactly if it is in place behind the arena. -/
theorem addLike_eq_ok_iff {element : Element} {next : Arena} (hsize : arena.size < UInt32.size)
    (hkind : element.enclosing = none → element.kind = .compilationUnit) :
    arena.addLike element = (.ok element.id, next) ↔
      element.InPlace arena.size ∧ next.toElements = arena.toElements ++ [element] := by
  have hpush : ((.ok arena.nextId : Except Misplacement ElementId),
        (arena.push element.kind element.name element.enclosing element.suppressions).2) =
        (.ok element.id, next) ↔
      element.id.toNat = arena.size ∧ next.toElements = arena.toElements ++ [element] := by
    rw [← push_like_eq_iff hsize, push, Prod.mk.injEq, Prod.mk.injEq, Except.ok.injEq]
  rw [addLike]
  cases henclosing : element.enclosing with
  | none =>
    rw [henclosing, hkind henclosing] at hpush
    rw [Element.inPlace_iff_of_none henclosing]
    exact hpush
  | some outer =>
    rw [henclosing] at hpush
    rw [Element.inPlace_iff_of_some henclosing, ← isSome_get?_iff]
    by_cases hknown : (arena.get? outer).isSome = true
    · simp only [addChild_of_known hknown, hpush, hknown, and_true]
    · simp [addChild_of_unknown hknown, hknown]

/-- **Elements are added again under their own numbers exactly if they are in place** behind the
arena, and then the arena is followed by just them. -/
theorem replays_iff {elements : List Element} {final : Arena}
    (hsize : arena.size + elements.length ≤ UInt32.size)
    (hkind : ∀ element ∈ elements, element.enclosing = none → element.kind = .compilationUnit) :
    Replays arena elements final ↔
      InPlaceFrom arena.size elements ∧ final.toElements = arena.toElements ++ elements := by
  induction elements generalizing arena with
  | nil =>
    rw [List.append_nil]
    constructor
    · rintro ⟨⟩
      exact ⟨inPlaceFrom_nil _, rfl⟩
    · rintro ⟨-, hfinal⟩
      have heq : final = arena := by
        cases final
        cases arena
        rw [Arena.mk.injEq]
        exact Array.toList_inj.1 hfinal
      rw [heq]
      exact .done arena
  | cons element rest ih =>
    rw [List.length_cons] at hsize
    have hstep : ∀ next, arena.addLike element = (.ok element.id, next) ↔
        element.InPlace arena.size ∧ next.toElements = arena.toElements ++ [element] := by
      intro next
      exact addLike_eq_ok_iff (by omega) (hkind element List.mem_cons_self)
    -- the arena after the first element has one element more, so the rest goes one place further
    have hgrown : ∀ next : Arena, next.toElements = arena.toElements ++ [element] →
        next.size = arena.size + 1 := by
      intro next hnext
      have hlength := congrArg List.length hnext
      rw [List.length_append, List.length_singleton, toElements, toElements, Array.length_toList,
        Array.length_toList] at hlength
      exact hlength
    have hrest : ∀ next : Arena, next.toElements = arena.toElements ++ [element] →
        (Replays next rest final ↔ InPlaceFrom (arena.size + 1) rest ∧
          final.toElements = arena.toElements ++ element :: rest) := by
      intro next hnext
      rw [ih (by rw [hgrown next hnext]; omega)
        (fun other hother => hkind other (List.mem_cons_of_mem element hother)),
        hgrown next hnext, hnext, List.append_assoc, List.singleton_append]
    rw [inPlaceFrom_cons]
    constructor
    · intro h
      cases h with
      | add added further =>
        obtain ⟨hplace, hnext⟩ := (hstep _).1 added
        obtain ⟨hplaces, hfinal⟩ := (hrest _ hnext).1 further
        exact ⟨⟨hplace, hplaces⟩, hfinal⟩
    · rintro ⟨⟨hplace, hplaces⟩, hfinal⟩
      have hnext : (⟨arena.elements.push element⟩ : Arena).toElements =
          arena.toElements ++ [element] := Array.toList_push
      exact .add ((hstep _).2 ⟨hplace, hnext⟩) ((hrest _ hnext).2 ⟨hplaces, hfinal⟩)

/-! ## Arenas that arise -/

/-- Every element has the number that its place had when it was added. -/
def Numbered (arena : Arena) : Prop :=
  ∀ (place : Nat) (element : Element),
    arena.elements[place]? = some element → element.id = UInt32.ofNat place

/-- The next element gets the number of its place. -/
theorem Numbered.push (numbered : arena.Numbered) (kind : ElementKind) (name : String)
    (enclosing : Option ElementId) (suppressions : List String) :
    (arena.push kind name enclosing suppressions).2.Numbered := by
  intro place element helement
  rw [Arena.push, Array.getElem?_push] at helement
  by_cases hlast : place = arena.elements.size
  · rw [if_pos hlast, Option.some.injEq] at helement
    rw [← helement, hlast]
    rfl
  · rw [if_neg hlast] at helement
    exact numbered place element helement

/-- Every call that adds or refuses an element keeps the numbering. -/
theorem Adds.numbered {next : Arena} (adds : Adds arena next) (numbered : arena.Numbered) :
    next.Numbered := by
  cases adds with
  | unit name suppressions => exact numbered.push _ _ _ _
  | child enclosing kind name suppressions =>
    by_cases hknown : (arena.get? enclosing).isSome = true
    · rw [addChild_of_known hknown]
      exact numbered.push _ _ _ _
    · rw [addChild_of_unknown hknown]
      exact numbered

/-- A list that is let in is numbered. -/
theorem numbered_of_ofElements {elements : List Element} (h : ofElements elements = .ok arena) :
    arena.Numbered := by
  obtain ⟨hplaced, hlist⟩ := ofElements_eq_ok_iff.1 h
  rw [firstMisplaced_eq_none_iff] at hplaced
  intro place element helement
  rw [hlist, List.getElem?_toArray] at helement
  rw [(hplaced place element helement).1, Nat.zero_add]

/-- Every arena that arises is numbered. -/
theorem Arises.numbered (arises : arena.Arises) : arena.Numbered := by
  induction arises with
  | empty =>
    intro place element helement
    simp [Arena.empty] at helement
  | adds _ adds ih => exact adds.numbered ih
  | replaced _ admitted _ => exact numbered_of_ofElements admitted
  | read _ admitted _ =>
    obtain ⟨elements, helements⟩ := exists_ofElements_of_ofText admitted
    exact numbered_of_ofElements helements

/-- **An arena that arises is let in again as it is**, as long as every place has its own number. -/
theorem Arises.ofElements_toElements (arises : arena.Arises) (h : arena.size ≤ UInt32.size) :
    ofElements arena.toElements = .ok arena := by
  rw [ofElements_eq_ok_iff_inPlace (by rw [toElements, Array.length_toList]; exact h)]
  refine ⟨?_, rfl⟩
  intro place element helement
  rw [toElements, Array.getElem?_toList] at helement
  have hlt : place < arena.size := (Array.getElem?_eq_some_iff.1 helement).1
  rw [Nat.zero_add]
  refine ⟨?_, ?_⟩
  · exact (Element.toNat_eq_iff (by omega)).2 (arises.numbered place element helement)
  · intro outer houter
    exact arises.ordered place element outer helement houter

/-! ## The two accounts -/

/-- **What lets a list of elements in.** A list with no more elements than there are numbers is let
in exactly if every element is in its place, and then it is kept as it is. If those that nothing
encloses are compilation units, this is so exactly if the list can be had by adding its elements one
after the other, every call giving the element its own number. A list that is not let in is refused
for its first element that is not in its place. And an arena with no more elements than there are
numbers is let in again as it is, however it came about. -/
theorem ofElements_iff_inPlace_iff_replays :
    (∀ elements : List Element, elements.length ≤ UInt32.size →
      ((∃ arena, ofElements elements = .ok arena) ↔
        ∀ place (element : Element), elements[place]? = some element → element.InPlace place) ∧
      (∀ arena, ofElements elements = .ok arena → arena.toElements = elements) ∧
      ((∀ element ∈ elements, element.enclosing = none → element.kind = .compilationUnit) →
        ((∃ arena, ofElements elements = .ok arena) ↔
          ∃ arena, Replays Arena.empty elements arena ∧ arena.toElements = elements)) ∧
      ∀ cause, ofElements elements = .error cause ↔
        ∃ before element after, elements = before ++ element :: after ∧
          (∀ place (earlier : Element), before[place]? = some earlier → earlier.InPlace place) ∧
          element.Misplaced before.length cause) ∧
    ∀ arena : Arena, arena.Arises → arena.size ≤ UInt32.size →
      ofElements arena.toElements = .ok arena := by
  have hfrom : ∀ elements : List Element, InPlaceFrom 0 elements ↔
      ∀ place (element : Element), elements[place]? = some element → element.InPlace place := by
    intro elements
    simp only [InPlaceFrom, Nat.zero_add]
  refine ⟨?_, fun arena arises hsize => arises.ofElements_toElements hsize⟩
  intro elements hlength
  have hadmitted : (∃ arena, ofElements elements = .ok arena) ↔ InPlaceFrom 0 elements := by
    simp only [ofElements_eq_ok_iff_inPlace hlength]
    constructor
    · rintro ⟨_, h, _⟩
      exact h
    · intro h
      exact ⟨⟨elements.toArray⟩, h, rfl⟩
  refine ⟨hadmitted.trans (hfrom elements), ?_, ?_, ?_⟩
  · intro arena h
    exact ((ofElements_eq_ok_iff_inPlace hlength).1 h).2
  · intro hkind
    have hreplays : ∀ arena, Replays Arena.empty elements arena ↔
        InPlaceFrom 0 elements ∧ arena.toElements = elements := by
      intro arena
      exact replays_iff (by simpa [Arena.empty, size] using hlength) hkind
    rw [hadmitted]
    simp only [hreplays]
    constructor
    · intro h
      exact ⟨⟨elements.toArray⟩, ⟨h, rfl⟩, rfl⟩
    · rintro ⟨_, ⟨h, _⟩, _⟩
      exact h
  · intro cause
    rw [ofElements_eq_error_iff, firstMisplaced_eq_some_iff (by omega)]
    simp only [hfrom, Nat.zero_add]

/-- A file with a class in it. -/
def classInFile : List Element :=
  [{ id := 0, kind := .compilationUnit, name := "f" },
    { id := 1, kind := .type, name := "C", enclosing := some 0 }]

/-- A file with a method ahead of its class. -/
def methodAhead : List Element :=
  [{ id := 0, kind := .compilationUnit, name := "f" },
    { id := 1, kind := .method, name := "m", enclosing := some 2 },
    { id := 2, kind := .type, name := "C", enclosing := some 0 }]

/-- A file with a class can be had by adding both, and is let in again; a file with a method ahead
of its class is refused for the method. -/
theorem classInFile_replays :
    classInFile.length ≤ UInt32.size ∧
    (∀ element ∈ classInFile, element.enclosing = none → element.kind = .compilationUnit) ∧
    (∃ arena, Replays Arena.empty classInFile arena ∧ arena.toElements = classInFile) ∧
    methodAhead.length ≤ UInt32.size ∧
    ofElements methodAhead = .error (.unknownEnclosing 1 2) ∧
    ∃ arena : Arena, arena.Arises ∧ arena.size ≤ UInt32.size ∧ arena.toElements = classInFile ∧
      ofElements arena.toElements = .ok arena := by
  have hlength : classInFile.length ≤ UInt32.size := by decide
  have hkind : ∀ element ∈ classInFile,
      element.enclosing = none → element.kind = .compilationUnit := by decide
  have hahead : methodAhead.length ≤ UInt32.size := by decide
  obtain ⟨hlists, harenas⟩ := ofElements_iff_inPlace_iff_replays
  obtain ⟨-, -, hreplays, -⟩ := hlists classInFile hlength
  obtain ⟨-, -, -, herror⟩ := hlists methodAhead hahead
  have hadmitted : ofElements classInFile = .ok ⟨classInFile.toArray⟩ := rfl
  have harises : Arises ⟨classInFile.toArray⟩ := .replaced .empty hadmitted
  have hsize : Arena.size ⟨classInFile.toArray⟩ ≤ UInt32.size := by decide
  refine ⟨hlength, hkind, (hreplays hkind).1 ⟨_, hadmitted⟩, hahead, ?_, _, harises, hsize, rfl,
    harenas _ harises hsize⟩
  refine (herror _).2 ⟨methodAhead.take 1, methodAhead[1], methodAhead.drop 2, rfl, ?_, ?_⟩
  · intro place earlier hearlier
    cases place with
    | zero =>
      rw [← Option.some.inj hearlier]
      exact ⟨rfl, by simp⟩
    | succ place => exact absurd hearlier (by simp [methodAhead])
  · exact .unknownEnclosing rfl rfl (by decide)

end Arena

end Suppression
