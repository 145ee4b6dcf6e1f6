import Suppression.Arena
import Suppression.Form.Element
import Suppression.Proofs.ScopeChain
/-!
# The order of an arena

In an arena every element stands behind the one that encloses it (`Arena.Ordered`). Adding elements
keeps this order, and a list of elements from elsewhere, given as such or read from text, is let in
only if it has it. So each step outward leads to a smaller number, and every scope chain of an arena
comes to an end at an element that nothing encloses.
-/

namespace Suppression

/-- A value read through a pair of conversions has passed the one that may refuse. -/
theorem Form.exists_join_of_ofText {α β : Type} {form : Form α} {split : β → α}
    {join : α → Except Mismatch β} {text : String} {value : β}
    (h : (form.through split join).ofText text = .ok value) : ∃ parts, join parts = .ok value := by
  simp only [Form.ofText, Form.through, bind, Except.bind] at h
  cases hread : form.read Reader.maxLevels text.toList with
  | error cause =>
    rw [hread] at h
    exact absurd h (by simp)
  | ok found =>
    cases hjoin : join found.1 with
    | error cause =>
      simp only [hread, hjoin, Reader.fail] at h
      exact absurd h (by simp)
    | ok joined =>
      simp only [hread, hjoin, pure, Except.pure] at h
      split at h
      · exact ⟨found.1, hjoin.trans (congrArg Except.ok (Except.ok.inj h))⟩
      · exact absurd h (by simp)

namespace Arena

/-! ## Ways to come by an arena -/

/-- One call that adds an element, or is refused. -/
inductive Adds : Arena → Arena → Prop
  /-- An element that nothing encloses is added. -/
  | unit (arena : Arena) (name : String) (suppressions : List String) :
      Adds arena (arena.addCompilationUnit name suppressions).2
  /-- An element is added inside another one, or refused. -/
  | child (arena : Arena) (enclosing : ElementId) (kind : ElementKind) (name : String)
      (suppressions : List String) :
      Adds arena (arena.addChild enclosing kind name suppressions).2

/-- The arenas that can come about: from the empty one, by adding elements, and at any time anew
from a list of elements that is let in, given as such or read from text. -/
inductive Arises : Arena → Prop
  /-- There is no element at first. -/
  | empty : Arises Arena.empty
  /-- An element is added or refused. -/
  | adds {arena next : Arena} (arises : Arises arena) (adds : Adds arena next) : Arises next
  /-- The arena is replaced by the elements of a list. -/
  | replaced {arena next : Arena} {elements : List Element} (arises : Arises arena)
      (admitted : ofElements elements = .ok next) : Arises next
  /-- The arena is replaced by what a text holds. -/
  | read {arena next : Arena} {text : String} (arises : Arises arena)
      (admitted : form.ofText text = .ok next) : Arises next

/-! ## The order -/

/-- Every element stands behind the one that encloses it. -/
def Ordered (arena : Arena) : Prop :=
  ∀ (place : Nat) (element : Element) (outer : ElementId),
    arena.elements[place]? = some element → element.enclosing = some outer → outer.toNat < place

/-- The empty arena is in order. -/
theorem ordered_empty : Arena.empty.Ordered := by
  intro place element outer helement
  simp [Arena.empty] at helement

/-- An element inside one that is there already can be added in order. -/
theorem Ordered.push {arena : Arena} (ordered : arena.Ordered) (kind : ElementKind) (name : String)
    {enclosing : Option ElementId} (suppressions : List String)
    (h : ∀ outer, enclosing = some outer → outer.toNat < arena.size) :
    (arena.push kind name enclosing suppressions).2.Ordered := by
  intro place element outer helement houter
  by_cases hplace : place < arena.size
  · rw [getElem?_push_of_lt hplace] at helement
    exact ordered place element outer helement houter
  · -- the new element, for nothing stands behind it
    rw [Arena.push, Array.getElem?_push] at helement
    by_cases hlast : place = arena.elements.size
    · rw [if_pos hlast, Option.some.injEq] at helement
      rw [← helement] at houter
      rw [hlast]
      exact h outer houter
    · rw [if_neg hlast] at helement
      have hlt := (Array.getElem?_eq_some_iff.1 helement).1
      rw [size] at hplace
      omega

/-- Every call that adds or refuses an element keeps the order. -/
theorem Adds.ordered {arena next : Arena} (adds : Adds arena next) (ordered : arena.Ordered) :
    next.Ordered := by
  cases adds with
  | unit name suppressions =>
    apply ordered.push
    intro outer houter
    exact absurd houter (by simp)
  | child enclosing kind name suppressions =>
    by_cases hknown : (arena.get? enclosing).isSome = true
    · rw [addChild_of_known hknown]
      apply ordered.push
      intro outer houter
      rw [← Option.some.inj houter]
      obtain ⟨element, helement⟩ := Option.isSome_iff_exists.1 hknown
      exact (Array.getElem?_eq_some_iff.1 helement).1
    · rw [addChild_of_unknown hknown]
      exact ordered

/-- The first element of a list is not misplaced if it has the number of its place and is inside one
of a smaller number, if any; then the rest decides. -/
theorem firstMisplaced_cons_eq_none_iff (position : Nat) (first : Element) (rest : List Element) :
    firstMisplaced position (first :: rest) = none ↔
      (first.id = UInt32.ofNat position ∧
        ∀ outer, first.enclosing = some outer → outer < first.id) ∧
      firstMisplaced (position + 1) rest = none := by
  rw [firstMisplaced]
  by_cases hid : first.id = UInt32.ofNat position
  · rw [if_neg (by simpa using hid)]
    cases henclosing : first.enclosing with
    | none => simp [hid]
    | some outer =>
      by_cases hle : first.id ≤ outer
      · have hnlt : ¬ outer < first.id := by
          rw [UInt32.not_lt]
          exact hle
        simp [hle, hnlt]
      · have hlt : ∀ other, some outer = some other → other < first.id := by
          intro other hother
          rw [← Option.some.inj hother]
          exact UInt32.not_le.1 hle
        simp only [if_neg hle]
        exact ⟨fun hrest => ⟨⟨hid, hlt⟩, hrest⟩, fun h => h.2⟩
  · simp [hid]

/-- No element of a list is misplaced exactly if each has the number of its place and is inside one
of a smaller number, if any. -/
theorem firstMisplaced_eq_none_iff (position : Nat) (elements : List Element) :
    firstMisplaced position elements = none ↔
      ∀ i element, elements[i]? = some element → element.id = UInt32.ofNat (position + i) ∧
        ∀ outer, element.enclosing = some outer → outer < element.id := by
  induction elements generalizing position with
  | nil => simp [firstMisplaced]
  | cons first rest ih =>
    rw [firstMisplaced_cons_eq_none_iff, ih (position + 1)]
    -- place `i` of the rest is place `i + 1` of the list
    have hplace : ∀ i, position + 1 + i = position + (i + 1) := by
      intro i
      omega
    constructor
    · rintro ⟨hfirst, hrest⟩ i element helement
      cases i with
      | zero =>
        rw [List.getElem?_cons_zero, Option.some.injEq] at helement
        rw [← helement]
        exact hfirst
      | succ i =>
        rw [← hplace i]
        exact hrest i element helement
    · intro h
      refine ⟨h 0 first rfl, ?_⟩
      intro i element helement
      rw [hplace i]
      exact h (i + 1) element helement

/-- A list that is let in is in order. -/
theorem ordered_of_ofElements {elements : List Element} {arena : Arena}
    (h : ofElements elements = .ok arena) : arena.Ordered := by
  obtain ⟨hplaced, hlist⟩ := ofElements_eq_ok_iff.1 h
  rw [firstMisplaced_eq_none_iff] at hplaced
  intro place element outer helement houter
  rw [hlist, List.getElem?_toArray] at helement
  obtain ⟨hid, hlt⟩ := hplaced place element helement
  have hnat := UInt32.lt_iff_toNat_lt.1 (hlt outer houter)
  rw [hid, Nat.zero_add, UInt32.toNat_ofNat'] at hnat
  exact Nat.lt_of_lt_of_le hnat (Nat.mod_le place _)

/-- An arena read from text is that of a list which is let in. -/
theorem exists_ofElements_of_ofText {text : String} {arena : Arena}
    (h : form.ofText text = .ok arena) : ∃ elements, ofElements elements = .ok arena := by
  obtain ⟨elements, helements⟩ := Form.exists_join_of_ofText h
  cases hlist : ofElements elements with
  | ok other =>
    rw [hlist, Except.mapError] at helements
    rw [Except.ok.inj helements] at hlist
    exact ⟨elements, hlist⟩
  | error cause =>
    rw [hlist] at helements
    exact absurd helements (by simp [Except.mapError])

/-- **Every arena that arises is in order.** -/
theorem Arises.ordered {arena : Arena} (arises : arena.Arises) : arena.Ordered := by
  induction arises with
  | empty => exact ordered_empty
  | adds _ adds ih => exact adds.ordered ih
  | replaced _ admitted _ => exact ordered_of_ofElements admitted
  | read _ admitted _ =>
    obtain ⟨elements, helements⟩ := exists_ofElements_of_ofText admitted
    exact ordered_of_ofElements helements

end Arena

end Suppression
