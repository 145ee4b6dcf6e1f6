import Suppression.Proofs.ArenaAdmission
import Suppression.Proofs.ArenaGrowth
/-!
# The numbers that an arena gives out

A call that succeeds gets the element count as its number, so the numbers of successive elements run
upward from the size of the arena (`Arena.issued_eq`), and a number leads back to the element that
got it, whatever is added later. But a number is a 32-bit word. There are `UInt32.size` of them, and
after the last one they begin again at 0: from then on a call gives the number of an older element,
which leads to that older element and not to the new one (`Arena.mem_issued_iff_numbers_spent`). The
file of `Arena.spine` with an element inside an element, down to the last number, takes them all,
and the file after it gets the number of the first (`Arena.late_shares_number`).
-/

namespace Suppression

namespace Arena

/-! ## The number of a call -/

variable {arena next : Arena} {call : Call} {id : ElementId}

/-- A call that succeeds gives the next number. -/
theorem id_of_answer (h : arena.answer call = (.ok id, next)) : id = arena.nextId :=
  (eq_push_of_answer h).1

/-- A call that succeeds makes the arena larger by one element. -/
theorem size_of_answer (h : arena.answer call = (.ok id, next)) : next.size = arena.size + 1 := by
  rw [(eq_push_of_answer h).2, size, Array.size_push, size]

/-- The next number is the size, counted round and round through the words. -/
theorem toNat_nextId (arena : Arena) : arena.nextId.toNat = arena.size % UInt32.size := rfl

/-- As long as there are numbers left, the new element is found under its number. -/
theorem get?_of_answer (h : arena.answer call = (.ok id, next)) (hsize : arena.size < UInt32.size) :
    next.get? id = some (call.element id) := by
  obtain ⟨hid, hnext⟩ := eq_push_of_answer h
  have hplace : id.toNat = arena.elements.size := by
    rw [hid, toNat_nextId, Nat.mod_eq_of_lt hsize, size]
  rw [hnext, get?, hplace, Array.getElem?_push_size]

/-- When the numbers are spent, the next one is that of an element in the arena. -/
theorem isSome_get?_nextId (hspent : UInt32.size ≤ arena.size) :
    (arena.get? arena.nextId).isSome = true := by
  rw [isSome_get?_iff, toNat_nextId]
  exact Nat.lt_of_lt_of_le (Nat.mod_lt _ (by decide)) hspent

/-! ## Runs of calls -/

/-- The arena after one run of calls and then another. -/
theorem performAll_append (arena : Arena) (before after : List Call) :
    arena.performAll (before ++ after) = (arena.performAll before).performAll after :=
  List.foldl_append

/-- The numbers that a run of calls gives, in order. A refused call gives none. -/
def issued (arena : Arena) : List Call → List ElementId
  | [] => []
  | call :: rest =>
    match arena.answer call with
    | (.ok id, next) => id :: next.issued rest
    | (.error _, next) => next.issued rest

/-- A call that succeeds gives its number ahead of the rest. -/
theorem issued_cons_of_answer (h : arena.answer call = (.ok id, next)) (rest : List Call) :
    arena.issued (call :: rest) = id :: next.issued rest := by
  rw [issued, h]

/-- A refused call gives no number. -/
theorem issued_cons_of_refused {cause : Misplacement} (h : arena.answer call = (.error cause, next))
    (rest : List Call) : arena.issued (call :: rest) = next.issued rest := by
  rw [issued, h]

/-- A run makes an arena larger by as many elements as it gives numbers. -/
theorem size_performAll (arena : Arena) (calls : List Call) :
    (arena.performAll calls).size = arena.size + (arena.issued calls).length := by
  induction calls generalizing arena with
  | nil => rfl
  | cons call rest ih =>
    show ((arena.answer call).2.performAll rest).size = _
    rcases arena.answer_cases call with hadded | ⟨cause, hrefused⟩
    · have hsize : (arena.answer call).2.size = arena.size + 1 := by
        rw [hadded]
        exact size_of_answer hadded
      have hissued : arena.issued (call :: rest) =
          arena.nextId :: (arena.answer call).2.issued rest := by
        rw [issued_cons_of_answer hadded, hadded]
      rw [ih, hsize, hissued, List.length_cons]
      omega
    · rw [issued_cons_of_refused hrefused, hrefused, ih]

/-- **The numbers run upward from the size of the arena**, as words. -/
theorem issued_eq (arena : Arena) (calls : List Call) :
    arena.issued calls =
      (List.range' arena.size (arena.issued calls).length).map UInt32.ofNat := by
  induction calls generalizing arena with
  | nil => rfl
  | cons call rest ih =>
    rcases arena.answer_cases call with hadded | ⟨cause, hrefused⟩
    · rw [issued_cons_of_answer hadded, List.length_cons, List.range'_succ, List.map_cons,
        ← size_of_answer hadded, ← ih]
      rfl
    · rw [issued_cons_of_refused hrefused]
      exact ih arena

/-- The number after those of a run is one of them exactly if the run has gone through all words. -/
theorem nextId_mem_issued_iff (arena : Arena) (calls : List Call) :
    (arena.performAll calls).nextId ∈ arena.issued calls ↔
      UInt32.size ≤ (arena.issued calls).length := by
  have hnext : (arena.performAll calls).nextId =
      UInt32.ofNat (arena.size + (arena.issued calls).length) := by
    rw [nextId, size_performAll]
  have hword : ∀ i j : Nat, UInt32.ofNat i = UInt32.ofNat j ↔
      i % UInt32.size = j % UInt32.size := by
    intro i j
    rw [← UInt32.toNat_inj]
    rfl
  rw [hnext, issued_eq, List.length_map, List.length_range', List.mem_map]
  simp only [List.mem_range'_1, hword]
  have hpositive : 0 < UInt32.size := by decide
  constructor
  · rintro ⟨place, ⟨hfirst, hlast⟩, hsame⟩
    -- two places with one number are a whole round of words apart
    have hround : UInt32.size ∣ arena.size + (arena.issued calls).length - place :=
      Nat.dvd_of_mod_eq_zero (Nat.sub_mod_eq_zero_of_mod_eq hsame.symm)
    have hle := Nat.le_of_dvd (Nat.sub_pos_of_lt hlast) hround
    omega
  · intro hspent
    refine ⟨arena.size + (arena.issued calls).length - UInt32.size, by omega, ?_⟩
    rw [← Nat.add_mod_right, Nat.sub_add_cancel (by omega)]

/-! ## How long a number is the element's own -/

/-- **The numbers are the elements' own until all words are spent.** A call that succeeds after some
others gives a number that was given before exactly if as many numbers were given as there are
words. Under the number it gives, the element it adds is found, then and after all further calls, as
long as the arena had fewer elements than there are words; after that the number is the one of an
element that was there before, and it is that older element which is found. -/
theorem mem_issued_iff_numbers_spent (arena : Arena) (before : List Call) (call : Call)
    (id : ElementId) (next : Arena)
    (h : (arena.performAll before).answer call = (.ok id, next)) :
    (id ∈ arena.issued before ↔ UInt32.size ≤ (arena.issued before).length) ∧
    ((arena.performAll before).size < UInt32.size →
      ∀ after, (arena.performAll (before ++ call :: after)).get? id = some (call.element id)) ∧
    (UInt32.size ≤ (arena.performAll before).size →
      ∃ older, (arena.performAll before).get? id = some older ∧
        ∀ after, (arena.performAll (before ++ call :: after)).get? id = some older) := by
  have hid : id = (arena.performAll before).nextId := id_of_answer h
  have hgrown : ∀ after, arena.performAll (before ++ call :: after) = next.performAll after := by
    intro after
    rw [performAll_append]
    show ((arena.performAll before).answer call).2.performAll after = next.performAll after
    rw [h]
  refine ⟨?_, ?_, ?_⟩
  · rw [hid]
    exact nextId_mem_issued_iff arena before
  · intro hsize after
    have hfound : next.get? id = some (call.element id) := get?_of_answer h hsize
    rw [hgrown, get?_performAll (by rw [hfound]; rfl), hfound]
  · intro hspent
    have hknown : ((arena.performAll before).get? id).isSome = true := by
      rw [hid]
      exact isSome_get?_nextId hspent
    obtain ⟨older, holder⟩ := Option.isSome_iff_exists.1 hknown
    refine ⟨older, holder, ?_⟩
    intro after
    rw [performAll_append, get?_performAll hknown, holder]

/-- A file, a class inside an element that is not there, and a class in the file. -/
def classCalls : List Call :=
  [.unit "f" [], .child 9 .type "C" [], .child 0 .type "C" ["g"]]

/-- A method after a file, a refused class and a class gets a number of its own, and under it the
method is found when another method and another file have been added. -/
theorem method_after_classCalls :
    (empty.performAll classCalls).answer (.child 1 .method "m" ["h"]) =
      (.ok 2, (empty.performAll classCalls).perform (.child 1 .method "m" ["h"])) ∧
    (2 : ElementId) ∉ empty.issued classCalls ∧
    (empty.performAll classCalls).size < UInt32.size ∧
    (empty.performAll (classCalls ++ .child 1 .method "m" ["h"] ::
      [.child 1 .method "n" [], .unit "g" []])).get? 2 =
        some { id := 2, kind := .method, name := "m", enclosing := some 1,
               suppressions := ["h"] } := by
  have hanswer : (empty.performAll classCalls).answer (.child 1 .method "m" ["h"]) =
      (.ok 2, (empty.performAll classCalls).perform (.child 1 .method "m" ["h"])) := rfl
  have hsize : (empty.performAll classCalls).size < UInt32.size := by decide
  obtain ⟨hshared, hfound, -⟩ := mem_issued_iff_numbers_spent _ _ _ _ _ hanswer
  refine ⟨hanswer, ?_, hsize, hfound hsize _⟩
  rw [hshared]
  decide

/-! ## When the words are spent -/

/-- A file with `depth` elements in it, each inside the one before. -/
def spine (depth : Nat) : List Call :=
  .unit "file" [] ::
    (List.range depth).map fun outer => .child (UInt32.ofNat outer) .other (Nat.repr outer) []

/-- One more element inside the last one. -/
theorem spine_succ (depth : Nat) :
    spine (depth + 1) =
      spine depth ++ [.child (UInt32.ofNat depth) .other (Nat.repr depth) []] := by
  unfold spine
  rw [List.range_succ, List.map_append, List.map_singleton, List.cons_append]

/-- As long as the elements around them have numbers of their own, all elements of a spine are
added. -/
theorem size_performAll_spine {depth : Nat} (h : depth < UInt32.size) :
    (empty.performAll (spine depth)).size = depth + 1 := by
  induction depth with
  | zero => rfl
  | succ depth ih =>
    have hsize : (empty.performAll (spine depth)).size = depth + 1 := ih (by omega)
    have hknown : ((empty.performAll (spine depth)).get? (UInt32.ofNat depth)).isSome = true := by
      rw [isSome_get?_iff, UInt32.toNat_ofNat_of_lt' (by omega), hsize]
      omega
    have hanswer : (empty.performAll (spine depth)).answer
        (.child (UInt32.ofNat depth) .other (Nat.repr depth) []) =
          (.ok (empty.performAll (spine depth)).nextId,
            ((empty.performAll (spine depth)).push .other (Nat.repr depth)
              (some (UInt32.ofNat depth)) []).2) := addChild_of_known hknown _ _ _
    rw [spine_succ, performAll_append]
    show ((empty.performAll (spine depth)).answer _).2.size = _
    rw [hanswer, size_of_answer hanswer, hsize]

/-- The file is the first element of its spine. -/
theorem get?_performAll_spine (depth : Nat) :
    (empty.performAll (spine depth)).get? 0 =
      some { id := 0, kind := .compilationUnit, name := "file" } := by
  have hknown : ((empty.perform (.unit "file" [])).get? 0).isSome = true := rfl
  exact get?_performAll hknown _

/-- **Two elements share a number when the words are spent.** After a spine through all words, a
file that is added gets the number 0, which was given to the file of the spine. Under that number
the file of the spine is found and not the one just added. -/
theorem late_shares_number :
    ∃ late, (empty.performAll (spine (UInt32.size - 1))).answer (.unit "late" []) = (.ok 0, late) ∧
      0 ∈ empty.issued (spine (UInt32.size - 1)) ∧
      late.get? 0 = some { id := 0, kind := .compilationUnit, name := "file" } ∧
      late.get? 0 ≠ some (Call.element 0 (.unit "late" [])) := by
  have hsize : (empty.performAll (spine (UInt32.size - 1))).size = UInt32.size :=
    size_performAll_spine (by decide)
  have hid : (empty.performAll (spine (UInt32.size - 1))).nextId = 0 := by
    rw [nextId, hsize]
    rfl
  have hanswer : (empty.performAll (spine (UInt32.size - 1))).answer (.unit "late" []) =
      (.ok 0, (empty.performAll (spine (UInt32.size - 1))).perform (.unit "late" [])) := by
    rw [← hid]
    rfl
  have hissued : (empty.issued (spine (UInt32.size - 1))).length = UInt32.size := by
    have hgrown := size_performAll empty (spine (UInt32.size - 1))
    rw [hsize, show empty.size = 0 from rfl, Nat.zero_add] at hgrown
    exact hgrown.symm
  have hfirst : ((empty.performAll (spine (UInt32.size - 1))).perform (.unit "late" [])).get? 0 =
      some { id := 0, kind := .compilationUnit, name := "file" } := by
    rw [get?_perform (by rw [get?_performAll_spine]; rfl), get?_performAll_spine]
  refine ⟨_, hanswer, ?_, hfirst, ?_⟩
  · rw [← hid, nextId_mem_issued_iff, hissued]
  · rw [hfirst]
    decide

end Arena

end Suppression
