/-!
# Ascending lists of keys

Strings are ordered by code point. A list of keys that ascends strictly holds each key once and is
determined by its members (`ascending_ext`); inserting a key and merging two lists keep it
ascending.
-/

namespace Suppression

/-- Of two strings, one comes first or they are equal. -/
theorem key_trichotomy (a b : String) : a < b ∨ a = b ∨ b < a := by
  by_cases h : a < b
  · exact .inl h
  · by_cases h' : b < a
    · exact .inr (.inr h')
    · exact .inr (.inl (String.le_antisymm (String.not_lt.1 h') (String.not_lt.1 h)))

/-- Puts a key at its place in an ascending list; a key that is there already is not repeated. -/
def insertAscending (key : String) : List String → List String
  | [] => [key]
  | x :: rest =>
    if key < x then key :: x :: rest
    else if key = x then x :: rest
    else x :: insertAscending key rest

/-- Inserting adds the key and nothing else. -/
theorem mem_insertAscending {key x : String} {keys : List String} :
    x ∈ insertAscending key keys ↔ x = key ∨ x ∈ keys := by
  induction keys with
  | nil => simp [insertAscending]
  | cons y rest ih =>
    unfold insertAscending
    split
    · simp
    · split
      · next h => simp [h]
      · simp only [List.mem_cons, ih]
        grind

/-- Inserting into an ascending list leaves it ascending. -/
theorem ascending_insertAscending {key : String} {keys : List String}
    (h : keys.Pairwise (· < ·)) : (insertAscending key keys).Pairwise (· < ·) := by
  induction keys with
  | nil => simp [insertAscending]
  | cons y rest ih =>
    obtain ⟨hy, hrest⟩ := List.pairwise_cons.1 h
    unfold insertAscending
    split
    · next hlt =>
      refine List.pairwise_cons.2 ⟨fun z hz => ?_, h⟩
      rcases List.mem_cons.1 hz with rfl | hz
      · exact hlt
      · exact String.lt_trans hlt (hy z hz)
    · next hnlt =>
      split
      · exact h
      · next hne =>
        refine List.pairwise_cons.2 ⟨fun z hz => ?_, ih hrest⟩
        rcases mem_insertAscending.1 hz with rfl | hz
        · rcases key_trichotomy z y with h' | h' | h'
          · exact absurd h' hnlt
          · exact absurd h' hne
          · exact h'
        · exact hy z hz

/-- Merges two ascending lists; a key that both hold is kept once. -/
def mergeAscending : List String → List String → List String
  | [], ys => ys
  | xs, [] => xs
  | x :: xs, y :: ys =>
    if x < y then x :: mergeAscending xs (y :: ys)
    else if x = y then x :: mergeAscending xs ys
    else y :: mergeAscending (x :: xs) ys
termination_by xs ys => xs.length + ys.length

/-- Merging keeps the keys of both lists and adds none. -/
theorem mem_mergeAscending {z : String} {xs ys : List String} :
    z ∈ mergeAscending xs ys ↔ z ∈ xs ∨ z ∈ ys := by
  fun_induction mergeAscending xs ys with
  | case1 ys => simp
  | case2 xs => simp
  | case3 x xs y ys hlt ih => simp only [List.mem_cons, ih, or_assoc]
  | case4 x xs ys hlt ih => simp only [List.mem_cons, ih]; grind
  | case5 x xs y ys hlt hne ih => simp only [List.mem_cons, ih]; grind

/-- Merging ascending lists gives an ascending list. -/
theorem ascending_mergeAscending {xs ys : List String}
    (hxs : xs.Pairwise (· < ·)) (hys : ys.Pairwise (· < ·)) :
    (mergeAscending xs ys).Pairwise (· < ·) := by
  fun_induction mergeAscending xs ys with
  | case1 ys => exact hys
  | case2 xs => exact hxs
  | case3 x xs y ys hlt ih =>
    obtain ⟨hx, hxs'⟩ := List.pairwise_cons.1 hxs
    obtain ⟨hy, _⟩ := List.pairwise_cons.1 hys
    refine List.pairwise_cons.2 ⟨fun z hz => ?_, ih hxs' hys⟩
    rcases mem_mergeAscending.1 hz with hz | hz
    · exact hx z hz
    · rcases List.mem_cons.1 hz with rfl | hz
      · exact hlt
      · exact String.lt_trans hlt (hy z hz)
  | case4 x xs ys hlt ih =>
    obtain ⟨hx, hxs'⟩ := List.pairwise_cons.1 hxs
    obtain ⟨hy, hys'⟩ := List.pairwise_cons.1 hys
    refine List.pairwise_cons.2 ⟨fun z hz => ?_, ih hxs' hys'⟩
    rcases mem_mergeAscending.1 hz with hz | hz
    · exact hx z hz
    · exact hy z hz
  | case5 x xs y ys hlt hne ih =>
    obtain ⟨hx, _⟩ := List.pairwise_cons.1 hxs
    obtain ⟨hy, hys'⟩ := List.pairwise_cons.1 hys
    have hyx : y < x := by
      rcases key_trichotomy x y with h | h | h
      · exact absurd h hlt
      · exact absurd h hne
      · exact h
    refine List.pairwise_cons.2 ⟨fun z hz => ?_, ih hxs hys'⟩
    rcases mem_mergeAscending.1 hz with hz | hz
    · rcases List.mem_cons.1 hz with rfl | hz
      · exact hyx
      · exact String.lt_trans hyx (hx z hz)
    · exact hy z hz

/-- An ascending list is determined by its members. -/
theorem ascending_ext {xs ys : List String} (hxs : xs.Pairwise (· < ·))
    (hys : ys.Pairwise (· < ·)) (h : ∀ z, z ∈ xs ↔ z ∈ ys) : xs = ys := by
  induction xs generalizing ys with
  | nil =>
    cases ys with
    | nil => rfl
    | cons y ys => exact absurd ((h y).2 (by simp)) (by simp)
  | cons x xs ih =>
    cases ys with
    | nil => exact absurd ((h x).1 (by simp)) (by simp)
    | cons y ys =>
      obtain ⟨hx, hxs'⟩ := List.pairwise_cons.1 hxs
      obtain ⟨hy, hys'⟩ := List.pairwise_cons.1 hys
      have hxy : x = y := by
        rcases List.mem_cons.1 ((h x).1 (by simp)) with e | hmem
        · exact e
        · rcases List.mem_cons.1 ((h y).2 (by simp)) with e | hmem'
          · exact e.symm
          · exact absurd (hx y hmem') (String.lt_asymm (hy x hmem))
      subst hxy
      congr 1
      refine ih hxs' hys' fun z => ⟨fun hz => ?_, fun hz => ?_⟩
      · rcases List.mem_cons.1 ((h z).1 (List.mem_cons_of_mem _ hz)) with rfl | hz'
        · exact absurd (hx z hz) (String.lt_irrefl z)
        · exact hz'
      · rcases List.mem_cons.1 ((h z).2 (List.mem_cons_of_mem _ hz)) with rfl | hz'
        · exact absurd (hy z hz) (String.lt_irrefl z)
        · exact hz'

end Suppression
