import Suppression.KeySet.Ascending
/-!
# Key sets

A key set is a finite set of suppression keys. It is kept as the one list of its keys that ascends
strictly by code point, so two key sets with the same members are equal, whatever history built
them, and listing a set needs no sorting.

The main statements say what each operation does to membership (`mem_insert`, `mem_union`,
`mem_ofList`, `isSuperset_iff`) and that membership decides equality (`KeySet.ext_mem`).
-/

namespace Suppression

/-- A finite set of keys, listed in ascending code-point order. -/
structure KeySet where
  /-- The keys, each once, ascending. -/
  toList : List String
  /-- The order of the list. -/
  ascending : toList.Pairwise (· < ·)
deriving DecidableEq

namespace KeySet

instance : Membership String KeySet where
  mem keys key := key ∈ keys.toList

/-- Membership is membership in the list. -/
theorem mem_iff {keys : KeySet} {key : String} : key ∈ keys ↔ key ∈ keys.toList := Iff.rfl

instance (key : String) (keys : KeySet) : Decidable (key ∈ keys) :=
  decidable_of_iff (key ∈ keys.toList) Iff.rfl

/-- Two key sets with the same members are equal. -/
theorem ext_mem {a b : KeySet} (h : ∀ key, key ∈ a ↔ key ∈ b) : a = b := by
  cases a with
  | mk xs hxs =>
    cases b with
    | mk ys hys =>
      obtain rfl : xs = ys := ascending_ext hxs hys h
      rfl

/-- The set without keys. -/
def empty : KeySet := ⟨[], .nil⟩

instance : EmptyCollection KeySet := ⟨empty⟩

instance : Inhabited KeySet := ⟨empty⟩

/-- The empty set has no member. -/
theorem not_mem_empty (key : String) : key ∉ (∅ : KeySet) := List.not_mem_nil

/-- Whether a key is in the set. -/
def contains (keys : KeySet) (key : String) : Bool := keys.toList.contains key

/-- The test for membership agrees with membership. -/
theorem contains_iff {keys : KeySet} {key : String} : keys.contains key = true ↔ key ∈ keys := by
  simp [contains, mem_iff]

/-- The set with one key added. -/
def insert (keys : KeySet) (key : String) : KeySet :=
  ⟨insertAscending key keys.toList, ascending_insertAscending keys.ascending⟩

/-- Inserting adds the key and nothing else. -/
theorem mem_insert {keys : KeySet} {key x : String} :
    x ∈ keys.insert key ↔ x = key ∨ x ∈ keys :=
  mem_insertAscending

/-- Adds one key, and tells whether it is new to the set. -/
def add (keys : KeySet) (key : String) : Bool × KeySet :=
  (!keys.contains key, keys.insert key)

/-- Adding reports a key as new exactly if it was absent. -/
theorem add_fst_iff {keys : KeySet} {key : String} : (keys.add key).1 = true ↔ key ∉ keys := by
  rw [← contains_iff]
  simp [add]

/-- The keys of either set. -/
def union (a b : KeySet) : KeySet :=
  ⟨mergeAscending a.toList b.toList, ascending_mergeAscending a.ascending b.ascending⟩

/-- The union holds what either set holds. -/
theorem mem_union {a b : KeySet} {key : String} : key ∈ a.union b ↔ key ∈ a ∨ key ∈ b :=
  mem_mergeAscending

/-- The set of the keys of a list. -/
def ofList (keys : List String) : KeySet := keys.foldl insert ∅

/-- Inserting one key after another adds exactly those keys. -/
theorem mem_foldl_insert {keys : List String} {start : KeySet} {x : String} :
    x ∈ keys.foldl insert start ↔ x ∈ start ∨ x ∈ keys := by
  induction keys generalizing start with
  | nil => simp
  | cons k rest ih =>
    rw [List.foldl_cons, ih, mem_insert, List.mem_cons]
    grind

/-- The set of a list has the members of the list. -/
theorem mem_ofList {keys : List String} {x : String} : x ∈ ofList keys ↔ x ∈ keys := by
  rw [ofList, mem_foldl_insert]
  simp [not_mem_empty]

/-- A set is the set of its own list. -/
theorem ofList_toList (keys : KeySet) : ofList keys.toList = keys :=
  ext_mem fun _ => mem_ofList

/-- Whether every key of `b` is in `a`. -/
def isSuperset (a b : KeySet) : Bool := b.toList.all a.contains

/-- The superset test compares members. -/
theorem isSuperset_iff {a b : KeySet} : a.isSuperset b = true ↔ ∀ key, key ∈ b → key ∈ a := by
  simp only [isSuperset, List.all_eq_true, contains_iff, mem_iff]

/-- The number of keys. -/
def size (keys : KeySet) : Nat := keys.toList.length

/-- Whether the set has no key. -/
def isEmpty (keys : KeySet) : Bool := keys.toList.isEmpty

/-- A set is empty exactly if nothing is in it. -/
theorem isEmpty_iff {keys : KeySet} : keys.isEmpty = true ↔ ∀ key, key ∉ keys := by
  simp only [isEmpty, List.isEmpty_iff, List.eq_nil_iff_forall_not_mem, mem_iff]

end KeySet

end Suppression
