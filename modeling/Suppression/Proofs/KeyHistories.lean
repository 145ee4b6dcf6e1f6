import Mathlib.Data.List.Dedup
import Mathlib.Data.List.Induction
import Mathlib.Data.Set.Card
import Suppression.Form.Checker
import Suppression.Proofs.Json.Forms
/-!
# Key sets with a history

Some key sets are made of lists, and then keys are inserted and sets united, one change after the
other. What a set holds is told by its history (`mem_after_iff`), and how it is listed, counted,
compared and written is told by what it holds: the history leaves no other trace
(`after_canonical`).
-/

namespace Suppression.KeySet

/-! ## Listing by code points -/

/-- The code points of a key. -/
def codePoints (key : String) : List Nat := key.toList.map Char.toNat

/-- An earlier key has the earlier code points, as words of numbers are ordered. -/
theorem codePoints_lt {a b : String} (h : a < b) : codePoints a < codePoints b := by
  apply List.map_lt
  · intro c d hcd
    exact hcd
  · exact h

/-- A key set lists its keys by code points. -/
theorem pairwise_codePoints (keys : KeySet) :
    keys.toList.Pairwise fun a b => codePoints a < codePoints b :=
  keys.ascending.imp codePoints_lt

/-- No key is listed twice. -/
theorem nodup_toList (keys : KeySet) : keys.toList.Nodup := by
  apply keys.ascending.imp
  rintro a _ h rfl
  exact String.lt_irrefl a h

/-- The size of a set is the number of its keys. -/
theorem size_eq_ncard (keys : KeySet) : keys.size = {key | key ∈ keys}.ncard := by
  have heq : {key | key ∈ keys} = (keys.toList.toFinset : Set String) := by
    ext key
    rw [List.coe_toFinset]
    rfl
  rw [heq, Set.ncard_coe_finset, List.toFinset_card_of_nodup keys.nodup_toList]
  rfl

/-- Sorting a list and leaving out repeats lists its set. -/
theorem toList_ofList (items : List String) : (ofList items).toList = items.dedup.mergeSort := by
  have hsorted : (items.dedup.mergeSort).Pairwise fun a b => decide (a ≤ b) = true := by
    apply List.pairwise_mergeSort
    · intro a b c hab hbc
      rw [decide_eq_true_eq] at hab hbc ⊢
      exact String.le_trans hab hbc
    · intro a b
      rw [Bool.or_eq_true, decide_eq_true_eq, decide_eq_true_eq]
      exact String.le_total a b
  have hnodup : (items.dedup.mergeSort).Nodup :=
    (List.mergeSort_perm items.dedup _).nodup_iff.2 (List.nodup_dedup items)
  have hascending : (items.dedup.mergeSort).Pairwise (· < ·) := by
    refine (hsorted.and hnodup).imp ?_
    rintro a b ⟨hle, hne⟩
    rcases key_trichotomy a b with h | h | h
    · exact h
    · exact absurd h hne
    · exact absurd h (String.not_lt.2 (of_decide_eq_true hle))
  apply ascending_ext (ofList items).ascending hascending
  intro key
  rw [← mem_iff, mem_ofList, List.mem_mergeSort, List.mem_dedup]

/-! ## As text -/

/-- A text is read as a set exactly as it is read as a list, and then the items are collected. -/
theorem form_ofText (text : String) :
    form.ofText text = ((Form.list Form.string).ofText text).map ofList := by
  show ((Form.list Form.string).through toList (.ok <| ofList ·)).ofText text = _
  exact Form.ofText_through _ _ _ text

/-- A list of keys that is written and read as a set gives the set of the list. -/
theorem form_ofText_toText (items : List String) :
    form.ofText (Json.array (items.map .string)).toText = .ok (ofList items) := by
  rw [form_ofText]
  have hlist := (Form.restores_strings items).ofText_toText (by decide)
  rw [show (Json.array (items.map .string)).toText = (Form.list Form.string).toText items from rfl,
    hlist]
  rfl

/-! ## Changes -/

/-- A change of one of some sets. -/
inductive Change (ι : Type) where
  /-- A key is inserted. -/
  | insert (target : ι) (key : String)
  /-- A set is united with a set, possibly with itself. -/
  | union (target source : ι)

/-- The set that is changed. -/
def Change.target {ι : Type} : Change ι → ι
  | insert target _ => target
  | union target _ => target

variable {ι κ : Type} [DecidableEq ι] [DecidableEq κ]

/-- The sets after a change. -/
def perform (sets : ι → KeySet) : Change ι → ι → KeySet
  | .insert target key => Function.update sets target ((sets target).add key).2
  | .union target source => Function.update sets target ((sets target).union (sets source))

/-- The sets of some lists, after some changes. -/
def after (lists : ι → List String) (changes : List (Change ι)) : ι → KeySet :=
  changes.foldl perform fun i => ofList (lists i)

/-- A change more. -/
theorem after_concat (lists : ι → List String) (changes : List (Change ι)) (change : Change ι) :
    after lists (changes ++ [change]) = perform (after lists changes) change := by
  rw [after, List.foldl_append]
  rfl

/-- **A change leaves all sets but its target as they are.** -/
theorem perform_of_ne (sets : ι → KeySet) {change : Change ι} {i : ι} (h : i ≠ change.target) :
    perform sets change i = sets i := by
  cases change with
  | insert target key => exact Function.update_of_ne h _ sets
  | union target source => exact Function.update_of_ne h _ sets

/-- After a change a set holds what it held, and what was inserted into it or was in the set with
which it was united. -/
theorem mem_perform {sets : ι → KeySet} {change : Change ι} {i : ι} {key : String} :
    key ∈ perform sets change i ↔ key ∈ sets i ∨ change = .insert i key ∨
      ∃ source, change = .union i source ∧ key ∈ sets source := by
  by_cases hi : i = change.target
  · subst hi
    cases change with
    | insert target other =>
      show key ∈ Function.update sets target ((sets target).insert other) target ↔ _
      rw [Function.update_self, mem_insert, or_comm]
      simp [Change.target, eq_comm]
    | union target source =>
      show key ∈ Function.update sets target ((sets target).union (sets source)) target ↔ _
      rw [Function.update_self, mem_union]
      simp [Change.target]
  · rw [perform_of_ne sets hi]
    refine ⟨Or.inl, ?_⟩
    rintro (hold | rfl | ⟨source, rfl, -⟩)
    · exact hold
    · exact absurd rfl hi
    · exact absurd rfl hi

omit [DecidableEq ι] in
/-- A union stands among some changes and one more if it stands among them or is the last one. -/
theorem exists_union_concat {changes : List (Change ι)} {change : Change ι} {i : ι}
    {P : List (Change ι) → ι → Prop} :
    (∃ before source rest, changes ++ [change] = before ++ .union i source :: rest ∧
        P before source) ↔
      (∃ before source rest, changes = before ++ .union i source :: rest ∧ P before source) ∨
        ∃ source, change = .union i source ∧ P changes source := by
  constructor
  · rintro ⟨before, source, rest, heq, h⟩
    rcases List.eq_nil_or_concat' rest with rfl | ⟨inner, last, rfl⟩
    · obtain ⟨rfl, hlast⟩ := List.append_inj' heq rfl
      exact Or.inr ⟨source, (List.cons.inj hlast).1, h⟩
    · rw [← List.cons_append, ← List.append_assoc] at heq
      exact Or.inl ⟨before, source, inner, (List.append_inj' heq rfl).1, h⟩
  · rintro (⟨before, source, rest, rfl, h⟩ | ⟨source, rfl, h⟩)
    · exact ⟨before, source, rest ++ [change], by simp, h⟩
    · exact ⟨changes, source, [], rfl, h⟩

/-- **The history of a set tells what it holds**: the keys of its list, the keys that were inserted
into it, and those that were in a set at the time when it was united with that one. -/
theorem mem_after_iff {lists : ι → List String} {changes : List (Change ι)} {i : ι} {key : String} :
    key ∈ after lists changes i ↔ key ∈ lists i ∨ .insert i key ∈ changes ∨
      ∃ before source rest, changes = before ++ .union i source :: rest ∧
        key ∈ after lists before source := by
  -- from the back, because a union looks at what the changes before it have made
  induction changes using List.reverseRecOn with
  | nil =>
    show key ∈ ofList (lists i) ↔ _
    rw [mem_ofList]
    simp
  | append_singleton changes change ih =>
    rw [after_concat, mem_perform, ih, exists_union_concat, List.mem_append, List.mem_singleton,
      eq_comm (a := change)]
    rw [or_assoc, or_or_or_comm]

/-! ## All together -/

/-- **A set is what its history has put into it, in the one form that this has.** Let some sets be
made of lists and changed in any way. Each of them lists its keys by code points, without repeats,
and is written as that list. It holds a key exactly if the key was in its list, was inserted, or was
in a set at the time when it was united with that one. An insertion tells a key as new exactly if it
was absent. A change leaves all sets but its target as they are. The size is the number of keys. Of
sets with whatever histories, one includes the other exactly if it holds all its keys, and two are
equal exactly if they hold the same ones. A text is read as a set if it is read as a list, and the
set is that of the items; and the set of a list is written as the sorted list without repeats. -/
theorem after_canonical (lists : ι → List String) (changes : List (Change ι))
    (otherLists : κ → List String) (otherChanges : List (Change κ)) :
    (∀ i, ((after lists changes i).toList.Pairwise fun a b => codePoints a < codePoints b) ∧
      form.toText (after lists changes i) =
        (Json.array ((after lists changes i).toList.map .string)).toText) ∧
    (∀ i key, (after lists changes i).contains key = true ↔
      key ∈ lists i ∨ .insert i key ∈ changes ∨
        ∃ before source rest, changes = before ++ .union i source :: rest ∧
          (after lists before source).contains key = true) ∧
    (∀ i key, ((after lists changes i).add key).1 = true ↔
      (after lists changes i).contains key = false) ∧
    (∀ (change : Change ι) (i : ι), i ≠ change.target →
      after lists (changes ++ [change]) i = after lists changes i) ∧
    (∀ i, (after lists changes i).size =
      {key | (after lists changes i).contains key = true}.ncard) ∧
    (∀ i j, (after lists changes i).isSuperset (after otherLists otherChanges j) = true ↔
      ∀ key, (after otherLists otherChanges j).contains key = true →
        (after lists changes i).contains key = true) ∧
    (∀ i j, after lists changes i = after otherLists otherChanges j ↔
      ∀ key, (after lists changes i).contains key =
        (after otherLists otherChanges j).contains key) ∧
    (∀ text, form.ofText text = ((Form.list Form.string).ofText text).map ofList) ∧
    ∀ items : List String,
      form.ofText (Json.array (items.map .string)).toText = .ok (ofList items) ∧
      form.toText (ofList items) =
        (Json.array ((items.dedup.mergeSort).map .string)).toText := by
  refine ⟨?_, ?_, ?_, ?_, ?_, ?_, ?_, form_ofText, ?_⟩
  · intro i
    exact ⟨(after lists changes i).pairwise_codePoints, rfl⟩
  · intro i key
    simp only [contains_iff]
    exact mem_after_iff
  · intro i key
    rw [add_fst_iff, ← contains_iff, Bool.not_eq_true]
  · intro change i hi
    rw [after_concat]
    exact perform_of_ne _ hi
  · intro i
    simp only [contains_iff]
    exact size_eq_ncard _
  · intro i j
    simp only [contains_iff]
    exact isSuperset_iff
  · intro i j
    constructor
    · intro heq key
      rw [heq]
    · intro h
      apply ext_mem
      intro key
      rw [← contains_iff, h key, contains_iff]
  · intro items
    refine ⟨form_ofText_toText items, ?_⟩
    rw [← toList_ofList]
    rfl

/-- Two lists. The first has a repeat, and a character that stands after the one of the second by
code point but before it by 16-bit unit. -/
def oddLists : Bool → List String
  | false => ["😀", "b", "b"]
  | true => ["｡"]

/-- The first set is united with itself and then put into the second. -/
def oddChanges : List (Change Bool) := [.union false false, .union true false]

/-- The second set then holds the keys of both lists by code point, as a set of its own history does
that is filled in another order. A later insertion into the first set does not reach it. -/
theorem after_oddChanges :
    true ≠ (Change.insert false "late").target ∧
    after oddLists (oddChanges ++ [.insert false "late"]) true = after oddLists oddChanges true ∧
    (after oddLists oddChanges true).contains "b" = true ∧
    ((after oddLists oddChanges true).add "b").1 = false ∧
    (∀ key, (after oddLists oddChanges true).contains key =
      (after (fun _ => ["b", "｡"]) [.insert () "😀"] ()).contains key) ∧
    form.toText (after oddLists oddChanges true) = "[\"b\",\"｡\",\"😀\"]" := by
  obtain ⟨hlisted, hheld, hnew, hkept, -, -, hequal, -, -⟩ := after_canonical oddLists oddChanges
    (fun _ : Unit => ["b", "｡"]) [.insert () "😀"]
  have hinitial : (after oddLists [.union false false] false).contains "b" = true := by
    decide +kernel
  have hb : (after oddLists oddChanges true).contains "b" = true :=
    (hheld true "b").2 (Or.inr (Or.inr ⟨[.union false false], false, [], rfl, hinitial⟩))
  refine ⟨by decide, hkept (.insert false "late") true (by decide), hb, ?_, ?_, ?_⟩
  · rw [← Bool.not_eq_true, hnew, hb]
    decide
  · exact (hequal true ()).1 (by decide +kernel)
  · rw [(hlisted true).2]
    decide +kernel

end Suppression.KeySet
