import Suppression.Checker
/-!
# Directives

A directive is a suppression string as it stands on a program element. It silences a checker with
certain effective keys if it is the wildcard, if it is one of the keys, or, where qualified keys are
allowed, if it is `qualifier:key` for one of them. The qualifier is free text without a colon and is
not checked, so the key begins after the first colon and may hold further colons.

The main statement is `silences_iff`.
-/

namespace Suppression.Directive

/-- The sign between a qualifier and a key. -/
def separator : Char := ':'

/-- The characters after the first separator, if there is one. -/
def afterSeparator : List Char → Option (List Char)
  | [] => none
  | c :: rest => if c = separator then some rest else afterSeparator rest

/-- What follows the first separator is reached over a stretch that holds none. -/
theorem afterSeparator_eq_some_iff {text key : List Char} :
    afterSeparator text = some key ↔
      ∃ qualifier, separator ∉ qualifier ∧ text = qualifier ++ separator :: key := by
  induction text with
  | nil => simp [afterSeparator]
  | cons c rest ih =>
    unfold afterSeparator
    split
    · next h =>
      constructor
      · intro heq
        exact ⟨[], by simp, by simp_all⟩
      · rintro ⟨qualifier, hfree, heq⟩
        cases qualifier with
        | nil => simp_all
        | cons q qs => simp_all
    · next h =>
      rw [ih]
      constructor
      · rintro ⟨qualifier, hfree, rfl⟩
        refine ⟨c :: qualifier, ?_, rfl⟩
        simp only [List.mem_cons, not_or]
        exact ⟨fun e => h e.symm, hfree⟩
      · rintro ⟨qualifier, hfree, heq⟩
        cases qualifier with
        | nil => simp_all
        | cons q qs => exact ⟨qs, by simp_all, by simp_all⟩

/-- The key of a qualified directive, if the directive is qualified. -/
def qualifiedKey (directive : String) : Option String :=
  (afterSeparator directive.toList).map String.ofList

/-- A directive is qualified by its part before the first separator. -/
theorem qualifiedKey_eq_some_iff {directive key : String} :
    qualifiedKey directive = some key ↔
      ∃ qualifier : String, separator ∉ qualifier.toList ∧
        directive = qualifier ++ String.singleton separator ++ key := by
  simp only [qualifiedKey, Option.map_eq_some_iff, afterSeparator_eq_some_iff]
  constructor
  · rintro ⟨chars, ⟨qualifier, hfree, heq⟩, rfl⟩
    refine ⟨String.ofList qualifier, by simpa using hfree, ?_⟩
    apply String.toList_injective
    simp [heq]
  · rintro ⟨qualifier, hfree, rfl⟩
    exact ⟨key.toList, ⟨qualifier.toList, hfree, by simp⟩, by simp⟩

/-- Whether a directive silences a checker that answers to `keys`. -/
def silences (directive : String) (keys : KeySet) (allowQualified : Bool) : Bool :=
  directive == wildcard || keys.contains directive ||
    (allowQualified && (qualifiedKey directive).any keys.contains)

/-- A directive silences as the wildcard, as a key, or as a key behind a qualifier. -/
theorem silences_iff {directive : String} {keys : KeySet} {allowQualified : Bool} :
    silences directive keys allowQualified = true ↔
      directive = wildcard ∨ directive ∈ keys ∨
        (allowQualified = true ∧ ∃ key, qualifiedKey directive = some key ∧ key ∈ keys) := by
  simp only [silences, Bool.or_eq_true, Bool.and_eq_true, beq_iff_eq, KeySet.contains_iff,
    Option.any_eq_true, or_assoc]

/-- The wildcard silences every checker. -/
theorem silences_wildcard (keys : KeySet) (allowQualified : Bool) :
    silences wildcard keys allowQualified = true :=
  silences_iff.2 (.inl rfl)

end Suppression.Directive
