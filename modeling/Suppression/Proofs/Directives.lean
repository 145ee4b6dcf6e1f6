import Mathlib.Logic.ExistsUnique
import Suppression.Directive
/-!
# What a directive silences

A directive with a separator splits in one way into a qualifier without a separator and a key, so it
addresses at most two keys: itself as it stands and, where qualified keys are allowed, what follows
its first separator (`Addresses`). A separator inside the key plays no part. The main statement is
`silences_iff_split`.
-/

namespace Suppression.Directive

/-! ## The keys that are addressed -/

/-- A directive addresses a key as it stands or, where that is allowed, behind a qualifier. -/
def Addresses (directive : String) (allowQualified : Bool) (key : String) : Prop :=
  directive = key ∨ (allowQualified = true ∧ qualifiedKey directive = some key)

/-- A directive silences a checker as the wildcard or by a key that it addresses. -/
theorem silences_iff_addresses {directive : String} {keys : KeySet} {allowQualified : Bool} :
    silences directive keys allowQualified = true ↔
      directive = wildcard ∨ ∃ key ∈ keys, Addresses directive allowQualified key := by
  rw [silences_iff]
  refine or_congr Iff.rfl ⟨?_, ?_⟩
  · rintro (hexact | ⟨hallow, key, hkey, hmem⟩)
    · exact ⟨directive, hexact, Or.inl rfl⟩
    · exact ⟨key, hmem, Or.inr ⟨hallow, hkey⟩⟩
  · rintro ⟨key, hmem, rfl | ⟨hallow, hkey⟩⟩
    · exact Or.inl hmem
    · exact Or.inr ⟨hallow, key, hkey, hmem⟩

/-- Only the wildcard silences a checker without keys. -/
theorem silences_iff_of_keyless {directive : String} {keys : KeySet} {allowQualified : Bool}
    (keyless : ∀ key, key ∉ keys) :
    silences directive keys allowQualified = true ↔ directive = wildcard := by
  rw [silences_iff_addresses]
  refine ⟨?_, Or.inl⟩
  rintro (hall | ⟨key, hmem, -⟩)
  · exact hall
  · exact absurd hmem (keyless key)

/-- More keys and a wider licence silence at least as much. -/
theorem silences_mono {directive : String} {keys more : KeySet} {allow licence : Bool}
    (hkeys : ∀ key ∈ keys, key ∈ more) (hallow : allow = true → licence = true)
    (h : silences directive keys allow = true) : silences directive more licence = true := by
  rw [silences_iff_addresses] at h ⊢
  rcases h with hall | ⟨key, hmem, heq | ⟨hqualified, hkey⟩⟩
  · exact Or.inl hall
  · exact Or.inr ⟨key, hkeys key hmem, Or.inl heq⟩
  · exact Or.inr ⟨key, hkeys key hmem, Or.inr ⟨hallow hqualified, hkey⟩⟩

/-! ## Qualified directives -/

/-- A directive with a qualifier is not the wildcard. -/
theorem qualified_ne_wildcard {qualifier key : String} :
    qualifier ++ String.singleton separator ++ key ≠ wildcard := by
  intro h
  have hmem : separator ∈ (qualifier ++ String.singleton separator ++ key).toList := by simp
  rw [h] at hmem
  exact absurd hmem (by decide)

/-- A directive with a qualifier silences as a key that is spelled like it, or by what stands behind
the qualifier. -/
theorem silences_qualified_iff {qualifier key : String} {keys : KeySet} {allowQualified : Bool}
    (hfree : separator ∉ qualifier.toList) :
    silences (qualifier ++ String.singleton separator ++ key) keys allowQualified = true ↔
      qualifier ++ String.singleton separator ++ key ∈ keys ∨
        (allowQualified = true ∧ key ∈ keys) := by
  have hkey : qualifiedKey (qualifier ++ String.singleton separator ++ key) = some key :=
    qualifiedKey_eq_some_iff.2 ⟨qualifier, hfree, rfl⟩
  rw [silences_iff, hkey]
  constructor
  · rintro (hall | hexact | ⟨hallow, other, hother, hmem⟩)
    · exact absurd hall qualified_ne_wildcard
    · exact Or.inl hexact
    · rw [Option.some.inj hother]
      exact Or.inr ⟨hallow, hmem⟩
  · rintro (hexact | ⟨hallow, hmem⟩)
    · exact Or.inr (Or.inl hexact)
    · exact Or.inr (Or.inr ⟨hallow, key, rfl, hmem⟩)

/-! ## Splitting at the first separator -/

/-- A directive splits into a qualifier without a separator, a separator, and a key. -/
def SplitsAs (directive qualifier key : String) : Prop :=
  separator ∉ qualifier.toList ∧ directive = qualifier ++ String.singleton separator ++ key

/-- A text with a separator goes on after its first one. -/
theorem exists_afterSeparator {text : List Char} (h : separator ∈ text) :
    ∃ key, afterSeparator text = some key := by
  induction text with
  | nil => exact absurd h List.not_mem_nil
  | cons c rest ih =>
    unfold afterSeparator
    split
    · exact ⟨rest, rfl⟩
    · next hc =>
      apply ih
      rcases List.mem_cons.1 h with heq | hrest
      · exact absurd heq.symm hc
      · exact hrest

/-- **A directive splits if it has a separator**, and only then. -/
theorem exists_splitsAs_iff {directive : String} :
    (∃ qualifier key, SplitsAs directive qualifier key) ↔ separator ∈ directive.toList := by
  constructor
  · rintro ⟨qualifier, key, -, rfl⟩
    simp
  · intro h
    obtain ⟨key, hkey⟩ := exists_afterSeparator h
    have hqualified : qualifiedKey directive = some (String.ofList key) := by
      rw [qualifiedKey, hkey]
      rfl
    obtain ⟨qualifier, hsplits⟩ := qualifiedKey_eq_some_iff.1 hqualified
    exact ⟨qualifier, String.ofList key, hsplits⟩

/-- **A directive splits in one way.** -/
theorem SplitsAs.unique {directive qualifier other key rest : String}
    (h : SplitsAs directive qualifier key) (h' : SplitsAs directive other rest) :
    qualifier = other ∧ key = rest := by
  have hkey : qualifiedKey directive = some key := qualifiedKey_eq_some_iff.2 ⟨qualifier, h⟩
  have hrest : qualifiedKey directive = some rest := qualifiedKey_eq_some_iff.2 ⟨other, h'⟩
  rw [hkey] at hrest
  obtain rfl := Option.some.inj hrest
  -- with the same key behind them, the qualifiers are what is left of the directive
  have heq := congrArg String.toList (h.2.symm.trans h'.2)
  simp only [String.toList_append] at heq
  refine ⟨String.toList_injective ?_, rfl⟩
  exact List.append_cancel_right (List.append_cancel_right heq)

/-- **What a directive silences.** It silences a checker that answers to certain keys exactly if it
is the wildcard, or one of the keys, or qualified keys are allowed and it splits into a qualifier
and one of the keys. It splits exactly if it has a separator, and then in one way. So a key is
addressed behind every qualifier, whatever separators the key has; and if neither the directive nor
what it splits off is a key, the directive does not silence, whatever comes after a
later separator. -/
theorem silences_iff_split (directive : String) (keys : KeySet) (allowQualified : Bool) :
    (silences directive keys allowQualified = true ↔
      directive = wildcard ∨ directive ∈ keys ∨ (allowQualified = true ∧
        ∃ qualifier key, SplitsAs directive qualifier key ∧ key ∈ keys)) ∧
    (separator ∈ directive.toList ↔
      ∃! parts : String × String, SplitsAs directive parts.1 parts.2) ∧
    (∀ qualifier key : String, separator ∉ qualifier.toList → key ∈ keys →
      silences (qualifier ++ String.singleton separator ++ key) keys true = true) ∧
    ∀ qualifier rest, SplitsAs directive qualifier rest → directive ∉ keys → rest ∉ keys →
      silences directive keys allowQualified = false := by
  refine ⟨?_, ?_, ?_, ?_⟩
  · rw [silences_iff]
    refine or_congr Iff.rfl (or_congr Iff.rfl (and_congr_right fun _ => ?_))
    constructor
    · rintro ⟨key, hkey, hmem⟩
      obtain ⟨qualifier, hsplits⟩ := qualifiedKey_eq_some_iff.1 hkey
      exact ⟨qualifier, key, hsplits, hmem⟩
    · rintro ⟨qualifier, key, hsplits, hmem⟩
      exact ⟨key, qualifiedKey_eq_some_iff.2 ⟨qualifier, hsplits⟩, hmem⟩
  · rw [← exists_splitsAs_iff]
    constructor
    · rintro ⟨qualifier, key, hsplits⟩
      refine ⟨(qualifier, key), hsplits, ?_⟩
      rintro ⟨other, rest⟩ hother
      obtain ⟨rfl, rfl⟩ := hsplits.unique hother
      rfl
    · rintro ⟨⟨qualifier, key⟩, hsplits, -⟩
      exact ⟨qualifier, key, hsplits⟩
  · intro qualifier key hfree hmem
    rw [silences_qualified_iff hfree]
    exact Or.inr ⟨rfl, hmem⟩
  · rintro qualifier rest ⟨hfree, rfl⟩ hdirective hrest
    rw [← Bool.not_eq_true, silences_qualified_iff hfree]
    rintro (hexact | ⟨-, hmem⟩)
    · exact hdirective hexact
    · exact hrest hmem

/-- Keys of which one has a separator, one is empty and one is the wildcard. -/
def oddKeys : KeySet := KeySet.ofList ["a:b", "b", "", wildcard]

/-- Behind the first separator every key is addressed, whatever it is made of; a key that comes only
after the second separator is not. -/
theorem silences_oddKeys :
    (separator ∉ "q".toList ∧ "a:b" ∈ oddKeys ∧ silences "q:a:b" oddKeys true = true) ∧
    (separator ∉ "".toList ∧ "" ∈ oddKeys ∧ silences ":" oddKeys true = true) ∧
    SplitsAs "q:x:b" "q" "x:b" ∧ "q:x:b" ∉ oddKeys ∧ "x:b" ∉ oddKeys ∧ "b" ∈ oddKeys ∧
      silences "q:x:b" oddKeys true = false := by
  have hsplits : SplitsAs "q:x:b" "q" "x:b" := ⟨by decide, by decide⟩
  have hdirective : "q:x:b" ∉ oddKeys := by decide
  have hrest : "x:b" ∉ oddKeys := by decide
  obtain ⟨-, -, hsilences, -⟩ := silences_iff_split "q:a:b" oddKeys true
  obtain ⟨-, -, -, hspares⟩ := silences_iff_split "q:x:b" oddKeys true
  exact ⟨⟨by decide, by decide, hsilences "q" "a:b" (by decide) (by decide)⟩,
    ⟨by decide, by decide, hsilences "" "" (by decide) (by decide)⟩, hsplits, hdirective, hrest,
    by decide, hspares "q" "x:b" hsplits hdirective hrest⟩

end Suppression.Directive
