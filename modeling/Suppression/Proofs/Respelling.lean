import Mathlib.Data.List.Permutation
import Suppression.Proofs.Json.Arrangements
import Suppression.Proofs.RoundTrip
/-!
# Manifests spelled in other ways

The objects of a manifest may hold their fields in any order. A field with its usual value may be
left out, the parent of a checker that has none may be given as null, and fields of other names may
be added, with any values (`Manifest.Spells`). All of these are read as the same manifest
(`Manifest.ofText_of_spells`).
-/

namespace Suppression

/-- The object with the fields of another one, in any order. -/
def Json.Reorders (json written : Json) : Prop :=
  ∃ pairs others, json = .object pairs ∧ written = .object others ∧ pairs.Perm others

/-! ## Kinds -/

namespace CheckerKind

/-- The kind is spelled by the object that is written for it, with its fields in any order. -/
def Spells (kind : CheckerKind) (json : Json) : Prop := json.Reorders (form.write kind)

/-- What is written for a kind spells it. -/
theorem spells_write (kind : CheckerKind) : kind.Spells (form.write kind) := by
  cases kind <;> exact ⟨_, _, rfl, rfl, List.Perm.refl _⟩

/-- What spells a kind is taken for it, also if the members come before the tag. -/
theorem takes_of_spells {kind : CheckerKind} {json : Json} (spells : kind.Spells json) :
    form.Takes 2 json kind := by
  obtain ⟨pairs, others, rfl, hwritten, hperm⟩ := spells
  have hrestores := restores_form kind
  rw [Form.Restores, hwritten] at hrestores
  cases kind with
  | standalone =>
    obtain rfl : [(tagField, .string standaloneName)] = others := Json.object.inj hwritten
    rw [List.perm_singleton.1 hperm]
    exact hrestores
  | composite members =>
    obtain rfl : [(tagField, .string compositeName), (membersField, .array (members.map .string))] =
      others := Json.object.inj hwritten
    rcases List.perm_pair.1 hperm with rfl | rfl
    · exact hrestores
    · -- the members come first and are kept until the tag is known
      refine takes_object .composite _ (fun levels hlevels => ?_) (ofFields_composite members)
      obtain ⟨inner, rfl⟩ : ∃ inner, levels = inner + 1 := ⟨levels - 1, by omega⟩
      refine .field (fun rest hrest => readField_content (by decide)
        (Json.read_takes_strings inner members) _ hrest) ?_
      exact .field (fun rest hrest => readField_tag rfl _ hrest) (.done _)

end CheckerKind

/-! ## Checkers -/

namespace Checker

/-- The parts of the object of a checker. -/
def parts (checker : Checker) : List Part := [
  ⟨"id", (· = Form.string.write checker.id), False⟩,
  ⟨"parent", (· = Form.string.option.write checker.parent), checker.parent = none⟩,
  ⟨"keys", (· = (Form.list Form.string).write checker.keys), checker.keys = []⟩,
  ⟨"kind", checker.kind.Spells, checker.kind = .standalone⟩]

/-- The checker is spelled by an object that has its parts. -/
def Spells (checker : Checker) (json : Json) : Prop :=
  ∃ pairs, json = .object pairs ∧ Part.Arranged checker.parts pairs

/-- What is written for a checker spells it. -/
theorem spells_write (checker : Checker) : checker.Spells (form.write checker) := by
  obtain ⟨id, parent, keys, kind⟩ := checker
  refine ⟨_, rfl, Part.Chosen.arranged ?_⟩
  cases parent with
  | none =>
    exact .given rfl <| .omitted rfl <| .given rfl <| .given kind.spells_write .nil
  | some parent =>
    exact .given rfl <| .given rfl <| .given rfl <| .given kind.spells_write .nil

/-- The changes that the parts make. -/
def changes (checker : Checker) : List (Checker → Checker) := [
  fun found => { found with id := checker.id },
  fun found => { found with parent := checker.parent },
  fun found => { found with keys := checker.keys },
  fun found => { found with kind := checker.kind }]

/-- What spells a checker is taken for it. -/
theorem takes_of_spells {checker : Checker} {json : Json} (spells : checker.Spells json) :
    form.Takes 3 json checker := by
  obtain ⟨pairs, rfl, arranged⟩ := spells
  have hid := (Form.restores_string checker.id).takes_of_eq
  have hparent := (Form.restores_option Form.restores_string nofun checker.parent).takes_of_eq
  have hkeys := (Form.restores_strings checker.keys).takes_of_eq
  have hkind : ∀ json, checker.kind.Spells json → CheckerKind.form.Takes 2 json checker.kind :=
    fun json => CheckerKind.takes_of_spells
  have hfilled : record.Filled 2 record.fields checker.parts checker.changes := by
    refine .cons (.of_store hid (by decide) False.elim)
      <| .cons (.of_store hparent (by decide) fun h => ⟨rfl, ?_⟩)
      <| .cons (.of_store hkeys (by decide) fun h => ⟨rfl, ?_⟩)
      <| .cons (.of_store hkind (by decide) fun h => ⟨rfl, ?_⟩) .nil
    · rw [h]
      rfl
    · rw [h]
      rfl
    · rw [h]
      rfl
  refine hfilled.takes_arranged (by decide) ?_ ?_ arranged
  · simp [changes]
  · rfl

end Checker

/-! ## Settings -/

namespace Config

/-- The parts of the object of settings. -/
def parts (config : Config) : List Part := [
  ⟨"global_suppressions", (· = (Form.list Form.string).write config.globalSuppressions),
    config.globalSuppressions = []⟩,
  ⟨"allow_qualified_keys", (· = Form.bool.write config.allowQualifiedKeys),
    config.allowQualifiedKeys = true⟩,
  ⟨"parallel_threshold", (· = Form.word64.write config.parallelThreshold),
    config.parallelThreshold = 256⟩]

/-- The settings are spelled by an object that has their parts. -/
def Spells (config : Config) (json : Json) : Prop :=
  ∃ pairs, json = .object pairs ∧ Part.Arranged config.parts pairs

/-- What is written for settings spells them. -/
theorem spells_write (config : Config) : config.Spells (form.write config) :=
  ⟨_, rfl, Part.Chosen.arranged <| .given rfl <| .given rfl <| .given rfl .nil⟩

/-- The changes that the parts make. -/
def changes (config : Config) : List (Config → Config) := [
  fun found => { found with globalSuppressions := config.globalSuppressions },
  fun found => { found with allowQualifiedKeys := config.allowQualifiedKeys },
  fun found => { found with parallelThreshold := config.parallelThreshold }]

/-- What spells settings is taken for them. -/
theorem takes_of_spells {config : Config} {json : Json} (spells : config.Spells json) :
    form.Takes 2 json config := by
  obtain ⟨pairs, rfl, arranged⟩ := spells
  have hglobal := (Form.restores_strings config.globalSuppressions).takes_of_eq
  have hqualified := (Form.restores_bool config.allowQualifiedKeys).takes_of_eq
  have hthreshold := (Form.restores_word64 config.parallelThreshold).takes_of_eq
  have hfilled : record.Filled 1 record.fields config.parts config.changes := by
    refine .cons (.of_store hglobal (by decide) fun h => ⟨rfl, ?_⟩)
      <| .cons (.of_store hqualified (by decide) fun h => ⟨rfl, ?_⟩)
      <| .cons (.of_store hthreshold (by decide) fun h => ⟨rfl, ?_⟩) .nil
    · rw [h]
      rfl
    · rw [h]
      rfl
    · rw [h]
      rfl
  refine hfilled.takes_arranged (by decide) ?_ rfl arranged
  simp [changes]

end Config

/-! ## Manifests -/

namespace Manifest

/-- The parts of the object of a manifest. -/
def parts (manifest : Manifest) : List Part := [
  ⟨"checkers", fun json => ∃ items, json = .array items ∧
      List.Forall₂ (fun item checker => checker.Spells item) items manifest.checkers,
    manifest.checkers = []⟩,
  ⟨"matcher", manifest.config.Spells, manifest.config = {}⟩]

/-- The manifest is spelled by an object that has its parts. -/
def Spells (manifest : Manifest) (json : Json) : Prop :=
  ∃ pairs, json = .object pairs ∧ Part.Arranged manifest.parts pairs

/-- What is written for a manifest spells it. -/
theorem spells_write (manifest : Manifest) : manifest.Spells (form.write manifest) := by
  refine ⟨_, rfl, Part.Chosen.arranged <| .given ⟨_, rfl, ?_⟩ <|
    .given manifest.config.spells_write .nil⟩
  rw [List.forall₂_map_left_iff, List.forall₂_same]
  intro checker _
  exact checker.spells_write

/-- The changes that the parts make. -/
def changes (manifest : Manifest) : List (Manifest → Manifest) := [
  fun found => { found with checkers := manifest.checkers },
  fun found => { found with config := manifest.config }]

/-- What spells a manifest is taken for it. -/
theorem takes_of_spells {manifest : Manifest} {json : Json} (spells : manifest.Spells json) :
    form.Takes 5 json manifest := by
  obtain ⟨pairs, rfl, arranged⟩ := spells
  have hcheckers : ∀ json, (∃ items, json = .array items ∧
      List.Forall₂ (fun item checker => checker.Spells item) items manifest.checkers) →
      (Form.list Checker.form).Takes 4 json manifest.checkers := by
    rintro json ⟨items, rfl, hitems⟩
    exact Form.Takes.list (hitems.imp fun _ _ => Checker.takes_of_spells)
  have hconfig : ∀ json, manifest.config.Spells json → Config.form.Takes 2 json manifest.config :=
    fun _ => Config.takes_of_spells
  have hfilled : record.Filled 4 record.fields manifest.parts manifest.changes := by
    refine .cons (.of_store hcheckers (by decide) fun h => ⟨rfl, ?_⟩)
      <| .cons (.of_store hconfig (by decide) fun h => ⟨rfl, ?_⟩) .nil
    · rw [h]
      rfl
    · rw [h]
      rfl
  refine hfilled.takes_arranged (by decide) ?_ rfl arranged
  simp [changes]

/-- **However a manifest is spelled, it is read as that manifest.** What is written for it is one
way to spell it; in the others the fields of any of its objects stand in another order, fields with
their usual values are left out, a missing parent is given as null, and fields of other names, with
any values, are added to the manifest, to its checkers and to its settings. -/
theorem ofText_of_spells (manifest : Manifest) : manifest.Spells (form.write manifest) ∧
    ∀ json, manifest.Spells json → ofText json.toText = .ok manifest := by
  refine ⟨manifest.spells_write, ?_⟩
  intro json spells
  have hread : form.ofText json.toText = .ok manifest :=
    (takes_of_spells spells).ofText (by decide)
  rw [ofText, hread]
  rfl

/-- A composite, and one setting that is not the usual one. -/
def packed : Manifest where
  checkers := [Checker.composed "pack" ["x"]]
  config := { allowQualifiedKeys := false }

/-- The same from back to front, without what need not be said and with more than is known. -/
def packedBackwards : Json := .object [
  ("note", .array [.array [.object []], .number (.decimal ⟨false, 1, 400⟩)]),
  ("matcher", .object [("unit", .null), ("allow_qualified_keys", .bool false)]),
  ("checkers", .array [.object [("type", .natural 1), ("kind", .object [
    ("members", .array [.string "x"]), ("type", .string "composite")]), ("parent", .null),
    ("id", .string "pack")]])]

/-- The manifest is read from the text that goes from back to front. -/
theorem packedBackwards_read : packed.Spells packedBackwards ∧
    packedBackwards.toText = "\x7b\"note\":[[\x7b\x7d],1e+400]," ++
      "\"matcher\":\x7b\"unit\":null,\"allow_qualified_keys\":false\x7d," ++
      "\"checkers\":[\x7b\"type\":1," ++
      "\"kind\":\x7b\"members\":[\"x\"],\"type\":\"composite\"\x7d," ++
      "\"parent\":null,\"id\":\"pack\"\x7d]\x7d" ∧
    ofText packedBackwards.toText = .ok packed := by
  have hconfig : packed.config.Spells
      (.object [("unit", .null), ("allow_qualified_keys", .bool false)]) :=
    ⟨_, rfl, [("allow_qualified_keys", .bool false)], [("unit", .null)],
      .omitted rfl <| .given rfl <| .omitted rfl .nil, by decide, List.reverse_perm [_, _]⟩
  have hkind : CheckerKind.Spells (.composite ["x"])
      (.object [("members", .array [.string "x"]), ("type", .string "composite")]) :=
    ⟨_, _, rfl, rfl, List.reverse_perm [_, _]⟩
  have hpack : (Checker.composed "pack" ["x"]).Spells (.object [("type", .natural 1),
      ("kind", .object [("members", .array [.string "x"]), ("type", .string "composite")]),
      ("parent", .null), ("id", .string "pack")]) :=
    ⟨_, rfl, [("id", .string "pack"), ("parent", .null), ("kind", _)], [("type", .natural 1)],
      .given rfl <| .given rfl <| .omitted rfl <| .given hkind .nil, by decide,
      List.reverse_perm [_, _, _, _]⟩
  have hspells : packed.Spells packedBackwards :=
    ⟨_, rfl, [("checkers", _), ("matcher", _)], [("note", _)],
      .given ⟨_, rfl, .cons hpack .nil⟩ <| .given hconfig .nil, by decide,
      List.reverse_perm [_, _, _]⟩
  exact ⟨hspells, by decide +kernel, (ofText_of_spells packed).2 packedBackwards hspells⟩

end Manifest

end Suppression
