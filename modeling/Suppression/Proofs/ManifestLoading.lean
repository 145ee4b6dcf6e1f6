import Suppression.Manifest
import Suppression.Proofs.Outcomes
/-!
# Manifests from files

Three things can go wrong on the way from a file to an engine, one after the other: the file has no
text, the text is no manifest, the checkers of the manifest contradict each other. The first two are
failures of loading the manifest, each with the contexts in which it arose
(`Manifest.load_outcome_eq_error_iff`); the third is none, for the checkers are judged only when an
engine is to be made. An engine from a file fails as loading does or, without context, as the
registry of the checkers does, and otherwise it is the engine that is made of that registry and the
settings of the manifest (`Engine.ofManifestFile_outcome_iff`).
-/

namespace Suppression

/-! ## The text of a file -/

namespace FileState

variable {state : FileState} {content : ByteArray}

/-- Content that encodes a text gives that text. -/
theorem text_of_utf8 (utf8 : content.IsValidUTF8) :
    (file content).text = .ok (String.fromUTF8 content utf8) := by
  have hdecodes : String.fromUTF8? content = some (String.fromUTF8 content utf8) := dif_pos utf8
  unfold FileState.text
  simp only [hdecodes]

/-- Content that encodes no text gives none. -/
theorem text_of_not_utf8 (h : ¬ content.IsValidUTF8) :
    (file content).text = .error .invalidText := by
  have hfails : String.fromUTF8? content = none := dif_neg h
  unfold FileState.text
  simp only [hfails]

/-- A text is had exactly from a file whose content encodes it. -/
theorem text_eq_ok_iff {text : String} :
    state.text = .ok text ↔
      ∃ content, ∃ utf8 : content.IsValidUTF8,
        state = .file content ∧ String.fromUTF8 content utf8 = text := by
  constructor
  · intro h
    cases state with
    | missing => exact absurd h (by simp [FileState.text])
    | directory => exact absurd h (by simp [FileState.text])
    | file content =>
      by_cases utf8 : content.IsValidUTF8
      · rw [text_of_utf8 utf8] at h
        exact ⟨content, utf8, rfl, Except.ok.inj h⟩
      · rw [text_of_not_utf8 utf8] at h
        exact absurd h (by simp)
  · rintro ⟨content, utf8, rfl, rfl⟩
    exact text_of_utf8 utf8

/-- A text with a property is had exactly from a file whose content encodes one with it. -/
theorem exists_text_iff {p : String → Prop} :
    (∃ text, state.text = .ok text ∧ p text) ↔
      ∃ content, ∃ utf8 : content.IsValidUTF8,
        state = .file content ∧ p (String.fromUTF8 content utf8) := by
  simp only [text_eq_ok_iff]
  constructor
  · rintro ⟨text, ⟨content, utf8, hstate, rfl⟩, h⟩
    exact ⟨content, utf8, hstate, h⟩
  · rintro ⟨content, utf8, hstate, h⟩
    exact ⟨_, ⟨content, utf8, hstate, rfl⟩, h⟩

/-- Why a file has no text. -/
inductive Unreadable : FileState → FileError → Prop
  /-- There is no file. -/
  | missing : Unreadable .missing .notFound
  /-- There is a directory in its place. -/
  | directory : Unreadable .directory .isDirectory
  /-- Its content encodes no text. -/
  | invalid {content : ByteArray} (h : ¬ content.IsValidUTF8) :
      Unreadable (.file content) .invalidText

/-- No text is had from what is unreadable, and from nothing else. -/
theorem text_eq_error_iff {cause : FileError} :
    state.text = .error cause ↔ state.Unreadable cause := by
  constructor
  · intro h
    cases state with
    | missing =>
      rw [← Except.error.inj h]
      exact .missing
    | directory =>
      rw [← Except.error.inj h]
      exact .directory
    | file content =>
      by_cases utf8 : content.IsValidUTF8
      · rw [text_of_utf8 utf8] at h
        exact absurd h (by simp)
      · rw [text_of_not_utf8 utf8] at h
        rw [← Except.error.inj h]
        exact .invalid utf8
  · intro unreadable
    cases unreadable with
    | missing => rfl
    | directory => rfl
    | invalid h => exact text_of_not_utf8 h

end FileState

/-! ## Loading -/

namespace Manifest

variable {path text : String} {state : FileState} {manifest : Manifest} {error : ManifestError}

/-- The text of a file gives a manifest if it can be read as one. -/
theorem ofFileText_eq_ok_iff :
    ofFileText path text = .ok manifest ↔ form.ofText text = .ok manifest := by
  unfold ofFileText ofText
  cases form.ofText text with
  | ok found =>
    show (Except.ok found : Except ManifestError Manifest) = .ok manifest ↔ _
    simp
  | error cause =>
    show (Except.error _ : Except ManifestError Manifest) = .ok manifest ↔ _
    simp

/-- A text that is no manifest is refused in two contexts, of which the file is the wider one. -/
theorem ofFileText_eq_error_iff :
    ofFileText path text = .error error ↔
      ∃ cause, form.ofText text = .error cause ∧
        error = ⟨[.interpreting path, .parsing], .text cause⟩ := by
  unfold ofFileText ofText
  cases form.ofText text with
  | ok found =>
    show (Except.ok found : Except ManifestError Manifest) = .error error ↔ _
    simp
  | error cause =>
    show (Except.error ⟨[.interpreting path, .parsing], .text cause⟩ :
      Except ManifestError Manifest) = .error error ↔ _
    simp [eq_comm]

/-- A manifest is loaded exactly if the file encodes a text that can be read as that manifest. Its
checkers do not matter. -/
theorem load_outcome_eq_ok_iff :
    (load path state).outcome = .ok manifest ↔
      ∃ content, ∃ utf8 : content.IsValidUTF8, state = .file content ∧
        form.ofText (String.fromUTF8 content utf8) = .ok manifest := by
  rw [← FileState.exists_text_iff (p := fun text => form.ofText text = .ok manifest)]
  unfold load
  cases htext : state.text with
  | error cause => simp
  | ok text =>
    simp only [Except.ok.injEq, exists_eq_left']
    rw [← @ofFileText_eq_ok_iff path]
    cases ofFileText path text <;> simp

/-- Loading fails over the file, in one context, or over its text, in two. -/
theorem load_outcome_eq_error_iff :
    (load path state).outcome = .error error ↔
      (∃ cause, state.Unreadable cause ∧ error = ⟨[.reading path], .file cause⟩) ∨
        ∃ content, ∃ utf8 : content.IsValidUTF8, state = .file content ∧
          ∃ cause, form.ofText (String.fromUTF8 content utf8) = .error cause ∧
            error = ⟨[.interpreting path, .parsing], .text cause⟩ := by
  rw [← FileState.exists_text_iff (p := fun text => ∃ cause, form.ofText text = .error cause ∧
    error = ⟨[.interpreting path, .parsing], .text cause⟩)]
  simp only [← FileState.text_eq_error_iff]
  unfold load
  cases htext : state.text with
  | error cause => simp [eq_comm]
  | ok text =>
    simp only [reduceCtorEq, false_and, exists_false, false_or, Except.ok.injEq, exists_eq_left']
    rw [← ofFileText_eq_error_iff]
    cases ofFileText path text <;> simp

/-- A manifest has an engine if its checkers have a registry, and then the engine is that registry
with the settings of the manifest. -/
theorem engine_outcome_eq_ok_iff {engine : Engine} :
    manifest.engine.outcome = .ok engine ↔
      ∃ registry, (Registry.ofCheckers manifest.checkers).outcome = .ok registry ∧
        engine = { registry, config := manifest.config } := by
  unfold Manifest.engine Manifest.registry
  rw [Logged.outcome_bind_eq_ok_iff]
  simp [eq_comm]

/-- A manifest has no engine if its checkers have no registry, for the same reason. -/
theorem engine_outcome_eq_error_iff {cause : Failure} :
    manifest.engine.outcome = .error cause ↔
      (Registry.ofCheckers manifest.checkers).outcome = .error cause := by
  unfold Manifest.engine Manifest.registry
  rw [Logged.outcome_bind_eq_error_iff]
  simp

end Manifest

/-! ## Engines from files -/

namespace Engine

variable {path : String} {state : FileState}

/-- An engine is had from a file if a manifest is, and it is the engine of that manifest. -/
theorem ofManifestFile_outcome_eq_ok_iff {engine : Engine} :
    (ofManifestFile path state).outcome = .ok engine ↔
      ∃ manifest, (Manifest.load path state).outcome = .ok manifest ∧
        manifest.engine.outcome = .ok engine := by
  unfold ofManifestFile
  simp only [Logged.outcome_bind_eq_ok_iff, Logged.outcome_mapError_eq_ok_iff]

/-- There is no engine if there is no manifest, and then for the same reason, or if the checkers of
the manifest contradict each other, and then without any context. -/
theorem ofManifestFile_outcome_eq_error_iff {error : ManifestError} :
    (ofManifestFile path state).outcome = .error error ↔
      (Manifest.load path state).outcome = .error error ∨
        ∃ manifest cause, (Manifest.load path state).outcome = .ok manifest ∧
          (Registry.ofCheckers manifest.checkers).outcome = .error cause ∧
          error = ⟨[], .checkers cause⟩ := by
  unfold ofManifestFile
  rw [Logged.outcome_bind_eq_error_iff]
  refine or_congr Iff.rfl (exists_congr fun manifest => ?_)
  rw [Logged.outcome_mapError_eq_error_iff]
  constructor
  · rintro ⟨hload, cause, hengine, herror⟩
    exact ⟨cause, hload, Manifest.engine_outcome_eq_error_iff.1 hengine, herror.symm⟩
  · rintro ⟨cause, hload, hregistry, herror⟩
    exact ⟨hload, cause, Manifest.engine_outcome_eq_error_iff.2 hregistry, herror.symm⟩

/-- **What comes of a manifest file.** An engine is had exactly if the content of the file encodes a
text, the text can be read as a manifest and the checkers of the manifest have a registry; it is the
engine of that registry and the settings of the manifest, so it answers all that is asked of it as
one does that is made of these directly. The manifest is loaded exactly if the text can be read as
one, whatever its checkers. If it cannot be loaded, there is no engine for the same reason, told in
the same contexts: one for a file without text, two for a text that is no manifest. If it is loaded
and its checkers have no registry, that failure is told as it is, in no context. -/
theorem ofManifestFile_outcome_iff (path : String) (state : FileState) :
    (∀ engine, (ofManifestFile path state).outcome = .ok engine ↔
      ∃ content, ∃ utf8 : content.IsValidUTF8, ∃ manifest registry, state = .file content ∧
        Manifest.form.ofText (String.fromUTF8 content utf8) = .ok manifest ∧
        (Registry.ofCheckers manifest.checkers).outcome = .ok registry ∧
        engine = { registry, config := manifest.config }) ∧
    (∀ error, (ofManifestFile path state).outcome = .error error ↔
      (Manifest.load path state).outcome = .error error ∨
        ∃ manifest cause, (Manifest.load path state).outcome = .ok manifest ∧
          (Registry.ofCheckers manifest.checkers).outcome = .error cause ∧
          error = ⟨[], .checkers cause⟩) ∧
    (∀ manifest, (Manifest.load path state).outcome = .ok manifest ↔
      ∃ content, ∃ utf8 : content.IsValidUTF8, state = .file content ∧
        Manifest.form.ofText (String.fromUTF8 content utf8) = .ok manifest) ∧
    (∀ error, (Manifest.load path state).outcome = .error error ↔
      (∃ cause, state.Unreadable cause ∧ error = ⟨[.reading path], .file cause⟩ ∧
        error.context.map (·.text) = ["Failed to read checker manifest: " ++ path]) ∨
      ∃ content, ∃ utf8 : content.IsValidUTF8, state = .file content ∧
        ∃ cause, Manifest.form.ofText (String.fromUTF8 content utf8) = .error cause ∧
          error = ⟨[.interpreting path, .parsing], .text cause⟩ ∧
          error.context.map (·.text) =
            ["Invalid checker manifest: " ++ path, "Failed to parse checker manifest"]) := by
  refine ⟨?_, fun error => ofManifestFile_outcome_eq_error_iff,
    fun manifest => Manifest.load_outcome_eq_ok_iff, ?_⟩
  · intro engine
    simp only [ofManifestFile_outcome_eq_ok_iff, Manifest.load_outcome_eq_ok_iff,
      Manifest.engine_outcome_eq_ok_iff]
    constructor
    · rintro ⟨manifest, ⟨content, utf8, hstate, hmanifest⟩, registry, hregistry, hengine⟩
      exact ⟨content, utf8, manifest, registry, hstate, hmanifest, hregistry, hengine⟩
    · rintro ⟨content, utf8, manifest, registry, hstate, hmanifest, hregistry, hengine⟩
      exact ⟨manifest, ⟨content, utf8, hstate, hmanifest⟩, registry, hregistry, hengine⟩
  · intro error
    rw [Manifest.load_outcome_eq_error_iff]
    -- the contexts are told by the failure, so their wording is too
    have hwording : ∀ {told : ManifestError}, error = told →
        error.context.map (·.text) = told.context.map (·.text) := by
      rintro told rfl
      rfl
    constructor
    · rintro (⟨cause, hcause, herror⟩ | ⟨content, utf8, hstate, cause, hcause, herror⟩)
      · exact .inl ⟨cause, hcause, herror, hwording herror⟩
      · exact .inr ⟨content, utf8, hstate, cause, hcause, herror, hwording herror⟩
    · rintro (⟨cause, hcause, herror, -⟩ | ⟨content, utf8, hstate, cause, hcause, herror, -⟩)
      · exact .inl ⟨cause, hcause, herror⟩
      · exact .inr ⟨content, utf8, hstate, cause, hcause, herror⟩

/-- A file with a checker that declares the wildcard. -/
def reservingFile : FileState :=
  .file "\x7b\"checkers\":[\x7b\"id\":\"a\",\"keys\":[\"all\"]\x7d]\x7d".toUTF8

/-- Its manifest is loaded all the same, and only the engine is refused. -/
example : (Manifest.load "m.json" reservingFile).outcome =
      .ok { checkers := [{ id := "a", keys := [wildcard] }] } ∧
    (ofManifestFile "m.json" reservingFile).outcome =
      .error ⟨[], .checkers (.conflict (.reservedWildcard "a"))⟩ :=
  ⟨rfl, rfl⟩

end Engine

end Suppression
