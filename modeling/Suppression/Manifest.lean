import Suppression.Engine
import Suppression.Form.Checker
import Suppression.Form.Config
/-!
# Manifests

A manifest is a JSON document with the checkers a host runs and, optionally, settings. An engine can
be made from one, also straight from a file. A failure on the way keeps the context in which it
arose, outermost first: a text that cannot be read as a manifest, a file that holds such a text, a
file that cannot be read. Checkers that contradict each other are reported as they are, without
context.
-/

namespace Suppression

/-- The checkers of a host and its settings. -/
structure Manifest where
  /-- The checkers, in order. -/
  checkers : List Checker := []
  /-- The settings. -/
  config : Config := {}
deriving DecidableEq, Inhabited

namespace Manifest

/-- A manifest as a record. Both fields may be left out. -/
def record : Record Manifest where
  name := "CheckerManifest"
  start := {}
  fields := [
    .defaulted "checkers" (.list Checker.form) (·.checkers)
      (fun checkers manifest => { manifest with checkers }),
    .defaulted "matcher" Config.form (·.config) (fun config manifest => { manifest with config })]

/-- The form of a manifest. -/
def form : Form Manifest := record.form

/-- The registry of the checkers of a manifest. -/
def registry (manifest : Manifest) : Logged Failure Registry :=
  Registry.ofCheckers manifest.checkers

/-- The engine of a manifest. -/
def engine (manifest : Manifest) : Logged Failure Engine := do
  return { registry := ← manifest.registry, config := manifest.config }

end Manifest

/-! ## Manifests from text and files -/

/-- What is found where a file is looked for. -/
inductive FileState where
  /-- There is nothing. -/
  | missing
  /-- There is a directory. -/
  | directory
  /-- There is a file. -/
  | file (content : ByteArray)

/-- Why the text of a file cannot be had. -/
inductive FileError where
  /-- There is no file. -/
  | notFound
  /-- There is a directory in its place. -/
  | isDirectory
  /-- The content is not text in UTF-8. -/
  | invalidText
deriving DecidableEq

/-- The text of a file. -/
def FileState.text : FileState → Except FileError String
  | missing => .error .notFound
  | directory => .error .isDirectory
  | file content =>
    match String.fromUTF8? content with
    | some text => .ok text
    | none => .error .invalidText

/-- What went wrong with a manifest in the end. -/
inductive ManifestCause where
  /-- The file. -/
  | file (cause : FileError)
  /-- The text. -/
  | text (cause : ReadError)
  /-- The checkers. -/
  | checkers (cause : Failure)
deriving DecidableEq

/-- In the course of what it went wrong. -/
inductive ManifestContext where
  /-- The text of a manifest was to be read as JSON. -/
  | parsing
  /-- The text of this file was to be taken as a manifest. -/
  | interpreting (path : String)
  /-- This file was to be read. -/
  | reading (path : String)
deriving DecidableEq

/-- The wording of a context. -/
def ManifestContext.text : ManifestContext → String
  | parsing => "Failed to parse checker manifest"
  | interpreting path => "Invalid checker manifest: " ++ path
  | reading path => "Failed to read checker manifest: " ++ path

/-- Why there is no manifest or no engine. -/
structure ManifestError where
  /-- What was going on, the widest context first. -/
  context : List ManifestContext
  /-- What went wrong. -/
  cause : ManifestCause
deriving DecidableEq

namespace Manifest

/-- The manifest of a text. -/
def ofText (text : String) : Except ManifestError Manifest :=
  (form.ofText text).mapError fun cause => ⟨[.parsing], .text cause⟩

/-- The manifest of the text of a file. -/
def ofFileText (path text : String) : Except ManifestError Manifest :=
  (ofText text).mapError fun error => { error with context := .interpreting path :: error.context }

/-- The manifest in a file. Its checkers are counted in a record and not judged. -/
def load (path : String) (state : FileState) : Logged ManifestError Manifest :=
  match state.text with
  | .error cause => ⟨.error ⟨[.reading path], .file cause⟩, []⟩
  | .ok text =>
    match ofFileText path text with
    | .error error => ⟨.error error, []⟩
    | .ok manifest => ⟨.ok manifest, [.loaded manifest.checkers.length path]⟩

end Manifest

/-- The engine of the manifest in a file. -/
def Engine.ofManifestFile (path : String) (state : FileState) : Logged ManifestError Engine := do
  let manifest ← Manifest.load path state
  manifest.engine.mapError fun cause => ⟨[], .checkers cause⟩

end Suppression
