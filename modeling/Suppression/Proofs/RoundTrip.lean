import Suppression.Form.Diagnostic
import Suppression.Form.Match
import Suppression.Manifest
import Suppression.Proofs.ArenaAdmission
import Suppression.Proofs.Json.Records
/-!
# Values survive being written and read

Each type that has a form reads back what it writes, down to the same value. For an arena this holds
if it was built by adding or let in by reading, and has no more elements than there are numbers:
only then are its elements at the places that reading asks for.
-/

namespace Suppression

/-! ## Checkers and key sets -/

namespace KeySet

/-- A key set is restored from the list of its keys. -/
theorem restores_form (keys : KeySet) : form.Restores 1 keys :=
  (Form.restores_strings keys.toList).through (congrArg Except.ok (ofList_toList keys))

end KeySet

namespace CheckerKind

/-- The tag is worked in where there is none yet. -/
theorem readField_tag {levels : Nat} {name : String} {tag : Tag}
    (h : tags.find? (·.name == name) = some (.plain name tag)) (content : List (String × Json))
    {rest : List Char} (hrest : Reader.Ends rest) :
    readField levels tagField (none, content) (':' :: (Json.string name).render ++ rest) =
      .ok ((some tag, content), rest) := by
  have htag := Reader.afterColon_render (Variant.readAlone_takes h) hrest
  simp only [readField, readTag, if_true, htag, bind, Except.bind, pure, Except.pure]

/-- Every other field is kept as it is. -/
theorem readField_content {levels : Nat} {name : String} {json kept : Json}
    (hname : name ≠ tagField) (h : (Json.read levels).Takes json kept)
    (state : Option Tag × List (String × Json)) {rest : List Char} (hrest : Reader.Ends rest) :
    readField levels name state (':' :: json.render ++ rest) =
      .ok ((state.1, state.2 ++ [(name, kept)]), rest) := by
  have hcontent := Reader.afterColon_render h hrest
  simp only [readField, if_neg hname, hcontent, bind, Except.bind, pure, Except.pure]

/-- An object whose fields give a tag and content that fits it is read as their kind. -/
theorem takes_object (tag : Tag) (content : List (String × Json)) {depth : Nat}
    {pairs : List (String × Json)} {kind : CheckerKind}
    (hworks : ∀ levels, depth ≤ levels →
      Reader.Works (readField levels) pairs (none, []) (some tag, content))
    (hkind : ofFields tag content = .ok kind) : form.Takes (depth + 1) (.object pairs) kind := by
  intro levels hlevels rest _
  have hobject : Reader.deeper levels readObject (Json.afterBrace pairs ++ rest) =
      .ok (kind, rest) := by
    refine Reader.deeper_eq ?_ hlevels
    intro inner hinner
    have hfields := Reader.fields_afterBrace (hworks inner hinner) rest
    simp only [readObject, hfields, bind, Except.bind, hkind, judged]
  simp only [form, Reader.token_object, bind, Except.bind, hobject]

/-- Names of members are taken for members. -/
theorem membersOfJson_strings (members : List CheckerId) :
    membersOfJson (.array (members.map .string)) = .ok members := by
  rw [membersOfJson]
  induction members with
  | nil => rfl
  | cons id members ih =>
    rw [List.map_cons, List.mapM_cons, ih]
    rfl

/-- Content that holds the members makes a composite. -/
theorem ofFields_composite (members : List CheckerId) :
    ofFields .composite [(membersField, .array (members.map .string))] =
      .ok (.composite members) := by
  simp only [ofFields, membersOfFields, if_true, membersOfJson_strings, bind, Except.bind,
    Except.map]

/-- Every kind is restored: a standalone one from its tag alone, a composite from its tag and its
members. -/
theorem restores_form (kind : CheckerKind) : form.Restores 2 kind := by
  cases kind with
  | standalone =>
    refine takes_object .standalone [] (fun levels _ => ?_) rfl
    exact .field (fun rest hrest => readField_tag rfl [] hrest) (.done _)
  | composite members =>
    refine takes_object .composite _ (fun levels hlevels => ?_) (ofFields_composite members)
    obtain ⟨inner, rfl⟩ : ∃ inner, levels = inner + 1 := ⟨levels - 1, by omega⟩
    refine .field (fun rest hrest => readField_tag rfl [] hrest) ?_
    exact .field (fun rest hrest => readField_content (by decide)
      (Json.read_takes_strings inner members) _ hrest) (.done _)

end CheckerKind

namespace Checker

/-- Every checker is restored. -/
theorem restores_form (checker : Checker) : form.Restores 3 checker := by
  apply Record.restores_form (by decide)
  · exact .cons (Field.restores_needed "id" (Form.restores_string _) (by decide))
      <| .cons (Field.restores_optional "parent" Form.restores_string nofun (by decide))
      <| .cons (Field.restores_defaulted "keys" (Form.restores_strings _) (by decide))
      <| .cons (Field.restores_defaulted "kind" (CheckerKind.restores_form _) (by decide)) .nil
  · obtain ⟨id, parent, keys, kind⟩ := checker
    cases parent <;> rfl

end Checker

/-! ## Elements and arenas -/

namespace ElementKind

/-- Every kind is restored from its name. -/
theorem restores_form (kind : ElementKind) : form.Restores 0 kind := by
  intro levels _
  apply Variant.takes_plain
  cases kind <;> rfl

end ElementKind

namespace Element

/-- Every element is restored. -/
theorem restores_form (element : Element) : form.Restores 2 element := by
  apply Record.restores_form (by decide)
  · exact .cons (Field.restores_needed "id" (Form.restores_word32 _) (by decide))
      <| .cons (Field.restores_needed "kind" (ElementKind.restores_form _) (by decide))
      <| .cons (Field.restores_needed "name" (Form.restores_string _) (by decide))
      <| .cons (Field.restores_optional "enclosing" Form.restores_word32 nofun (by decide))
      <| .cons (Field.restores_defaulted "suppressions" (Form.restores_strings _) (by decide)) .nil
  · obtain ⟨id, kind, name, enclosing, suppressions⟩ := element
    cases enclosing <;> rfl

end Element

namespace Arena

/-- An arena is restored if its elements are let in again. -/
theorem restores_form {arena : Arena} (h : ofElements arena.toElements = .ok arena) :
    form.Restores 3 arena :=
  Form.Takes.through (Form.restores_list fun element _ => element.restores_form)
    (by rw [h]; rfl)

end Arena

/-! ## Diagnostics, settings and matches -/

namespace Diagnostic

/-- Every diagnostic is restored. -/
theorem restores_form (diagnostic : Diagnostic) : form.Restores 1 diagnostic := by
  apply Record.restores_form (by decide)
  · exact .cons (Field.restores_needed "checker" (Form.restores_string _) (by decide))
      <| .cons (Field.restores_needed "element" (Form.restores_word32 _) (by decide))
      <| .cons (Field.restores_optional "message_key" Form.restores_string nofun (by decide))
      <| .cons (Field.restores_optional "message" Form.restores_string nofun (by decide)) .nil
  · obtain ⟨checker, element, messageKey, message⟩ := diagnostic
    cases messageKey <;> cases message <;> rfl

/-- Fields without a value are left out of the text. -/
example : form.toText { checker := "a\"b", element := 7, message := some "c" } =
    "\x7b\"checker\":\"a\\\"b\",\"element\":7,\"message\":\"c\"\x7d" := by
  decide

end Diagnostic

namespace Config

/-- All settings are restored. -/
theorem restores_form (config : Config) : form.Restores 2 config := by
  apply Record.restores_form (by decide)
  · exact .cons
      (Field.restores_defaulted "global_suppressions" (Form.restores_strings _) (by decide))
      <| .cons (Field.restores_defaulted "allow_qualified_keys" (Form.restores_bool _) (by decide))
      <| .cons (Field.restores_defaulted "parallel_threshold" (Form.restores_word64 _) (by decide))
      .nil
  · rfl

end Config

namespace MatchScope

/-- Both places of a match are restored: the global one from its name, an element from the object
that holds its number. -/
theorem restores_form (scope : MatchScope) : form.Restores 1 scope := by
  intro levels hlevels
  cases scope with
  | element id =>
    obtain ⟨inner, rfl⟩ : ∃ inner, levels = inner + 1 := ⟨levels - 1, by omega⟩
    refine Variant.takes_holding rfl ?_
    intro rest hrest
    have hread := Form.restores_word32 id inner (Nat.zero_le _) rest hrest
    simp only [hread, bind, Except.bind, pure, Except.pure]
  | global => exact Variant.takes_plain rfl levels

end MatchScope

namespace Match

/-- Every match is restored. -/
theorem restores_form (found : Match) : form.Restores 2 found := by
  apply Record.restores_form (by decide)
  · exact .cons (Field.restores_needed "scope" (MatchScope.restores_form _) (by decide))
      <| .cons (Field.restores_needed "directive" (Form.restores_string _) (by decide)) .nil
  · rfl

end Match

/-! ## Manifests -/

namespace Manifest

/-- Every manifest is restored. -/
theorem restores_form (manifest : Manifest) : form.Restores 5 manifest := by
  apply Record.restores_form (by decide)
  · exact .cons (Field.restores_defaulted "checkers"
        (Form.restores_list fun checker _ => checker.restores_form) (by decide))
      <| .cons (Field.restores_defaulted "matcher" (Config.restores_form _) (by decide)) .nil
  · rfl

/-- The text of a manifest is read as that manifest, without any context of failure. -/
theorem ofText_toText (manifest : Manifest) : ofText (form.toText manifest) = .ok manifest := by
  rw [ofText, (restores_form manifest).ofText_toText (by decide)]
  rfl

end Manifest

/-! ## All together -/

/-- **What is written is read back as the same value**: checkers, key sets, elements, diagnostics,
settings, matches and manifests without any condition, whatever strings they hold; an arena if it
was built by adding or let in by reading and each of its elements has a number of its own. -/
theorem reads_back_written :
    (∀ checker, Checker.form.ofText (Checker.form.toText checker) = .ok checker) ∧
    (∀ keys, KeySet.form.ofText (KeySet.form.toText keys) = .ok keys) ∧
    (∀ element, Element.form.ofText (Element.form.toText element) = .ok element) ∧
    (∀ diagnostic, Diagnostic.form.ofText (Diagnostic.form.toText diagnostic) = .ok diagnostic) ∧
    (∀ config, Config.form.ofText (Config.form.toText config) = .ok config) ∧
    (∀ found, Match.form.ofText (Match.form.toText found) = .ok found) ∧
    (∀ manifest, Manifest.form.ofText (Manifest.form.toText manifest) = .ok manifest ∧
      Manifest.ofText (Manifest.form.toText manifest) = .ok manifest) ∧
    ∀ arena : Arena, arena.Arises → arena.size ≤ UInt32.size →
      Arena.form.ofText (Arena.form.toText arena) = .ok arena := by
  refine ⟨?_, ?_, ?_, ?_, ?_, ?_, ?_, ?_⟩
  · intro checker
    exact checker.restores_form.ofText_toText (by decide)
  · intro keys
    exact keys.restores_form.ofText_toText (by decide)
  · intro element
    exact element.restores_form.ofText_toText (by decide)
  · intro diagnostic
    exact diagnostic.restores_form.ofText_toText (by decide)
  · intro config
    exact config.restores_form.ofText_toText (by decide)
  · intro found
    exact found.restores_form.ofText_toText (by decide)
  · intro manifest
    exact ⟨manifest.restores_form.ofText_toText (by decide), manifest.ofText_toText⟩
  · intro arena harises hsize
    have hadmitted := harises.ofElements_toElements hsize
    exact (Arena.restores_form hadmitted).ofText_toText (by decide)

/-- A file whose name and suppression hold a quote, a backslash, a control character and a character
beyond the basic plane. -/
def oddFile : Arena := (Arena.empty.addCompilationUnit "a\"b\\c\x01" ["\t😀"]).2

/-- A file with an odd name is read back. -/
theorem oddFile_reads_back :
    oddFile.Arises ∧ oddFile.size ≤ UInt32.size ∧
      Arena.form.ofText (Arena.form.toText oddFile) = .ok oddFile := by
  have harises : oddFile.Arises := .adds .empty (.unit _ _ _)
  have hsize : oddFile.size ≤ UInt32.size := by decide
  obtain ⟨-, -, -, -, -, -, -, harena⟩ := reads_back_written
  exact ⟨harises, hsize, harena oddFile harises hsize⟩

end Suppression
