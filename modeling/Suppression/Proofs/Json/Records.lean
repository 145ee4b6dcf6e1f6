import Suppression.Json.Record
import Suppression.Json.Variant
import Suppression.Proofs.Json.Forms
import Suppression.Proofs.Json.Skipping
/-!
# Records and variants that read back what they write

A record that is read changes with every known field of the object, and passes over every other one
(`Record.Makes`). If each field that is written makes the change that is right for it, and each that
is left out need not be there, the record is read back (`Record.restores_form`). Which fields there
are and what each of them changes is the only thing that differs from record to record. A variant is
read back by its name, with its content if it holds any (`Variant.takes_plain`,
`Variant.takes_holding`).
-/

namespace Suppression

/-! ## Fields -/

namespace Field

variable {α σ : Type} {inner depth : Nat} {record : σ}

/-- Reading back what the field writes of `record` makes `change`; a field that writes nothing need
not be there and changes nothing. -/
structure Restores (field : Field σ) (depth : Nat) (record : σ) (change : σ → σ) : Prop where
  /-- What is written is read as the change. -/
  takes : ∀ json, field.write record = some json →
    ∀ levels, depth ≤ levels → (field.read levels).Takes json change
  /-- What is left out may be left out. -/
  absent : field.write record = none → field.isRequired = false ∧ change = id

/-- A value that is taken is stored. -/
theorem store_takes {form : Form α} {set : α → σ → σ} {json : Json} {value : α}
    (h : form.Takes inner json value) {levels : Nat} (hlevels : inner ≤ levels) :
    (store form set levels).Takes json (set value) := by
  intro rest hrest
  have hread := h levels hlevels rest hrest
  simp only [store, hread, bind, Except.bind, pure, Except.pure]

/-- A field that is always written stores its value again, whether it has to be there or not. -/
theorem restores_written {form : Form α} {get : σ → α} {set : α → σ → σ} (name : String)
    (isRequired : Bool) (h : form.Restores inner (get record)) (hdepth : inner ≤ depth) :
    Field.Restores ⟨name, isRequired, fun record => some (form.write (get record)), store form set⟩
      depth record (set (get record)) := by
  refine ⟨?_, fun hnone => absurd hnone (by simp)⟩
  rintro json hjson levels hlevels
  obtain rfl := Option.some.inj hjson
  exact store_takes h (Nat.le_trans hdepth hlevels)

/-- A field that has to be there stores its value again. -/
theorem restores_needed {form : Form α} {get : σ → α} {set : α → σ → σ} (name : String)
    (h : form.Restores inner (get record)) (hdepth : inner ≤ depth) :
    (needed name form get set).Restores depth record (set (get record)) :=
  restores_written name true h hdepth

/-- A field that need not be there stores its value again. -/
theorem restores_defaulted {form : Form α} {get : σ → α} {set : α → σ → σ} (name : String)
    (h : form.Restores inner (get record)) (hdepth : inner ≤ depth) :
    (defaulted name form get set).Restores depth record (set (get record)) :=
  restores_written name false h hdepth

/-- A field that is left out without a value stores its value again if it has one. A value that is
written as null would be taken for none. -/
theorem restores_optional {form : Form α} {get : σ → Option α} {set : Option α → σ → σ}
    (name : String) (h : ∀ value, form.Restores inner value)
    (hnull : ∀ value, form.write value ≠ .null) (hdepth : inner ≤ depth) :
    (optional name form get set).Restores depth record
      ((get record).elim id fun value => set (some value)) := by
  constructor
  · intro json hjson levels hlevels
    obtain ⟨value, hvalue, rfl⟩ := Option.map_eq_some_iff.1 hjson
    rw [hvalue]
    exact store_takes (Form.Takes.option (h value) (hnull value)) (Nat.le_trans hdepth hlevels)
  · intro hnone
    have hget : get record = none := Option.map_eq_none_iff.1 hnone
    exact ⟨rfl, by rw [hget]; rfl⟩

end Field

/-! ## Records -/

namespace Record

variable {σ : Type} {record : Record σ}

/-- The names of the fields. -/
def names (record : Record σ) : List String := record.fields.map (·.name)

/-- A field is found under its name, if no two have the same. -/
theorem find?_name (hnames : record.names.Nodup) {field : Field σ}
    (hfield : field ∈ record.fields) :
    record.fields.find? (·.name == field.name) = some field := by
  obtain ⟨before, after, hfields⟩ := List.append_of_mem hfield
  rw [names] at hnames
  rw [hfields, List.find?_eq_some_iff_append]
  refine ⟨beq_self_eq_true _, before, after, rfl, ?_⟩
  intro other hother
  rw [hfields, List.map_append, List.map_cons, List.nodup_append] at hnames
  have hne : other.name ≠ field.name :=
    hnames.2.2 other.name (List.mem_map_of_mem hother) field.name List.mem_cons_self
  simp [hne]

/-- What reading a field of an object does to a record: a known field makes the change that is read
for it, and any other makes none. -/
inductive Makes (record : Record σ) (levels : Nat) : String × Json → (σ → σ) → Prop where
  /-- A known field. -/
  | known {field : Field σ} {json : Json} {change : σ → σ} (mem : field ∈ record.fields)
      (takes : (field.read levels).Takes json change) :
      Makes record levels (field.name, json) change
  /-- Any other field, whatever its value. -/
  | unknown {name : String} {json : Json} (new : name ∉ record.names) :
      Makes record levels (name, json) id

/-- A known field that was not seen before changes the record. -/
theorem readField_of_mem (hnames : record.names.Nodup) {field : Field σ}
    (hfield : field ∈ record.fields) {levels : Nat} {json : Json} {change : σ → σ}
    (htakes : (field.read levels).Takes json change) {seen : List String} (hnew : field.name ∉ seen)
    (value : σ) {rest : List Char} (hrest : Reader.Ends rest) :
    record.readField levels field.name (seen, value) (':' :: json.render ++ rest) =
      .ok ((field.name :: seen, change value), rest) := by
  have hread := Reader.afterColon_render htakes hrest
  rw [readField, find?_name hnames hfield]
  simp only [if_neg hnew, hread, bind, Except.bind, pure, Except.pure]

/-- An unknown field is passed over. -/
theorem readField_of_not_mem {name : String} (hname : name ∉ record.names) (levels : Nat)
    (json : Json) (state : List String × σ) {rest : List Char} (hrest : Reader.Ends rest) :
    record.readField levels name state (':' :: json.render ++ rest) = .ok (state, rest) := by
  have hread := Reader.afterColon_render (Reader.skip_takes json) hrest
  have hfind : record.fields.find? (·.name == name) = none := by
    rw [List.find?_eq_none]
    intro field hfield heq
    exact hname (eq_of_beq heq ▸ List.mem_map_of_mem hfield)
  rw [readField, hfind]
  simp only [hread, bind, Except.bind, pure, Except.pure]

/-- The known names of the fields of an object. -/
def knownNames (record : Record σ) (pairs : List (String × Json)) : List String :=
  (pairs.map (·.1)).filter (· ∈ record.names)

/-- A field with a known name adds it. -/
theorem knownNames_cons_of_mem {name : String} (h : name ∈ record.names) (json : Json)
    (pairs : List (String × Json)) :
    record.knownNames ((name, json) :: pairs) = name :: record.knownNames pairs := by
  rw [knownNames, List.map_cons, List.filter_cons_of_pos (by simpa using h)]
  rfl

/-- A field with an unknown name adds none. -/
theorem knownNames_cons_of_not_mem {name : String} (h : name ∉ record.names) (json : Json)
    (pairs : List (String × Json)) :
    record.knownNames ((name, json) :: pairs) = record.knownNames pairs := by
  rw [knownNames, List.map_cons, List.filter_cons_of_neg (by simpa using h)]
  rfl

/-- The fields of an object make their changes in order, if no known one comes twice or was seen
before. -/
theorem works_of_makes (hnames : record.names.Nodup) {levels : Nat}
    {pairs : List (String × Json)} {changes : List (σ → σ)}
    (h : List.Forall₂ (record.Makes levels) pairs changes) (seen : List String)
    (hdistinct : (record.knownNames pairs ++ seen).Nodup) (value : σ) :
    Reader.Works (record.readField levels) pairs (seen, value)
      ((record.knownNames pairs).reverse ++ seen,
        changes.foldl (fun value change => change value) value) := by
  induction h generalizing seen value with
  | nil => exact .done _
  | @cons pair change pairs changes hmakes _ ih =>
    cases hmakes with
    | @known field json _ mem takes =>
      have hmem : field.name ∈ record.names := List.mem_map_of_mem mem
      rw [knownNames_cons_of_mem hmem] at hdistinct ⊢
      have hnew : field.name ∉ seen := fun hseen =>
        (List.nodup_cons.1 hdistinct).1 (List.mem_append_right _ hseen)
      have hothers :=
        ih (field.name :: seen) (List.perm_middle.nodup_iff.2 hdistinct) (change value)
      rw [List.reverse_cons, List.append_assoc, List.singleton_append]
      exact .field (fun rest hrest => readField_of_mem hnames mem takes hnew value hrest) hothers
    | unknown new =>
      rw [knownNames_cons_of_not_mem new] at hdistinct ⊢
      exact .field (fun rest hrest => readField_of_not_mem new levels _ _ hrest)
        (ih seen hdistinct value)

/-- The object of a record is read if its fields can be worked in and none that is required is
left unseen. -/
theorem takes_object {depth : Nat} {pairs : List (String × Json)} {value : σ}
    (h : ∀ levels, depth ≤ levels → ∃ seen,
      Reader.Works (record.readField levels) pairs ([], record.start) (seen, value) ∧
      ∀ field ∈ record.fields, field.isRequired = true → field.name ∈ seen) :
    record.form.Takes (depth + 1) (.object pairs) value := by
  intro levels hlevels rest _
  have hobject : Reader.deeper levels record.readObject (Json.afterBrace pairs ++ rest) =
      .ok (value, rest) := by
    refine Reader.deeper_eq ?_ hlevels
    intro inner hinner
    obtain ⟨seen, hworks, hseen⟩ := h inner hinner
    have hfields := Reader.fields_afterBrace hworks rest
    have hcomplete : (record.fields.find? fun field =>
        field.isRequired && !seen.contains field.name) = none := by
      rw [List.find?_eq_none]
      intro field hfield
      cases hrequired : field.isRequired with
      | false => simp
      | true => simp [hseen field hfield hrequired]
    simp only [readObject, hfields, hcomplete, bind, Except.bind, pure, Except.pure]
  simp only [form, Reader.token_object, bind, Except.bind, hobject]

/-- The object of a record is read if its fields make the right changes, no known one comes twice
and none that is required is missing. -/
theorem takes_of_makes (hnames : record.names.Nodup) {depth : Nat} {pairs : List (String × Json)}
    {value : σ} (hdistinct : (record.knownNames pairs).Nodup)
    (hrequired : ∀ field ∈ record.fields, field.isRequired = true → field.name ∈ pairs.map (·.1))
    (h : ∀ levels, depth ≤ levels → ∃ changes, List.Forall₂ (record.Makes levels) pairs changes ∧
      changes.foldl (fun value change => change value) record.start = value) :
    record.form.Takes (depth + 1) (.object pairs) value := by
  apply takes_object
  intro levels hlevels
  obtain ⟨changes, hmakes, rfl⟩ := h levels hlevels
  have hworks := works_of_makes hnames hmakes [] (by rwa [List.append_nil]) record.start
  refine ⟨_, hworks, ?_⟩
  intro field hfield hneeded
  rw [List.append_nil, List.mem_reverse, knownNames, List.mem_filter]
  exact ⟨hrequired field hfield hneeded, decide_eq_true (List.mem_map_of_mem hfield)⟩

/-- The written fields of a value, each with its name. -/
def written (fields : List (Field σ)) (value : σ) : List (String × Json) :=
  fields.filterMap fun field => (field.write value).map (field.name, ·)

/-- The written names are names of the fields. -/
theorem written_names_sublist (fields : List (Field σ)) (value : σ) :
    ((written fields value).map (·.1)).Sublist (fields.map (·.name)) := by
  induction fields with
  | nil => exact List.Sublist.slnil
  | cons field fields ih =>
    cases h : field.write value with
    | none =>
      rw [written, List.filterMap_cons_none (by rw [h]; rfl)]
      exact ih.cons _
    | some json =>
      rw [written, List.filterMap_cons_some (by rw [h]; rfl)]
      exact ih.cons_cons _

/-- The written fields of a record make the changes that restore it; each field that is required is
among them. -/
theorem makes_written {depth levels : Nat} (hlevels : depth ≤ levels) {whole : σ}
    {fields : List (Field σ)} {changes : List (σ → σ)}
    (h : List.Forall₂ (fun field change => field.Restores depth whole change) fields changes)
    (hfields : fields ⊆ record.fields) :
    ∃ made, List.Forall₂ (record.Makes levels) (written fields whole) made ∧
      (∀ value, made.foldl (fun value change => change value) value =
        changes.foldl (fun value change => change value) value) ∧
      ∀ field ∈ fields, field.isRequired = true →
        field.name ∈ (written fields whole).map (·.1) := by
  induction h with
  | nil => exact ⟨[], .nil, fun _ => rfl, fun field hfield => absurd hfield List.not_mem_nil⟩
  | @cons field change fields changes hrestores _ ih =>
    obtain ⟨made, hmakes, hfold, hrequired⟩ := ih fun other hother =>
      hfields (List.mem_cons_of_mem field hother)
    cases hwrite : field.write whole with
    | none =>
      -- the field is left out
      obtain ⟨hoptional, rfl⟩ := hrestores.absent hwrite
      rw [written, List.filterMap_cons_none (by rw [hwrite]; rfl)]
      refine ⟨made, hmakes, hfold, ?_⟩
      intro other hother hneeded
      rcases List.mem_cons.1 hother with rfl | hother
      · exact absurd hneeded (by rw [hoptional]; decide)
      · exact hrequired other hother hneeded
    | some json =>
      rw [written, List.filterMap_cons_some (by rw [hwrite]; rfl)]
      refine ⟨change :: made, .cons ?_ hmakes, fun value => hfold (change value), ?_⟩
      · exact .known (hfields List.mem_cons_self) (hrestores.takes json hwrite levels hlevels)
      · intro other hother hneeded
        rcases List.mem_cons.1 hother with rfl | hother
        · exact List.mem_cons_self
        · exact List.mem_cons_of_mem _ (hrequired other hother hneeded)

/-- **A record is read back** if its fields have different names and the changes of all of them lead
from the start to the record. -/
theorem restores_form (hnames : record.names.Nodup) {depth : Nat} {value : σ}
    {changes : List (σ → σ)}
    (h : List.Forall₂ (fun field change => field.Restores depth value change) record.fields changes)
    (hvalue : changes.foldl (fun value change => change value) record.start = value) :
    record.form.Restores (depth + 1) value := by
  have hsublist := written_names_sublist record.fields value
  apply takes_of_makes hnames
  · exact (hnames.sublist hsublist).filter _
  · obtain ⟨-, -, -, hrequired⟩ := makes_written (Nat.le_refl depth) h (List.Subset.refl _)
    exact hrequired
  · intro levels hlevels
    obtain ⟨made, hmakes, hfold, -⟩ := makes_written hlevels h (List.Subset.refl _)
    exact ⟨made, hmakes, (hfold record.start).trans hvalue⟩

end Record

/-! ## Variants -/

namespace Variant

variable {α : Type} {variants : List (Variant α)}

/-- The name of a variant without content is read as its value where it stands alone. -/
theorem readAlone_takes {name : String} {value : α}
    (h : variants.find? (·.name == name) = some (.plain name value)) :
    Reader.Takes (readAlone variants) (.string name) value := by
  intro rest _
  have hfind : find variants name = .ok (.plain name value) := by rw [find, h]
  have htoken := Reader.token_renderString name rest
  simp only [Json.render, readAlone, htoken, hfind, alone, bind, Except.bind, pure, Except.pure]

/-- The name of a variant without content gives its value. -/
theorem takes_plain {name : String} {value : α}
    (h : variants.find? (·.name == name) = some (.plain name value)) (levels : Nat) :
    Reader.Takes (read variants levels) (.string name) value := by
  intro rest hrest
  have halone := readAlone_takes h rest hrest
  rw [Json.render, Reader.renderString_append] at halone ⊢
  rw [read, Reader.skipBlanks_of_opens (by decide)]
  exact halone

/-- The name of a variant with its content gives what is read of the content. -/
theorem takes_holding {name : String} {content : Nat → Reader α} {levels : Nat} {json : Json}
    {value : α} (h : variants.find? (·.name == name) = some (.holding name content))
    (hcontent : (content levels).Takes json value) :
    Reader.Takes (read variants (levels + 1)) (.object [(name, json)]) value := by
  intro rest _
  have hfind : find variants name = .ok (.holding name content) := by rw [find, h]
  have hname := Reader.fieldName_renderString name (':' :: (json.render ++ '\x7d' :: rest))
  have hread : Reader.afterColon (readContent levels (.holding name content))
      (':' :: (json.render ++ '\x7d' :: rest)) = .ok (value, '\x7d' :: rest) :=
    Reader.afterColon_render hcontent (Reader.ends_cons (.inr (.inr rfl)) rest)
  have hclose : Reader.sign '\x7d' ('\x7d' :: rest) = .ok rest := rfl
  rw [Json.render_object, List.cons_append, read, Reader.skipBlanks_of_opens (by decide)]
  simp only [Reader.deeper, Json.afterBrace, Json.renderFields, List.append_assoc, List.cons_append,
    List.nil_append, hname, hfind, hread, hclose, bind, Except.bind, pure, Except.pure]

end Variant

/-! ## Values without a wanted form -/

namespace Json

/-- A string is kept as it is. -/
theorem read_takes_string (levels : Nat) (text : String) :
    (Json.read levels).Takes (.string text) (.string text) := by
  intro rest _
  have htoken := Reader.token_renderString text rest
  cases levels <;> simp only [Json.read, render, htoken, bind, Except.bind, pure, Except.pure]

/-- An array is kept as the list of what is kept of its items. -/
theorem read_takes_array {levels : Nat} {items values : List Json}
    (h : List.Forall₂ (Json.read levels).Takes items values) :
    (Json.read (levels + 1)).Takes (.array items) (.array values) := by
  intro rest _
  have hitems := Reader.items_afterBracket h rest
  simp only [Json.read, Reader.token_array, hitems, bind, Except.bind, pure, Except.pure]

/-- An array of strings is kept as it is. -/
theorem read_takes_strings (levels : Nat) (texts : List String) :
    (Json.read (levels + 1)).Takes (.array (texts.map .string)) (.array (texts.map .string)) := by
  apply read_takes_array
  rw [List.forall₂_same]
  intro json hjson
  obtain ⟨text, -, rfl⟩ := List.mem_map.1 hjson
  exact read_takes_string levels text

end Json

end Suppression
