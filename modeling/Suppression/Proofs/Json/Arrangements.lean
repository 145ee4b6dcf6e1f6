import Mathlib.Data.List.Pairwise
import Mathlib.Data.List.Perm.Basic
import Mathlib.Logic.Function.Conjugate
import Suppression.Proofs.Json.Records
/-!
# Objects arranged in other ways

The object of a record may hold its fields in any order, leave some of them out, and hold others
that the record does not know (`Part.Arranged`). It is read as the same record if every field that
may be left out has the value that reading starts from, for the changes of different fields do not
depend on their order (`Record.Filled.takes_arranged`).
-/

namespace Suppression

/-! ## Arrangements -/

/-- A part of an object. -/
structure Part where
  /-- The name of its field. -/
  name : String
  /-- The values that may stand for it. -/
  stands : Json → Prop
  /-- Whether it may be left out. -/
  omissible : Prop

namespace Part

/-- Some of the parts are chosen, each with a value that may stand for it, and the others may be
left out. -/
inductive Chosen : List Part → List (String × Json) → Prop where
  /-- There are no parts. -/
  | nil : Chosen [] []
  /-- The first part is given. -/
  | given {part : Part} {parts : List Part} {json : Json} {pairs : List (String × Json)}
      (stands : part.stands json) (others : Chosen parts pairs) :
      Chosen (part :: parts) ((part.name, json) :: pairs)
  /-- The first part is left out. -/
  | omitted {part : Part} {parts : List Part} {pairs : List (String × Json)}
      (omissible : part.omissible) (others : Chosen parts pairs) : Chosen (part :: parts) pairs

/-- The fields of an object that has the parts: those chosen, in any order, and among them any
fields of other names, with any values. -/
def Arranged (parts : List Part) (pairs : List (String × Json)) : Prop :=
  ∃ chosen others, Chosen parts chosen ∧ (∀ pair ∈ others, pair.1 ∉ parts.map (·.name)) ∧
    pairs.Perm (chosen ++ others)

/-- Chosen parts are arranged as they are. -/
theorem Chosen.arranged {parts : List Part} {pairs : List (String × Json)}
    (chosen : Chosen parts pairs) : Arranged parts pairs :=
  ⟨pairs, [], chosen, fun _ h => absurd h List.not_mem_nil, by rw [List.append_nil]⟩

/-- The names of chosen parts are names of parts, in order. -/
theorem Chosen.names_sublist {parts : List Part} {pairs : List (String × Json)}
    (chosen : Chosen parts pairs) : (pairs.map (·.1)).Sublist (parts.map (·.name)) := by
  induction chosen with
  | nil => exact List.Sublist.slnil
  | given _ _ ih => exact ih.cons_cons _
  | omitted _ _ ih => exact ih.cons _

end Part

/-! ## Fields that fill parts -/

/-- What stands for the part is read by the field as the change; where the part may be left out, the
field need not be there, and the change leaves the start as it is. -/
structure Field.Fills {σ : Type} (field : Field σ) (depth : Nat) (start : σ) (part : Part)
    (change : σ → σ) : Prop where
  /-- They have the same name. -/
  name_eq : part.name = field.name
  /-- What stands for the part is read as the change. -/
  takes : ∀ json, part.stands json →
    ∀ levels, depth ≤ levels → (field.read levels).Takes json change
  /-- What may be left out makes no difference to the start. -/
  absent : part.omissible → field.isRequired = false ∧ change start = start

/-- A field that stores a value takes whatever its form takes for that value. -/
theorem Field.Fills.of_store {α σ : Type} {form : Form α} {set : α → σ → σ} {name : String}
    {isRequired : Bool} {write : σ → Option Json} {inner depth : Nat} {start : σ}
    {stands : Json → Prop} {omissible : Prop} {value : α}
    (htakes : ∀ json, stands json → form.Takes inner json value) (hdepth : inner ≤ depth)
    (habsent : omissible → isRequired = false ∧ set value start = start) :
    Field.Fills ⟨name, isRequired, write, store form set⟩ depth start ⟨name, stands, omissible⟩
      (set value) :=
  ⟨rfl, fun json hjson _ hlevels => store_takes (htakes json hjson) (Nat.le_trans hdepth hlevels),
    habsent⟩

namespace Record

variable {σ : Type} {record : Record σ}

/-- Fields fill parts, each making its change. -/
inductive Filled (record : Record σ) (depth : Nat) :
    List (Field σ) → List Part → List (σ → σ) → Prop where
  /-- There are no fields. -/
  | nil : Filled record depth [] [] []
  /-- The first field fills the first part. -/
  | cons {field : Field σ} {part : Part} {change : σ → σ} {fields : List (Field σ)}
      {parts : List Part} {changes : List (σ → σ)}
      (first : field.Fills depth record.start part change)
      (others : Filled record depth fields parts changes) :
      Filled record depth (field :: fields) (part :: parts) (change :: changes)

/-- Fields that fill parts have their names. -/
theorem Filled.names_eq {depth : Nat} {fields : List (Field σ)} {parts : List Part}
    {changes : List (σ → σ)} (filled : record.Filled depth fields parts changes) :
    parts.map (·.name) = fields.map (·.name) := by
  induction filled with
  | nil => rfl
  | cons first _ ih => rw [List.map_cons, List.map_cons, ih, first.name_eq]

/-- Chosen parts make changes; the other changes leave the start as it is. -/
theorem Filled.makes_chosen {depth levels : Nat} (hlevels : depth ≤ levels)
    {fields : List (Field σ)} {parts : List Part} {changes : List (σ → σ)}
    (filled : record.Filled depth fields parts changes) (hfields : fields ⊆ record.fields)
    {pairs : List (String × Json)} (chosen : Part.Chosen parts pairs) :
    ∃ made left, List.Forall₂ (record.Makes levels) pairs made ∧
      changes.Perm (left ++ made) ∧ (∀ change ∈ left, change record.start = record.start) ∧
      ∀ field ∈ fields, field.isRequired = true → field.name ∈ pairs.map (·.1) := by
  induction filled generalizing pairs with
  | nil =>
    cases chosen
    exact ⟨[], [], .nil, .nil, fun _ h => absurd h List.not_mem_nil,
      fun _ h => absurd h List.not_mem_nil⟩
  | @cons field part change fields parts changes hfills _ ih =>
    have hsub : fields ⊆ record.fields := fun other hother =>
      hfields (List.mem_cons_of_mem field hother)
    cases chosen with
    | @given _ _ json pairs stands others =>
      obtain ⟨made, left, hmakes, hperm, hleft, hrequired⟩ := ih hsub others
      have hmade : record.Makes levels (part.name, json) change := by
        rw [hfills.name_eq]
        exact .known (hfields List.mem_cons_self) (hfills.takes json stands levels hlevels)
      refine ⟨change :: made, left, .cons hmade hmakes, ?_, hleft, ?_⟩
      · exact (hperm.cons change).trans List.perm_middle.symm
      · intro other hother hneeded
        rw [List.map_cons, List.mem_cons]
        rcases List.mem_cons.1 hother with rfl | hother
        · exact .inl hfills.name_eq.symm
        · exact .inr (hrequired other hother hneeded)
    | omitted omissible others =>
      obtain ⟨made, left, hmakes, hperm, hleft, hrequired⟩ := ih hsub others
      obtain ⟨hoptional, hstart⟩ := hfills.absent omissible
      refine ⟨made, change :: left, hmakes, hperm.cons change, ?_, ?_⟩
      · exact List.forall_mem_cons.2 ⟨hstart, hleft⟩
      · intro other hother hneeded
        rcases List.mem_cons.1 hother with rfl | hother
        · exact absurd hneeded (by rw [hoptional]; decide)
        · exact hrequired other hother hneeded

/-- Fields of other names change nothing. -/
theorem makes_others {levels : Nat} {others : List (String × Json)}
    (h : ∀ pair ∈ others, pair.1 ∉ record.names) :
    ∃ idle, List.Forall₂ (record.Makes levels) others idle ∧ ∀ change ∈ idle, change = id := by
  refine ⟨others.map fun _ => id, ?_, ?_⟩
  · rw [List.forall₂_map_right_iff, List.forall₂_same]
    intro pair hpair
    exact .unknown (h pair hpair)
  · intro change hchange
    obtain ⟨_, -, rfl⟩ := List.mem_map.1 hchange
    rfl

/-- Changes that leave a value as it is leave it so together. -/
theorem foldl_of_fixed {changes : List (σ → σ)} {value : σ}
    (h : ∀ change ∈ changes, change value = value) :
    changes.foldl (fun value change => change value) value = value := by
  induction changes with
  | nil => rfl
  | cons change changes ih =>
    obtain ⟨hchange, hothers⟩ := List.forall_mem_cons.1 h
    rw [List.foldl_cons, hchange, ih hothers]

/-- Changes that do not depend on their order lead to the same in another one, also without some
that leave the start as it is. -/
theorem foldl_of_perm {all left made : List (σ → σ)} {start : σ} (hperm : all.Perm (left ++ made))
    (hcommute : all.Pairwise Function.Commute) (hleft : ∀ change ∈ left, change start = start) :
    made.foldl (fun value change => change value) start =
      all.foldl (fun value change => change value) start := by
  have hall : ∀ f ∈ all, ∀ g ∈ all, Function.Commute f g := by
    have hflip : all.Pairwise (flip Function.Commute) := hcommute.imp fun h => h.symm
    exact hcommute.forall_of_forall_of_flip (fun f _ => .refl f) hflip
  calc made.foldl (fun value change => change value) start
      = (left ++ made).foldl (fun value change => change value) start := by
        rw [List.foldl_append, foldl_of_fixed hleft]
    _ = all.foldl (fun value change => change value) start :=
        (hperm.foldl_eq' (fun f hf g hg value => hall g hg f hf value) start).symm

/-- However the parts are arranged, no known name comes twice. -/
theorem nodup_knownNames {parts : List Part} (hnames : record.names.Nodup)
    (hparts : parts.map (·.name) = record.names) {pairs : List (String × Json)}
    (arranged : Part.Arranged parts pairs) : (record.knownNames pairs).Nodup := by
  obtain ⟨chosen, others, hchosen, hothers, hperm⟩ := arranged
  rw [hparts] at hothers
  have hunknown : (others.map (·.1)).filter (· ∈ record.names) = [] := by
    rw [List.filter_eq_nil_iff]
    intro name hname
    obtain ⟨pair, hpair, rfl⟩ := List.mem_map.1 hname
    simpa using hothers pair hpair
  rw [knownNames, ((hperm.map (·.1)).filter _).nodup_iff, List.map_append, List.filter_append,
    hunknown, List.append_nil]
  exact (hnames.sublist (hparts ▸ hchosen.names_sublist)).filter _

/-- **A record is read from its object however that is arranged**, if its fields have different
names, their changes do not depend on their order, and all of them lead from the start to the
record. -/
theorem Filled.takes_arranged {depth : Nat} {parts : List Part} {changes : List (σ → σ)} {value : σ}
    (filled : record.Filled depth record.fields parts changes) (hnames : record.names.Nodup)
    (hcommute : changes.Pairwise fun f g => ∀ value, f (g value) = g (f value))
    (hvalue : changes.foldl (fun value change => change value) record.start = value)
    {pairs : List (String × Json)} (arranged : Part.Arranged parts pairs) :
    record.form.Takes (depth + 1) (.object pairs) value := by
  have hdistinct := nodup_knownNames hnames filled.names_eq arranged
  obtain ⟨chosen, others, hchosen, hothers, hperm⟩ := arranged
  rw [filled.names_eq] at hothers
  apply takes_of_makes hnames hdistinct
  · obtain ⟨-, -, -, -, -, hrequired⟩ :=
      filled.makes_chosen (Nat.le_refl depth) (List.Subset.refl _) hchosen
    intro field hfield hneeded
    rw [(hperm.map (·.1)).mem_iff, List.map_append]
    exact List.mem_append_left _ (hrequired field hfield hneeded)
  intro levels hlevels
  obtain ⟨made, left, hmakes, hmade, hleft, -⟩ :=
    filled.makes_chosen hlevels (List.Subset.refl _) hchosen
  obtain ⟨idle, hunknown, hidle⟩ := makes_others hothers
  obtain ⟨arrived, harrived, hall⟩ :=
    List.perm_comp_forall₂ hperm (List.rel_append hmakes hunknown)
  refine ⟨arrived, harrived, ?_⟩
  -- the changes made and those left out are those of all fields and of the fields of other names
  have hchanged : (changes ++ idle).Perm (left ++ arrived) := by
    refine (hmade.append_right idle).trans ?_
    rw [List.append_assoc]
    exact hall.symm.append_left left
  have hcommutes : (changes ++ idle).Pairwise Function.Commute := by
    refine List.pairwise_append.2 ⟨hcommute, ?_, ?_⟩
    · refine List.pairwise_of_forall_mem_list fun f hf g _ => ?_
      rw [hidle f hf]
      exact Function.Commute.id_left
    · intro f _ g hg
      rw [hidle g hg]
      exact Function.Commute.id_right
  rw [foldl_of_perm hchanged hcommutes hleft, List.foldl_append, hvalue]
  apply foldl_of_fixed
  intro change hchange
  rw [hidle change hchange]
  rfl

end Record

end Suppression
