import Suppression.Json.Form
import Suppression.Proofs.Json.Containers
/-!
# Forms that read back what they write

A form takes a written value if it reads it back, whatever may follow it, as long as enough
containers may still be opened (`Form.Takes`). It then also reads the value as a text of its own
(`Form.Takes.ofText`). The forms of strings, truth values and words take everything they write
(`Form.Restores`); lists and values that may be missing do if their parts do.
-/

namespace Suppression.Form

variable {α β : Type}

/-- The form takes the written value as `value` wherever `depth` containers may still be opened. -/
def Takes (form : Form α) (depth : Nat) (json : Json) (value : α) : Prop :=
  ∀ levels, depth ≤ levels → (form.read levels).Takes json value

/-- The form takes what it writes for `value`, wherever `depth` containers may still be opened. -/
def Restores (form : Form α) (depth : Nat) (value : α) : Prop :=
  form.Takes depth (form.write value) value

/-- What is taken is also read as a text of its own, if it is not nested too deeply. -/
theorem Takes.ofText {form : Form α} {depth : Nat} {json : Json} {value : α}
    (h : form.Takes depth json value) (hdepth : depth ≤ Reader.maxLevels) :
    form.ofText json.toText = .ok value := by
  have hread := h Reader.maxLevels hdepth [] Reader.ends_nil
  rw [List.append_nil] at hread
  rw [Form.ofText, Json.toText, String.toList_ofList, hread]
  rfl

/-- What is restored survives being written as a text and read again. -/
theorem Restores.ofText_toText {form : Form α} {depth : Nat} {value : α}
    (h : form.Restores depth value) (hdepth : depth ≤ Reader.maxLevels) :
    form.ofText (form.toText value) = .ok value :=
  Takes.ofText h hdepth

/-- What is equal to the written value is taken. -/
theorem Restores.takes_of_eq {form : Form α} {depth : Nat} {value : α}
    (h : form.Restores depth value) (json : Json) (hjson : json = form.write value) :
    form.Takes depth json value := by
  rw [hjson]
  exact h

/-! ## Simple types -/

/-- Every string is restored. -/
theorem restores_string (text : String) : string.Restores 0 text := by
  intro levels _ rest _
  have htoken := Reader.token_renderString text rest
  simp only [string, Json.render, htoken, bind, Except.bind, pure, Except.pure]

/-- Every truth value is restored. -/
theorem restores_bool (value : Bool) : bool.Restores 0 value := by
  intro levels _ rest _
  have htoken := Reader.token_bool value rest
  simp only [bool, htoken, bind, Except.bind, pure, Except.pure]

/-- A whole number within its range is restored. -/
theorem restores_natural {n size : Nat} (hn : n < size) (hsize : size ≤ UInt64.size)
    (wanted : String) : (natural size wanted).Restores 0 n := by
  intro levels _ rest hrest
  have htoken := Reader.token_natural (Nat.lt_of_lt_of_le hn hsize) hrest
  have hrange : (0 : Int) ≤ n ∧ (n : Int) < size := by omega
  simp only [natural, htoken, bind, Except.bind, if_pos hrange, Int.toNat_natCast, pure,
    Except.pure]

/-- Through a pair of conversions is taken what can be joined. -/
theorem Takes.through {form : Form α} {depth : Nat} {json : Json} {value : α} {joined : β}
    {split : β → α} {join : α → Except Mismatch β} (h : form.Takes depth json value)
    (hjoin : join value = .ok joined) : (form.through split join).Takes depth json joined := by
  intro levels hlevels rest hrest
  have hread := h levels hlevels rest hrest
  simp only [Form.through, hread, bind, Except.bind, hjoin, pure, Except.pure]

/-- Through a pair of conversions of which none refuses, a text is read as before and then
converted. -/
theorem ofText_through (form : Form α) (split : β → α) (join : α → β) (text : String) :
    (form.through split (.ok <| join ·)).ofText text = (form.ofText text).map join := by
  simp only [Form.ofText, Form.through]
  cases hread : form.read Reader.maxLevels text.toList with
  | error cause => rfl
  | ok result =>
    obtain ⟨value, rest⟩ := result
    simp only [bind, Except.bind, pure, Except.pure]
    split <;> rfl

/-- Every 32-bit word is restored. -/
theorem restores_word32 (word : UInt32) : word32.Restores 0 word :=
  (restores_natural word.toNat_lt_size (by decide) "u32").through
    (congrArg Except.ok word.ofNat_toNat)

/-- Every 64-bit word is restored. -/
theorem restores_word64 (word : UInt64) : word64.Restores 0 word :=
  (restores_natural word.toNat_lt_size (Nat.le_refl _) "usize").through
    (congrArg Except.ok word.ofNat_toNat)

/-! ## Composed types -/

/-- A value that may be missing is taken where it is there, unless it is written as null. -/
theorem Takes.option {form : Form α} {depth : Nat} {json : Json} {value : α}
    (h : form.Takes depth json value) (hjson : json ≠ .null) :
    form.option.Takes depth json (some value) := by
  intro levels hlevels rest hrest
  have hread := h levels hlevels rest hrest
  obtain ⟨c, tail, hrender, hopens, hnull⟩ := json.render_begins
  have hc : c ≠ 'n' := hnull.resolve_left hjson
  rw [hrender, List.cons_append] at hread ⊢
  simp only [Form.option, Reader.skipBlanks_of_opens hopens]
  split
  · next heq => exact absurd (List.cons.inj heq).1 hc
  · rw [hread]
    rfl

/-- Null is taken for a value that is missing. -/
theorem takes_null (form : Form α) : form.option.Takes 0 .null none := by
  intro levels _ rest _
  rw [Json.render]
  rfl

/-- A value that may be missing is restored if it is restored where it is there, and null is written
for no other. -/
theorem restores_option {form : Form α} {depth : Nat} (h : ∀ value, form.Restores depth value)
    (hnull : ∀ value, form.write value ≠ .null) (value : Option α) :
    form.option.Restores depth value := by
  cases value with
  | none =>
    intro levels _
    exact takes_null form levels (Nat.zero_le levels)
  | some value => exact Takes.option (h value) (hnull value)

/-- A list is taken item by item. -/
theorem Takes.list {form : Form α} {depth : Nat} {jsons : List Json} {values : List α}
    (h : List.Forall₂ (form.Takes depth) jsons values) :
    (list form).Takes (depth + 1) (.array jsons) values := by
  intro levels hlevels rest _
  have hitems : Reader.deeper levels (fun levels => Reader.items (form.read levels))
      (Json.afterBracket jsons ++ rest) = .ok (values, rest) := by
    refine Reader.deeper_eq ?_ hlevels
    intro inner hinner
    exact Reader.items_afterBracket (h.imp fun _ _ hitem => hitem inner hinner) rest
  simp only [Form.list, Reader.token_array, bind, Except.bind, hitems]

/-- A list is restored if its items are. -/
theorem restores_list {form : Form α} {depth : Nat} {values : List α}
    (h : ∀ value ∈ values, form.Restores depth value) :
    (list form).Restores (depth + 1) values := by
  apply Takes.list
  induction values with
  | nil => exact .nil
  | cons value values ih =>
    exact .cons (h value List.mem_cons_self)
      (ih fun other hother => h other (List.mem_cons_of_mem value hother))

/-- Every list of strings is restored. -/
theorem restores_strings (texts : List String) : (list string).Restores 1 texts :=
  restores_list fun text _ => restores_string text

end Suppression.Form
