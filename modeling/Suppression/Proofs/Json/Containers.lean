import Mathlib.Data.List.Forall2
import Suppression.Proofs.Json.Tokens
/-!
# Written containers

If a reader takes every written item of an array, the array is read as the list of what was taken
(`Reader.items_afterBracket`). The fields of an object are worked into a state one after the other:
if each written field takes the state before it to the state after it, reading the object takes the
first state to the last (`Reader.fields_afterBrace`).
-/

namespace Suppression.Reader

variable {α σ : Type}

/-- The reader takes the written value, whatever may follow it, as `value`. -/
def Takes (reader : Reader α) (json : Json) (value : α) : Prop :=
  ∀ rest, Ends rest → reader (json.render ++ rest) = .ok (value, rest)

/-! ## Places -/

/-- At the closing sign the container is over. -/
theorem firstPlace_closed (closing : Char) (h : isBlank closing = false) (rest : List Char) :
    firstPlace closing (closing :: rest) = .ok (.closed, rest) := by
  rw [firstPlace, skipBlanks, List.dropWhile_cons_of_neg (by rw [h]; decide)]
  exact if_pos rfl

/-- After an item the closing sign ends the container. -/
theorem nextPlace_closed (closing : Char) (h : isBlank closing = false) (rest : List Char) :
    nextPlace closing (closing :: rest) = .ok (.closed, rest) := by
  rw [nextPlace, skipBlanks, List.dropWhile_cons_of_neg (by rw [h]; decide)]
  exact if_pos rfl

section

variable {closing : Char} {text : List Char}

/-- What begins like a value does not begin with a sign that opens none. -/
theorem ne_closing_of_opens {c : Char} (hclosing : Json.opens closing = false)
    (hc : Json.opens c = true) : c ≠ closing := by
  rintro rfl
  exact absurd hc (by rw [hclosing]; decide)

/-- Where a value opens, an item comes. -/
theorem firstPlace_item (hclosing : Json.opens closing = false) (h : Json.Begins text) :
    firstPlace closing text = .ok (.item, text) := by
  obtain ⟨c, tail, rfl, hc⟩ := h
  rw [firstPlace, skipBlanks_of_opens hc]
  exact if_neg (ne_closing_of_opens hclosing hc)

/-- After an item and a comma another item comes where a value opens. -/
theorem nextPlace_item (hcomma : ',' ≠ closing) (hclosing : Json.opens closing = false)
    (h : Json.Begins text) : nextPlace closing (',' :: text) = .ok (.item, text) := by
  obtain ⟨c, tail, rfl, hc⟩ := h
  have hblank : skipBlanks (',' :: c :: tail) = ',' :: c :: tail := rfl
  rw [nextPlace, hblank]
  simp only [skipBlanks_of_opens hc, if_neg hcomma, if_neg (ne_closing_of_opens hclosing hc),
    if_true]

end

/-- One more container may be opened where there is room for all that are in it. -/
theorem deeper_eq {depth levels : Nat} {inside : Nat → Reader α} {text : List Char}
    {result : Except ReadError (α × List Char)}
    (h : ∀ inner, depth ≤ inner → inside inner text = result) (hlevels : depth + 1 ≤ levels) :
    deeper levels inside text = result := by
  cases levels with
  | zero => omega
  | succ inner => exact h inner (by omega)

/-! ## Arrays -/

/-- The items after the first are read up to the closing bracket. -/
theorem itemsFrom_renderItems {item : Reader α} {jsons : List Json} {values : List α}
    (h : List.Forall₂ item.Takes jsons values) (rounds : List Char) (done : List α)
    (rest : List Char) (hrounds : jsons.length < rounds.length) :
    itemsFrom item rounds done (Json.renderItems jsons ++ rest) =
      .ok (done.reverse ++ values, rest) := by
  -- each item takes a round and the closing bracket takes the last one
  induction h generalizing rounds done with
  | nil =>
    cases rounds with
    | nil => exact absurd hrounds (by simp)
    | cons r rounds =>
      have hplace := nextPlace_closed ']' (by decide) rest
      simp only [Json.renderItems, List.cons_append, List.nil_append, itemsFrom, hplace, bind,
        Except.bind, pure, Except.pure, List.append_nil]
  | @cons json value jsons values hvalue _ ih =>
    cases rounds with
    | nil => exact absurd hrounds (by simp)
    | cons r rounds =>
      have hplace : nextPlace ']' (',' :: (json.render ++ (Json.renderItems jsons ++ rest))) =
          .ok (.item, json.render ++ (Json.renderItems jsons ++ rest)) :=
        nextPlace_item (by decide) (by decide) (json.begins_render _)
      have hitem := hvalue _ (ends_renderItems jsons rest)
      have hrest := ih rounds (value :: done) (by simpa using hrounds)
      simp only [Json.renderItems, List.cons_append, List.append_assoc, itemsFrom, hplace, hitem,
        hrest, bind, Except.bind, List.reverse_cons, List.nil_append]

/-- A written array is read item by item. -/
theorem items_afterBracket {item : Reader α} {jsons : List Json} {values : List α}
    (h : List.Forall₂ item.Takes jsons values) (rest : List Char) :
    items item (Json.afterBracket jsons ++ rest) = .ok (values, rest) := by
  cases h with
  | nil =>
    have hplace := firstPlace_closed ']' (by decide) rest
    simp only [Json.afterBracket, List.cons_append, List.nil_append, items, hplace, bind,
      Except.bind, pure, Except.pure]
  | @cons json value jsons values hvalue hvalues =>
    have hplace : firstPlace ']' (json.render ++ (Json.renderItems jsons ++ rest)) =
        .ok (.item, json.render ++ (Json.renderItems jsons ++ rest)) :=
      firstPlace_item (by decide) (json.begins_render _)
    have hitem := hvalue _ (ends_renderItems jsons rest)
    have hrest := itemsFrom_renderItems hvalues (Json.renderItems jsons ++ rest) [value] rest
      (Json.length_lt_length_renderItems jsons rest)
    simp only [Json.afterBracket, List.append_assoc, items, hplace, hitem, hrest, bind, Except.bind,
      List.reverse_singleton, List.singleton_append]

/-! ## Objects -/

/-- A written name is read back. -/
theorem fieldName_renderString (name : String) (rest : List Char) :
    fieldName (Json.renderString name ++ rest) = .ok (name, rest) := by
  rw [renderString_append, fieldName, sign, skipBlanks_of_opens (by decide)]
  simp only [if_true, stringBody_render, bind, Except.bind]

/-- The value after a colon is read. -/
theorem afterColon_render {value : Reader α} {json : Json} {found : α}
    (h : value.Takes json found) {rest : List Char} (hrest : Ends rest) :
    afterColon value (':' :: json.render ++ rest) = .ok (found, rest) := by
  have hsign : sign ':' (':' :: (json.render ++ rest)) = .ok (json.render ++ rest) := rfl
  rw [List.cons_append, afterColon, hsign]
  exact h rest hrest

/-- The written fields, each worked into the state that those before it have left, take a state to
another. -/
inductive Works (field : String → σ → Reader σ) : List (String × Json) → σ → σ → Prop where
  | done (state : σ) : Works field [] state state
  | field {name : String} {json : Json} {pairs : List (String × Json)} {state next final : σ}
      (worked : ∀ rest, Ends rest →
        field name state (':' :: json.render ++ rest) = .ok (next, rest))
      (others : Works field pairs next final) : Works field ((name, json) :: pairs) state final

/-- The fields after the first are worked in up to the closing brace. -/
theorem fieldsFrom_renderFields {field : String → σ → Reader σ} {pairs : List (String × Json)}
    {state final : σ} (h : Works field pairs state final) (rounds rest : List Char)
    (hrounds : pairs.length < rounds.length) :
    fieldsFrom field rounds state (Json.renderFields pairs ++ rest) = .ok (final, rest) := by
  induction h generalizing rounds with
  | done state =>
    cases rounds with
    | nil => exact absurd hrounds (by simp)
    | cons r rounds =>
      have hplace := nextPlace_closed '\x7d' (by decide) rest
      simp only [Json.renderFields, List.cons_append, List.nil_append, fieldsFrom, hplace, bind,
        Except.bind, pure, Except.pure]
  | @field name json pairs state next final worked _ ih =>
    cases rounds with
    | nil => exact absurd hrounds (by simp)
    | cons r rounds =>
      have hplace : nextPlace '\x7d' (',' :: (Json.renderString name ++
          (':' :: json.render ++ (Json.renderFields pairs ++ rest)))) =
          .ok (.item, Json.renderString name ++
            (':' :: json.render ++ (Json.renderFields pairs ++ rest))) :=
        nextPlace_item (by decide) (by decide) (Json.begins_renderString name _)
      have hname := fieldName_renderString name
        (':' :: json.render ++ (Json.renderFields pairs ++ rest))
      have hfield := worked _ (ends_renderFields pairs rest)
      have hrest := ih rounds (by simpa using hrounds)
      simp only [List.cons_append] at hname hplace hfield
      simp only [Json.renderFields, List.cons_append, List.append_assoc, fieldsFrom, hplace, hname,
        hfield, hrest, bind, Except.bind]

/-- A written object is worked in field by field. -/
theorem fields_afterBrace {field : String → σ → Reader σ} {pairs : List (String × Json)}
    {state final : σ} (h : Works field pairs state final) (rest : List Char) :
    fields field state (Json.afterBrace pairs ++ rest) = .ok (final, rest) := by
  cases h with
  | done =>
    have hplace := firstPlace_closed '\x7d' (by decide) rest
    simp only [Json.afterBrace, List.cons_append, List.nil_append, fields, hplace, bind,
      Except.bind, pure, Except.pure]
  | @field name json pairs state next final worked others =>
    have hplace : firstPlace '\x7d' (Json.renderString name ++
        (':' :: json.render ++ (Json.renderFields pairs ++ rest))) =
        .ok (.item, Json.renderString name ++
          (':' :: json.render ++ (Json.renderFields pairs ++ rest))) :=
      firstPlace_item (by decide) (Json.begins_renderString name _)
    have hname := fieldName_renderString name
      (':' :: json.render ++ (Json.renderFields pairs ++ rest))
    have hfield := worked _ (ends_renderFields pairs rest)
    have hrest := fieldsFrom_renderFields others (Json.renderFields pairs ++ rest) rest
      (Json.length_lt_length_renderFields pairs rest)
    simp only [List.cons_append] at hname hplace hfield
    simp only [Json.afterBrace, List.cons_append, List.append_assoc, fields, hplace, hname, hfield,
      hrest, bind, Except.bind]

end Suppression.Reader
