import Suppression.Json.Reader
import Suppression.Json.Value
/-!
# How written values begin and end

No written value begins with a blank or with a sign that stands between values, and only null begins
with its letter (`Json.render_begins`). After a value comes nothing, a comma or the end of a
container (`Reader.Ends`); none of these could belong to the value before it.
-/

namespace Suppression

/-! ## Numbers -/

/-- The digits of a number begin with a digit. -/
theorem Decimal.digitsOf_begins (n : Nat) :
    ∃ c tail, digitsOf n = c :: tail ∧ c.isDigit = true := by
  cases h : digitsOf n with
  | nil => exact absurd h Nat.toDigits_ne_nil
  | cons c tail =>
    refine ⟨c, tail, rfl, ?_⟩
    apply Nat.isDigit_of_mem_toDigits (b := 10) (n := n) (by decide) (by decide)
    rw [← digitsOf, h]
    exact List.mem_cons_self

/-- The text of a number without its sign begins with a digit. -/
theorem Decimal.magnitudeText_begins (digits : Nat) (exponent : Int) :
    ∃ c tail, magnitudeText digits exponent = c :: tail ∧ c.isDigit = true := by
  obtain ⟨c, tail, hdigits, hc⟩ := digitsOf_begins digits
  simp only [magnitudeText, hdigits]
  split
  · exact ⟨_, _, rfl, by decide⟩
  · split
    · exact ⟨c, _, rfl, hc⟩
    · split
      · exact ⟨_, _, rfl, by decide⟩
      · split
        · next hpoint _ =>
          obtain ⟨n, hn⟩ : ∃ n, (((c :: tail).length : Int) + exponent).toNat = n + 1 :=
            ⟨(((c :: tail).length : Int) + exponent).toNat - 1, by omega⟩
          rw [hn]
          exact ⟨c, _, rfl, hc⟩
        · exact ⟨c, _, rfl, hc⟩

/-- The text of a number begins with a digit or a minus. -/
theorem Number.text_begins (number : Number) :
    ∃ c tail, number.text = c :: tail ∧ (c.isDigit = true ∨ c = '-') := by
  cases number with
  | whole value =>
    rw [text, Decimal.integerText]
    split
    · exact ⟨_, _, rfl, .inr rfl⟩
    · obtain ⟨c, tail, hdigits, hc⟩ := Decimal.digitsOf_begins value.natAbs
      exact ⟨c, tail, hdigits, .inl hc⟩
  | decimal value =>
    rw [text, Decimal.text]
    split
    · exact ⟨_, _, rfl, .inr rfl⟩
    · obtain ⟨c, tail, hdigits, hc⟩ := Decimal.magnitudeText_begins value.digits value.exponent
      exact ⟨c, tail, hdigits, .inl hc⟩

/-! ## Values -/

namespace Json

/-- Whether a value may begin with a character. -/
def opens (c : Char) : Bool :=
  c.isDigit || ['-', '"', '[', '\x7b', 'n', 't', 'f'].contains c

/-- A value does not begin with a blank. -/
theorem isBlank_of_opens {c : Char} (h : opens c = true) : Reader.isBlank c = false := by
  cases hblank : Reader.isBlank c with
  | false => rfl
  | true =>
    simp only [Reader.isBlank, Bool.or_eq_true, beq_iff_eq] at hblank
    rcases hblank with ((rfl | rfl) | rfl) | rfl <;> exact absurd h (by decide)

/-- Every written value begins with a character that opens a value, and only null with
its letter. -/
theorem render_begins (json : Json) :
    ∃ c tail, json.render = c :: tail ∧ opens c = true ∧ (json = .null ∨ c ≠ 'n') := by
  cases json with
  | null => exact ⟨_, _, by rw [render], by decide, .inl rfl⟩
  | bool value =>
    cases value with
    | false => exact ⟨_, _, by rw [render], by decide, .inr (by decide)⟩
    | true => exact ⟨_, _, by rw [render], by decide, .inr (by decide)⟩
  | number value =>
    obtain ⟨c, tail, htext, hc⟩ := value.text_begins
    refine ⟨c, tail, by rw [render, htext], ?_, ?_⟩
    · rcases hc with hc | rfl
      · rw [opens, hc, Bool.true_or]
      · decide
    · right
      rintro rfl
      exact absurd hc (by decide)
  | string text => exact ⟨_, _, by rw [render, renderString]; rfl, by decide, .inr (by decide)⟩
  | array items =>
    cases items with
    | nil => exact ⟨_, _, by rw [render], by decide, .inr (by decide)⟩
    | cons item rest => exact ⟨_, _, by rw [render]; rfl, by decide, .inr (by decide)⟩
  | object fields =>
    cases fields with
    | nil => exact ⟨_, _, by rw [render], by decide, .inr (by decide)⟩
    | cons field rest => exact ⟨_, _, by rw [render]; rfl, by decide, .inr (by decide)⟩

/-- The text begins like a value. -/
def Begins (text : List Char) : Prop := ∃ c tail, text = c :: tail ∧ opens c = true

/-- A written value begins like one, whatever follows it. -/
theorem begins_render (json : Json) (rest : List Char) : Begins (json.render ++ rest) := by
  obtain ⟨c, tail, hrender, hopens, -⟩ := json.render_begins
  exact ⟨c, tail ++ rest, by rw [hrender, List.cons_append], hopens⟩

/-- So does a written name. -/
theorem begins_renderString (text : String) (rest : List Char) :
    Begins (renderString text ++ rest) := by
  have hbegins := begins_render (.string text) rest
  rwa [render] at hbegins

/-! ## The inside of a container -/

/-- The text of an array after its opening bracket. -/
def afterBracket : List Json → List Char
  | [] => [']']
  | item :: rest => item.render ++ renderItems rest

/-- The text of an object after its opening brace. -/
def afterBrace : List (String × Json) → List Char
  | [] => ['\x7d']
  | (name, value) :: rest => renderString name ++ ':' :: value.render ++ renderFields rest

/-- An array is its opening bracket and what comes after. -/
theorem render_array (items : List Json) : (array items).render = '[' :: afterBracket items := by
  cases items <;> rw [render, afterBracket]
  rfl

/-- An object is its opening brace and what comes after. -/
theorem render_object (fields : List (String × Json)) :
    (object fields).render = '\x7b' :: afterBrace fields := by
  cases fields <;> rw [render, afterBrace]
  rfl

/-- Each further item takes a character at least. -/
theorem length_lt_length_renderItems (items : List Json) (rest : List Char) :
    items.length < (renderItems items ++ rest).length := by
  induction items with
  | nil => simp [renderItems]
  | cons item items ih =>
    simp only [renderItems, List.length_append, List.length_cons] at ih ⊢
    omega

/-- Each further field takes a character at least. -/
theorem length_lt_length_renderFields (fields : List (String × Json)) (rest : List Char) :
    fields.length < (renderFields fields ++ rest).length := by
  induction fields with
  | nil => simp [renderFields]
  | cons field fields ih =>
    simp only [renderFields, List.length_append, List.length_cons] at ih ⊢
    omega

end Json

/-! ## What follows a value -/

namespace Reader

/-- What may follow a value: nothing, a comma, or the end of a container. -/
def Ends (text : List Char) : Prop := ∀ c, text.head? = some c → c = ',' ∨ c = ']' ∨ c = '\x7d'

/-- Nothing may follow. -/
theorem ends_nil : Ends [] := by
  intro c hc
  exact absurd hc (by simp)

/-- A comma or a closing sign may follow. -/
theorem ends_cons {c : Char} (h : c = ',' ∨ c = ']' ∨ c = '\x7d') (rest : List Char) :
    Ends (c :: rest) := by
  intro d hd
  rw [← Option.some.inj hd]
  exact h

/-- After an item come the other items or the end of the array. -/
theorem ends_renderItems (items : List Json) (rest : List Char) :
    Ends (Json.renderItems items ++ rest) := by
  cases items <;> rw [Json.renderItems]
  · exact ends_cons (.inr (.inl rfl)) rest
  · exact ends_cons (.inl rfl) _

/-- After a field come the other fields or the end of the object. -/
theorem ends_renderFields (fields : List (String × Json)) (rest : List Char) :
    Ends (Json.renderFields fields ++ rest) := by
  cases fields <;> rw [Json.renderFields]
  · exact ends_cons (.inr (.inr rfl)) rest
  · exact ends_cons (.inl rfl) _

/-- A text that begins like a value has no blanks to skip. -/
theorem skipBlanks_of_opens {c : Char} (h : Json.opens c = true) (text : List Char) :
    skipBlanks (c :: text) = c :: text := by
  rw [skipBlanks, List.dropWhile_cons_of_neg (by rw [Json.isBlank_of_opens h]; decide)]

end Reader

end Suppression
