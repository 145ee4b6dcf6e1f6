import Suppression.Json.Container
import Suppression.Proofs.Json.Numerals
/-!
# Written tokens

The digits of a whole number, the characters of a string and the words of the other simple values
are read back as the tokens they were written for, and reading stops where they end
(`Reader.token_renderString`, `Reader.token_natural`).
-/

namespace Suppression

namespace Reader

/-- Escaping does not shorten a text. -/
theorem length_le_length_flatMap_escapeChar (chars : List Char) :
    chars.length ≤ (chars.flatMap Json.escapeChar).length := by
  induction chars with
  | nil => exact Nat.le_refl _
  | cons c chars ih =>
    have hpos : 0 < (Json.escapeChar c).length := by
      unfold Json.escapeChar
      repeat' split
      all_goals simp
    rw [List.flatMap_cons, List.length_append, List.length_cons]
    omega

/-- A written string is read back after its opening quote. -/
theorem stringBody_render (text : String) (rest : List Char) :
    stringBody (text.toList.flatMap Json.escapeChar ++ '"' :: rest) = .ok (text, rest) := by
  have hlength := length_le_length_flatMap_escapeChar text.toList
  rw [stringBody, stringFrom_flatMap_escapeChar]
  · simp [bind, Except.bind, pure, Except.pure]
  · rw [List.length_append, List.length_cons]
    omega

/-- A written string, split at its opening quote. -/
theorem renderString_append (text : String) (rest : List Char) :
    Json.renderString text ++ rest =
      '"' :: (text.toList.flatMap Json.escapeChar ++ '"' :: rest) := by
  simp [Json.renderString]

/-- The token of a string. -/
theorem token_renderString (text : String) (rest : List Char) :
    token (Json.renderString text ++ rest) = .ok (.string text, rest) := by
  rw [renderString_append, token, skipBlanks_of_opens (by decide)]
  simp only [stringBody_render, bind, Except.bind, pure, Except.pure]

/-- The token of a truth value. -/
theorem token_bool (value : Bool) (rest : List Char) :
    token ((Json.bool value).render ++ rest) = .ok (.bool value, rest) := by
  cases value <;> rw [Json.render] <;> rfl

/-- The token of a whole number that is not negative. -/
theorem token_natural {n : Nat} (h : n < UInt64.size) {rest : List Char} (hrest : Ends rest) :
    token ((Json.natural n).render ++ rest) = .ok (.number (.whole n), rest) := by
  have hrender : (Json.natural n).render = Decimal.digitsOf n := by
    rw [Json.natural, Json.render, Number.text, Decimal.integerText_natural]
  have hnumber : number (Decimal.digitsOf n ++ rest) = .ok (.whole n, rest) := by
    simp only [number, Numeral.read_digitsOf n hrest, Numeral.toNumber?_digitsOf h, bind,
      Except.bind, pure, Except.pure]
  obtain ⟨c, tail, htext, hc⟩ := Decimal.digitsOf_begins n
  rw [hrender, htext, List.cons_append, token,
    skipBlanks_of_opens (by rw [Json.opens, hc, Bool.true_or])]
  rw [htext, List.cons_append] at hnumber
  -- no other token begins with a digit
  split
  case h_1 => next heq => exact absurd heq (List.cons_ne_nil _ _)
  case h_8 =>
    next heq =>
      obtain ⟨rfl, rfl⟩ := List.cons.inj heq
      rw [if_pos (.inr hc), hnumber]
      rfl
  all_goals
    next heq =>
      cases heq
      exact absurd hc (by decide)

/-- The token of an array is its opening bracket. -/
theorem token_array (items : List Json) (rest : List Char) :
    token ((Json.array items).render ++ rest) =
      .ok (.openArray, Json.afterBracket items ++ rest) := by
  rw [Json.render_array]
  rfl

/-- The token of an object is its opening brace. -/
theorem token_object (fields : List (String × Json)) (rest : List Char) :
    token ((Json.object fields).render ++ rest) =
      .ok (.openObject, Json.afterBrace fields ++ rest) := by
  rw [Json.render_object]
  rfl

end Reader

end Suppression
