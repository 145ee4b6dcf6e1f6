import Suppression.Json.Content
import Suppression.Proofs.Json.Containers
/-!
# Passing over written values

Every written value is passed over, whatever it is and however deep its containers are nested, and
reading goes on right behind it (`Reader.skip_takes`). Each round takes a character at least, so the
rounds never run out (`Reader.Passes`).
-/

namespace Suppression.Reader

/-! ## Strings -/

/-- A written character is passed over in one round. -/
theorem skipString_escapeChar (c r : Char) (rounds rest : List Char) :
    skipString (r :: rounds) (Json.escapeChar c ++ rest) = skipString rounds rest := by
  unfold Json.escapeChar
  split
  · rfl
  split
  · rfl
  split
  · rfl
  split
  · rfl
  split
  · rfl
  split
  · rfl
  split
  · rfl
  split
  · next h =>
    have hunit := hexUnit_control h rest
    simp only [List.cons_append, List.nil_append, skipString]
    simp [skipEscape, hunit, bind, Except.bind, pure, Except.pure]
  · next hquote hbackslash _ _ _ _ _ hcontrol =>
    simp [skipString, hquote, hbackslash, hcontrol]

/-- Written characters are passed over up to the closing quote. -/
theorem skipString_flatMap_escapeChar (chars rounds rest : List Char)
    (h : chars.length < rounds.length) :
    skipString rounds (chars.flatMap Json.escapeChar ++ '"' :: rest) = .ok rest := by
  induction chars generalizing rounds with
  | nil =>
    cases rounds with
    | nil => exact absurd h (by simp)
    | cons r rounds => rfl
  | cons c chars ih =>
    cases rounds with
    | nil => exact absurd h (by simp)
    | cons r rounds =>
      rw [List.flatMap_cons, List.append_assoc, skipString_escapeChar]
      exact ih rounds (by simpa using h)

/-- A written string is passed over after its opening quote. -/
theorem skipString_render (text : String) (rest : List Char) :
    skipString (text.toList.flatMap Json.escapeChar ++ '"' :: rest)
      (text.toList.flatMap Json.escapeChar ++ '"' :: rest) = .ok rest := by
  apply skipString_flatMap_escapeChar
  have hlength := length_le_length_flatMap_escapeChar text.toList
  rw [List.length_append, List.length_cons]
  omega

/-- The name of a field and its colon are passed over. -/
theorem skipName_render (name : String) (rest : List Char) :
    skipName .object (Json.renderString name ++ ':' :: rest) = .ok rest := by
  have hsign : sign ':' (':' :: rest) = .ok rest := rfl
  rw [renderString_append, skipName, skipString_render]
  exact hsign

/-! ## Tokens -/

/-- A written number is passed over. -/
theorem skipNumeral_text (number : Number) {rest : List Char} (hrest : Ends rest) :
    skipNumeral (number.text ++ rest) = .ok rest := by
  obtain ⟨numeral, hsound, htext⟩ := number.exists_numeral
  rw [skipNumeral, htext, hsound.read_text hrest]

/-- The token of a number is passed over. -/
theorem skipToken_number (number : Number) {rest : List Char} (hrest : Ends rest) :
    skipToken (number.text ++ rest) = .ok (none, rest) := by
  have hnumeral := skipNumeral_text number hrest
  obtain ⟨c, tail, htext, hc⟩ := number.text_begins
  have hopens : Json.opens c = true := by
    rcases hc with hc | rfl
    · rw [Json.opens, hc, Bool.true_or]
    · decide
  rw [htext, List.cons_append] at hnumeral ⊢
  rw [skipToken, skipBlanks_of_opens hopens]
  -- no other token begins with a digit or a minus
  split
  case h_1 => next heq => exact absurd heq (List.cons_ne_nil _ _)
  case h_8 =>
    next heq =>
      obtain ⟨rfl, rfl⟩ := List.cons.inj heq
      rw [if_pos hc.symm, hnumeral]
      rfl
  all_goals
    next heq =>
      cases heq
      exact absurd hc (by decide)

/-! ## Rounds -/

/-- Passing over values leads from one state before a text to another before a later part of it, in
so many rounds that each takes a character at least. -/
def Passes (state : SkipState) (text : List Char) (later : SkipState) (rest : List Char) : Prop :=
  ∃ n, n + rest.length ≤ text.length ∧ ∀ spent rounds, spent.length = n →
    skipFrom (spent ++ rounds) state text = skipFrom rounds later rest

/-- One round leads from one state to another. -/
theorem Passes.round {state later : SkipState} {text rest : List Char}
    (shorter : rest.length < text.length)
    (h : ∀ r rounds, skipFrom (r :: rounds) state text = skipFrom rounds later rest) :
    Passes state text later rest := by
  refine ⟨1, by omega, ?_⟩
  intro spent rounds hspent
  obtain ⟨r, rfl⟩ := List.length_eq_one_iff.1 hspent
  exact h r rounds

/-- After some rounds others may follow. -/
theorem Passes.trans {first second third : SkipState} {text middle rest : List Char}
    (h : Passes first text second middle) (h' : Passes second middle third rest) :
    Passes first text third rest := by
  obtain ⟨m, hm, hfirst⟩ := h
  obtain ⟨n, hn, hsecond⟩ := h'
  refine ⟨m + n, by omega, ?_⟩
  intro spent rounds hspent
  have htake : (spent.take m).length = m := by
    rw [List.length_take]
    omega
  have hdrop : (spent.drop m).length = n := by
    rw [List.length_drop]
    omega
  rw [← List.take_append_drop m spent, List.append_assoc, hfirst _ _ htake, hsecond _ _ hdrop]

/-- What is passed over from the beginning to its end is skipped. -/
theorem Passes.skip {text rest : List Char} (h : Passes (.value []) text (.after []) rest) :
    skip text = .ok ((), rest) := by
  obtain ⟨n, hn, hrounds⟩ := h
  have htake : (text.take n).length = n := by
    rw [List.length_take]
    omega
  have hskip := hrounds _ (text.drop n) htake
  rw [List.take_append_drop, skipFrom] at hskip
  simp only [Reader.skip, hskip, bind, Except.bind, pure, Except.pure]

/-! ## Values -/

/-- A value that is its own token is passed over in one round. -/
theorem passes_token {text rest : List Char} (frames : List Frame)
    (shorter : rest.length < text.length) (h : skipToken text = .ok (none, rest)) :
    Passes (.value frames) text (.after frames) rest := by
  refine Passes.round shorter fun r rounds => ?_
  simp only [skipFrom, h, bind, Except.bind]

/-- The closing sign of a container is passed over. -/
theorem passes_closing (frame : Frame) (frames : List Frame) (rest : List Char) :
    Passes (.after (frame :: frames)) (frame.closing :: rest) (.after frames) rest := by
  refine Passes.round (by simp) fun r rounds => ?_
  have hplace : nextPlace frame.closing (frame.closing :: rest) = .ok (.closed, rest) := by
    cases frame <;> exact nextPlace_closed _ (by decide) rest
  simp only [skipFrom, hplace, bind, Except.bind]

/-- An opening sign that the closing one follows is passed over. -/
theorem passes_empty (frame : Frame) (frames : List Frame) {text : List Char} (rest : List Char)
    (h : skipToken text = .ok (some frame, frame.closing :: rest))
    (shorter : rest.length < text.length) : Passes (.value frames) text (.after frames) rest := by
  refine Passes.round shorter fun r rounds => ?_
  have hplace : firstPlace frame.closing (frame.closing :: rest) = .ok (.closed, rest) := by
    cases frame <;> exact firstPlace_closed _ (by decide) rest
  simp only [skipFrom, h, hplace, bind, Except.bind]

/-- No value begins with a closing sign. -/
theorem opens_closing (frame : Frame) : Json.opens frame.closing = false := by
  cases frame <;> decide

/-- An opening sign that a value or a name follows is passed over, and the name with it. -/
theorem passes_first (frame : Frame) (frames : List Frame) {text middle rest : List Char}
    (h : skipToken text = .ok (some frame, middle)) (begins : Json.Begins middle)
    (named : skipName frame middle = .ok rest) (shorter : rest.length < text.length) :
    Passes (.value frames) text (.value (frame :: frames)) rest := by
  refine Passes.round shorter fun r rounds => ?_
  have hplace : firstPlace frame.closing middle = .ok (.item, middle) :=
    firstPlace_item (opens_closing frame) begins
  simp only [skipFrom, h, hplace, named, bind, Except.bind]

/-- A comma that a value or a name follows is passed over, and the name with it. -/
theorem passes_comma (frame : Frame) (frames : List Frame) {middle rest : List Char}
    (begins : Json.Begins middle) (named : skipName frame middle = .ok rest)
    (shorter : rest.length < (',' :: middle).length) :
    Passes (.after (frame :: frames)) (',' :: middle) (.value (frame :: frames)) rest := by
  refine Passes.round shorter fun r rounds => ?_
  have hplace : nextPlace frame.closing (',' :: middle) = .ok (.item, middle) :=
    nextPlace_item (by cases frame <;> decide) (opens_closing frame) begins
  simp only [skipFrom, hplace, named, bind, Except.bind]

/-- A written value takes a character at least. -/
theorem length_lt_render (json : Json) (rest : List Char) :
    rest.length < (json.render ++ rest).length := by
  obtain ⟨c, tail, hrender, -⟩ := json.render_begins
  rw [hrender, List.length_append, List.length_cons]
  omega

mutual

/-- A written value is passed over. -/
theorem passes_render (frames : List Frame) {rest : List Char} (hrest : Ends rest) (json : Json) :
    Passes (.value frames) (json.render ++ rest) (.after frames) rest := by
  have hshorter := length_lt_render json rest
  -- a container is opened, and then passed over part by part with one more frame
  match json with
  | .null => exact passes_token frames hshorter (by rw [Json.render]; rfl)
  | .bool true => exact passes_token frames hshorter (by rw [Json.render]; rfl)
  | .bool false => exact passes_token frames hshorter (by rw [Json.render]; rfl)
  | .number number =>
    refine passes_token frames hshorter ?_
    rw [Json.render]
    exact skipToken_number number hrest
  | .string text =>
    refine passes_token frames hshorter ?_
    rw [Json.render, renderString_append, skipToken, skipBlanks_of_opens (by decide)]
    simp only [skipString_render, bind, Except.bind, pure, Except.pure]
  | .array [] => exact passes_empty .array frames rest (by rw [Json.render]; rfl) hshorter
  | .array (item :: items) =>
    have hopened : Passes (.value frames) ((Json.array (item :: items)).render ++ rest)
        (.value (.array :: frames)) (item.render ++ (Json.renderItems items ++ rest)) := by
      rw [Json.render, List.cons_append, List.cons_append, List.append_assoc]
      exact passes_first .array frames rfl (item.begins_render _) rfl (by simp)
    have hitem := passes_render (.array :: frames) (ends_renderItems items rest) item
    exact (hopened.trans hitem).trans (passes_renderItems frames rest items)
  | .object [] => exact passes_empty .object frames rest (by rw [Json.render]; rfl) hshorter
  | .object ((name, value) :: fields) =>
    have hopened : Passes (.value frames) ((Json.object ((name, value) :: fields)).render ++ rest)
        (.value (.object :: frames)) (value.render ++ (Json.renderFields fields ++ rest)) := by
      rw [Json.render]
      simp only [List.cons_append, List.append_assoc]
      exact passes_first .object frames rfl (Json.begins_renderString name _)
        (skipName_render name _) (by simp only [List.length_cons, List.length_append]; omega)
    have hvalue := passes_render (.object :: frames) (ends_renderFields fields rest) value
    exact (hopened.trans hvalue).trans (passes_renderFields frames rest fields)

/-- The items of an array after its first are passed over, and its closing bracket. -/
theorem passes_renderItems (frames : List Frame) (rest : List Char) (items : List Json) :
    Passes (.after (.array :: frames)) (Json.renderItems items ++ rest) (.after frames) rest := by
  match items with
  | [] =>
    rw [Json.renderItems]
    exact passes_closing .array frames rest
  | item :: items =>
    have hcomma : Passes (.after (.array :: frames)) (Json.renderItems (item :: items) ++ rest)
        (.value (.array :: frames)) (item.render ++ (Json.renderItems items ++ rest)) := by
      rw [Json.renderItems, List.cons_append, List.cons_append, List.append_assoc]
      exact passes_comma .array frames (item.begins_render _) rfl (by simp)
    have hitem := passes_render (.array :: frames) (ends_renderItems items rest) item
    exact (hcomma.trans hitem).trans (passes_renderItems frames rest items)

/-- The fields of an object after its first are passed over, and its closing brace. -/
theorem passes_renderFields (frames : List Frame) (rest : List Char)
    (fields : List (String × Json)) :
    Passes (.after (.object :: frames)) (Json.renderFields fields ++ rest)
      (.after frames) rest := by
  match fields with
  | [] =>
    rw [Json.renderFields]
    exact passes_closing .object frames rest
  | (name, value) :: fields =>
    have hcomma : Passes (.after (.object :: frames))
        (Json.renderFields ((name, value) :: fields) ++ rest) (.value (.object :: frames))
        (value.render ++ (Json.renderFields fields ++ rest)) := by
      rw [Json.renderFields]
      simp only [List.cons_append, List.append_assoc]
      exact passes_comma .object frames (Json.begins_renderString name _) (skipName_render name _)
        (by simp only [List.length_cons, List.length_append]; omega)
    have hvalue := passes_render (.object :: frames) (ends_renderFields fields rest) value
    exact (hcomma.trans hvalue).trans (passes_renderFields frames rest fields)

end

/-- **Every written value is skipped.** -/
theorem skip_takes (json : Json) : skip.Takes json () := by
  intro rest hrest
  exact (passes_render [] hrest json).skip

end Suppression.Reader
