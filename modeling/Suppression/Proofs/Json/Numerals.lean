import Suppression.Json.Numeral
import Suppression.Proofs.Json.Opening
/-!
# Written numbers

The text of a numeral is read as that numeral, and reading stops where it ends
(`Numeral.Sound.read_text`). Every number is written as the text of a numeral, whole or decimal,
positional or scientific (`Number.exists_numeral`).
-/

namespace Suppression

namespace Numeral

/-! ## Digits -/

/-- The characters of a number are digits. -/
theorem isDigit_of_mem_digitsOf {n : Nat} {c : Char} (h : c ∈ Decimal.digitsOf n) :
    c.isDigit = true :=
  Nat.isDigit_of_mem_toDigits (by decide) (by decide) h

/-- The digits of a number stand for it. -/
theorem ofDigits_digitsOf (n : Nat) : ofDigits (Decimal.digitsOf n) = n := by
  rw [ofDigits, ← Nat.ofDigitChars_eq_foldl, Decimal.digitsOf]
  exact Nat.ofDigitChars_toDigits (by decide) (by decide)

/-- A number above zero does not begin with a zero. -/
theorem head?_digitsOf_ne_zero {n : Nat} (h : 0 < n) :
    (Decimal.digitsOf n).head? ≠ some '0' := by
  induction n using Nat.strongRecOn with
  | ind n ih =>
    rw [Decimal.digitsOf, Nat.toDigits_eq_if (by decide)]
    split
    · next hlt =>
      have hdigits : ∀ d < 10, 0 < d → [d.digitChar].head? ≠ some '0' := by decide
      exact hdigits n hlt h
    · -- all digits but the last are those of a smaller number
      have hhead := ih (n / 10) (by omega) (by omega)
      obtain ⟨c, tail, hdigits, -⟩ := Decimal.digitsOf_begins (n / 10)
      rw [hdigits] at hhead
      rw [Decimal.digitsOf] at hdigits
      rw [hdigits]
      exact hhead

/-- The digits at the beginning of a text end where no digit follows. -/
theorem digits_append {shown rest : List Char} (hshown : ∀ c ∈ shown, c.isDigit = true)
    (hne : shown ≠ []) (hrest : ∀ c, rest.head? = some c → c.isDigit = false) :
    digits (shown ++ rest) = .ok (shown, rest) := by
  have htake : rest.takeWhile (·.isDigit) = [] := by
    cases rest with
    | nil => rfl
    | cons c rest => rw [List.takeWhile_cons_of_neg (by rw [hrest c rfl]; decide)]
  have hdrop : rest.dropWhile (·.isDigit) = rest := by
    cases rest with
    | nil => rfl
    | cons c rest => rw [List.dropWhile_cons_of_neg (by rw [hrest c rfl]; decide)]
  have hsplit : (shown ++ rest).takeWhile (·.isDigit) = shown ∧
      (shown ++ rest).dropWhile (·.isDigit) = rest := by
    rw [List.takeWhile_append_of_pos hshown, List.dropWhile_append_of_pos hshown, htake, hdrop,
      List.append_nil]
    exact ⟨rfl, rfl⟩
  cases shown with
  | nil => exact absurd rfl hne
  | cons c shown =>
    rw [List.cons_append] at hsplit ⊢
    rw [digits, if_pos (hshown c List.mem_cons_self), hsplit.1, hsplit.2]

/-! ## The text of a numeral -/

/-- The point and the digits after it, if there are any. -/
def fractionText : List Char → List Char
  | [] => []
  | c :: rest => '.' :: c :: rest

/-- Where there are digits after the point, it is written. -/
theorem fractionText_of_ne_nil {fraction : List Char} (h : fraction ≠ []) :
    fractionText fraction = '.' :: fraction := by
  cases fraction with
  | nil => exact absurd rfl h
  | cons c fraction => rfl

/-- The exponent after its mark, if there is one. -/
def scaleText : Option Int → List Char
  | none => []
  | some exponent => 'e' :: Decimal.exponentText exponent

/-- The text of a numeral without its sign. -/
def unsignedText (numeral : Numeral) : List Char :=
  numeral.whole ++ fractionText numeral.fraction ++ scaleText numeral.exponent

/-- The text of a numeral. -/
def text (numeral : Numeral) : List Char :=
  if numeral.negative then '-' :: numeral.unsignedText else numeral.unsignedText

/-- The parts of the numeral are digits, there are some before the point, and only a single one of
these may be a zero at their beginning. -/
structure Sound (numeral : Numeral) : Prop where
  /-- The whole part is made of digits. -/
  isDigit_whole : ∀ c ∈ numeral.whole, c.isDigit = true
  /-- There is a whole part. -/
  whole_ne_nil : numeral.whole ≠ []
  /-- The whole part has no leading zero. -/
  head?_whole : 1 < numeral.whole.length → numeral.whole.head? ≠ some '0'
  /-- The fraction is made of digits. -/
  isDigit_fraction : ∀ c ∈ numeral.fraction, c.isDigit = true

/-! ## Reading it -/

/-- What may follow a value is no digit. -/
theorem isDigit_of_ends {rest : List Char} (hrest : Reader.Ends rest) :
    ∀ c, rest.head? = some c → c.isDigit = false := by
  intro c hc
  rcases hrest c hc with rfl | rfl | rfl <;> decide

/-- The digits before the point are read. -/
theorem readWhole_append {whole rest : List Char} (hwhole : ∀ c ∈ whole, c.isDigit = true)
    (hne : whole ≠ []) (hzero : 1 < whole.length → whole.head? ≠ some '0')
    (hrest : ∀ c, rest.head? = some c → c.isDigit = false) :
    readWhole (whole ++ rest) = .ok (whole, rest) := by
  rw [readWhole, digits_append hwhole hne hrest]
  exact if_neg fun h => hzero h.1 h.2

/-- The fraction is read where no digit and no point follows. -/
theorem readFraction_fractionText {fraction rest : List Char}
    (hfraction : ∀ c ∈ fraction, c.isDigit = true)
    (hrest : ∀ c, rest.head? = some c → c.isDigit = false ∧ c ≠ '.') :
    readFraction (fractionText fraction ++ rest) = .ok (fraction, rest) := by
  cases fraction with
  | nil =>
    rw [fractionText, List.nil_append, readFraction]
    rintro tail rfl
    exact (hrest '.' rfl).2 rfl
  | cons c fraction =>
    rw [fractionText, List.cons_append, readFraction]
    exact digits_append hfraction (by simp) fun d hd => (hrest d hd).1

/-- The exponent is read where a value may end. -/
theorem readExponent_scaleText (exponent : Option Int) {rest : List Char}
    (hrest : Reader.Ends rest) :
    readExponent (scaleText exponent ++ rest) = .ok (exponent, rest) := by
  cases exponent with
  | none =>
    cases rest with
    | nil => rfl
    | cons c rest => rcases hrest c rfl with rfl | rfl | rfl <;> rfl
  | some exponent =>
    have hdigits : digits (Decimal.digitsOf exponent.natAbs ++ rest) =
        .ok (Decimal.digitsOf exponent.natAbs, rest) :=
      digits_append (fun c hc => isDigit_of_mem_digitsOf hc) Nat.toDigits_ne_nil
        (isDigit_of_ends hrest)
    have hsigned : readSigned (Decimal.exponentText exponent ++ rest) = .ok (exponent, rest) := by
      rw [Decimal.exponentText]
      by_cases hneg : exponent < 0
      · rw [if_pos hneg, List.cons_append, readSigned]
        simp only [hdigits, ofDigits_digitsOf, bind, Except.bind, pure, Except.pure]
        rw [show -(exponent.natAbs : Int) = exponent by omega]
      · rw [if_neg hneg, List.cons_append, readSigned]
        simp only [hdigits, ofDigits_digitsOf, bind, Except.bind, pure, Except.pure]
        rw [show (exponent.natAbs : Int) = exponent by omega]
    rw [scaleText, List.cons_append, readExponent, if_pos (.inl rfl)]
    simp only [hsigned, bind, Except.bind, pure, Except.pure]

/-- What begins with an exponent or ends a value begins with no digit and no point. -/
theorem head?_scaleText (exponent : Option Int) {rest : List Char} (hrest : Reader.Ends rest) :
    ∀ c, (scaleText exponent ++ rest).head? = some c → c.isDigit = false ∧ c ≠ '.' := by
  intro c hc
  cases exponent with
  | none => rcases hrest c hc with rfl | rfl | rfl <;> decide
  | some exponent =>
    obtain rfl := Option.some.inj hc
    decide

/-- **The text of a numeral is read as that numeral**, and reading stops behind it. -/
theorem Sound.read_text {numeral : Numeral} (sound : numeral.Sound) {rest : List Char}
    (hrest : Reader.Ends rest) : read (numeral.text ++ rest) = .ok (numeral, rest) := by
  obtain ⟨negative, whole, fraction, exponent⟩ := numeral
  obtain ⟨hwhole, hne, hzero, hfraction⟩ := sound
  have hscale := head?_scaleText exponent hrest
  have hpoint : ∀ c, (fractionText fraction ++ (scaleText exponent ++ rest)).head? = some c →
      c.isDigit = false := by
    intro c hc
    cases fraction with
    | nil => exact (hscale c hc).1
    | cons d fraction =>
      obtain rfl := Option.some.inj hc
      decide
  have hunsigned : readUnsigned negative
      (whole ++ (fractionText fraction ++ (scaleText exponent ++ rest))) =
      .ok ({ negative, whole, fraction, exponent }, rest) := by
    simp only [readUnsigned, readWhole_append hwhole hne hzero hpoint,
      readFraction_fractionText hfraction hscale, readExponent_scaleText exponent hrest, bind,
      Except.bind, pure, Except.pure]
  simp only [text, unsignedText]
  cases negative with
  | true => simpa [read] using hunsigned
  | false =>
    -- a digit comes first, and no minus
    cases whole with
    | nil => exact absurd rfl hne
    | cons c whole =>
      simp only [Bool.false_eq_true, if_false, List.append_assoc, List.cons_append] at hunsigned ⊢
      rw [read]
      · exact hunsigned
      · rintro _ ⟨rfl, -⟩
        exact absurd (hwhole '-' List.mem_cons_self) (by decide)

/-! ## Numbers are written as numerals -/

/-- The digits of a number are the sound numeral of that number. -/
theorem sound_digitsOf (negative : Bool) (n : Nat) (exponent : Option Int) :
    Sound { negative, whole := Decimal.digitsOf n, exponent } := by
  refine ⟨fun c hc => isDigit_of_mem_digitsOf hc, Nat.toDigits_ne_nil, ?_, by simp⟩
  intro hlength
  rcases Nat.eq_zero_or_pos n with rfl | hpos
  · exact absurd hlength (show ¬ 1 < (Decimal.digitsOf 0).length by decide)
  · exact head?_digitsOf_ne_zero hpos

/-- Zeros are digits. -/
theorem isDigit_of_mem_zeros {n : Nat} {c : Char} (h : c ∈ List.replicate n '0') :
    c.isDigit = true := by
  rw [List.eq_of_mem_replicate h]
  decide

/-- A numeral with a point between its digits. -/
theorem sound_of_fraction (negative : Bool) {first : Char} {whole fraction : List Char}
    (exponent : Option Int) (hfirst : first.isDigit = true)
    (hwhole : ∀ c ∈ whole, c.isDigit = true) (hzero : whole ≠ [] → first ≠ '0')
    (hfraction : ∀ c ∈ fraction, c.isDigit = true) :
    Sound { negative, whole := first :: whole, fraction, exponent } := by
  refine ⟨List.forall_mem_cons.2 ⟨hfirst, hwhole⟩, List.cons_ne_nil _ _, ?_, hfraction⟩
  intro hlength hhead
  refine hzero ?_ (Option.some.inj hhead)
  rintro rfl
  exact absurd hlength (by simp)

/-- The text of a decimal number without its sign is that of a sound numeral. -/
theorem exists_magnitudeText (negative : Bool) (digits : Nat) (exponent : Int) :
    ∃ numeral : Numeral, numeral.negative = negative ∧ numeral.Sound ∧
      numeral.unsignedText = Decimal.magnitudeText digits exponent := by
  have hdigit : ∀ c ∈ Decimal.digitsOf digits, c.isDigit = true := fun c hc =>
    isDigit_of_mem_digitsOf hc
  have hzeros : ∀ c ∈ ['0'], c.isDigit = true := List.forall_mem_singleton.2 rfl
  obtain ⟨first, others, hshown, hfirst⟩ := Decimal.digitsOf_begins digits
  simp only [Decimal.magnitudeText]
  split
  · -- zero
    exact ⟨⟨negative, ['0'], ['0'], none⟩, rfl,
      sound_of_fraction negative none (by decide) (by simp) (by simp) hzeros, rfl⟩
  next hpos =>
  have hzero : first ≠ '0' := by
    have hhead := head?_digitsOf_ne_zero (Nat.pos_of_ne_zero hpos)
    rw [hshown] at hhead
    exact fun h => hhead (congrArg some h)
  rw [hshown] at hdigit ⊢
  have hothers : ∀ c ∈ others, c.isDigit = true := fun c hc =>
    hdigit c (List.mem_cons_of_mem first hc)
  generalize hpoint : ((first :: others).length : Int) + exponent = point
  split
  · -- scientific
    refine ⟨⟨negative, [first], others, some (point - 1)⟩, rfl,
      sound_of_fraction negative _ hfirst (by simp) (by simp) hothers, ?_⟩
    cases others <;> rfl
  split
  · -- all digits stand after the point
    refine ⟨⟨negative, ['0'], List.replicate (-point).toNat '0' ++ first :: others, none⟩, rfl,
      sound_of_fraction negative none (by decide) (by simp) (by simp) ?_, ?_⟩
    · intro c hc
      rcases List.mem_append.1 hc with hc | hc
      · exact isDigit_of_mem_zeros hc
      · exact hdigit c hc
    · rw [unsignedText, fractionText_of_ne_nil (by simp)]
      simp [scaleText]
  next hpositive =>
  split
  · -- the point stands between the digits
    next hexponent =>
    obtain ⟨n, rfl⟩ : ∃ n : Nat, point = n + 1 := ⟨(point - 1).toNat, by omega⟩
    have hrest : others.drop n ≠ [] := by
      rw [Ne, List.drop_eq_nil_iff]
      rw [List.length_cons] at hpoint
      omega
    refine ⟨⟨negative, first :: others.take n, others.drop n, none⟩, rfl,
      sound_of_fraction negative none hfirst ?_ (fun _ => hzero) ?_, ?_⟩
    · exact fun c hc => hothers c (List.mem_of_mem_take hc)
    · exact fun c hc => hothers c (List.mem_of_mem_drop hc)
    · rw [unsignedText, fractionText_of_ne_nil hrest]
      simp [scaleText]
  · -- zeros and the point follow the digits
    refine ⟨⟨negative, first :: (others ++ List.replicate exponent.toNat '0'), ['0'], none⟩, rfl,
      sound_of_fraction negative none hfirst ?_ (fun _ => hzero) hzeros, ?_⟩
    · intro c hc
      rcases List.mem_append.1 hc with hc | hc
      · exact hothers c hc
      · exact isDigit_of_mem_zeros hc
    · simp [unsignedText, fractionText, scaleText]

end Numeral

/-- **Every number is written as a sound numeral.** -/
theorem Number.exists_numeral (number : Number) :
    ∃ numeral : Numeral, numeral.Sound ∧ number.text = numeral.text := by
  cases number with
  | whole value =>
    refine ⟨_, Numeral.sound_digitsOf (decide (value < 0)) value.natAbs none, ?_⟩
    simp [Number.text, Decimal.integerText, Numeral.text, Numeral.unsignedText,
      Numeral.fractionText, Numeral.scaleText]
  | decimal value =>
    obtain ⟨numeral, hnegative, hsound, htext⟩ :=
      Numeral.exists_magnitudeText value.negative value.digits value.exponent
    refine ⟨numeral, hsound, ?_⟩
    rw [Number.text, Decimal.text, Numeral.text, hnegative, htext]

namespace Numeral

/-- A written whole number is read as its digits, and reading stops behind them. -/
theorem read_digitsOf (n : Nat) {rest : List Char} (hrest : Reader.Ends rest) :
    read (Decimal.digitsOf n ++ rest) =
      .ok ({ negative := false, whole := Decimal.digitsOf n }, rest) := by
  have hread := (sound_digitsOf false n none).read_text hrest
  simpa [text, unsignedText, fractionText, scaleText] using hread

/-- Digits that fit into 64 bits are a whole number. -/
theorem toNumber?_digitsOf {n : Nat} (h : n < UInt64.size) :
    toNumber? { negative := false, whole := Decimal.digitsOf n } = some (.whole n) := by
  simp [toNumber?, ofDigits_digitsOf, h]

end Numeral

end Suppression
