import Suppression.Json.Reader
/-!
# String literals

A string literal stands between quotes. Quotes, backslashes and control characters in it are
escaped; any character may be, also as one or two code units of four hexadecimal digits. The written
form of a string is read back as the string (`stringFrom_flatMap_escapeChar`).
-/

namespace Suppression.Reader

/-! ## Escapes -/

/-- The value of a hexadecimal digit. -/
def hexDigit? (c : Char) : Option Nat :=
  if c.isDigit then some (c.toNat - '0'.toNat)
  else if 'a' ≤ c ∧ c ≤ 'f' then some (c.toNat - 'a'.toNat + 10)
  else if 'A' ≤ c ∧ c ≤ 'F' then some (c.toNat - 'A'.toNat + 10)
  else none

/-- The number of UTF-8 bytes of a text. -/
def byteCount (text : List Char) : Nat := (String.ofList text).utf8ByteSize

/-- Takes four hexadecimal digits. A text of fewer than four bytes is too short for them. -/
def hexUnit : Reader Nat
  | a :: b :: c :: d :: rest =>
    match hexDigit? a, hexDigit? b, hexDigit? c, hexDigit? d with
    | some a, some b, some c, some d => .ok (((a * 16 + b) * 16 + c) * 16 + d, rest)
    | _, _, _, _ => .error .malformed
  | short => .error (if byteCount short < 4 then .truncated else .malformed)

/-- The second half of a character beyond the basic plane, after the unit that announces it. -/
def lowSurrogate (high : Nat) (text : List Char) : Except ReadError (Char × List Char) := do
  let text ← word ['\\', 'u'] text
  let (low, rest) ← hexUnit text
  if 0xdc00 ≤ low ∧ low ≤ 0xdfff then
    return (Char.ofNat (0x10000 + (high - 0xd800) * 0x400 + (low - 0xdc00)), rest)
  else .error .malformed

/-- The character of a code unit, or of two if the first announces a second. -/
def unitEscape : Reader Char := fun text => do
  let (unit, rest) ← hexUnit text
  if 0xdc00 ≤ unit ∧ unit ≤ 0xdfff then .error .malformed
  else if 0xd800 ≤ unit ∧ unit ≤ 0xdbff then lowSurrogate unit rest
  else return (Char.ofNat unit, rest)

/-- The character that a letter after a backslash stands for. -/
def simpleEscape? (c : Char) : Option Char :=
  if c = '"' ∨ c = '\\' ∨ c = '/' then some c
  else if c = 'b' then some '\x08'
  else if c = 'f' then some '\x0c'
  else if c = 'n' then some '\n'
  else if c = 'r' then some '\r'
  else if c = 't' then some '\t'
  else none

/-- The character of an escape, after its backslash. -/
def escape : Reader Char
  | [] => .error .truncated
  | c :: rest =>
    if c = 'u' then unitEscape rest
    else
      match simpleEscape? c with
      | some meant => .ok (meant, rest)
      | none => .error .malformed

/-! ## Strings -/

/-- Takes the characters of a string up to its closing quote; `done` holds those before, last
first. -/
def stringFrom : List Char → List Char → Reader (List Char)
  | [], _, _ => .error .truncated
  | _, _, [] => .error .truncated
  | _ :: rounds, done, c :: rest =>
    if c = '"' then .ok (done.reverse, rest)
    else if c = '\\' then do
      let (meant, rest) ← escape rest
      stringFrom rounds (meant :: done) rest
    else if c.toNat < 0x20 then .error .malformed
    else stringFrom rounds (c :: done) rest

/-- Takes a string after its opening quote. -/
def stringBody : Reader String := fun text => do
  let (chars, rest) ← stringFrom text [] text
  return (String.ofList chars, rest)

/-- The code unit of a control character is read back from its four digits. -/
theorem hexUnit_control {n : Nat} (h : n < 0x20) (rest : List Char) :
    hexUnit ('0' :: '0' :: Nat.digitChar (n / 16) :: Nat.digitChar (n % 16) :: rest) =
      .ok (n, rest) := by
  rcases n with
    _ | _ | _ | _ | _ | _ | _ | _ | _ | _ | _ | _ | _ | _ | _ | _ |
    _ | _ | _ | _ | _ | _ | _ | _ | _ | _ | _ | _ | _ | _ | _ | _ | n
  case succ => omega
  all_goals rfl

/-- A control character is read back from its four digits. -/
theorem unitEscape_control {n : Nat} (h : n < 0x20) (rest : List Char) :
    unitEscape ('0' :: '0' :: Nat.digitChar (n / 16) :: Nat.digitChar (n % 16) :: rest) =
      .ok (Char.ofNat n, rest) := by
  have hunit := hexUnit_control h rest
  have hlow : ¬ (0xdc00 ≤ n ∧ n ≤ 0xdfff) := by omega
  have hhigh : ¬ (0xd800 ≤ n ∧ n ≤ 0xdbff) := by omega
  simp only [unitEscape, hunit, if_neg hlow, if_neg hhigh, bind, Except.bind, pure, Except.pure]

/-- A character is read back from its written form. -/
theorem stringFrom_escapeChar (c r : Char) (rounds done rest : List Char) :
    stringFrom (r :: rounds) done (Json.escapeChar c ++ rest) =
      stringFrom rounds (c :: done) rest := by
  unfold Json.escapeChar
  split
  · next h => subst h; rfl
  split
  · next h => subst h; rfl
  split
  · next h => subst h; rfl
  split
  · next h => subst h; rfl
  split
  · next h => subst h; rfl
  split
  · next h => subst h; rfl
  split
  · next h => subst h; rfl
  split
  · next h =>
    have hunit := unitEscape_control h rest
    simp only [List.cons_append, List.nil_append, stringFrom]
    simp [escape, hunit, Char.ofNat_toNat, bind, Except.bind]
  · next hquote hbackslash _ _ _ _ _ hcontrol =>
    simp [stringFrom, hquote, hbackslash, hcontrol]

/-- A string is read back from its written characters, in as many rounds as it has characters and
one for the closing quote. -/
theorem stringFrom_flatMap_escapeChar (text rounds done rest : List Char)
    (h : text.length < rounds.length) :
    stringFrom rounds done (text.flatMap Json.escapeChar ++ '"' :: rest) =
      .ok (done.reverse ++ text, rest) := by
  induction text generalizing rounds done with
  | nil =>
    cases rounds with
    | nil => simp at h
    | cons r rounds => simp [stringFrom]
  | cons c text ih =>
    cases rounds with
    | nil => simp at h
    | cons r rounds =>
      rw [List.flatMap_cons, List.append_assoc, stringFrom_escapeChar,
        ih rounds (c :: done) (by simpa using h)]
      simp

end Suppression.Reader
