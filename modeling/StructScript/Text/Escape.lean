/-! # Escapes in string literals

    The escapes of Go's interpreted string literals, read from the characters
    after a backslash. -/

namespace StructScript.Text

/-- The value of a hexadecimal digit. -/
def hexDigit? (c : Char) : Option Nat :=
  if '0' ≤ c && c ≤ '9' then some (c.toNat - '0'.toNat)
  else if 'a' ≤ c && c ≤ 'f' then some (c.toNat - 'a'.toNat + 10)
  else if 'A' ≤ c && c ≤ 'F' then some (c.toNat - 'A'.toNat + 10)
  else none

/-- The value of an octal digit. -/
def octalDigit? (c : Char) : Option Nat :=
  if '0' ≤ c && c ≤ '7' then some (c.toNat - '0'.toNat) else none

/-- Exactly so many digits of a radix: the number they spell, continued from
    `value`, and the rest. -/
def readDigits (radix : Nat) (digit? : Char → Option Nat) (value : Nat) :
    Nat → List Char → Option (Nat × List Char)
  | 0, text => some (value, text)
  | _ + 1, [] => none
  | count + 1, c :: text =>
      match digit? c with
      | some d => readDigits radix digit? (value * radix + d) count text
      | none => none

/-- The character of a code point; surrogates and numbers beyond the last code
    point have none. -/
def charOfCode? (code : Nat) : Option Char :=
  if code.isValidChar then some (Char.ofNat code) else none

/-- The character of so many hexadecimal digits. -/
def readHexChar (count : Nat) (text : List Char) : Option (Char × List Char) :=
  match readDigits 16 hexDigit? 0 count text with
  | some (code, rest) => (charOfCode? code).map (·, rest)
  | none => none

/-- The character of three octal digits, which spell at most 255. -/
def readOctalChar (text : List Char) : Option (Char × List Char) :=
  match readDigits 8 octalDigit? 0 3 text with
  | some (code, rest) => if code ≤ 0xFF then some (Char.ofNat code, rest) else none
  | none => none

/-- One escape, read from the characters after the backslash. -/
def readEscape : List Char → Option (Char × List Char)
  | 'a' :: rest => some (Char.ofNat 7, rest)
  | 'b' :: rest => some (Char.ofNat 8, rest)
  | 't' :: rest => some ('\t', rest)
  | 'n' :: rest => some ('\n', rest)
  | 'v' :: rest => some (Char.ofNat 11, rest)
  | 'f' :: rest => some (Char.ofNat 12, rest)
  | 'r' :: rest => some ('\r', rest)
  | '\\' :: rest => some ('\\', rest)
  | '"' :: rest => some ('"', rest)
  | 'x' :: rest => readHexChar 2 rest
  | 'u' :: rest => readHexChar 4 rest
  | 'U' :: rest => readHexChar 8 rest
  | text => readOctalChar text

theorem length_le_of_readDigits {radix : Nat} {digit? : Char → Option Nat} :
    ∀ {count value : Nat} {text rest : List Char} {n : Nat},
      readDigits radix digit? value count text = some (n, rest) → rest.length ≤ text.length := by
  intro count
  induction count with
  | zero =>
      intro value text rest n h
      cases h
      exact Nat.le_refl _
  | succ count ih =>
      intro value text rest n h
      cases text with
      | nil => exact nomatch h
      | cons c text =>
          simp only [readDigits] at h
          split at h
          · exact Nat.le_trans (ih h) (Nat.le_succ _)
          · exact nomatch h

theorem length_le_of_readHexChar {count : Nat} {text rest : List Char} {c : Char}
    (h : readHexChar count text = some (c, rest)) : rest.length ≤ text.length := by
  unfold readHexChar at h
  split at h
  · next code tail heq =>
      obtain ⟨d, _, hd⟩ := Option.map_eq_some_iff.mp h
      cases hd
      exact length_le_of_readDigits heq
  · exact nomatch h

theorem length_le_of_readOctalChar {text rest : List Char} {c : Char}
    (h : readOctalChar text = some (c, rest)) : rest.length ≤ text.length := by
  unfold readOctalChar at h
  split at h
  · next code tail heq =>
      split at h
      · cases h
        exact length_le_of_readDigits heq
      · exact nomatch h
  · exact nomatch h

/-- An escape leaves no more characters than it was given. -/
theorem length_le_of_readEscape {text rest : List Char} {c : Char}
    (h : readEscape text = some (c, rest)) : rest.length ≤ text.length := by
  unfold readEscape at h
  split at h
  case h_10 => exact Nat.le_trans (length_le_of_readHexChar h) (Nat.le_succ _)
  case h_11 => exact Nat.le_trans (length_le_of_readHexChar h) (Nat.le_succ _)
  case h_12 => exact Nat.le_trans (length_le_of_readHexChar h) (Nat.le_succ _)
  case h_13 => exact length_le_of_readOctalChar h
  all_goals
    cases h
    exact Nat.le_succ _

/-- Whether every backslash of a text starts an escape. -/
def escapesValid (text : List Char) : Bool :=
  match text with
  | [] => true
  | '\\' :: rest =>
      match h : readEscape rest with
      | some (_, after) =>
          have := length_le_of_readEscape h
          escapesValid after
      | none => false
  | _ :: rest => escapesValid rest
termination_by text.length

end StructScript.Text
