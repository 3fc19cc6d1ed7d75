import StructScript.Proofs.TagGrammar

/-! # Raw and interpreted tag literals

    A tag is written between backquotes as it is, or between double quotes with escapes.
    Its values are literals themselves, so in the second form what stands for a quote of a
    value, or for the backslash of an escape in it, is an escape too.

    * `StructTag.escaped` writes a text with escapes, and `StructTag.denotes_escaped` says
      that it means the text, whatever is in it;
    * so one layer of decoding takes either form back to the text of the tag, and the pairs
      are read from there (`StructTag.raw_and_interpreted_literals_agree`). -/

namespace StructScript.StructTag

/-- The characters that are not written as they are between double quotes, and how they are
    written. -/
def escapeForms : List (Char × List Char) :=
  [('\\', ['\\', '\\']), ('"', ['\\', '"']), ('\n', ['\\', 'n']), ('\r', ['\\', 'r']),
   (Char.ofNat 0, ['\\', 'x', '0', '0'])]

/-- A character as it is written between double quotes. -/
def escapedChar (c : Char) : List Char :=
  (escapeForms.lookup c).getD [c]

/-- A text as it is written between double quotes. -/
def escaped (text : List Char) : List Char :=
  text.flatMap escapedChar

/-- A tag between backquotes. -/
def rawLiteral (text : String) : String :=
  "\x60" ++ text ++ "\x60"

/-- A tag between double quotes. -/
def interpretedLiteral (text : String) : String :=
  "\"" ++ String.ofList (escaped text.toList) ++ "\""

/-- A character that needs no escape. -/
theorem escapedChar_bare {c : Char} (h : isBare c = true) : escapedChar c = [c] := by
  obtain ⟨hmark, hescape, hline, hreturn, hnul⟩ := isBare_iff.mp h
  simp only [escapedChar, escapeForms, List.lookup_cons, List.lookup_nil,
    beq_eq_false_iff_ne.mpr hmark, beq_eq_false_iff_ne.mpr hescape,
    beq_eq_false_iff_ne.mpr hline, beq_eq_false_iff_ne.mpr hreturn,
    beq_eq_false_iff_ne.mpr hnul]
  rfl

/-- What is written for a character means the character, in front of anything. -/
theorem denotes_escapedChar (c : Char) {body value : List Char} (h : Denotes body value) :
    Denotes (escapedChar c ++ body) (c :: value) := by
  by_cases hbare : isBare c = true
  · rw [escapedChar_bare hbare]
    exact .bare hbare h
  · rw [isBare_iff_not_mem, Classical.not_not] at hbare
    simp only [List.mem_cons, List.not_mem_nil, or_false] at hbare
    rcases hbare with rfl | rfl | rfl | rfl | rfl
    all_goals exact .escape rfl h

theorem denotes_escaped (text : List Char) : Denotes (escaped text) text := by
  induction text with
  | nil => exact .nil
  | cons c rest ih => exact denotes_escapedChar c ih

/-- A raw literal is unquoted as its text. -/
theorem unquoteLiteral_rawLiteral (text : String) : unquoteLiteral (rawLiteral text) = .ok text := by
  have hchars : (rawLiteral text).toList = '\x60' :: (text.toList ++ ['\x60']) := by
    rw [rawLiteral, String.toList_append, String.toList_append, List.append_assoc]
    rfl
  unfold unquoteLiteral
  rw [hchars, between?_marks]
  simp only [String.ofList_toList]

theorem unquoteLiteral_interpretedLiteral (text : String) :
    unquoteLiteral (interpretedLiteral text) = .ok text := by
  have hchars : (interpretedLiteral text).toList = '"' :: (escaped text.toList ++ ['"']) := by
    simp [interpretedLiteral]
  have hdenotes := denotes_escaped text.toList
  have hraw : between? '\x60' ('"' :: (escaped text.toList ++ ['"'])) = none := rfl
  unfold unquoteLiteral
  rw [hchars, hraw, between?_marks]
  simp only [(unquote_eq_ok hdenotes.sealed).mpr hdenotes]
  show Except.ok (String.ofList text.toList) = _
  rw [String.ofList_toList]

/-- Raw and interpreted literals agree.  For every text, well formed as a tag or not and
    whatever escapes it holds, the literal between backquotes and the one between double
    quotes are read as the text itself is: with the same pairs, or with the same refusal,
    which is that of a malformed tag with the text in it. -/
theorem raw_and_interpreted_literals_agree (text : String) :
    parseLiteral (rawLiteral text) = parse text
    ∧ parseLiteral (interpretedLiteral text) = parse text
    ∧ ((∃ tag, parse text = .ok tag)
      ∨ ∃ reason, parse text = .error { cause := .malformedTag text reason }) := by
  refine ⟨?_, ?_, ?_⟩
  · unfold parseLiteral
    rw [unquoteLiteral_rawLiteral]
  · unfold parseLiteral
    rw [unquoteLiteral_interpretedLiteral]
  · unfold parse
    cases readEntries text.toList with
    | ok entries => exact Or.inl ⟨_, rfl⟩
    | error flaw => exact Or.inr ⟨flaw.reason, rfl⟩

-- a quote of the value takes one backslash in the literal, and an escape of the value two
example : interpretedLiteral "json:\"a\\tb\"" = "\"json:\\\"a\\\\tb\\\"\"" := by
  decide +kernel

end StructScript.StructTag
