import StructScript.Text.Escape
import StructScript.Text.Utf8

/-! # String literals

    The text that string literals denote.  A literal stands between single or
    double quotes; three quotes open one that may run over several lines, and an
    `r` in front one without escapes.  Literals side by side denote the joined
    text, and a hash sign behind them starts a comment. -/

namespace StructScript.Text

/-- How a literal is written. -/
structure LiteralForm where
  mark : Char := '"'
  /-- Whether three marks open and close it. -/
  long : Bool := false
  /-- Whether its backslashes stand for themselves. -/
  raw : Bool := false
deriving DecidableEq, Repr

/-- The marks behind a literal. -/
def LiteralForm.closing (form : LiteralForm) : List Char :=
  if form.long then [form.mark, form.mark, form.mark] else [form.mark]

/-- What a backslash and the characters after it stand for. -/
def LiteralForm.readEscaped (form : LiteralForm) (text : List Char) :
    Option (List Char × List Char) :=
  if form.raw then
    match text with
    | [] => none
    | c :: rest => some (['\\', c], rest)
  else (readEscape text).map fun (c, rest) => ([c], rest)

theorem length_le_of_readEscaped {form : LiteralForm} {text chars rest : List Char}
    (h : form.readEscaped text = some (chars, rest)) : rest.length ≤ text.length := by
  unfold LiteralForm.readEscaped at h
  split at h
  · split at h
    · exact nomatch h
    · cases h
      exact Nat.le_succ _
  · obtain ⟨⟨c, t⟩, ht, hct⟩ := Option.map_eq_some_iff.mp h
    cases hct
    exact length_le_of_readEscape ht

/-- What stands before the closing marks of a literal, with its escapes read, and
    what follows the marks. -/
def LiteralForm.readBody (form : LiteralForm) (text : List Char) :
    Option (List Char × List Char) :=
  match text with
  | [] => none
  | c :: rest =>
      if form.closing.isPrefixOf (c :: rest) then
        some ([], rest.drop (form.closing.length - 1))
      else if c = '\\' then
        match h : form.readEscaped rest with
        | some (chars, after) =>
            have := length_le_of_readEscaped h
            (form.readBody after).map fun (body, tail) => (chars ++ body, tail)
        | none => none
      else if c = '\n' && !form.long then none
      else (form.readBody rest).map fun (body, tail) => (c :: body, tail)
termination_by text.length

/-- The form of a literal behind its first letter, and what follows the marks
    that open it. -/
def openMarks (raw : Bool) : List Char → Option (LiteralForm × List Char)
  | '"' :: '"' :: '"' :: rest => some ({ long := true, raw }, rest)
  | '"' :: rest => some ({ raw }, rest)
  | '\'' :: '\'' :: '\'' :: rest => some ({ mark := '\'', long := true, raw }, rest)
  | '\'' :: rest => some ({ mark := '\'', raw }, rest)
  | _ => none

/-- The form of a literal, and what follows the marks that open it. -/
def openLiteral (text : List Char) : Option (LiteralForm × List Char) :=
  match text with
  | [] => none
  | c :: rest =>
      if c = 'r' || c = 'R' then openMarks true rest
      else if c = 'u' || c = 'U' then openMarks false rest
      else openMarks false (c :: rest)

/-- One literal and what follows it. -/
def readLiteral (text : List Char) : Option (List Char × List Char) :=
  match openLiteral text with
  | some (form, rest) => form.readBody rest
  | none => none

theorem length_le_of_readBody {form : LiteralForm} {text body rest : List Char}
    (h : form.readBody text = some (body, rest)) : rest.length ≤ text.length := by
  fun_induction LiteralForm.readBody form text generalizing body rest with
  | case1 => exact nomatch h
  | case2 c tail _ =>
      cases h
      simp only [List.length_drop, List.length_cons]
      omega
  | case3 tail _ chars after heq hle ih =>
      obtain ⟨⟨b, t⟩, ht, hbt⟩ := Option.map_eq_some_iff.mp h
      cases hbt
      have := ih ht
      simp only [List.length_cons]
      omega
  | case4 => exact nomatch h
  | case5 => exact nomatch h
  | case6 c tail _ _ _ ih =>
      obtain ⟨⟨b, t⟩, ht, hbt⟩ := Option.map_eq_some_iff.mp h
      cases hbt
      exact Nat.le_trans (ih ht) (Nat.le_succ _)

theorem length_lt_of_openMarks {raw : Bool} {text rest : List Char} {form : LiteralForm}
    (h : openMarks raw text = some (form, rest)) : rest.length < text.length := by
  unfold openMarks at h
  split at h
  case h_5 => exact nomatch h
  all_goals
    cases h
    simp only [List.length_cons]
    omega

theorem length_lt_of_openLiteral {text rest : List Char} {form : LiteralForm}
    (h : openLiteral text = some (form, rest)) : rest.length < text.length := by
  unfold openLiteral at h
  split at h
  · exact nomatch h
  · split at h
    · exact Nat.lt_trans (length_lt_of_openMarks h) (Nat.lt_succ_self _)
    · split at h
      · exact Nat.lt_trans (length_lt_of_openMarks h) (Nat.lt_succ_self _)
      · exact length_lt_of_openMarks h

/-- A literal leaves fewer characters than it was given. -/
theorem length_lt_of_readLiteral {text body rest : List Char}
    (h : readLiteral text = some (body, rest)) : rest.length < text.length := by
  unfold readLiteral at h
  split at h
  · next form tail hform =>
      exact Nat.lt_of_le_of_lt (length_le_of_readBody h) (length_lt_of_openLiteral hform)
  · exact nomatch h

/-- The characters that may stand between literals. -/
def isLiteralGap (c : Char) : Bool :=
  c = ' ' || c = '\t' || c = Char.ofNat 12

/-- Whether a line says nothing: it is blank or a comment. -/
def isSilent (line : List Char) : Bool :=
  match line.dropWhile isLiteralGap with
  | [] => true
  | c :: _ => c = '#'

theorem length_dropWhile_le {α : Type} (p : α → Bool) (items : List α) :
    (items.dropWhile p).length ≤ items.length :=
  (List.dropWhile_sublist p).length_le

/-- The text that literals side by side denote, with silent lines behind them. -/
def joinLiterals (text : List Char) : Option (List Char) :=
  match h : readLiteral text with
  | none => none
  | some (here, after) =>
      match hrest : after.dropWhile isLiteralGap with
      | [] => some here
      | c :: rest =>
          if c = '#' || c = '\n' then
            if ((c :: rest).splitOn '\n').all isSilent then some here else none
          else
            have : (c :: rest).length < text.length := by
              rw [← hrest]
              exact Nat.lt_of_le_of_lt (length_dropWhile_le isLiteralGap after)
                (length_lt_of_readLiteral h)
            (joinLiterals (c :: rest)).map (here ++ ·)
termination_by text.length

/-- The text that a whole text of literals denotes; a null character is never
    part of one, and every line end counts as a newline. -/
def literalText (text : List Char) : Option (List Char) :=
  if text.contains (Char.ofNat 0) then none else joinLiterals (Utf8.unifyLineEnds text)

end StructScript.Text
