import StructScript.StructTag

/-! # What the values of a tag denote

    The value of a tag is found in two passes that do not know of each other: the
    first looks for the mark that closes it, and takes every backslash together with
    the character behind it; the second reads the escapes, which may be longer.  This
    file gives one description of what comes out:

    * `Text.exists_of_readEscape` is what an escape looks like: it is cut off from
      what follows, and holds no mark, comma or line end but a mark right behind the
      backslash;
    * `StructTag.splitLiteral_eq_some` says where the first pass ends;
    * `StructTag.Denotes` is the relation between what is written and what is meant,
      item by item, and `StructTag.unquote_eq_ok` says that the second pass computes
      it;
    * `StructTag.readEntries_pair` is the step from one pair of a tag to the next. -/

namespace StructScript

namespace Text

/-! ## Escapes -/

/-- Characters that stand in no escape. -/
def escapeBreaks : List Char :=
  [',', '\n', '\r', Char.ofNat 0]

/-- Digits that are read can be told apart from what follows them. -/
theorem exists_of_readDigits {radix : Nat} {digit? : Char → Option Nat} {count value n : Nat}
    {text rest : List Char} (h : readDigits radix digit? value count text = some (n, rest)) :
    ∃ digits, text = digits ++ rest ∧ digits.length = count
      ∧ (∀ c ∈ digits, (digit? c).isSome = true)
      ∧ ∀ more, readDigits radix digit? value count (digits ++ more) = some (n, more) := by
  induction count generalizing value text with
  | zero =>
      cases h
      exact ⟨[], rfl, rfl, by simp, fun _ => rfl⟩
  | succ count ih =>
      cases text with
      | nil => cases h
      | cons c text =>
          rw [readDigits] at h
          split at h
          · next d hd =>
              obtain ⟨digits, rfl, hlength, hdigits, hmore⟩ := ih h
              refine ⟨c :: digits, rfl, by rw [List.length_cons, hlength], ?_, fun more => ?_⟩
              · exact List.forall_mem_cons.mpr ⟨by rw [hd]; rfl, hdigits⟩
              · rw [List.cons_append, readDigits, hd]
                exact hmore more
          · cases h

theorem exists_of_readHexChar {count : Nat} {text rest : List Char} {c : Char}
    (h : readHexChar count text = some (c, rest)) :
    ∃ digits, text = digits ++ rest ∧ (∀ d ∈ digits, (hexDigit? d).isSome = true)
      ∧ ∀ more, readHexChar count (digits ++ more) = some (c, more) := by
  unfold readHexChar at h
  split at h
  · next code tail hcode =>
      obtain ⟨found, hfound, heq⟩ := Option.map_eq_some_iff.mp h
      cases heq
      obtain ⟨digits, rfl, -, hdigits, hmore⟩ := exists_of_readDigits hcode
      refine ⟨digits, rfl, hdigits, fun more => ?_⟩
      unfold readHexChar
      rw [hmore more]
      simp only [hfound, Option.map_some]
  · cases h

/-- An octal digit is a hexadecimal one. -/
theorem isSome_hexDigit?_of_octal {c : Char} (h : (octalDigit? c).isSome = true) :
    (hexDigit? c).isSome = true := by
  unfold octalDigit? at h
  split at h
  · next hoctal =>
      unfold hexDigit?
      simp only [Bool.and_eq_true, decide_eq_true_eq] at hoctal
      have hnine : c ≤ '9' := Char.le_trans hoctal.2 (by decide)
      simp [hoctal.1, hnine]
  · cases h

/-- A hexadecimal digit breaks no escape. -/
theorem not_mem_escapeBreaks_of_hex {c : Char} (h : (hexDigit? c).isSome = true) :
    c ∉ escapeBreaks := by
  have hnone : escapeBreaks.all (fun other => (hexDigit? other).isNone) = true := by decide
  intro hc
  have hc := List.all_eq_true.mp hnone c hc
  rw [Option.isNone_iff_eq_none] at hc
  rw [hc] at h
  cases h

/-- An octal digit starts no other escape. -/
theorem readEscape_octal {c : Char} (h : (octalDigit? c).isSome = true) (text : List Char) :
    readEscape (c :: text) = readOctalChar (c :: text) := by
  rw [readEscape]
  all_goals
    rintro _ ⟨⟩
    exact absurd h (by decide)

/-- What an escape looks like, and that it does not depend on what follows. -/
theorem exists_of_readEscape {text rest : List Char} {c : Char}
    (h : readEscape text = some (c, rest)) :
    ∃ first digits, text = first :: (digits ++ rest) ∧ first ∉ escapeBreaks
      ∧ (∀ d ∈ digits, (hexDigit? d).isSome = true)
      ∧ ∀ more, readEscape (first :: (digits ++ more)) = some (c, more) := by
  unfold readEscape at h
  split at h
  case h_10 text =>
    obtain ⟨digits, rfl, hdigits, hmore⟩ := exists_of_readHexChar h
    exact ⟨'x', digits, rfl, by decide, hdigits, hmore⟩
  case h_11 text =>
    obtain ⟨digits, rfl, hdigits, hmore⟩ := exists_of_readHexChar h
    exact ⟨'u', digits, rfl, by decide, hdigits, hmore⟩
  case h_12 text =>
    obtain ⟨digits, rfl, hdigits, hmore⟩ := exists_of_readHexChar h
    exact ⟨'U', digits, rfl, by decide, hdigits, hmore⟩
  case h_13 =>
    unfold readOctalChar at h
    split at h
    · next code tail hcode =>
        split at h
        · next hsmall =>
            cases h
            obtain ⟨digits, rfl, hlength, hdigits, hmore⟩ := exists_of_readDigits hcode
            cases digits with
            | nil => cases hlength
            | cons first digits =>
                obtain ⟨hfirst, hothers⟩ := List.forall_mem_cons.mp hdigits
                refine ⟨first, digits, rfl, ?_,
                  fun d hd => isSome_hexDigit?_of_octal (hothers d hd), fun more => ?_⟩
                · exact not_mem_escapeBreaks_of_hex (isSome_hexDigit?_of_octal hfirst)
                · rw [readEscape_octal hfirst, ← List.cons_append]
                  unfold readOctalChar
                  rw [hmore more]
                  simp only [if_pos hsmall]
        · cases h
    · cases h
  all_goals
    cases h
    exact ⟨_, [], rfl, by decide, by simp, fun _ => rfl⟩

/-! ## Line ends -/

/-- A character that is no return is left as it is. -/
theorem unifyLineEnds_cons {c : Char} (h : c ≠ '\r') (text : List Char) :
    Utf8.unifyLineEnds (c :: text) = c :: Utf8.unifyLineEnds text := by
  rw [Utf8.unifyLineEnds]
  · rintro _ rfl
    exact fun _ => h rfl
  · exact h

theorem exists_unifyLineEnds_return (text : List Char) :
    ∃ more, Utf8.unifyLineEnds ('\r' :: text) = '\n' :: more := by
  cases text with
  | nil => exact ⟨[], rfl⟩
  | cons c rest =>
      by_cases hline : c = '\n'
      · subst hline
        exact ⟨Utf8.unifyLineEnds rest, rfl⟩
      · refine ⟨Utf8.unifyLineEnds (c :: rest), ?_⟩
        rw [Utf8.unifyLineEnds]
        rintro _ heq
        exact hline (List.cons.inj heq).1

/-- A text without returns is left as it is. -/
theorem unifyLineEnds_append {first : List Char} (h : '\r' ∉ first) (text : List Char) :
    Utf8.unifyLineEnds (first ++ text) = first ++ Utf8.unifyLineEnds text := by
  induction first with
  | nil => rfl
  | cons c rest ih =>
      rw [List.mem_cons, not_or] at h
      rw [List.cons_append, unifyLineEnds_cons (Ne.symm h.1), ih h.2]
      rfl

/-! ## Bodies of literals -/

-- the equations of `readBody` are made here once, and not by each of the proofs that open it
attribute [local simp] LiteralForm.readBody

theorem readBody_mark (text : List Char) :
    LiteralForm.readBody {} ('"' :: text) = some ([], text) := by
  rw [LiteralForm.readBody]
  simp [LiteralForm.closing]

theorem readBody_escape (text : List Char) :
    LiteralForm.readBody {} ('\\' :: text)
      = match readEscape text with
        | some (c, after) =>
            (LiteralForm.readBody {} after).map fun (body, tail) => (c :: body, tail)
        | none => none := by
  rw [LiteralForm.readBody]
  have hclosing : (LiteralForm.closing {}).isPrefixOf ('\\' :: text) = false := by
    simp [LiteralForm.closing, List.isPrefixOf]
  have hescaped : LiteralForm.readEscaped {} text
      = (readEscape text).map fun found => ([found.1], found.2) := rfl
  rw [hclosing]
  simp only [Bool.false_eq_true, if_false, if_true]
  split
  · next chars after hchars =>
      rw [hescaped] at hchars
      obtain ⟨⟨c, rest⟩, hread, heq⟩ := Option.map_eq_some_iff.mp hchars
      cases heq
      rw [hread]
      rfl
  · next hnone =>
      rw [hescaped, Option.map_eq_none_iff] at hnone
      rw [hnone]

theorem readBody_newline (text : List Char) : LiteralForm.readBody {} ('\n' :: text) = none := by
  rw [LiteralForm.readBody]
  simp [LiteralForm.closing]

theorem readBody_cons {c : Char} (hmark : c ≠ '"') (hescape : c ≠ '\\') (hline : c ≠ '\n')
    (text : List Char) :
    LiteralForm.readBody {} (c :: text)
      = (LiteralForm.readBody {} text).map fun (body, tail) => (c :: body, tail) := by
  rw [LiteralForm.readBody]
  simp [LiteralForm.closing, Ne.symm hmark, hescape, hline]

/-- A literal in double quotes that holds one thing at least, or nothing and no more
    quotes behind it. -/
theorem readLiteral_mark {text : List Char} (h : ∀ rest, text ≠ '"' :: '"' :: rest) :
    readLiteral ('"' :: text) = LiteralForm.readBody {} text := by
  have hopen : openLiteral ('"' :: text) = some ({}, text) := by
    show openMarks false ('"' :: text) = _
    rw [openMarks]
    rintro rest heq
    exact h rest heq
  unfold readLiteral
  rw [hopen]

theorem exists_of_joinLiterals {text value : List Char} (h : joinLiterals text = some value) :
    ∃ here after, readLiteral text = some (here, after) := by
  rw [joinLiterals] at h
  split at h
  · cases h
  · next here after hread => exact ⟨here, after, hread⟩

/-- A text that is one literal. -/
theorem joinLiterals_of_readLiteral {text body : List Char}
    (h : readLiteral text = some (body, [])) : joinLiterals text = some body := by
  rw [joinLiterals]
  split
  · next hnone => cases h.symm.trans hnone
  · next here after hread =>
      cases h.symm.trans hread
      split
      · rfl
      · next c rest hrest => cases hrest

end Text

namespace StructTag

/-! ## The end of a value -/

/-- What may stand between the marks of a value: no mark but behind a backslash. -/
inductive Sealed : List Char → Prop
  | nil : Sealed []
  | escape (c : Char) {body : List Char} : Sealed body → Sealed ('\\' :: c :: body)
  | cons {c : Char} {body : List Char} : c ≠ '"' → c ≠ '\\' → Sealed body → Sealed (c :: body)

/-- A plain character does not end a literal. -/
theorem splitLiteral_cons {c : Char} (hmark : c ≠ '"') (hescape : c ≠ '\\') (text : List Char) :
    splitLiteral (c :: text) = (splitLiteral text).map fun (body, tail) => (c :: body, tail) := by
  rw [splitLiteral]
  · rintro ⟨⟩
    exact absurd rfl hmark
  · rintro ⟨⟩
    exact absurd rfl hescape
  · rintro _ _ ⟨⟩
    exact absurd rfl hescape

/-- The first pass ends at the first mark that does not stand behind a backslash. -/
theorem splitLiteral_eq_some {text body rest : List Char} :
    splitLiteral text = some (body, rest) ↔ Sealed body ∧ text = body ++ '"' :: rest := by
  constructor
  · intro h
    fun_induction splitLiteral text generalizing body rest with
    | case1 => cases h
    | case2 tail =>
        cases h
        exact ⟨.nil, rfl⟩
    | case3 => cases h
    | case4 c tail ih =>
        obtain ⟨⟨found, after⟩, hfound, heq⟩ := Option.map_eq_some_iff.mp h
        cases heq
        obtain ⟨hsealed, rfl⟩ := ih hfound
        exact ⟨.escape c hsealed, rfl⟩
    | case5 c tail hmark hsingle hescape ih =>
        obtain ⟨⟨found, after⟩, hfound, heq⟩ := Option.map_eq_some_iff.mp h
        cases heq
        obtain ⟨hsealed, rfl⟩ := ih hfound
        refine ⟨.cons hmark (fun hc => ?_) hsealed, rfl⟩
        -- a backslash has nothing behind it, or takes it along
        cases htail : found ++ '"' :: rest with
        | nil => exact hsingle hc htail
        | cons next more => exact hescape next more hc htail
  · rintro ⟨hsealed, rfl⟩
    induction hsealed with
    | nil => rfl
    | escape c _ ih =>
        rw [List.cons_append, List.cons_append, splitLiteral, ih]
        rfl
    | cons hmark hescape _ ih =>
        rw [List.cons_append, splitLiteral_cons hmark hescape, ih]
        rfl

/-- A plain character makes no difference to a seal. -/
theorem sealed_cons {c : Char} (hmark : c ≠ '"') (hescape : c ≠ '\\') {body : List Char} :
    Sealed (c :: body) ↔ Sealed body := by
  constructor
  · intro h
    cases h with
    | escape => exact absurd rfl hescape
    | cons _ _ htail => exact htail
  · exact .cons hmark hescape

theorem sealed_escape {c : Char} {body : List Char} :
    Sealed ('\\' :: c :: body) ↔ Sealed body := by
  constructor
  · intro h
    cases h with
    | escape _ htail => exact htail
    | cons _ hescape _ => exact absurd rfl hescape
  · exact .escape c

theorem sealed_digits {digits body : List Char}
    (h : ∀ c ∈ digits, (Text.hexDigit? c).isSome = true) :
    Sealed (digits ++ body) ↔ Sealed body := by
  induction digits with
  | nil => rfl
  | cons c rest ih =>
      obtain ⟨hc, hrest⟩ := List.forall_mem_cons.mp h
      refine (sealed_cons ?_ ?_).trans (ih hrest)
      · rintro rfl
        exact absurd hc (by decide)
      · rintro rfl
        exact absurd hc (by decide)

/-- The first pass takes an escape for several items, but none of them ends it. -/
theorem sealed_escape_iff {text rest : List Char} {c : Char}
    (h : Text.readEscape text = some (c, rest)) : Sealed ('\\' :: text) ↔ Sealed rest := by
  obtain ⟨first, digits, rfl, -, hdigits, -⟩ := Text.exists_of_readEscape h
  exact sealed_escape.trans (sealed_digits hdigits)

/-! ## The meaning of a value -/

/-- Whether a character stands for itself in a value. -/
def isBare (c : Char) : Bool :=
  c != '"' && c != '\\' && c != '\n' && c != '\r' && c != Char.ofNat 0

theorem isBare_iff {c : Char} :
    isBare c = true
      ↔ c ≠ '"' ∧ c ≠ '\\' ∧ c ≠ '\n' ∧ c ≠ '\r' ∧ c ≠ Char.ofNat 0 := by
  simp [isBare, and_assoc]

/-- What is written between the marks of a value, and what it means. -/
inductive Denotes : List Char → List Char → Prop
  | nil : Denotes [] []
  | bare {c : Char} {body value : List Char} :
      isBare c = true → Denotes body value → Denotes (c :: body) (c :: value)
  | escape {c : Char} {text rest value : List Char} :
      Text.readEscape text = some (c, rest) → Denotes rest value →
      Denotes ('\\' :: text) (c :: value)

theorem denotes_bare {text : List Char} (h : ∀ c ∈ text, isBare c = true) : Denotes text text := by
  induction text with
  | nil => exact .nil
  | cons c rest ih =>
      obtain ⟨hc, hrest⟩ := List.forall_mem_cons.mp h
      exact .bare hc (ih hrest)

/-- A body that denotes something is sealed. -/
theorem Denotes.sealed {body value : List Char} (h : Denotes body value) : Sealed body := by
  induction h with
  | nil => exact .nil
  | bare hc _ ih =>
      obtain ⟨hmark, hescape, -⟩ := isBare_iff.mp hc
      exact .cons hmark hescape ih
  | escape hread _ ih => exact (sealed_escape_iff hread).mpr ih

theorem Denotes.escapesValid {body value : List Char} (h : Denotes body value) :
    Text.escapesValid body = true := by
  induction h with
  | nil => rw [Text.escapesValid]
  | bare hc _ ih =>
      rw [Text.escapesValid]
      · exact ih
      · exact (isBare_iff.mp hc).2.1
  | escape hread _ ih =>
      rw [Text.escapesValid]
      split
      · next found =>
          cases hread.symm.trans found
          exact ih
      · next hnone => cases hread.symm.trans hnone

theorem Denotes.not_mem_nul {body value : List Char} (h : Denotes body value) :
    Char.ofNat 0 ∉ body := by
  induction h with
  | nil => exact List.not_mem_nil
  | bare hc _ ih =>
      rw [List.mem_cons, not_or]
      exact ⟨Ne.symm (isBare_iff.mp hc).2.2.2.2, ih⟩
  | escape hread _ ih =>
      obtain ⟨first, digits, rfl, hfirst, hdigits, -⟩ := Text.exists_of_readEscape hread
      have hnul : Char.ofNat 0 ∈ Text.escapeBreaks := by decide
      simp only [List.mem_cons, List.mem_append, not_or]
      refine ⟨by decide, ?_, ?_, ih⟩
      · rintro rfl
        exact hfirst hnul
      · exact fun hmem => Text.not_mem_escapeBreaks_of_hex (hdigits _ hmem) hnul

/-- An escape in front of a text whose line ends are made the same. -/
theorem readEscape_unify {text rest : List Char} {c : Char}
    (h : Text.readEscape text = some (c, rest)) (more : List Char) :
    Text.readEscape (Text.Utf8.unifyLineEnds (text ++ more))
      = some (c, Text.Utf8.unifyLineEnds (rest ++ more)) := by
  obtain ⟨first, digits, rfl, hfirst, hdigits, hread⟩ := Text.exists_of_readEscape h
  have hreturn : '\r' ∈ Text.escapeBreaks := by decide
  have hfirst : first ≠ '\r' := by
    rintro rfl
    exact hfirst hreturn
  have hdigits : '\r' ∉ digits := fun hmem =>
    Text.not_mem_escapeBreaks_of_hex (hdigits _ hmem) hreturn
  rw [List.cons_append, List.append_assoc, Text.unifyLineEnds_cons hfirst,
    Text.unifyLineEnds_append hdigits]
  exact hread _

/-- What is written is read up to the closing mark. -/
theorem Denotes.readBody {body value : List Char} (h : Denotes body value) :
    Text.LiteralForm.readBody {} (Text.Utf8.unifyLineEnds (body ++ ['"'])) = some (value, []) := by
  induction h with
  | nil => exact Text.readBody_mark []
  | bare hc _ ih =>
      obtain ⟨hmark, hescape, hline, hreturn, -⟩ := isBare_iff.mp hc
      rw [List.cons_append, Text.unifyLineEnds_cons hreturn,
        Text.readBody_cons hmark hescape hline, ih]
      rfl
  | escape hread _ ih =>
      rw [List.cons_append, Text.unifyLineEnds_cons (by decide), Text.readBody_escape,
        readEscape_unify hread]
      simp only [ih, Option.map_some]

/-- What is read was written, if the value ends where the first pass says. -/
theorem denotes_of_readBody {body value tail : List Char} (hsealed : Sealed body)
    (hescapes : Text.escapesValid body = true) (hnul : Char.ofNat 0 ∉ body)
    (h : Text.LiteralForm.readBody {} (Text.Utf8.unifyLineEnds (body ++ ['"']))
      = some (value, tail)) : Denotes body value := by
  fun_induction Text.escapesValid body generalizing value with
  | case1 =>
      cases h.symm.trans (Text.readBody_mark [])
      exact .nil
  | case2 text c rest hread _ ih =>
      rw [List.cons_append, Text.unifyLineEnds_cons (by decide), Text.readBody_escape,
        readEscape_unify hread] at h
      obtain ⟨⟨found, after⟩, hfound, heq⟩ := Option.map_eq_some_iff.mp h
      cases heq
      refine .escape hread (ih ((sealed_escape_iff hread).mp hsealed) hescapes ?_ hfound)
      obtain ⟨first, digits, rfl, -⟩ := Text.exists_of_readEscape hread
      simp only [List.mem_cons, List.mem_append, not_or] at hnul
      exact hnul.2.2.2
  | case3 => cases hescapes
  | case4 c text hescape ih =>
      rw [List.mem_cons, not_or] at hnul
      cases hsealed with
      | escape => exact absurd rfl hescape
      | cons hmark _ htail =>
          -- a line end of either kind ends the value too early
          by_cases hline : c = '\n'
          · subst hline
            rw [List.cons_append, Text.unifyLineEnds_cons (by decide), Text.readBody_newline] at h
            cases h
          · by_cases hreturn : c = '\r'
            · subst hreturn
              obtain ⟨more, hmore⟩ := Text.exists_unifyLineEnds_return (text ++ ['"'])
              rw [List.cons_append, hmore, Text.readBody_newline] at h
              cases h
            · rw [List.cons_append, Text.unifyLineEnds_cons hreturn,
                Text.readBody_cons hmark hescape hline] at h
              obtain ⟨⟨found, after⟩, hfound, heq⟩ := Option.map_eq_some_iff.mp h
              cases heq
              refine .bare (isBare_iff.mpr ⟨hmark, hescape, hline, hreturn, Ne.symm hnul.1⟩) ?_
              exact ih htail hescapes hnul.2 hfound

/-- The marks around a value open and close one literal. -/
theorem readLiteral_sealed {body : List Char} (h : Sealed body) :
    Text.readLiteral (Text.Utf8.unifyLineEnds ('"' :: body ++ ['"']))
      = Text.LiteralForm.readBody {} (Text.Utf8.unifyLineEnds (body ++ ['"'])) := by
  rw [List.cons_append, Text.unifyLineEnds_cons (by decide)]
  refine Text.readLiteral_mark fun rest heq => ?_
  cases h with
  | nil => cases heq
  | escape c _ =>
      rw [List.cons_append, Text.unifyLineEnds_cons (by decide)] at heq
      cases heq
  | @cons c body hmark _ _ =>
      by_cases hreturn : c = '\r'
      · subst hreturn
        obtain ⟨more, hmore⟩ := Text.exists_unifyLineEnds_return (body ++ ['"'])
        rw [List.cons_append, hmore] at heq
        cases heq
      · rw [List.cons_append, Text.unifyLineEnds_cons hreturn] at heq
        exact hmark (List.cons.inj heq).1

/-- The marks of a value are no null characters. -/
theorem contains_nul_marked {body : List Char} :
    ('"' :: body ++ ['"']).contains (Char.ofNat 0) = true ↔ Char.ofNat 0 ∈ body := by
  have hmark : Char.ofNat 0 ≠ '"' := by decide
  rw [List.contains_iff_mem, List.cons_append, List.mem_cons, List.mem_append,
    List.mem_singleton]
  simp only [hmark, false_or, or_false]

/-- The second pass computes what a value means. -/
theorem unquote_eq_ok {body value : List Char} (hsealed : Sealed body) :
    unquote body = .ok value ↔ Denotes body value := by
  have hread := readLiteral_sealed hsealed
  constructor
  · intro h
    unfold unquote at h
    simp only at h
    split at h
    · next hescapes =>
        split at h
        · next text htext =>
            cases h
            unfold Text.literalText at htext
            split at htext
            · cases htext
            · next hnul =>
                obtain ⟨here, after, hhere⟩ := Text.exists_of_joinLiterals htext
                have hbody : Char.ofNat 0 ∉ body := fun hmem => hnul (contains_nul_marked.mpr hmem)
                have hdenotes := denotes_of_readBody hsealed hescapes hbody (hread ▸ hhere)
                -- the literal is read to its end, so it is all there is
                have hwhole := hdenotes.readBody
                rw [← hread] at hwhole
                cases (Text.joinLiterals_of_readLiteral hwhole).symm.trans htext
                exact hdenotes
        · cases h
    · cases h
  · intro h
    have hnul : ('"' :: body ++ ['"']).contains (Char.ofNat 0) = false :=
      Bool.eq_false_iff.mpr fun hmem => h.not_mem_nul (contains_nul_marked.mp hmem)
    have htext : Text.literalText ('"' :: body ++ ['"']) = some value := by
      unfold Text.literalText
      rw [hnul]
      exact Text.joinLiterals_of_readLiteral (hread.trans h.readBody)
    unfold unquote
    simp only [h.escapesValid, htext, if_true]

/-! ## Pairs -/

/-- A blank in front of a pair means nothing. -/
theorem readEntries_blank (text : List Char) : readEntries (' ' :: text) = readEntries text := by
  rw [readEntries.eq_def, readEntries.eq_def text]
  rfl

theorem readEntries_nil : readEntries [] = .ok [] := by
  rw [readEntries.eq_def]
  rfl

/-- One pair, and what follows it. -/
theorem readEntries_pair {key : List Char} (hne : key ≠ [])
    (hkey : ∀ c ∈ key, isKeyChar c = true) (literal : List Char) :
    readEntries (key ++ ':' :: '"' :: literal)
      = match splitLiteral literal with
        | some (body, rest) =>
            match unquote body with
            | .ok value => (readEntries rest).map (Entry.ofValue key value :: ·)
            | .error flaw => .error flaw
        | none => .error .value := by
  have hcolon : isKeyChar ':' = false := by decide
  have hstart : (key ++ ':' :: '"' :: literal).dropWhile (· == ' ')
      = key ++ ':' :: '"' :: literal := by
    cases key with
    | nil => exact absurd rfl hne
    | cons first others =>
        have hfirst : (first == ' ') = false := by
          rw [beq_eq_false_iff_ne]
          rintro rfl
          exact absurd (hkey ' ' List.mem_cons_self) (by decide)
        rw [List.cons_append, List.dropWhile_cons, hfirst]
        rfl
  have htake : (key ++ ':' :: '"' :: literal).takeWhile isKeyChar = key := by
    rw [List.takeWhile_append_of_pos hkey, List.takeWhile_cons, hcolon]
    exact List.append_nil key
  have hdrop : ((key ++ ':' :: '"' :: literal).dropWhile (· == ' ')).dropWhile isKeyChar
      = ':' :: '"' :: literal := by
    rw [hstart, List.dropWhile_append_of_pos hkey, List.dropWhile_cons, hcolon]
    rfl
  have hsome : (key ++ ':' :: '"' :: literal).isEmpty = false := by simp
  have hnamed : key.isEmpty = false := List.isEmpty_eq_false_iff.mpr hne
  rw [readEntries.eq_def]
  simp only [hstart, htake, hsome, hnamed, Bool.false_eq_true, if_false]
  split
  · next found hfound =>
      cases hdrop.symm.trans hfound
      split
      · next body rest hbody =>
          cases hvalue : unquote body with
          | ok value => simp only [hbody, hvalue]
          | error flaw => simp only [hbody, hvalue]
      · next hnone => simp only [hnone]
  · next head tail hmark hother =>
      cases hdrop.symm.trans hother
      exact absurd rfl hmark
  · next hother => exact absurd hdrop (hother _ _)

end StructTag

end StructScript
