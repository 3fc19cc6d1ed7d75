import StructScript.Go.Token

/-! # Reading tokens one after the other

    `Lexes text ts` says that a text has the tokens `ts`, whatever bound is put on
    their number as long as it suffices.  The lemmas about it put one piece with
    the blanks before it in front of a text:

    * `readGap_blanks` reads the blanks;
    * `readPiece_word`, `readPiece_keyword`, `readPiece_raw` and the lemmas about
      marks read the piece, before a text that cannot go on with it;
    * `Lexes.cons` joins the two, and `Lexes.finish` stands at the end. -/

namespace StructScript.Go

/-- The character that no source may have. -/
def nul : Char := Char.ofNat 0

/-- What a name is: a character that can start one, then characters of names, and
    no keyword. -/
theorem isName_iff {text : String} :
    isName text = true ↔ ∃ first rest, text.toList = first :: rest
      ∧ isNameStart first = true ∧ (∀ c ∈ rest, isNameChar c = true) ∧ text ∉ keywords := by
  unfold isName
  cases htext : text.toList with
  | nil =>
      constructor
      · intro h
        cases h
      · rintro ⟨first, rest, h, -⟩
        cases h
  | cons first rest =>
      simp only [Bool.and_eq_true, List.all_eq_true, Bool.not_eq_true', List.contains_eq_mem,
        decide_eq_false_iff_not]
      constructor
      · rintro ⟨⟨hfirst, hrest⟩, hkeyword⟩
        exact ⟨first, rest, rfl, hfirst, hrest, hkeyword⟩
      · rintro ⟨other, others, h, hfirst, hrest, hkeyword⟩
        cases h
        exact ⟨⟨hfirst, hrest⟩, hkeyword⟩

/-- What may start a name may stand in it. -/
theorem isNameChar_of_isNameStart {c : Char} (h : isNameStart c = true) : isNameChar c = true := by
  rw [isNameChar, h, Bool.true_or]

/-- Every character of a name is one of names. -/
theorem isNameChar_of_isName {text : String} (h : isName text = true) :
    ∀ c ∈ text.toList, isNameChar c = true := by
  obtain ⟨first, rest, htext, hfirst, hrest, -⟩ := isName_iff.mp h
  rw [htext]
  exact List.forall_mem_cons.mpr ⟨isNameChar_of_isNameStart hfirst, hrest⟩

/-- A piece with the blanks before it. -/
def Piece.after (gap : String) (piece : Piece) : Token :=
  { piece with gap, breaks := gap.toList.contains '\n' }

/-- The tokens of a text, read with any bound that is large enough. -/
def Lexes (text : List Char) (ts : List Token) : Prop :=
  nul ∉ text ∧ ∀ count, text.length < count → readTokens count text = some ts

/-! ## Gaps -/

/-- A gap ends where no blank and no comment starts. -/
theorem readGap_stop {rest : List Char}
    (h : ∀ c ∈ rest.head?, isGapBlank c = false ∧ c ≠ '/') :
    readGap .blank rest = some { chars := [], breaks := false, rest } := by
  cases rest with
  | nil => rw [readGap]
  | cons c others =>
      obtain ⟨hblank, hslash⟩ := h c rfl
      rw [readGap]
      · rw [hblank]
        rfl
      · intro tail hc
        exact absurd hc hslash
      · intro tail hc
        exact absurd hc hslash

/-- Blanks before something else. -/
theorem readGap_blanks {gap rest : List Char} (hgap : ∀ c ∈ gap, isGapBlank c = true)
    (hrest : ∀ c ∈ rest.head?, isGapBlank c = false ∧ c ≠ '/') :
    readGap .blank (gap ++ rest)
      = some { chars := gap, breaks := gap.contains '\n', rest } := by
  induction gap with
  | nil => exact readGap_stop hrest
  | cons c others ih =>
      obtain ⟨hc, hothers⟩ := List.forall_mem_cons.mp hgap
      have hslash : c ≠ '/' := by
        rintro rfl
        cases hc
      rw [List.cons_append, readGap]
      · rw [if_pos hc, ih hothers, List.contains_cons, BEq.comm]
        rfl
      · intro tail h
        exact absurd h hslash
      · intro tail h
        exact absurd h hslash

/-- A piece with blanks before it, in front of a text. -/
theorem Lexes.cons {gap : String} (hgap : ∀ c ∈ gap.toList, isGapBlank c = true)
    {written rest : List Char} {piece : Piece}
    (hread : readPiece (written ++ rest) = some (piece, rest)) (hnul : nul ∉ written)
    (hstart : ∃ c more, written = c :: more ∧ isGapBlank c = false ∧ c ≠ '/')
    {ts : List Token} (hrest : Lexes rest ts) :
    Lexes (gap.toList ++ (written ++ rest)) (piece.after gap :: ts) := by
  obtain ⟨hnulRest, hlexes⟩ := hrest
  obtain ⟨c, more, rfl, hc⟩ := hstart
  have hnulGap : nul ∉ gap.toList := by
    intro h
    cases hgap nul h
  refine ⟨?_, fun count hcount => ?_⟩
  · simp only [List.mem_append, not_or]
    exact ⟨hnulGap, hnul, hnulRest⟩
  · obtain ⟨bound, rfl⟩ : ∃ bound, count = bound + 1 := ⟨count - 1, by omega⟩
    -- a piece has one character at least, so the bound suffices for what follows
    have hbound : rest.length < bound := by
      simp only [List.length_append, List.length_cons] at hcount
      omega
    have hhead : ∀ d ∈ (c :: more ++ rest).head?, isGapBlank d = false ∧ d ≠ '/' := by
      intro d hd
      cases hd
      exact hc
    rw [List.cons_append] at hread hhead ⊢
    rw [readTokens, readGap_blanks hgap hhead]
    simp only [hread, hlexes bound hbound]
    rw [String.ofList_toList]
    rfl

/-- Blanks at the end of a text. -/
theorem Lexes.finish {gap : String} (hgap : ∀ c ∈ gap.toList, isGapBlank c = true) :
    Lexes gap.toList [finishPiece.after gap] := by
  constructor
  · intro h
    cases hgap nul h
  · intro count hcount
    obtain ⟨bound, rfl⟩ : ∃ bound, count = bound + 1 := ⟨count - 1, by omega⟩
    have hread : readGap .blank (gap.toList ++ [])
        = some { chars := gap.toList, breaks := gap.toList.contains '\n', rest := [] } :=
      readGap_blanks hgap (by rintro _ ⟨⟩)
    rw [List.append_nil] at hread
    rw [readTokens, hread]
    simp only
    rw [String.ofList_toList]
    rfl

/-! ## Names and keywords -/

/-- The piece of a name. -/
def namePiece (name : String) (h : isName name = true) : Piece :=
  { kind := .word, text := name, isName_of_word := fun _ => h }

/-- The piece of a keyword. -/
def keywordPiece (text : String) : Piece := { kind := .keyword, text }

/-- The piece of a mark. -/
def markPiece (text : String) : Piece := { kind := .mark, text }

/-- The piece of a string literal. -/
def textPiece (text : String) : Piece := { kind := .text, text }

/-- Whether a text can go on with a name before it. -/
def startsInName (text : List Char) : Bool :=
  text.head?.any isNameChar

/-- A text that starts in no name has no name in front. -/
theorem takeWhile_of_not_startsInName {rest : List Char} (h : startsInName rest = false) :
    rest.takeWhile isNameChar = [] ∧ rest.dropWhile isNameChar = rest := by
  cases rest with
  | nil => exact ⟨rfl, rfl⟩
  | cons c others =>
      have hc : ¬ isNameChar c = true := Bool.eq_false_iff.mp h
      exact ⟨List.takeWhile_cons_of_neg hc, List.dropWhile_cons_of_neg hc⟩

/-- The characters of a name or a keyword are read up to their end. -/
theorem span_append {more rest : List Char}
    (hmore : ∀ c ∈ more, isNameChar c = true) (hrest : startsInName rest = false) :
    (more ++ rest).takeWhile isNameChar = more ∧ (more ++ rest).dropWhile isNameChar = rest := by
  obtain ⟨htake, hdrop⟩ := takeWhile_of_not_startsInName hrest
  rw [List.takeWhile_append_of_pos hmore, List.dropWhile_append_of_pos hmore, htake, hdrop,
    List.append_nil]
  exact ⟨rfl, rfl⟩

/-- A name is read up to where it ends. -/
theorem readPiece_name {name : String} (h : isName name = true) {rest : List Char}
    (hrest : startsInName rest = false) :
    readPiece (name.toList ++ rest) = some (namePiece name h, rest) := by
  obtain ⟨first, more, htext, hfirst, hmore, hkeyword⟩ := isName_iff.mp h
  obtain ⟨htake, hdrop⟩ := span_append hmore hrest
  have hname : String.ofList (first :: more) = name := by
    rw [← htext, String.ofList_toList]
  rw [htext, List.cons_append, readPiece, dif_pos hfirst, readName]
  simp only [htake, hdrop, hname]
  rw [dif_neg (fun hcontains => hkeyword (List.contains_iff_mem.mp hcontains))]
  rfl

/-- A keyword is made of the characters of names. -/
theorem keyword_chars : ∀ text ∈ keywords, ∃ first more, text.toList = first :: more
    ∧ isNameStart first = true ∧ ∀ c ∈ more, isNameChar c = true := by
  have hall : keywords.all (fun text => text.toList.head?.any isNameStart
      && text.toList.tail.all isNameChar) = true := by
    decide +kernel
  intro text htext
  have hboth := List.all_eq_true.mp hall text htext
  rw [Bool.and_eq_true] at hboth
  cases hchars : text.toList with
  | nil =>
      rw [hchars] at hboth
      cases hboth.1
  | cons first more =>
      rw [hchars] at hboth
      exact ⟨first, more, rfl, hboth.1, List.all_eq_true.mp hboth.2⟩

/-- A keyword is read up to where it ends. -/
theorem readPiece_keyword {text : String} (h : text ∈ keywords) {rest : List Char}
    (hrest : startsInName rest = false) :
    readPiece (text.toList ++ rest) = some (keywordPiece text, rest) := by
  obtain ⟨first, more, htext, hfirst, hmore⟩ := keyword_chars text h
  obtain ⟨htake, hdrop⟩ := span_append hmore hrest
  have hword : String.ofList (first :: more) = text := by
    rw [← htext, String.ofList_toList]
  rw [htext, List.cons_append, readPiece, dif_pos hfirst, readName]
  simp only [htake, hdrop, hword]
  rw [dif_pos (List.contains_iff_mem.mpr h)]
  rfl

/-! ## Raw literals and marks -/

/-- A raw text is read up to its closing mark. -/
theorem readRaw_append {body : List Char} (h : '\x60' ∉ body) (rest : List Char) :
    readRaw (body ++ '\x60' :: rest) = some (body ++ ['\x60'], rest) := by
  induction body with
  | nil => rfl
  | cons c others ih =>
      rw [List.mem_cons, not_or] at h
      have hc : ¬ (c == '\x60') = true := by
        rw [beq_iff_eq]
        exact Ne.symm h.1
      rw [List.cons_append, readRaw, if_neg hc, ih h.2]
      rfl

/-- A raw literal is read up to its closing mark. -/
theorem readPiece_raw {body : String} (h : '\x60' ∉ body.toList) (rest : List Char) :
    readPiece (("\x60" ++ body ++ "\x60").toList ++ rest)
      = some (textPiece ("\x60" ++ body ++ "\x60"), rest) := by
  have hwritten : ("\x60" ++ body ++ "\x60").toList = '\x60' :: (body.toList ++ ['\x60']) := by
    simp only [String.toList_append]
    rfl
  have htext : String.ofList ('\x60' :: (body.toList ++ ['\x60'])) = "\x60" ++ body ++ "\x60" := by
    rw [← hwritten, String.ofList_toList]
  rw [hwritten, List.cons_append, List.append_assoc, readPiece, dif_neg (by decide +kernel),
    if_pos (beq_self_eq_true _), List.singleton_append, readRaw_append h]
  simp only [Option.map_some, htext]
  rfl

/-- The characters behind a character with which a longer mark goes on. -/
def longerMarks (c : Char) : List Char :=
  marks.filterMap fun mark =>
    match mark.toList with
    | first :: second :: _ => if first = c then some second else none
    | _ => none

/-- A mark of several characters is longer than its first. -/
theorem mem_longerMarks {mark : String} (h : mark ∈ marks) {c d : Char} {more : List Char}
    (htext : mark.toList = c :: d :: more) : d ∈ longerMarks c := by
  refine List.mem_filterMap.mpr ⟨mark, h, ?_⟩
  simp only [htext, if_true]

/-- A mark of one character, before a text that does not make it longer. -/
theorem readMark_single {c : Char} (hmark : String.singleton c ∈ marks) {rest : List Char}
    (hrest : ∀ d ∈ rest.head?, d ∉ longerMarks c) : readMark (c :: rest) = some ([c], rest) := by
  have hsingle : (String.singleton c).toList = [c] :=
    String.toList_singleton c
  have hsome : (marks.find? fun mark => mark.toList.isPrefixOf (c :: rest)).isSome = true := by
    refine List.find?_isSome.mpr ⟨String.singleton c, hmark, ?_⟩
    rw [hsingle]
    simp
  obtain ⟨mark, hfound⟩ := Option.isSome_iff_exists.mp hsome
  have hmem := List.mem_of_find?_eq_some hfound
  have hprefix : mark.toList <+: c :: rest := by
    have htrue := List.find?_some hfound
    exact List.isPrefixOf_iff_prefix.mp htrue
  -- no mark is empty, and a longer one would go on with the text
  have htext : mark.toList = [c] := by
    have hne : mark.toList ≠ [] := by
      have hall : ∀ mark ∈ marks, mark.toList ≠ [] := by decide
      exact hall mark hmem
    cases hchars : mark.toList with
    | nil => exact absurd hchars hne
    | cons first more =>
        rw [hchars, List.cons_prefix_cons] at hprefix
        obtain ⟨rfl, hmore⟩ := hprefix
        cases more with
        | nil => rfl
        | cons second others =>
            obtain ⟨tail, rfl⟩ := hmore
            exact absurd (mem_longerMarks hmem hchars) (hrest second rfl)
  have hlength : mark.length = 1 := by
    rw [← String.length_toList, htext]
    rfl
  rw [readMark, hfound]
  simp only [Option.map_some, htext, hlength, List.drop_succ_cons, List.drop_zero]

/-- A mark of one character as a piece. -/
theorem readPiece_mark {c : Char} (hmark : String.singleton c ∈ marks)
    (hname : isNameStart c = false) (hquote : c ∉ ['\x60', '"', '\'']) (hdigit : c.isDigit = false)
    {rest : List Char} (hpoint : c ≠ '.' ∨ (rest.head?.map Char.isDigit).getD false = false)
    (hrest : ∀ d ∈ rest.head?, d ∉ longerMarks c) :
    readPiece (c :: rest) = some (markPiece (String.singleton c), rest) := by
  simp only [List.mem_cons, List.not_mem_nil, or_false, not_or] at hquote
  have hnumber : (c.isDigit || (c == '.' && (rest.head?.map Char.isDigit).getD false)) = false := by
    rw [hdigit, Bool.false_or, Bool.and_eq_false_iff]
    rcases hpoint with hc | hhead
    · exact Or.inl (beq_eq_false_iff_ne.mpr hc)
    · exact Or.inr hhead
  -- none of the readers before that of marks takes the character
  rw [readPiece, dif_neg (Bool.eq_false_iff.mp hname), if_neg (by simpa using hquote.1),
    if_neg (by simpa using hquote.2.1), if_neg (by simpa using hquote.2.2),
    if_neg (Bool.eq_false_iff.mp hnumber), readMark_single hmark hrest]
  simp only [Option.map_some]
  rfl

/-! ## Pieces in front of a text -/

/-- Names start above all blanks, digits and the marks that open comments. -/
theorem le_toNat_of_isNameStart {c : Char} (h : isNameStart c = true) : 0x41 ≤ c.toNat := by
  rw [isNameStart, Bool.or_eq_true, beq_iff_eq] at h
  rcases h with rfl | hletter
  · decide
  · refine Nat.le_of_not_lt fun hlt => ?_
    -- the spans ascend, and the first one starts there
    rw [Text.isLetter, Text.letterSpans, Text.inSpans, if_pos hlt] at hletter
    cases hletter

/-- Names go on above all blanks and the marks before the digits. -/
theorem le_toNat_of_isNameChar {c : Char} (h : isNameChar c = true) : 0x30 ≤ c.toNat := by
  rw [isNameChar, Bool.or_eq_true] at h
  rcases h with hstart | hdigit
  · exact Nat.le_trans (by decide) (le_toNat_of_isNameStart hstart)
  · rw [Text.isDigit, Text.digitValue?, Option.isSome_map, List.find?_isSome] at hdigit
    obtain ⟨first, hmem, hfirst⟩ := hdigit
    have hall : Text.digitZeros.all (0x30 ≤ ·) = true := by decide
    have hle := of_decide_eq_true (List.all_eq_true.mp hall first hmem)
    rw [Bool.and_eq_true, decide_eq_true_eq] at hfirst
    exact Nat.le_trans hle hfirst.1

/-- The blanks of gaps are at the start of all characters. -/
theorem toNat_le_of_isGapBlank {c : Char} (h : isGapBlank c = true) : c.toNat ≤ 0x20 := by
  rw [isGapBlank, Bool.or_eq_true, beq_iff_eq, Bool.and_eq_true, decide_eq_true_eq,
    decide_eq_true_eq] at h
  rcases h with rfl | ⟨-, hle⟩
  · decide
  · have hnat : c.toNat ≤ '\r'.toNat := hle
    exact Nat.le_trans hnat (by decide)

/-- What may start a name is no blank, no comment and no digit. -/
theorem starts_of_isNameStart {c : Char} (h : isNameStart c = true) :
    isGapBlank c = false ∧ c ≠ '/' ∧ c.isDigit = false := by
  have hle := le_toNat_of_isNameStart h
  refine ⟨?_, ?_, ?_⟩
  · rw [Bool.eq_false_iff]
    intro hblank
    have := toNat_le_of_isGapBlank hblank
    omega
  · rintro rfl
    exact absurd hle (by decide)
  · rw [Bool.eq_false_iff]
    intro hdigit
    have hnine : c.toNat ≤ '9'.toNat := by
      rw [Char.isDigit, Bool.and_eq_true, decide_eq_true_eq, decide_eq_true_eq] at hdigit
      exact hdigit.2
    have hbound : '9'.toNat = 57 := rfl
    omega

theorem nul_not_mem_of_isNameChar {text : List Char} (h : ∀ c ∈ text, isNameChar c = true) :
    nul ∉ text := by
  intro hnul
  exact absurd (le_toNat_of_isNameChar (h nul hnul)) (by decide)

/-- A name before blanks ends there. -/
theorem startsInName_gap {gap : String} (hgap : ∀ c ∈ gap.toList, isGapBlank c = true)
    (hne : gap.toList.isEmpty = false) (rest : List Char) :
    startsInName (gap.toList ++ rest) = false := by
  cases hchars : gap.toList with
  | nil =>
      rw [hchars] at hne
      cases hne
  | cons c others =>
      rw [hchars] at hgap
      show isNameChar c = false
      rw [Bool.eq_false_iff]
      intro hname
      have habove := le_toNat_of_isNameChar hname
      have hbelow := toNat_le_of_isGapBlank (hgap c List.mem_cons_self)
      omega

namespace Lexes

variable {gap : String} {rest : List Char} {ts : List Token}

/-- A gap and a name are read as the name. -/
theorem name (hgap : ∀ c ∈ gap.toList, isGapBlank c = true) {name : String}
    (h : isName name = true) (hend : startsInName rest = false) (hrest : Lexes rest ts) :
    Lexes (gap.toList ++ (name.toList ++ rest)) ((namePiece name h).after gap :: ts) := by
  obtain ⟨first, more, htext, hfirst, -, -⟩ := isName_iff.mp h
  obtain ⟨hblank, hslash, -⟩ := starts_of_isNameStart hfirst
  exact Lexes.cons hgap (readPiece_name h hend) (nul_not_mem_of_isNameChar (isNameChar_of_isName h))
    ⟨first, more, htext, hblank, hslash⟩ hrest

/-- A gap and a keyword are read as the keyword. -/
theorem keyword (hgap : ∀ c ∈ gap.toList, isGapBlank c = true) {text : String}
    (h : text ∈ keywords) (hend : startsInName rest = false) (hrest : Lexes rest ts) :
    Lexes (gap.toList ++ (text.toList ++ rest)) ((keywordPiece text).after gap :: ts) := by
  obtain ⟨first, more, htext, hfirst, hmore⟩ := keyword_chars text h
  obtain ⟨hblank, hslash, -⟩ := starts_of_isNameStart hfirst
  have hchars : ∀ c ∈ text.toList, isNameChar c = true := by
    rw [htext]
    exact List.forall_mem_cons.mpr ⟨isNameChar_of_isNameStart hfirst, hmore⟩
  exact Lexes.cons hgap (readPiece_keyword h hend) (nul_not_mem_of_isNameChar hchars)
    ⟨first, more, htext, hblank, hslash⟩ hrest

/-- A gap and a raw text are read as the text. -/
theorem raw (hgap : ∀ c ∈ gap.toList, isGapBlank c = true) {body : String}
    (hquote : '\x60' ∉ body.toList) (hnul : nul ∉ body.toList) (hrest : Lexes rest ts) :
    Lexes (gap.toList ++ (("\x60" ++ body ++ "\x60").toList ++ rest))
      ((textPiece ("\x60" ++ body ++ "\x60")).after gap :: ts) := by
  have hwritten : ("\x60" ++ body ++ "\x60").toList = '\x60' :: (body.toList ++ ['\x60']) := by
    simp only [String.toList_append]
    rfl
  refine Lexes.cons hgap (readPiece_raw hquote rest) ?_ ⟨'\x60', _, hwritten, by decide, by decide⟩
    hrest
  rw [hwritten]
  simp only [List.mem_cons, List.mem_append, List.not_mem_nil, or_false, not_or]
  exact ⟨by decide, hnul, by decide⟩

/-- The marks of one character that can stand in front of a text. -/
structure MarkBefore (c : Char) (rest : List Char) : Prop where
  mark : String.singleton c ∈ marks
  plain : isNameStart c = false ∧ c ∉ ['\x60', '"', '\''] ∧ c.isDigit = false
    ∧ isGapBlank c = false ∧ c ≠ '/' ∧ c ≠ nul
  point : c ≠ '.' ∨ (rest.head?.map Char.isDigit).getD false = false
  rest : ∀ d ∈ rest.head?, d ∉ longerMarks c

/-- A gap and a mark are read as the mark. -/
theorem mark (hgap : ∀ c ∈ gap.toList, isGapBlank c = true) {c : Char} (h : MarkBefore c rest)
    {text : String} (htext : String.singleton c = text) (hrest : Lexes rest ts) :
    Lexes (gap.toList ++ c :: rest) ((markPiece text).after gap :: ts) := by
  obtain ⟨hname, hquote, hdigit, hblank, hslash, hnul⟩ := h.plain
  have hread : readPiece ([c] ++ rest) = some (markPiece text, rest) := by
    rw [← htext]
    exact readPiece_mark h.mark hname hquote hdigit h.point h.rest
  have hnul' : nul ∉ [c] := by
    rw [List.mem_singleton]
    exact Ne.symm hnul
  exact Lexes.cons hgap hread hnul' ⟨c, [], rfl, hblank, hslash⟩ hrest

end Lexes

end StructScript.Go
