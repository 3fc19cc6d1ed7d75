import StructScript.Companion.Spelling
import StructScript.Proofs.GoTokens

/-! # The tokens of written companions

    The companions of a file have a narrow form: structs of named pointers to
    names, names of other packages, bytes and slices of names, with raw tags.
    `UpdateStruct` is the type of structs of this form, with proofs that every name
    in it is one.

    * `spellAppendix_structs` gives what is written for them;
    * `UpdateType.lexes`, `Update.lexes` and `UpdateStruct.lexes` give the tokens of
      what is written: of a type, of a line and of a struct.  A line end belongs to
      the token behind it, so each of them stands between two line ends;
    * `tokens_file` is the same for a whole file. -/

namespace StructScript

open Go

/-! ## Structs of updates -/

/-- A type that a member of a companion points to. -/
inductive UpdateType where
  | named (name : String) (isLocal : Bool) (isName_name : isName name = true)
  | selector (package name : String) (isName_package : isName package = true)
      (isName_name : isName name = true)
  | bytes
  /-- A slice of names; one of bytes has its own form. -/
  | list (name : String) (isLocal : Bool) (isName_name : isName name = true)
      (ne_byte : name ≠ "byte")

namespace UpdateType

/-- The type itself. -/
def expr : UpdateType → TypeExpr
  | .named name isLocal _ => .named name isLocal
  | .selector package name _ _ => .selector package name
  | .bytes => .bytes
  | .list name isLocal _ _ => .slice (.named name isLocal)

/-- The type as it is written. -/
def text : UpdateType → String
  | .named name _ _ => name
  | .selector package name _ _ => package ++ "." ++ name
  | .bytes => "[]byte"
  | .list name _ _ _ => "[]" ++ name

theorem isName_byte : isName "byte" = true := by
  decide +kernel

/-- The tokens of the type as it is written. -/
def tokens : UpdateType → List Token
  | .named name _ h => [(namePiece name h).after ""]
  | .selector package name hpackage hname =>
      [(namePiece package hpackage).after "", (markPiece ".").after "",
        (namePiece name hname).after ""]
  | .bytes =>
      [(markPiece "[").after "", (markPiece "]").after "",
        (namePiece "byte" isName_byte).after ""]
  | .list name _ h _ =>
      [(markPiece "[").after "", (markPiece "]").after "", (namePiece name h).after ""]

end UpdateType

/-- A member of a companion. -/
structure Update where
  name : String
  type : UpdateType
  /-- The tag between its backquotes. -/
  tag : String
  isName_name : isName name = true
  quote_not_mem : '\x60' ∉ tag.toList
  nul_not_mem : nul ∉ tag.toList

namespace Update

/-- The literal of the tag. -/
def literal (update : Update) : String :=
  "\x60" ++ update.tag ++ "\x60"

/-- The member as a field. -/
def field (update : Update) : Field :=
  { names := [update.name], type := .pointer update.type.expr, tag := some update.literal }

/-- The line of the member, without its line end. -/
def line (update : Update) : String :=
  "\t" ++ update.name ++ "\t\t" ++ ("*" ++ update.type.text) ++ ("\t\t" ++ update.literal)

/-- The tokens of the line, the line end before it included. -/
def tokens (update : Update) : List Token :=
  (namePiece update.name update.isName_name).after "\n\t" :: (markPiece "*").after "\t\t"
    :: (update.type.tokens ++ [(textPiece update.literal).after "\t\t"])

end Update

/-- A companion. -/
structure UpdateStruct where
  name : String
  updates : List Update
  isName_name : isName name = true

namespace UpdateStruct

/-- The companion as a declaration. -/
def declaration (struct : UpdateStruct) : Declaration :=
  { name := struct.name, type := .struct (struct.updates.map Update.field) }

/-- The lines of the members. -/
def lines : List Update → String
  | [] => ""
  | update :: rest => update.line ++ "\n" ++ lines rest

/-- The companion as it is written. -/
def text (struct : UpdateStruct) : String :=
  "type " ++ struct.name ++ " struct \x7b\n" ++ lines struct.updates ++ "\x7d"

/-- The tokens of members and of the brace behind them. -/
def bodyTokens (updates : List Update) : List Token :=
  updates.flatMap Update.tokens ++ [(markPiece "\x7d").after "\n"]

/-- The tokens of the companion, the empty line before it included. -/
def tokens (struct : UpdateStruct) : List Token :=
  (keywordPiece "type").after "\n\n" :: (namePiece struct.name struct.isName_name).after " "
    :: (keywordPiece "struct").after " " :: (markPiece "\x7b").after " "
    :: bodyTokens struct.updates

end UpdateStruct

/-! ## Writing -/

/-- The type of an update is spelled as its text. -/
theorem UpdateType.spelling_expr (type : UpdateType) : type.expr.spelling = .ok type.text := by
  cases type with
  | named name isLocal h => rfl
  | selector package name hpackage hname => rfl
  | bytes => rfl
  | list name isLocal h hbyte => rfl

/-- An update is spelled as its line. -/
theorem Update.spelling_field (update : Update) : update.field.spelling = .ok update.line := by
  have hliteral : update.literal.isEmpty = false := by
    rw [Update.literal, String.isEmpty_eq_false_iff]
    intro hempty
    have hlist := congrArg String.toList hempty
    rw [String.toList_append, String.toList_append] at hlist
    cases hlist
  unfold Field.spelling Update.field
  simp only [TypeExpr.spelling, update.type.spelling_expr, hliteral]
  rfl

theorem spellFields_updates (updates : List Update) :
    spellFields (updates.map Update.field) = .ok (UpdateStruct.lines updates) := by
  induction updates with
  | nil => rfl
  | cons update rest ih =>
      rw [List.map_cons, spellFields, update.spelling_field]
      simp only [ih]
      rfl

/-- A companion is spelled as its text. -/
theorem UpdateStruct.spelling_declaration (struct : UpdateStruct) :
    struct.declaration.spelling = .ok struct.text := by
  unfold Declaration.spelling UpdateStruct.declaration
  simp only [spellFields_updates]
  rfl

/-- The text behind the text of a file. -/
def appendix : List UpdateStruct → String
  | [] => ""
  | struct :: rest => "\n" ++ struct.text ++ "\n" ++ appendix rest

/-- Companions are appended as their texts, one after the other. -/
theorem spellAppendix_structs (structs : List UpdateStruct) :
    spellAppendix (structs.map UpdateStruct.declaration) = .ok (appendix structs) := by
  induction structs with
  | nil => rfl
  | cons struct rest ih =>
      rw [List.map_cons, spellAppendix, struct.spelling_declaration]
      simp only [ih]
      rfl

/-! ## The tokens of what is written -/

theorem isGapBlank_nothing : ∀ c ∈ "".toList, isGapBlank c = true :=
  List.forall_mem_nil _

theorem isGapBlank_space : ∀ c ∈ " ".toList, isGapBlank c = true :=
  List.all_eq_true.mp rfl

theorem isGapBlank_break : ∀ c ∈ "\n".toList, isGapBlank c = true :=
  List.all_eq_true.mp rfl

/-- The marks that are written start nothing else. -/
theorem plain_of_mem {c : Char} (h : c ∈ ['*', '.', '[', ']', '\x7b', '\x7d']) :
    String.singleton c ∈ marks
      ∧ isNameStart c = false ∧ c ∉ ['\x60', '"', '\''] ∧ c.isDigit = false
      ∧ isGapBlank c = false ∧ c ≠ '/' ∧ c ≠ nul := by
  have hall : ['*', '.', '[', ']', '\x7b', '\x7d'].all (fun c => decide (String.singleton c ∈ marks
      ∧ isNameStart c = false ∧ c ∉ ['\x60', '"', '\''] ∧ c.isDigit = false
      ∧ isGapBlank c = false ∧ c ≠ '/' ∧ c ≠ nul)) = true := by
    decide +kernel
  exact of_decide_eq_true (List.all_eq_true.mp hall c h)

/-- A star before anything but the mark that would make it longer. -/
theorem markBefore_star {rest : List Char} (h : rest.head? ≠ some '=') :
    Lexes.MarkBefore '*' rest where
  mark := (plain_of_mem (by decide)).1
  plain := (plain_of_mem (by decide)).2
  point := Or.inl (by decide)
  rest := by
    have hlonger : longerMarks '*' = ['='] := by decide
    intro d hd hmem
    rw [hlonger, List.mem_singleton] at hmem
    subst hmem
    exact h hd

/-- A bracket or a brace, which starts no longer mark. -/
theorem markBefore_bracket {c : Char} (h : c ∈ ['[', ']', '\x7b', '\x7d']) (rest : List Char) :
    Lexes.MarkBefore c rest := by
  have hall : ['[', ']', '\x7b', '\x7d'].all
      (fun c => decide (c ≠ '.' ∧ longerMarks c = [])) = true := by
    decide
  obtain ⟨hpoint, hlonger⟩ := of_decide_eq_true (List.all_eq_true.mp hall c h)
  obtain ⟨hmark, hplain⟩ := plain_of_mem (List.mem_cons_of_mem '*' (List.mem_cons_of_mem '.' h))
  refine ⟨hmark, hplain, Or.inl hpoint, fun d _ hmem => ?_⟩
  rw [hlonger] at hmem
  cases hmem

/-- A point before a name. -/
theorem markBefore_point {name : String} (h : isName name = true) (rest : List Char) :
    Lexes.MarkBefore '.' (name.toList ++ rest) := by
  obtain ⟨first, more, htext, hfirst, -, -⟩ := isName_iff.mp h
  obtain ⟨-, -, hdigit⟩ := starts_of_isNameStart hfirst
  rw [htext]
  obtain ⟨hmark, hplain⟩ := plain_of_mem (show '.' ∈ _ by decide)
  refine ⟨hmark, hplain, Or.inr hdigit, ?_⟩
  have hlonger : longerMarks '.' = ['.'] := by decide
  intro d hd hmem
  rw [hlonger, List.mem_singleton] at hmem
  subst hmem
  cases hd
  exact absurd (le_toNat_of_isNameStart hfirst) (by decide)

/-- The tokens of a type behind its star. -/
theorem UpdateType.lexes (type : UpdateType) {rest : List Char} (hend : startsInName rest = false)
    {ts : List Token} (hrest : Lexes rest ts) :
    Lexes (type.text.toList ++ rest) (type.tokens ++ ts) := by
  cases type with
  | named name isLocal h => exact Lexes.name isGapBlank_nothing h hend hrest
  | selector package name hpackage hname =>
      have hname' := Lexes.name isGapBlank_nothing hname hend hrest
      have hpoint := Lexes.mark isGapBlank_nothing (markBefore_point hname rest)
        (show String.singleton '.' = "." by decide) hname'
      have hend' : startsInName ('.' :: (name.toList ++ rest)) = false := by
        show isNameChar '.' = false
        exact Bool.eq_false_iff.mpr fun h => absurd (le_toNat_of_isNameChar h) (by decide)
      have hall := Lexes.name isGapBlank_nothing hpackage hend' hpoint
      show Lexes ((package ++ "." ++ name).toList ++ rest) _
      rw [String.toList_append, String.toList_append, List.append_assoc, List.append_assoc]
      exact hall
  | bytes =>
      have hname := Lexes.name isGapBlank_nothing isName_byte hend hrest
      have hclose := Lexes.mark isGapBlank_nothing (markBefore_bracket (by decide) _)
        (show String.singleton ']' = "]" by decide) hname
      exact Lexes.mark isGapBlank_nothing (markBefore_bracket (by decide) _)
        (show String.singleton '[' = "[" by decide) hclose
  | list name isLocal h hbyte =>
      have hname := Lexes.name isGapBlank_nothing h hend hrest
      have hclose := Lexes.mark isGapBlank_nothing (markBefore_bracket (by decide) _)
        (show String.singleton ']' = "]" by decide) hname
      have hopen := Lexes.mark isGapBlank_nothing (markBefore_bracket (by decide) _)
        (show String.singleton '[' = "[" by decide) hclose
      show Lexes (("[]" ++ name).toList ++ rest) _
      rw [String.toList_append, List.append_assoc]
      exact hopen

/-- A written type starts with a name or a bracket. -/
theorem UpdateType.head?_text (type : UpdateType) (rest : List Char) :
    (type.text.toList ++ rest).head? ≠ some '=' := by
  have hname {name : String} (h : isName name = true) (more : List Char) :
      (name.toList ++ more).head? ≠ some '=' := by
    obtain ⟨first, others, htext, hfirst, -, -⟩ := isName_iff.mp h
    rw [htext]
    intro hhead
    cases hhead
    exact absurd (le_toNat_of_isNameStart hfirst) (by decide)
  cases type with
  | named name isLocal h => exact hname h rest
  | selector package name hpackage h =>
      show ((package ++ "." ++ name).toList ++ rest).head? ≠ some '='
      rw [String.toList_append, String.toList_append, List.append_assoc, List.append_assoc]
      exact hname hpackage _
  | bytes => rintro ⟨⟩
  | list name isLocal h hbyte =>
      show (("[]" ++ name).toList ++ rest).head? ≠ some '='
      rw [String.toList_append, List.append_assoc]
      rintro ⟨⟩

/-- The tokens of a line between line ends. -/
theorem Update.lexes (update : Update) {rest : List Char} {ts : List Token}
    (hrest : Lexes ("\n".toList ++ rest) ts) :
    Lexes ("\n".toList ++ (update.line.toList ++ ("\n".toList ++ rest))) (update.tokens ++ ts) := by
  have htabs : ∀ c ∈ "\t\t".toList, isGapBlank c = true := List.all_eq_true.mp rfl
  have hindent : ∀ c ∈ "\n\t".toList, isGapBlank c = true := List.all_eq_true.mp rfl
  have hend := startsInName_gap htabs rfl
  -- from the tag back to the name, each piece in front of what is read already
  have htag := Lexes.raw htabs update.quote_not_mem update.nul_not_mem hrest
  have htype := update.type.lexes (hend _) htag
  have hstar := Lexes.mark htabs (markBefore_star (update.type.head?_text _))
    (show String.singleton '*' = "*" by decide) htype
  have hname := Lexes.name hindent update.isName_name (hend _) hstar
  rw [Update.tokens, List.cons_append, List.cons_append, List.append_assoc]
  rw [Update.line]
  simp only [String.toList_append, List.append_assoc]
  exact hname

/-- The lines of updates are read as their tokens, whatever follows them. -/
theorem lexes_lines (updates : List Update) {rest : List Char} {ts : List Token}
    (hrest : Lexes ("\n".toList ++ rest) ts) :
    Lexes ("\n".toList ++ ((UpdateStruct.lines updates).toList ++ rest))
      (updates.flatMap Update.tokens ++ ts) := by
  induction updates with
  | nil => exact hrest
  | cons update others ih =>
      have hline := update.lexes ih
      rw [UpdateStruct.lines, List.flatMap_cons, List.append_assoc]
      simp only [String.toList_append, List.append_assoc]
      exact hline

/-- The tokens of a struct between line ends. -/
theorem UpdateStruct.lexes (struct : UpdateStruct) {rest : List Char} {ts : List Token}
    (hrest : Lexes ("\n".toList ++ rest) ts) :
    Lexes ("\n\n".toList ++ (struct.text.toList ++ ("\n".toList ++ rest)))
      (struct.tokens ++ ts) := by
  have hempty : ∀ c ∈ "\n\n".toList, isGapBlank c = true := List.all_eq_true.mp rfl
  have hend := startsInName_gap isGapBlank_space rfl
  -- from the closing brace back to the keyword
  have hclose := Lexes.mark isGapBlank_break (markBefore_bracket (by decide) _)
    (show String.singleton '\x7d' = "\x7d" by decide) hrest
  have hlines := lexes_lines struct.updates hclose
  have hopen := Lexes.mark isGapBlank_space (markBefore_bracket (by decide) _)
    (show String.singleton '\x7b' = "\x7b" by decide) hlines
  have hstruct := Lexes.keyword isGapBlank_space (show "struct" ∈ keywords by decide) (hend _) hopen
  have hname := Lexes.name isGapBlank_space struct.isName_name (hend _) hstruct
  have htype := Lexes.keyword hempty (show "type" ∈ keywords by decide) (hend _) hname
  rw [UpdateStruct.tokens, UpdateStruct.bodyTokens]
  simp only [List.cons_append, List.append_assoc]
  rw [UpdateStruct.text]
  simp only [String.toList_append, List.append_assoc]
  exact htype

/-- An appendix is read as the tokens of its companions, up to the end. -/
theorem lexes_appendix (structs : List UpdateStruct) :
    Lexes ("\n".toList ++ (appendix structs).toList)
      (structs.flatMap UpdateStruct.tokens ++ [finishPiece.after "\n"]) := by
  induction structs with
  | nil => exact Lexes.finish isGapBlank_break
  | cons struct rest ih =>
      have hstruct := struct.lexes ih
      rw [appendix, List.flatMap_cons, List.append_assoc]
      simp only [String.toList_append, List.append_assoc]
      exact hstruct

/-- The tokens of a file that has companions only. -/
def fileTokens (package : String) (h : isName package = true) (structs : List UpdateStruct) :
    List Token :=
  (keywordPiece "package").after "" :: (namePiece package h).after " "
    :: (structs.flatMap UpdateStruct.tokens ++ [finishPiece.after "\n"])

/-- A file of companions is read as their tokens behind the package clause. -/
theorem tokens_file {package : String} (h : isName package = true) (structs : List UpdateStruct) :
    tokens ("package " ++ package ++ "\n" ++ appendix structs)
      = some (fileTokens package h structs) := by
  have hname := Lexes.name isGapBlank_space h (startsInName_gap isGapBlank_break rfl _)
    (lexes_appendix structs)
  have hall := Lexes.keyword isGapBlank_nothing (show "package" ∈ keywords by decide)
    (startsInName_gap isGapBlank_space rfl _) hname
  have htext : ("package " ++ package ++ "\n" ++ appendix structs).toList
      = 'p' :: ("ackage ".toList ++ (package.toList ++ ("\n".toList ++ (appendix structs).toList))) := by
    simp only [String.toList_append, List.append_assoc]
    rfl
  obtain ⟨hnul, hread⟩ : Lexes ("package " ++ package ++ "\n" ++ appendix structs).toList
      (fileTokens package h structs) := by
    rw [htext]
    exact hall
  have hno : ¬ ("package " ++ package ++ "\n" ++ appendix structs).toList.contains (Char.ofNat 0)
      = true := by
    intro hcontains
    exact hnul (List.contains_iff_mem.mp hcontains)
  -- no file mark comes off, and the bound on tokens is the length of the text
  have hmark : dropFileMark ("package " ++ package ++ "\n" ++ appendix structs).toList
      = ("package " ++ package ++ "\n" ++ appendix structs).toList := by
    rw [htext]
    rfl
  rw [tokens, if_neg hno, hmark]
  exact hread _ (Nat.lt_succ_self _)

end StructScript
