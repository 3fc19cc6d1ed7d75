import StructScript.Text.Letter
import StructScript.Text.Digit
import StructScript.Text.Escape

/-! # Go tokens

    A token is a piece of Go source together with the gap of blanks and
    comments before it.  A line end in the gap may end a statement, so a token
    tells whether its gap has one; line ends inside comments do not count.
    Every token list ends with a token for the end of the text. -/

namespace StructScript.Go

/-- What a token is. -/
inductive Token.Kind where
  | word
  | keyword
  | number
  | rune
  | text
  | mark
  | finish
deriving DecidableEq, Repr

/-- The words that are no names. -/
def keywords : List String :=
  ["break", "case", "chan", "const", "continue", "default", "defer", "else", "fallthrough", "for",
    "func", "go", "goto", "if", "import", "interface", "map", "package", "range", "return",
    "select", "struct", "switch", "type", "var"]

/-- The characters that can start a name. -/
def isNameStart (c : Char) : Bool :=
  c == '_' || Text.isLetter c

/-- The characters of names. -/
def isNameChar (c : Char) : Bool :=
  isNameStart c || Text.isDigit c

/-- Whether a text is a name: a letter or an underscore, then letters, digits and
    underscores, and no keyword. -/
def isName (text : String) : Bool :=
  match text.toList with
  | [] => false
  | first :: rest => isNameStart first && rest.all isNameChar && !keywords.contains text

/-- A piece of source.  A word is a name. -/
structure Piece where
  kind : Token.Kind
  /-- The piece as written. -/
  text : String
  isName_of_word : kind = .word → isName text = true := by rintro ⟨⟩
deriving DecidableEq, Repr

/-- A piece of source and the gap before it. -/
structure Token extends Piece where
  /-- The blanks and comments before the piece. -/
  gap : String := ""
  /-- Whether the gap has a line end outside comments. -/
  breaks : Bool := false
deriving DecidableEq, Repr

namespace Token

/-- Whether a token is the given keyword or mark. -/
def is (token : Token) (text : String) : Bool :=
  (token.kind == .keyword || token.kind == .mark) && token.text == text

/-- Whether a token is a name. -/
def isWord (token : Token) : Bool :=
  token.kind == .word

/-- Whether a token is a string literal. -/
def isText (token : Token) : Bool :=
  token.kind == .text

/-- The source that tokens cover, from the first piece to the last. -/
def spelling : List Token → String
  | [] => ""
  | [token] => token.text
  | token :: next :: rest => token.text ++ next.gap ++ spelling (next :: rest)

end Token

/-- The marks, those that start others behind them. -/
def marks : List String :=
  ["<<=", ">>=", "&^=", "...", "&&", "||", "<-", "++", "--", "==", "!=", "<=", ">=", ":=", "+=",
    "-=", "*=", "/=", "%=", "&=", "|=", "^=", "<<", ">>", "&^", "+", "-", "*", "/", "%", "&", "|",
    "^", "<", ">", "=", "!", "(", ")", "[", "]", "\x7b", "\x7d", ",", ";", ".", ":", "~"]

/-- The blanks between tokens. -/
def isGapBlank (c : Char) : Bool :=
  c == ' ' || ('\t' ≤ c && c ≤ '\r')

/-- Where in a gap the reading stands. -/
inductive GapState where
  | blank
  | lineComment
  | blockComment

/-- A gap: its characters, whether it has a line end that counts, and what
    follows. -/
structure Gap where
  chars : List Char
  breaks : Bool
  rest : List Char

/-- The gap with one more character in front. -/
def Gap.cons (c : Char) (breaks : Bool) (gap : Gap) : Gap :=
  { gap with chars := c :: gap.chars, breaks := breaks || gap.breaks }

/-- The gap at the start of a text; a block comment without an end gives
    none. -/
def readGap : GapState → List Char → Option Gap
  | .blank, '/' :: '/' :: rest =>
      (readGap .lineComment rest).map fun gap => (gap.cons '/' false).cons '/' false
  | .blank, '/' :: '*' :: rest =>
      (readGap .blockComment rest).map fun gap => (gap.cons '*' false).cons '/' false
  | .blank, c :: rest =>
      if isGapBlank c then (readGap .blank rest).map (·.cons c (c == '\n'))
      else some { chars := [], breaks := false, rest := c :: rest }
  | .lineComment, c :: rest =>
      if c == '\n' then (readGap .blank rest).map (·.cons c true)
      else (readGap .lineComment rest).map (·.cons c false)
  | .blockComment, '*' :: '/' :: rest =>
      (readGap .blank rest).map fun gap => (gap.cons '/' false).cons '*' false
  | .blockComment, c :: rest => (readGap .blockComment rest).map (·.cons c false)
  | .blank, [] | .lineComment, [] => some { chars := [], breaks := false, rest := [] }
  | .blockComment, [] => none

/-- A run of digits, in which single underscores may stand between digits, and
    what follows. -/
def digitRun (isDigit : Char → Bool) : List Char → List Char × List Char
  | '_' :: d :: rest =>
      if isDigit d then
        let (run, tail) := digitRun isDigit rest
        ('_' :: d :: run, tail)
      else ([], '_' :: d :: rest)
  | d :: rest =>
      if isDigit d then
        let (run, tail) := digitRun isDigit rest
        (d :: run, tail)
      else ([], d :: rest)
  | [] => ([], [])

/-- The hexadecimal digits. -/
def isHexDigit (c : Char) : Bool :=
  (Text.hexDigit? c).isSome

/-- The exponent of a number with the given marks, or nothing. -/
def exponent (small large : Char) (text : List Char) : List Char × List Char :=
  match text with
  | e :: sign :: rest =>
      if e == small || e == large then
        let (head, digits) := if sign == '+' || sign == '-' then ([e, sign], rest) else ([e], sign :: rest)
        match digitRun Char.isDigit digits with
        | ([], _) => ([], text)
        | (run, tail) => (head ++ run, tail)
      else ([], text)
  | _ => ([], text)

/-- An imaginary number's last letter, or nothing. -/
def imaginaryUnit : List Char → List Char × List Char
  | 'i' :: rest => (['i'], rest)
  | rest => ([], rest)

/-- The digits after a point, if there is a point. -/
def fraction (isDigit : Char → Bool) : List Char → List Char × List Char
  | '.' :: rest =>
      let (run, tail) := digitRun isDigit rest
      ('.' :: run, tail)
  | rest => ([], rest)

/-- A decimal number, whole or not. -/
def decimalNumber (text : List Char) : Option (List Char × List Char) :=
  let (whole, rest) := digitRun Char.isDigit text
  let (point, rest) := fraction Char.isDigit rest
  let (power, rest) := exponent 'e' 'E' rest
  let (unit, rest) := imaginaryUnit rest
  let isOctal := point.isEmpty && power.isEmpty && unit.isEmpty && whole.head? == some '0'
  if isOctal && whole.any (fun c => c == '8' || c == '9') then none
  else some (whole ++ point ++ power ++ unit, rest)

/-- A number in another base, after its two letters. -/
def basedNumber (isDigit : Char → Bool) (start : List Char) (text : List Char) :
    Option (List Char × List Char) :=
  let text' := if text.head? == some '_' then text.tail else text
  let gap := if text.head? == some '_' then ['_'] else []
  match digitRun isDigit text' with
  | ([], _) => none
  | (run, rest) =>
      let (unit, rest) := imaginaryUnit rest
      some (start ++ gap ++ run ++ unit, rest)

/-- A hexadecimal number that is not whole: its exponent is never left out. -/
def hexFraction (start : List Char) (text : List Char) : Option (List Char × List Char) :=
  let text' := if text.head? == some '_' then text.tail else text
  let gap := if text.head? == some '_' then ['_'] else []
  let (whole, rest) := digitRun isHexDigit text'
  let (point, rest) := fraction isHexDigit rest
  let (power, rest) := exponent 'p' 'P' rest
  let (unit, rest) := imaginaryUnit rest
  if power.isEmpty || (whole.isEmpty && point.length ≤ 1) then none
  else some (start ++ gap ++ whole ++ point ++ power ++ unit, rest)

/-- The number at the start of a text. -/
def readNumber (text : List Char) : Option (List Char × List Char) :=
  match text with
  | '0' :: x :: rest =>
      if x == 'x' || x == 'X' then
        match hexFraction ['0', x] rest with
        | some found => some found
        | none => basedNumber isHexDigit ['0', x] rest
      else if x == 'b' || x == 'B' then
        basedNumber (fun c => c == '0' || c == '1') ['0', x] rest
      else if x == 'o' || x == 'O' then
        basedNumber (fun c => (Text.octalDigit? c).isSome) ['0', x] rest
      else decimalNumber text
  | _ => decimalNumber text

/-- So many hexadecimal digits, and what follows. -/
def hexRun (count : Nat) (text : List Char) : Option (List Char × List Char) :=
  let run := text.take count
  if run.length = count && run.all isHexDigit then some (run, text.drop count) else none

/-- The body of an interpreted string literal with its closing mark, and what
    follows.  A backslash takes any character with it, and the numeric escapes
    have to be complete. -/
def readInterpreted : List Char → Option (List Char × List Char)
  | '"' :: rest => some (['"'], rest)
  | '\\' :: c :: rest =>
      if c == 'x' && (hexRun 2 rest).isNone then none
      else if c == 'u' && (hexRun 4 rest).isNone then none
      else if c == 'U' && (hexRun 8 rest).isNone then none
      else (readInterpreted rest).map fun (run, tail) => ('\\' :: c :: run, tail)
  | c :: rest =>
      if c == '\n' || c == '\\' then none
      else (readInterpreted rest).map fun (run, tail) => (c :: run, tail)
  | [] => none

/-- The body of a raw string literal with its closing mark, and what follows. -/
def readRaw : List Char → Option (List Char × List Char)
  | [] => none
  | c :: rest =>
      if c == '\x60' then some ([c], rest)
      else (readRaw rest).map fun (run, tail) => (c :: run, tail)

/-- An escape in a rune literal, after the backslash, and what follows. -/
def runeEscape (text : List Char) : Option (List Char × List Char) :=
  match text with
  | 'x' :: rest => (hexRun 2 rest).map fun (run, tail) => ('x' :: run, tail)
  | 'u' :: rest => (hexRun 4 rest).map fun (run, tail) => ('u' :: run, tail)
  | 'U' :: rest => (hexRun 8 rest).map fun (run, tail) => ('U' :: run, tail)
  | c :: rest =>
      if ['a', 'b', 'f', 'n', 'r', 't', 'v', '\\', '\'', '"'].contains c then some ([c], rest)
      else
        let run := text.take 3
        if run.length = 3 && run.all (fun d => (Text.octalDigit? d).isSome) then
          some (run, text.drop 3)
        else none
  | [] => none

/-- The body of a rune literal with its closing mark, and what follows. -/
def readRune (text : List Char) : Option (List Char × List Char) :=
  let body :=
    match text with
    | '\\' :: rest => (runeEscape rest).map fun (run, tail) => ('\\' :: run, tail)
    | c :: rest => if c == '\'' then none else some ([c], rest)
    | [] => none
  match body with
  | some (run, '\'' :: tail) => some (run ++ ['\''], tail)
  | _ => none

/-- The mark at the start of a text. -/
def readMark (text : List Char) : Option (List Char × List Char) :=
  (marks.find? fun mark => mark.toList.isPrefixOf text).map fun mark =>
    (mark.toList, text.drop mark.length)

/-- The characters of a name up to the first that is none make a name, unless
    they make a keyword. -/
theorem isName_takeWhile {c : Char} {rest : List Char} (hstart : isNameStart c = true)
    (hkeyword : ¬ keywords.contains (String.ofList (c :: rest.takeWhile isNameChar)) = true) :
    isName (String.ofList (c :: rest.takeWhile isNameChar)) = true := by
  have hall : (rest.takeWhile isNameChar).all isNameChar = true := List.all_takeWhile
  rw [isName, String.toList_ofList]
  simp only [hstart, hall, Bool.eq_false_iff.mpr hkeyword, Bool.not_false, Bool.and_self]

/-- A keyword or a name that starts with the given character, and what follows. -/
def readName (c : Char) (rest : List Char) (hstart : isNameStart c = true) : Piece × List Char :=
  let text := String.ofList (c :: rest.takeWhile isNameChar)
  let tail := rest.dropWhile isNameChar
  if hkeyword : keywords.contains text then ({ kind := .keyword, text }, tail)
  else ({ kind := .word, text, isName_of_word := fun _ => isName_takeWhile hstart hkeyword }, tail)

/-- The piece at the start of a text, and what follows. -/
def readPiece (text : List Char) : Option (Piece × List Char) :=
  match text with
  | [] => none
  | c :: rest =>
      if hstart : isNameStart c then some (readName c rest hstart)
      else if c == '\x60' then
        (readRaw rest).map fun (run, tail) =>
          ({ kind := .text, text := String.ofList (c :: run) }, tail)
      else if c == '"' then
        (readInterpreted rest).map fun (run, tail) =>
          ({ kind := .text, text := String.ofList (c :: run) }, tail)
      else if c == '\'' then
        (readRune rest).map fun (run, tail) =>
          ({ kind := .rune, text := String.ofList (c :: run) }, tail)
      else if c.isDigit || (c == '.' && (rest.head?.map Char.isDigit).getD false) then
        (readNumber text).map fun (run, tail) =>
          ({ kind := .number, text := String.ofList run }, tail)
      else
        (readMark text).map fun (run, tail) => ({ kind := .mark, text := String.ofList run }, tail)

/-- The piece at the end of a text. -/
def finishPiece : Piece := { kind := .finish, text := "" }

/-- The tokens of a text, of which at most so many are read. -/
def readTokens : Nat → List Char → Option (List Token)
  | 0, _ => none
  | count + 1, text =>
      match readGap .blank text with
      | none => none
      | some gap =>
          let spaced (piece : Piece) : Token :=
            { piece with gap := String.ofList gap.chars, breaks := gap.breaks }
          match gap.rest with
          | [] => some [spaced finishPiece]
          | c :: rest =>
              match readPiece (c :: rest) with
              | some (piece, tail) => (readTokens count tail).map (spaced piece :: ·)
              | none => none

/-- A text without the mark that may stand before all else in a file. -/
def dropFileMark : List Char → List Char
  | [] => []
  | c :: rest => if c.toNat = 0xFEFF then rest else c :: rest

/-- The tokens of a source text; each one but the last takes at least one
    character. -/
def tokens (source : String) : Option (List Token) :=
  if source.toList.contains (Char.ofNat 0) then none
  else
    let text := dropFileMark source.toList
    readTokens (text.length + 1) text

end StructScript.Go
