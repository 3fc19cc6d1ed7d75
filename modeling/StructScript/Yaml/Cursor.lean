import StructScript.Lapse

/-! # Places in a YAML text

    A cursor is what is still to be read together with its place: how many
    characters lie before it, and its line and column.  Behind the end of the
    text stands the null character, which no YAML text may hold. -/

namespace StructScript.Yaml

/-- Why a text has no value. -/
inductive Fault
  /-- The text is no single well-formed document of known tags. -/
  | malformed
  /-- The text is well-formed, and a scalar in it has no value. -/
  | valueless (reason : String)
  /-- The text is well-formed, and a scalar in it is more than a value can hold or
      less than one needs. -/
  | lapse (lapse : Lapse)
  /-- An escape in the text writes half of a character, which no text here holds. -/
  | beyond
deriving DecidableEq, Repr

/-- A place in a text. -/
structure Cursor where
  rest : List Char
  index : Nat := 0
  line : Nat := 0
  column : Nat := 0
deriving Repr

/-- The characters that end a line. -/
def isBreak (c : Char) : Bool :=
  c == '\r' || c == '\n' || c == '\x85' || c == '\u2028' || c == '\u2029'

/-- The end of a line or of the text. -/
def isLineEnd (c : Char) : Bool :=
  c == '\x00' || isBreak c

/-- A space or the end of a line. -/
def isSpaceOrEnd (c : Char) : Bool :=
  c == ' ' || isLineEnd c

/-- A space, a tab or the end of a line. -/
def isGap (c : Char) : Bool :=
  c == '\t' || isSpaceOrEnd c

/-- Whether a character may stand in a YAML text. -/
def isAllowed (c : Char) : Bool :=
  let code := c.toNat
  code == 0x9 || code == 0xa || code == 0xd || (0x20 ≤ code && code ≤ 0x7e) || code == 0x85
    || (0xa0 ≤ code && code ≤ 0xfffd) || 0x10000 ≤ code

namespace Cursor

/-- The cursor at the start of a text. -/
def start (text : List Char) : Cursor :=
  { rest := text }

/-- The character so many places ahead. -/
def peekAt (c : Cursor) (distance : Nat) : Char :=
  (c.rest.drop distance).headD '\x00'

/-- The next character. -/
def peek (c : Cursor) : Char :=
  c.rest.headD '\x00'

/-- The cursor behind the next character. -/
def step (c : Cursor) : Cursor :=
  match c.rest with
  | [] => c
  | char :: rest =>
      if isBreak char && !(char == '\r' && rest.head? == some '\n') then
        { rest, index := c.index + 1, line := c.line + 1, column := 0 }
      else
        { rest, index := c.index + 1, line := c.line
          column := if char == '\ufeff' then c.column else c.column + 1 }

/-- The cursor behind the next so many characters. -/
def advance (c : Cursor) : Nat → Cursor
  | 0 => c
  | count + 1 => c.step.advance count

/-- The longest run of characters of a class, and the cursor behind it. -/
def takeWhile (c : Cursor) (p : Char → Bool) : List Char × Cursor :=
  let run := c.rest.takeWhile p
  (run, c.advance run.length)

/-- The cursor behind the longest run of characters of a class. -/
def skipWhile (c : Cursor) (p : Char → Bool) : Cursor :=
  (c.takeWhile p).2

/-- The text of a line break and the cursor behind it; no text where no line
    breaks.  The breaks of plain text are all read as a line feed. -/
def lineBreak (c : Cursor) : List Char × Cursor :=
  let char := c.peek
  if char == '\r' && c.peekAt 1 == '\n' then (['\n'], c.advance 2)
  else if char == '\r' || char == '\n' || char == '\x85' then (['\n'], c.step)
  else if char == '\u2028' || char == '\u2029' then ([char], c.step)
  else ([], c)

/-- Whether a marker of three equal characters and a gap is ahead. -/
def atMarker (c : Cursor) (char : Char) : Bool :=
  c.rest.take 3 == [char, char, char] && isGap (c.peekAt 3)

/-- Whether a document ends or starts here. -/
def atDocumentMarker (c : Cursor) : Bool :=
  c.atMarker '-' || c.atMarker '.'

/-- The cursor behind the rest of a line of which only a comment may be left. -/
def commentLine (c : Cursor) : Except Fault Cursor :=
  let c := c.skipWhile (· == ' ')
  let c := if c.peek == '#' then c.skipWhile (!isLineEnd ·) else c
  if isLineEnd c.peek then .ok c.lineBreak.2 else .error .malformed

end Cursor

end StructScript.Yaml
