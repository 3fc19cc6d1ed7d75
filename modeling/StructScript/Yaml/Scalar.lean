import StructScript.Text.Escape
import StructScript.Yaml.Cursor

/-! # The text of scalars

    A scalar is written plainly, between quotes, or as an indented block.  In
    the first two a line break is folded: one break reads as a space, and
    further breaks stand for themselves. -/

namespace StructScript.Yaml

/-- What a line break and the breaks after it read as in a folded scalar. -/
def folded (first more : List Char) : List Char :=
  if first != ['\n'] then first ++ more
  else if more.isEmpty then [' ']
  else more

namespace Cursor

/-- The line breaks ahead in a quoted scalar, with the blanks around them
    dropped.  No document may end in between. -/
def quotedBreaks (c : Cursor) : Nat → Except Fault (List Char × Cursor)
  | 0 => .error .malformed
  | fuel + 1 =>
      if c.atDocumentMarker then .error .malformed
      else
        let c := c.skipWhile fun char => char == ' ' || char == '\t'
        if isBreak c.peek then do
          let (first, c) := c.lineBreak
          let (more, c) ← c.quotedBreaks fuel
          return (first ++ more, c)
        else .ok ([], c)

/-- The blanks ahead in a quoted scalar; at the end of a line they are dropped
    and the break is folded. -/
def quotedBlanks (c : Cursor) : Except Fault (List Char × Cursor) := do
  let (blanks, c) := c.takeWhile fun char => char == ' ' || char == '\t'
  if isBreak c.peek then
    let (first, c) := c.lineBreak
    let (more, c) ← c.quotedBreaks (c.rest.length + 1)
    return (folded first more, c)
  else return (blanks, c)

end Cursor

/-- The character that a letter behind a backslash stands for. -/
def shortEscape? : Char → Option Char
  | '0' => some '\x00'
  | 'a' => some '\x07'
  | 'b' => some '\x08'
  | 't' => some '\t'
  | '\t' => some '\t'
  | 'n' => some '\n'
  | 'v' => some '\x0b'
  | 'f' => some '\x0c'
  | 'r' => some '\r'
  | 'e' => some '\x1b'
  | ' ' => some ' '
  | '"' => some '"'
  | '\\' => some '\\'
  | '/' => some '/'
  | 'N' => some '\x85'
  | '_' => some '\xa0'
  | 'L' => some '\u2028'
  | 'P' => some '\u2029'
  | _ => none

/-- How many hexadecimal digits follow a letter behind a backslash. -/
def codeWidth? : Char → Option Nat
  | 'x' => some 2
  | 'u' => some 4
  | 'U' => some 8
  | _ => none

/-- The number that hexadecimal digits write. -/
def hexValue? (digits : List Char) : Option Nat :=
  digits.foldlM (fun value c => (Text.hexDigit? c).map (16 * value + ·)) 0

/-- The character that a number in an escape stands for. -/
def charOfEscape (code : Nat) : Except Fault Char :=
  if Nat.pow 2 31 ≤ code then .error (.lapse .hugeCode)
  else if 0x110000 ≤ code then .error (.valueless "chr() arg not in range(0x110000)")
  else
    match Text.charOfCode? code with
    | some char => .ok char
    | none => .error .beyond

namespace Cursor

/-- What an escape stands for; the cursor is behind the backslash. -/
def quotedEscape (c : Cursor) : Except Fault (List Char × Cursor) :=
  match shortEscape? c.peek with
  | some char => .ok ([char], c.step)
  | none =>
      match codeWidth? c.peek with
      | some width =>
          let digits := c.step.rest.take width
          match hexValue? digits with
          | some code =>
              if digits.length < width then .error .malformed
              else
                match charOfEscape code with
                | .ok char => .ok ([char], c.advance (width + 1))
                | .error fault => .error fault
          | none => .error .malformed
      | none =>
          if isBreak c.peek then c.lineBreak.2.quotedBreaks (c.rest.length + 1)
          else .error .malformed

/-- A quoted scalar up to its closing quote; the cursor is behind the opening
    one.  Between single quotes a doubled quote stands for one, and between
    double quotes a backslash starts an escape. -/
def quoted (c : Cursor) (quote : Char) : Nat → Except Fault (List Char × Cursor)
  | 0 => .error .malformed
  | fuel + 1 => do
      let char := c.peek
      if char == quote then
        if quote == '\'' && c.peekAt 1 == '\'' then
          let (text, after) ← (c.advance 2).quoted quote fuel
          return ('\'' :: text, after)
        else return ([], c.step)
      else if char == '\x00' then .error .malformed
      else if char == ' ' || char == '\t' || isBreak char then
        let (blanks, c) ← c.quotedBlanks
        let (text, after) ← c.quoted quote fuel
        return (blanks ++ text, after)
      else if quote == '"' && char == '\\' then
        let (escaped, c) ← c.step.quotedEscape
        let (text, after) ← c.quoted quote fuel
        return (escaped ++ text, after)
      else
        let (text, after) ← c.step.quoted quote fuel
        return (char :: text, after)

end Cursor

/-- The characters that end a plain scalar inside flow collections. -/
def isFlowMark (c : Char) : Bool :=
  c == ',' || c == '[' || c == ']' || c == '\x7b' || c == '\x7d'

/-- The run of a plain scalar up to a blank, a line end, a colon that introduces
    a value, or, in flow collections, one of their marks. -/
def plainRun (flow : Bool) : List Char → List Char
  | [] => []
  | c :: rest =>
      let next := rest.headD '\x00'
      if isGap c || (c == ':' && (isGap next || (flow && isFlowMark next)))
          || (flow && (isFlowMark c || c == '?')) then []
      else c :: plainRun flow rest

namespace Cursor

/-- The line breaks ahead with the spaces around them dropped, up to a document
    marker; the flag says whether one was met. -/
def plainBreaks (c : Cursor) : Nat → List Char × Cursor × Bool
  | 0 => ([], c, false)
  | fuel + 1 =>
      let c := c.skipWhile (· == ' ')
      if isBreak c.peek then
        let (first, c) := c.lineBreak
        if c.atDocumentMarker then (first, c, true)
        else
          let (more, c, ended) := c.plainBreaks fuel
          (first ++ more, c, ended)
      else ([], c, false)

/-- The spaces behind a run of a plain scalar: what they read as when the scalar
    goes on, the cursor behind them, and whether a line ended. -/
def plainSpaces (c : Cursor) : List Char × Cursor × Bool :=
  let (spaces, c) := c.takeWhile (· == ' ')
  if isBreak c.peek then
    let (first, c) := c.lineBreak
    if c.atDocumentMarker then ([], c, true)
    else
      let (more, c, ended) := c.plainBreaks (c.rest.length + 1)
      if ended then ([], c, true) else (folded first more, c, true)
  else (spaces, c, false)

/-- A plain scalar: its text, the cursor behind it, and whether a line ended
    behind its last run.  In blocks it ends before a line that is indented less
    than `indent`. -/
def plain (c : Cursor) (flow : Bool) (indent : Int) (spaces : List Char) (broken : Bool) :
    Nat → List Char × Cursor × Bool
  | 0 => ([], c, broken)
  | fuel + 1 =>
      let run := if c.peek == '#' then [] else plainRun flow c.rest
      if run.isEmpty then ([], c, broken)
      else
        let (more, c, ended) := (c.advance run.length).plainSpaces
        if more.isEmpty || c.peek == '#' || (!flow && (c.column : Int) < indent) then
          (spaces ++ run, c, ended)
        else
          let (text, after, ended) := c.plain flow indent more ended fuel
          (spaces ++ run ++ text, after, ended)

end Cursor

/-- What becomes of the line breaks at the end of a block scalar. -/
inductive Chomping
  | strip
  | clip
  | keep
deriving DecidableEq, Repr

/-- The header of a block scalar. -/
structure BlockHeader where
  chomping : Chomping := .clip
  /-- The stated indentation, relative to the surrounding block. -/
  increment : Option Nat := none
deriving Repr

/-- The chomping that a mark asks for. -/
def chompingMark? : Char → Option Chomping
  | '+' => some .keep
  | '-' => some .strip
  | _ => none

/-- A stated indentation from one to nine. -/
def incrementDigit? (c : Char) : Option (Option Nat) :=
  if c == '0' then some none
  else if c.isDigit then some (some (c.toNat - '0'.toNat))
  else none

namespace Cursor

/-- The stated indentation ahead, if there is one; zero is refused. -/
def blockIncrement (c : Cursor) : Except Fault (Option Nat × Cursor) :=
  match incrementDigit? c.peek with
  | some (some n) => .ok (some n, c.step)
  | some none => .error .malformed
  | none => .ok (none, c)

/-- The header of a block scalar: chomping and indentation in either order. -/
def blockHeader (c : Cursor) : Except Fault (BlockHeader × Cursor) := do
  let (header, c) ←
    match chompingMark? c.peek with
    | some chomping => do
        let (increment, c) ← c.step.blockIncrement
        pure (({ chomping, increment } : BlockHeader), c)
    | none => do
        let (increment, c) ← c.blockIncrement
        match increment, chompingMark? c.peek with
        | some _, some chomping => pure (({ chomping, increment } : BlockHeader), c.step)
        | _, _ => pure (({ increment } : BlockHeader), c)
  if isSpaceOrEnd c.peek then return (header, c) else .error .malformed

/-- The breaks before the first line of a block scalar, the widest indentation
    among them and of that line, and the cursor behind. -/
def blockLead (c : Cursor) (widest : Nat) : Nat → List Char × Nat × Cursor
  | 0 => ([], widest, c)
  | fuel + 1 =>
      if isBreak c.peek then
        let (first, c) := c.lineBreak
        let (more, widest, c) := c.blockLead widest fuel
        (first ++ more, widest, c)
      else if c.peek == ' ' then
        let c := c.step
        c.blockLead (max widest c.column) fuel
      else ([], widest, c)

/-- The cursor behind the spaces ahead, up to a column. -/
def indentTo (c : Cursor) (indent : Nat) : Cursor :=
  let spaces := (c.rest.takeWhile (· == ' ')).length
  c.advance (min spaces (indent - c.column))

/-- The breaks ahead in a block scalar, with the indentation behind them. -/
def blockBreaks (c : Cursor) (indent : Nat) : Nat → List Char × Cursor
  | 0 => ([], c)
  | fuel + 1 =>
      let c := c.indentTo indent
      if isBreak c.peek then
        let (first, c) := c.lineBreak
        let (more, c) := c.blockBreaks indent fuel
        (first ++ more, c)
      else ([], c)

/-- What joins two lines of a block scalar: in a folded scalar the break between
    lines that start with text is folded. -/
def blockJoin (fold : Bool) (textual : Bool) (ending more : List Char) (next : Char) :
    List Char :=
  if fold && ending == ['\n'] && textual && !(next == ' ' || next == '\t') then
    if more.isEmpty then [' '] else []
  else ending

/-- The lines of a block scalar: its text, the break behind the last line, the
    breaks behind that, and the cursor. -/
def blockLines (c : Cursor) (fold : Bool) (indent : Nat) (before : List Char) :
    Nat → List Char × List Char × List Char × Cursor
  | 0 => ([], [], before, c)
  | fuel + 1 =>
      if c.column == indent && c.peek != '\x00' then
        let textual := !(c.peek == ' ' || c.peek == '\t')
        let (line, c) := c.takeWhile (!isLineEnd ·)
        let (ending, c) := c.lineBreak
        let (more, c) := c.blockBreaks indent (c.rest.length + 1)
        if c.column == indent && c.peek != '\x00' then
          let join := blockJoin fold textual ending more c.peek
          let (text, ending, trailing, c) := c.blockLines fold indent more fuel
          (before ++ line ++ join ++ text, ending, trailing, c)
        else (before ++ line, ending, more, c)
      else ([], [], before, c)

/-- A block scalar behind its mark, inside a block with the given indentation. -/
def block (c : Cursor) (fold : Bool) (parent : Int) : Except Fault (List Char × Cursor) := do
  let (header, c) ← c.blockHeader
  let c ← c.commentLine
  let least := max 1 (parent + 1).toNat
  let (before, indent, c) :=
    match header.increment with
    | none =>
        let (before, widest, c) := c.blockLead 0 (c.rest.length + 1)
        (before, max least widest, c)
    | some increment =>
        let indent := least + increment - 1
        let (before, c) := c.blockBreaks indent (c.rest.length + 1)
        (before, indent, c)
  let (text, ending, trailing, c) := c.blockLines fold indent before (c.rest.length + 1)
  match header.chomping with
  | .strip => return (text, c)
  | .clip => return (text ++ ending, c)
  | .keep => return (text ++ ending ++ trailing, c)

end Cursor

end StructScript.Yaml
