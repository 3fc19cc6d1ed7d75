import StructScript.Yaml.Token

/-! # Layout

    The token list of a YAML text, read from left to right.  Indentation opens
    and closes blocks; a node that a colon follows on the same line is a key,
    which is known only when the colon is met, so its token is put in front of
    the node then. -/

namespace StructScript.Yaml

/-- A node that becomes a key if a colon follows. -/
structure KeyCandidate where
  /-- How many tokens stand before the node. -/
  position : Nat
  /-- Whether anything but a key would be a mistake here. -/
  required : Bool
  index : Nat
  line : Nat
  column : Nat
deriving Repr

/-- How far a text has been read. -/
structure Layout where
  cursor : Cursor
  tokens : List Token := []
  /-- How many flow collections are open. -/
  flow : Nat := 0
  /-- The column of the innermost block. -/
  indent : Int := -1
  /-- The columns of the blocks around it. -/
  outer : List Int := []
  /-- Whether a key may start here. -/
  keyAllowed : Bool := true
  /-- The key candidate of each number of open flow collections. -/
  candidates : List (Nat × KeyCandidate) := []

namespace Layout

/-- Whether the reading is inside a flow collection. -/
def inFlow (s : Layout) : Bool :=
  s.flow != 0

/-- One more token. -/
def emit (s : Layout) (token : Token) : Layout :=
  { s with tokens := s.tokens ++ [token] }

/-- A mark of so many characters. -/
def mark (s : Layout) (width : Nat) (token : Token) : Layout :=
  { s with cursor := s.cursor.advance width }.emit token

/-- Drops the candidates that no colon can reach any more: a key lies on one
    line and within 1024 characters. -/
def dropStale (s : Layout) : Except Fault Layout :=
  let stale (key : KeyCandidate) : Bool :=
    key.line != s.cursor.line || 1024 < s.cursor.index - key.index
  if s.candidates.any fun entry => stale entry.2 && entry.2.required then .error .malformed
  else .ok { s with candidates := s.candidates.filter fun entry => !stale entry.2 }

/-- Gives up the candidate of the innermost collection. -/
def dropCandidate (s : Layout) : Except Fault Layout :=
  match s.candidates.lookup s.flow with
  | some key =>
      if key.required then .error .malformed
      else .ok { s with candidates := s.candidates.filter (·.1 != s.flow) }
  | none => .ok s

/-- Takes the node that starts here for a candidate, where a key may stand. -/
def saveCandidate (s : Layout) : Except Fault Layout :=
  if s.keyAllowed then do
    let required := !s.inFlow && s.indent == (s.cursor.column : Int)
    let s ← s.dropCandidate
    let key : KeyCandidate :=
      { position := s.tokens.length, required, index := s.cursor.index, line := s.cursor.line
        column := s.cursor.column }
    return { s with candidates := (s.flow, key) :: s.candidates }
  else .ok s

/-- Ends the blocks that are indented more than a column. -/
def closeFrom (s : Layout) (column : Int) : List Int → Layout
  | [] => s
  | outer :: rest =>
      if column < s.indent then
        ({ s with indent := outer, outer := rest }.emit .blockEnd).closeFrom column rest
      else s

/-- Ends the blocks that are indented more than a column, outside flow
    collections. -/
def closeBlocks (s : Layout) (column : Int) : Layout :=
  if s.inFlow then s else s.closeFrom column s.outer

/-- Opens a block at a column that lies deeper than the innermost block; its
    token is put at the given place. -/
def openBlock (s : Layout) (column : Nat) (position : Nat) (token : Token) : Layout :=
  if s.indent < (column : Int) then
    { s with
      indent := column, outer := s.indent :: s.outer
      tokens := s.tokens.take position ++ token :: s.tokens.drop position }
  else s

/-- Opens a block here, outside flow collections, where a key may stand. -/
def openHere (s : Layout) (token : Token) : Except Fault Layout :=
  if s.inFlow then .ok s
  else if s.keyAllowed then .ok (s.openBlock s.cursor.column s.tokens.length token)
  else .error .malformed

/-- Skips spaces, comments and line breaks up to the next token. -/
def skipBlanks (s : Layout) : Nat → Layout
  | 0 => s
  | fuel + 1 =>
      let c := s.cursor.skipWhile (· == ' ')
      let c := if c.peek == '#' then c.skipWhile (!isLineEnd ·) else c
      if isBreak c.peek then
        { s with cursor := c.lineBreak.2, keyAllowed := s.keyAllowed || !s.inFlow }.skipBlanks fuel
      else { s with cursor := c }

/-- Whether a plain scalar may start here. -/
def startsPlain (s : Layout) : Bool :=
  let c := s.cursor.peek
  !(isGap c || "-?:,[]\x7b\x7d#&*!|>'\"%@\x60".toList.contains c)
    || (!isGap (s.cursor.peekAt 1) && (c == '-' || (!s.inFlow && (c == '?' || c == ':'))))

/-- Whether the mark ahead introduces something: always in flow collections, and
    before a gap elsewhere. -/
def introduces (s : Layout) : Bool :=
  s.inFlow || isGap (s.cursor.peekAt 1)

/-- A line that concerns whole documents: all blocks end before it. -/
def documentMark (s : Layout) : Except Fault Layout := do
  let s ← (s.closeBlocks (-1)).dropCandidate
  return { s with keyAllowed := false }

/-- A mark that opens a flow collection. -/
def openFlow (s : Layout) (token : Token) : Except Fault Layout := do
  let s ← s.saveCandidate
  return { s with flow := s.flow + 1, keyAllowed := true }.mark 1 token

/-- A mark that closes a flow collection. -/
def closeFlow (s : Layout) (token : Token) : Except Fault Layout := do
  let s ← s.dropCandidate
  return { s with flow := s.flow - 1, keyAllowed := false }.mark 1 token

/-- A colon: the candidate in front of it becomes a key; without one the value
    has an empty key. -/
def valueMark (s : Layout) : Except Fault Layout := do
  match s.candidates.lookup s.flow with
  | some key =>
      let tokens := s.tokens.take key.position ++ Token.key :: s.tokens.drop key.position
      let s :=
        { s with
          tokens, keyAllowed := false
          candidates := s.candidates.filter (·.1 != s.flow) }
      let s := if s.inFlow then s else s.openBlock key.column key.position .blockMapping
      return s.mark 1 .value
  | none =>
      let s ← s.openHere .blockMapping
      let s ← { s with keyAllowed := !s.inFlow }.dropCandidate
      return s.mark 1 .value

/-- A token behind which no key may start, read by the given reader. -/
def node (s : Layout) (read : Cursor → Except Fault (Token × Cursor)) : Except Fault Layout := do
  let s ← s.saveCandidate
  let (token, cursor) ← read s.cursor
  return { s with cursor, keyAllowed := false }.emit token

/-- A quoted scalar. -/
def quotedNode (s : Layout) (quote : Char) : Except Fault Layout :=
  s.node fun c => do
    let (text, c) ← c.step.quoted quote (c.rest.length + 1)
    return (.scalar (String.ofList text) false, c)

/-- A plain scalar. -/
def plainNode (s : Layout) : Except Fault Layout := do
  let s ← s.saveCandidate
  let c := s.cursor
  let (text, cursor, broken) := c.plain s.inFlow (s.indent + 1) [] false (c.rest.length + 1)
  return { s with cursor, keyAllowed := broken }.emit (.scalar (String.ofList text) true)

/-- A block scalar. -/
def blockNode (s : Layout) (fold : Bool) : Except Fault Layout := do
  let s ← { s with keyAllowed := true }.dropCandidate
  let (text, cursor) ← s.cursor.step.block fold s.indent
  return { s with cursor }.emit (.scalar (String.ofList text) false)

/-- The next token, which starts here. -/
def token (s : Layout) : Except Fault Layout := do
  let c := s.cursor
  match c.peek with
  | '%' =>
      if c.column == 0 then do
        let s ← s.documentMark
        let (line, cursor) ← s.cursor.directive
        return { s with cursor }.emit (.directive line)
      else .error .malformed
  | '[' => s.openFlow .flowSequence
  | '\x7b' => s.openFlow .flowMapping
  | ']' => s.closeFlow .flowSequenceEnd
  | '\x7d' => s.closeFlow .flowMappingEnd
  | ',' => do
      let s ← { s with keyAllowed := true }.dropCandidate
      return s.mark 1 .flowEntry
  | '*' => s.node fun c => do
      let (name, c) ← c.anchorName
      return (.reference name, c)
  | '&' => s.node fun c => do
      let (name, c) ← c.anchorName
      return (.anchor name, c)
  | '!' => s.node Cursor.tag
  | '\'' => s.quotedNode '\''
  | '"' => s.quotedNode '"'
  | char =>
      if char == '-' && isGap (c.peekAt 1) then do
        let s ← s.openHere .blockSequence
        let s ← { s with keyAllowed := true }.dropCandidate
        return s.mark 1 .blockEntry
      else if char == '?' && s.introduces then do
        let s ← s.openHere .blockMapping
        let s ← { s with keyAllowed := !s.inFlow }.dropCandidate
        return s.mark 1 .key
      else if char == ':' && s.introduces then s.valueMark
      else if char == '|' && !s.inFlow then s.blockNode false
      else if char == '>' && !s.inFlow then s.blockNode true
      else if s.startsPlain then s.plainNode
      else .error .malformed

/-- All tokens from here to the end of the text. -/
def rest (s : Layout) : Nat → Except Fault (List Token)
  | 0 => .error .malformed
  | fuel + 1 => do
      let s ← (s.skipBlanks (s.cursor.rest.length + 1)).dropStale
      let s := s.closeBlocks s.cursor.column
      if s.cursor.peek == '\x00' then
        let s ← s.documentMark
        return s.tokens
      else if s.cursor.column == 0 && s.cursor.atMarker '-' then
        ((← s.documentMark).mark 3 .documentStart).rest fuel
      else if s.cursor.column == 0 && s.cursor.atMarker '.' then
        ((← s.documentMark).mark 3 .documentEnd).rest fuel
      else (← s.token).rest fuel

end Layout

/-- The tokens of a text. -/
def tokens (text : List Char) : Except Fault (List Token) :=
  if text.all isAllowed then
    let c := Cursor.start text
    let c := if c.peek == '\ufeff' then c.step else c
    Layout.rest { cursor := c } (text.length + 1)
  else .error .malformed

end StructScript.Yaml
