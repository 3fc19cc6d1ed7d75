import StructScript.Text.Integer
import StructScript.Yaml.Scalar

/-! # YAML tokens

    The marks, names, tags and scalars of a YAML text.  Besides what is written,
    the tokens hold what the layout says: where blocks start and end, and where
    a scalar is a key. -/

namespace StructScript.Yaml

/-- A line in front of a document that starts with a percent sign. -/
inductive Directive
  | version (major : Nat)
  | tagHandle (handle meaning : String)
  | unknown
deriving DecidableEq, Repr

/-- A piece of a YAML text. -/
inductive Token
  | directive (line : Directive)
  | documentStart
  | documentEnd
  | blockSequence
  | blockMapping
  | blockEnd
  | flowSequence
  | flowSequenceEnd
  | flowMapping
  | flowMappingEnd
  | blockEntry
  | flowEntry
  | key
  | value
  | reference (anchor : String)
  | anchor (name : String)
  | tag (handle : Option String) (suffix : String)
  | scalar (text : String) (plain : Bool)
deriving DecidableEq, Repr

/-- The characters of anchors, tag handles and directive names. -/
def isNameChar (c : Char) : Bool :=
  c.isAlphanum || c == '-' || c == '_'

/-- The characters of a tag besides percent escapes. -/
def isTagChar (c : Char) : Bool :=
  c.isAlphanum || "-;/?:@&=+$,_.!~*'()[]".toList.contains c

/-- The message about a number with more digits than are read. -/
def tooManyDigits (text : List Char) : String :=
  "Exceeds the limit (" ++ toString Text.digitLimit
    ++ " digits) for integer string conversion: value has " ++ toString (Text.digitCount text)
    ++ " digits; use sys.set_int_max_str_digits() to increase the limit"

namespace Cursor

/-- The bytes that percent escapes stand for. -/
def percentBytes (c : Cursor) : Nat → Except Fault (List UInt8 × Cursor)
  | 0 => .error .malformed
  | fuel + 1 =>
      if c.peek == '%' then
        match Text.hexDigit? (c.peekAt 1), Text.hexDigit? (c.peekAt 2) with
        | some high, some low => do
            let (bytes, after) ← (c.advance 3).percentBytes fuel
            return (UInt8.ofNat (16 * high + low) :: bytes, after)
        | _, _ => .error .malformed
      else .ok ([], c)

/-- The text of a tag. -/
def tagText (c : Cursor) : Nat → Except Fault (List Char × Cursor)
  | 0 => .error .malformed
  | fuel + 1 =>
      if c.peek == '%' then do
        let (bytes, c) ← c.percentBytes (c.rest.length + 1)
        match String.fromUTF8? ⟨bytes.toArray⟩ with
        | some decoded =>
            let (more, c) ← c.tagText fuel
            return (decoded.toList ++ more, c)
        | none => .error .malformed
      else if isTagChar c.peek then do
        let (run, c) := c.takeWhile isTagChar
        let (more, c) ← c.tagText fuel
        return (run ++ more, c)
      else .ok ([], c)

/-- The text of a tag, which is not empty. -/
def someTagText (c : Cursor) : Except Fault (String × Cursor) := do
  let (text, c) ← c.tagText (c.rest.length + 1)
  if text.isEmpty then .error .malformed else return (String.ofList text, c)

/-- A tag handle: an exclamation mark, or a name between two of them. -/
def tagHandle (c : Cursor) : Except Fault (String × Cursor) :=
  if c.peek != '!' then .error .malformed
  else if c.peekAt 1 == ' ' then .ok ("!", c.step)
  else
    let (name, after) := c.step.takeWhile isNameChar
    if after.peek == '!' then .ok ("!" ++ String.ofList name ++ "!", after.step)
    else .error .malformed

/-- A tag. -/
def tag (c : Cursor) : Except Fault (Token × Cursor) := do
  let (token, c) ←
    if c.peekAt 1 == '<' then do
      let (suffix, c) ← (c.advance 2).someTagText
      if c.peek != '>' then .error .malformed else pure (Token.tag none suffix, c.step)
    else if isGap (c.peekAt 1) then pure (Token.tag none "!", c.step)
    else do
      let word := c.step.rest.takeWhile (!isSpaceOrEnd ·)
      let (handle, c) ← if word.contains '!' then c.tagHandle else pure ("!", c.step)
      let (suffix, c) ← c.someTagText
      pure (Token.tag (some handle) suffix, c)
  if isSpaceOrEnd c.peek then return (token, c) else .error .malformed

/-- The name behind the mark of an anchor or of a reference to one. -/
def anchorName (c : Cursor) : Except Fault (String × Cursor) :=
  let (name, c) := c.step.takeWhile isNameChar
  if name.isEmpty then .error .malformed
  else if isGap c.peek || "?:,]\x7d%@\x60".toList.contains c.peek then
    .ok (String.ofList name, c)
  else .error .malformed

/-- A whole number in a version directive. -/
def versionNumber (c : Cursor) : Except Fault (Nat × Cursor) :=
  let (digits, c) := c.takeWhile Char.isDigit
  if digits.isEmpty then .error .malformed
  else if Text.digitLimit < digits.length then .error (.valueless (tooManyDigits digits))
  else .ok (digits.foldl (fun n d => 10 * n + (d.toNat - '0'.toNat)) 0, c)

/-- The number of a version directive. -/
def versionDirective (c : Cursor) : Except Fault (Directive × Cursor) := do
  let (major, c) ← (c.skipWhile (· == ' ')).versionNumber
  if c.peek != '.' then .error .malformed
  else
    let (_, c) ← c.step.versionNumber
    if isSpaceOrEnd c.peek then return (.version major, c) else .error .malformed

/-- The handle of a tag directive and what it stands for. -/
def handleDirective (c : Cursor) : Except Fault (Directive × Cursor) := do
  let (handle, c) ← (c.skipWhile (· == ' ')).tagHandle
  if c.peek != ' ' then .error .malformed
  else
    let (meaning, c) ← (c.skipWhile (· == ' ')).someTagText
    if isSpaceOrEnd c.peek then return (.tagHandle handle meaning, c) else .error .malformed

/-- A directive line. -/
def directive (c : Cursor) : Except Fault (Directive × Cursor) := do
  let (name, c) := c.step.takeWhile isNameChar
  if name.isEmpty || !isSpaceOrEnd c.peek then .error .malformed
  else
    let (line, c) ←
      if name == "YAML".toList then c.versionDirective
      else if name == "TAG".toList then c.handleDirective
      else pure (.unknown, c.skipWhile (!isLineEnd ·))
    return (line, ← c.commentLine)

end Cursor

end StructScript.Yaml
