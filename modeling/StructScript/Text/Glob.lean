/-! # Patterns

    A pattern matches a whole text.  An asterisk stands for any text, a question
    mark for any character, and brackets for one character of a class; slashes
    are nothing special. -/

namespace StructScript.Text.Glob

/-- A member of a class: the characters from `first` to `last`. -/
structure CharRange where
  first : Char
  last : Char
deriving DecidableEq, Repr

/-- A piece of a pattern. -/
inductive Piece
  | literal (c : Char)
  | anyChar
  | anyText
  | oneOf (negated : Bool) (members : List CharRange)
deriving DecidableEq, Repr

/-- The ranges of a class: two characters with a hyphen between them, or single
    characters. -/
def ranges : List Char → List CharRange
  | first :: '-' :: last :: rest => ⟨first, last⟩ :: ranges rest
  | c :: rest => ⟨c, c⟩ :: ranges rest
  | [] => []

/-- The class that stands between brackets.  An exclamation mark in front negates
    it, and ranges that hold nothing are dropped first. -/
def classOf (content : List Char) : Piece :=
  let all : List CharRange :=
    match content with
    | '!' :: rest => ⟨'!', '!'⟩ :: ranges rest
    | _ => ranges content
  match all.filter fun range => range.first ≤ range.last with
  | ⟨'!', '!'⟩ :: members => .oneOf true members
  | members => .oneOf false members

/-- The content of brackets and what follows them; a closing bracket at the
    start belongs to the content. -/
def bracketed? (text : List Char) : Option (List Char × List Char) :=
  let (sign, rest) := text.span (· == '!')
  let (sign, rest) := (sign.take 1, sign.drop 1 ++ rest)
  let (head, rest) :=
    match rest with
    | ']' :: rest => ([']'], rest)
    | _ => ([], rest)
  match rest.span (· != ']') with
  | (content, _ :: after) => some (sign ++ head ++ content, after)
  | (_, []) => none

/-- The pieces of a pattern, read with at most so many steps.  A bracket that is
    not closed stands for itself. -/
def piecesWithin : Nat → List Char → List Piece
  | 0, _ => []
  | _ + 1, [] => []
  | steps + 1, '*' :: rest => .anyText :: piecesWithin steps rest
  | steps + 1, '?' :: rest => .anyChar :: piecesWithin steps rest
  | steps + 1, '[' :: rest =>
      match bracketed? rest with
      | some (content, after) => classOf content :: piecesWithin steps after
      | none => .literal '[' :: piecesWithin steps rest
  | steps + 1, c :: rest => .literal c :: piecesWithin steps rest

/-- The pieces of a pattern. -/
def pieces (pattern : List Char) : List Piece :=
  piecesWithin pattern.length pattern

/-- Whether a predicate holds of a text or of what is left of it after some
    characters. -/
def someSuffix (p : List Char → Bool) : List Char → Bool
  | [] => p []
  | c :: rest => p (c :: rest) || someSuffix p rest

/-- Whether a piece stands for a character. -/
def Piece.accepts : Piece → Char → Bool
  | .literal c, d => c == d
  | .anyChar, _ => true
  | .anyText, _ => true
  | .oneOf negated members, d =>
      (members.any fun range => range.first ≤ d && d ≤ range.last) != negated

/-- Whether pieces stand for a whole text. -/
def accepts : List Piece → List Char → Bool
  | [], text => text.isEmpty
  | .anyText :: rest, text => someSuffix (accepts rest) text
  | _ :: _, [] => false
  | piece :: rest, c :: after => piece.accepts c && accepts rest after

end StructScript.Text.Glob

namespace StructScript.Text

/-- Whether a pattern matches a text. -/
def matchesPattern (pattern text : String) : Bool :=
  Glob.accepts (Glob.pieces pattern.toList) text.toList

end StructScript.Text
