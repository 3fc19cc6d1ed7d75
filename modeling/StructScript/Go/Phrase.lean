import StructScript.Go.Token
import StructScript.TypeExpr

/-! # Phrases of Go

    A reader takes a phrase from the front of a token list.  Phrases nest, so
    the readers for nested phrases come in a record, and the readers of one
    level are made from those of the level below.  A line end is a terminator
    exactly where a phrase could be complete: readers that stand in such a
    place are told to stop at one. -/

namespace StructScript.Go

/-- A reader of phrases: the phrase and the tokens behind it. -/
abbrev Reader (α : Type) := List Token → Option (α × List Token)

/-- A type as read.  A type that describes behaviour, and so is not declared as
    data, has the name of its form beside it. -/
structure TypePhrase where
  type : TypeExpr
  behaviour : Option String := none

/-- What a term can stand for; a term may be both an expression and a type. -/
structure TermPhrase where
  isExpression : Bool
  isType : Bool
  /-- A name, qualified or applied: a body behind it makes a literal only where
      no block can stand. -/
  isName : Bool := false
  /-- A type that takes a body in any place. -/
  takesBody : Bool := false

/-- The place of a term: whether a line end can end it, and whether a body
    behind a name belongs to it. -/
structure Place where
  ends : Bool
  bodies : Bool

/-- Inside brackets of any kind. -/
def Place.inside : Place := { ends := false, bodies := true }

/-- In a statement. -/
def Place.statement : Place := { ends := true, bodies := true }

/-- In the header of a statement, before its block. -/
def Place.header : Place := { ends := false, bodies := false }

/-- The readers for nested phrases. -/
structure Phrases where
  type : Bool → Reader TypePhrase
  term : Place → Reader TermPhrase
  /-- The body of a literal. -/
  body : Reader Unit
  statement : Reader Unit

/-- No phrase at all. -/
def Phrases.none : Phrases where
  type _ _ := Option.none
  term _ _ := Option.none
  body _ := Option.none
  statement _ := Option.none

/-- Whether the next token is the given keyword or mark.  Where a line end ends
    the phrase, a token on another line is not looked at. -/
def nextIs (ends : Bool) (text : String) : List Token → Bool
  | [] => false
  | token :: _ => token.is text && !(ends && token.breaks)

/-- The given keyword or mark. -/
def expect (text : String) : Reader Unit
  | [] => none
  | token :: rest => if token.is text then some ((), rest) else none

/-- A name. -/
def readWord : Reader String
  | [] => none
  | token :: rest => if token.isWord then some (token.text, rest) else none

/-- At least one item, with commas between neighbours and on demand one at the
    end, up to a closing mark. -/
def itemsUntil {α : Type} (close : String) (item : Reader α) : Nat → Reader (List α)
  | 0, _ => none
  | count + 1, ts =>
      match item ts with
      | none => none
      | some (first, rest) =>
          if nextIs false close rest then some ([first], rest.tail)
          else if nextIs false "," rest then
            if nextIs false close rest.tail then some ([first], rest.tail.tail)
            else
              (itemsUntil close item count rest.tail).map fun (others, after) =>
                (first :: others, after)
          else none

/-- Items between an opening and a closing mark, possibly none. -/
def bracketed {α : Type} (start close : String) (item : Reader α) : Reader (List α) := fun ts =>
  match expect start ts with
  | none => none
  | some ((), rest) =>
      if nextIs false close rest then some ([], rest.tail)
      else itemsUntil close item rest.length rest

/-- At least one item, with a separator between neighbours. -/
def separated {α : Type} (ends : Bool) (separator : String) (item : Reader α) :
    Nat → Reader (List α)
  | 0, _ => none
  | count + 1, ts =>
      match item ts with
      | none => none
      | some (first, rest) =>
          if nextIs ends separator rest then
            (separated ends separator item count rest.tail).map fun (others, after) =>
              (first :: others, after)
          else some ([first], rest)

/-- At least one name, with commas between neighbours. -/
def readWords : Reader (List String) := fun ts =>
  separated false "," readWord ts.length ts

/-- The tokens behind the terminator of an item in a list: a line end or a
    semicolon.  Before the closing mark the terminator may be missing, unless
    it is always wanted. -/
def afterTerminator (always : Bool) (close : String) (ts : List Token) : Option (List Token) :=
  match ts with
  | [] => none
  | token :: rest =>
      if token.breaks then some ts
      else if token.is ";" then some rest
      else if !always && token.is close then some ts
      else none

/-- Items with terminators, up to a closing mark. -/
def terminated {α : Type} (always : Bool) (close : String) (item : Reader α) :
    Nat → Reader (List α)
  | 0, _ => none
  | count + 1, ts =>
      if nextIs false close ts then some ([], ts.tail)
      else
        match item ts with
        | none => none
        | some (first, rest) =>
            match afterTerminator always close rest with
            | none => none
            | some next =>
                (terminated always close item count next).map fun (others, after) =>
                  (first :: others, after)

/-- The source of a phrase, given the tokens from its start and those behind
    it. -/
def sourceOf (start rest : List Token) : String :=
  Token.spelling (start.take (start.length - rest.length))

end StructScript.Go
