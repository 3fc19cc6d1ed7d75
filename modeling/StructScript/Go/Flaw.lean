import StructScript.Text.Blank
import StructScript.Text.Quoted
import StructScript.Text.Utf8

/-! # Flaws of a source text

    How a syntax tree with flaws is described: by the first flaw in it, with
    its place and the text at it. -/

namespace StructScript.Go

/-- A node of a syntax tree that may have flaws. -/
structure SyntaxNode where
  kind : String
  /-- Whether the node stands for something that is not there. -/
  missing : Bool := false
  /-- Whether the node or a node below it is flawed. -/
  flawed : Bool := false
  /-- The line and column of its start, counted from zero. -/
  line : Nat := 0
  column : Nat := 0
  /-- The bytes of the source that it covers. -/
  first : Nat := 0
  past : Nat := 0
  children : List SyntaxNode := []

mutual

/-- The first flaw of a tree: a node that is missing or could not be read. -/
def SyntaxNode.firstFlaw? : SyntaxNode → Option SyntaxNode
  | ⟨kind, missing, flawed, line, column, first, past, children⟩ =>
      if kind == "ERROR" || missing then
        some ⟨kind, missing, flawed, line, column, first, past, children⟩
      else firstFlawAmong? children

/-- The first flaw of the trees that are flawed. -/
def firstFlawAmong? : List SyntaxNode → Option SyntaxNode
  | [] => none
  | node :: rest =>
      if node.flawed || node.missing then
        match node.firstFlaw? with
        | some flaw => some flaw
        | none => firstFlawAmong? rest
      else firstFlawAmong? rest

end

/-- The most characters of a source that a description shows. -/
def snippetLength : Nat := 40

/-- The text of a source at a node, on one line and cut. -/
def SyntaxNode.snippet (source : List UInt8) (node : SyntaxNode) : String :=
  let bytes := (source.take node.past).drop node.first
  let words := (Text.words (Text.Utf8.decodeLossy bytes)).map String.ofList
  String.ofList ((String.intercalate " " words).toList.take snippetLength)

/-- The place of a node, counted from one. -/
def SyntaxNode.place (node : SyntaxNode) : String :=
  " at line " ++ toString (node.line + 1) ++ ", column " ++ toString (node.column + 1)

/-- The description of a tree with flaws. -/
def SyntaxNode.describe (source : List UInt8) (root : SyntaxNode) : String :=
  match root.firstFlaw? with
  | none => "syntax error"
  | some node =>
      if node.missing then "syntax error" ++ node.place ++ ": missing " ++ node.kind
      else "syntax error" ++ node.place ++ " near " ++ Text.quoted (node.snippet source)

end StructScript.Go
