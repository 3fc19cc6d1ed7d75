import StructScript.Go.Flaw
import StructScript.Go.Statement
import StructScript.Fault
import StructScript.Journal

/-! # Go files

    A file is a sequence of clauses, declarations and statements in any order.
    Of these only the package clause and the declared types matter; a type that
    describes behaviour is skipped.  A name in a type is local when the file
    declares it or the type has it as a parameter. -/

namespace StructScript.Go

/-- One item of a file. -/
inductive Item where
  | package (name : String)
  | types (specs : List Spec)
  | other

/-- An item as read; some items may stand at the end of a file without a
    terminator. -/
structure ItemPhrase where
  item : Item
  mayEnd : Bool

/-- An imported package. -/
def readImport : Reader Unit := fun ts =>
  let path (ts : List Token) : Option (Unit × List Token) :=
    match ts with
    | token :: rest => if token.isText then some ((), rest) else none
    | [] => none
  match ts with
  | [] => none
  | token :: rest => if token.isWord || token.is "." then path rest else path ts

/-- What stands behind `import`. -/
def readImports : Reader Unit := fun ts =>
  if nextIs false "(" ts then
    (terminated false ")" readImport ts.length ts.tail).map fun (_, rest) => ((), rest)
  else readImport ts

/-- The parameters, the result and the block of a declared function; the last
    two may be missing. -/
def readFunctionRest (phrases : Phrases) : Reader Unit := fun ts =>
  match readParameters phrases ts with
  | none => none
  | some ((), rest) =>
      let after := skipResult phrases true rest
      if nextIs true "\x7b" after then readBlock phrases after else some ((), after)

/-- A declared function behind its keyword. -/
def readFunction (phrases : Phrases) : Reader Unit := fun ts =>
  match readWord ts with
  | none => none
  | some (_, rest) =>
      if nextIs false "[" rest then
        match readTypeParameters phrases rest with
        | some (_, after) => readFunctionRest phrases after
        | none => none
      else readFunctionRest phrases rest

/-- A declared method behind its keyword. -/
def readMethod (phrases : Phrases) : Reader Unit := fun ts =>
  match readParameters phrases ts with
  | none => none
  | some ((), rest) =>
      match readWord rest with
      | some (_, after) => readFunctionRest phrases after
      | none => none

/-- An item of a file. -/
def readItem (phrases : Phrases) : Reader ItemPhrase := fun ts =>
  let other (mayEnd : Bool) (found : Option (Unit × List Token)) :
      Option (ItemPhrase × List Token) :=
    found.map fun (_, rest) => ({ item := .other, mayEnd }, rest)
  let statement : Option (ItemPhrase × List Token) := other false (readStatement phrases ts)
  match ts with
  | [] => none
  | token :: rest =>
      if token.is "package" then
        (readWord rest).map fun (name, after) => ({ item := .package name, mayEnd := true }, after)
      else if token.is "import" then other true (readImports rest)
      else if token.is "func" then
        ((other true (readFunction phrases rest)).or (other true (readMethod phrases rest))).or
          statement
      else if token.is "type" then
        (readSpecs phrases rest).map fun (specs, after) =>
          ({ item := .types specs, mayEnd := false }, after)
      else statement

/-- Whether only the end of the text is left. -/
def atFinish : List Token → Bool
  | [token] => token.kind == .finish
  | _ => false

/-- What follows the end of an item: a line end, a semicolon or, for some items, the
    end of the text. -/
def afterItem (mayEnd : Bool) : List Token → Option (List Token)
  | [] => none
  | token :: rest =>
      if token.breaks then some (token :: rest)
      else if token.is ";" then some rest
      else if mayEnd && atFinish (token :: rest) then some (token :: rest)
      else none

/-- An item of a file with its end. -/
def readEndedItem (phrases : Phrases) : Reader Item := fun ts =>
  match readItem phrases ts with
  | none => none
  | some (found, rest) => (afterItem found.mayEnd rest).map (found.item, ·)

/-- The items of a file. -/
def readItems (phrases : Phrases) : Nat → List Token → Option (List Item)
  | 0, _ => none
  | count + 1, ts =>
      if atFinish ts then some []
      else
        match readEndedItem phrases ts with
        | none => none
        | some (item, rest) => (readItems phrases count rest).map (item :: ·)

/-- The tokens of a file from the first item on that cannot be read. -/
def unreadItems (phrases : Phrases) : Nat → List Token → List Token
  | 0, ts => ts
  | count + 1, ts =>
      if atFinish ts then []
      else
        match readEndedItem phrases ts with
        | none => ts
        | some (_, rest) => unreadItems phrases count rest

/-- The items of a source text; none if the text is not well formed. -/
def items (source : String) : Option (List Item) :=
  match tokens source with
  | some ts => readItems (phrases ts.length) ts.length ts
  | none => none

/-- How many bytes at the end of a source text cannot be read. -/
def unreadSize (source : String) : Nat :=
  match tokens source with
  | some ts => (Token.spelling (unreadItems (phrases ts.length) ts.length ts)).utf8ByteSize
  | none => source.utf8ByteSize

/-- The tree of a source text that is not well formed: its flaw reaches from the
    first item that cannot be read to the end of the text. -/
def flawedTree (source : String) : SyntaxNode :=
  let bytes := Text.Utf8.encode source
  let first := bytes.length - unreadSize source
  let before := bytes.take first
  let newline : UInt8 := 10
  let flaw : SyntaxNode :=
    { kind := "ERROR", flawed := true, line := before.count newline
      column := (before.reverse.takeWhile (· != newline)).length, first, past := bytes.length }
  { kind := "source_file", flawed := true, past := bytes.length, children := [flaw] }

/-- The package that the items name first. -/
def packageOf : List Item → Option String
  | [] => none
  | .package name :: _ => some name
  | _ :: rest => packageOf rest

/-- The types that the items declare, in order. -/
def specsOf : List Item → List Spec
  | [] => []
  | .types specs :: rest => specs ++ specsOf rest
  | _ :: rest => specsOf rest

end StructScript.Go

namespace StructScript

mutual

/-- A type with the names of a scope marked as local, and no others. -/
def TypeExpr.bind (scope : List String) : TypeExpr → TypeExpr
  | .named name _ => .named name (scope.contains name)
  | .pointer inner => .pointer (inner.bind scope)
  | .slice element => .slice (element.bind scope)
  | .bytes => .bytes
  | .map key value => .map (key.bind scope) (value.bind scope)
  | .struct fields => .struct (bindFields scope fields)
  | .selector package name => .selector package name
  | .generic base arguments => .generic (base.bind scope) (bindTypes scope arguments)
  | .any => .any
  | .other text form => .other text form

/-- Members with the names of a scope marked. -/
def bindFields (scope : List String) : List Field → List Field
  | [] => []
  | ⟨names, type, tag⟩ :: rest => ⟨names, type.bind scope, tag⟩ :: bindFields scope rest

/-- Types with the names of a scope marked. -/
def bindTypes (scope : List String) : List TypeExpr → List TypeExpr
  | [] => []
  | type :: rest => type.bind scope :: bindTypes scope rest

end

namespace Go

/-- Whether a declared type is data. -/
def Spec.isData (spec : Spec) : Bool :=
  spec.phrase.behaviour.isNone

/-- The declaration of a declared type, given the names that the file declares. -/
def Spec.declaration (names : List String) (spec : Spec) : Declaration :=
  { name := spec.name
    type := spec.phrase.type.bind (names ++ spec.typeParams)
    typeParams := spec.typeParams
    isAlias := spec.isAlias }

/-- The unit of the items of a file. -/
def unitOf (path : String) (items : List Item) : SourceUnit :=
  let specs := specsOf items
  let names := specs.map (·.name)
  { path
    package := packageOf items
    declarations := (specs.filter (·.isData)).map (·.declaration names)
    skipped := (specs.filter (!·.isData)).map (·.name) }

/-- What is recorded about the types of a file that are skipped. -/
def skipRecords (path : String) (items : List Item) : List Record :=
  (specsOf items).filterMap fun spec =>
    spec.phrase.behaviour.map fun form =>
      { level := .debug, logger := "parser"
        message := "Skipping " ++ spec.name ++ " in " ++ path ++ " (" ++ form ++ ")" }

/-- The fault of a text that is not well formed. -/
def malformed (source path : String) : Fault :=
  { cause := .unreadable path ((flawedTree source).describe (Text.Utf8.encode source)) }

/-- The unit of a source text. -/
def parse (source path : String) : Except Fault SourceUnit :=
  match items source with
  | some found => .ok (unitOf path found)
  | none => .error (malformed source path)

/-- What is recorded while a source text is read. -/
def parseRecords (source path : String) : List Record :=
  match items source with
  | some found => skipRecords path found
  | none => []

end Go

end StructScript
