import StructScript.Text.LetterCase

/-! # Go types and declarations

    The part of Go that the library works on: type expressions, the members of
    structs, declarations of named types, and the declarations of one file. -/

namespace StructScript

mutual

/-- A Go type expression. -/
inductive TypeExpr where
  /-- A bare name, with a mark for the names that are bound in its file. -/
  | named (name : String) (isLocal : Bool)
  | pointer (inner : TypeExpr)
  /-- A slice or an array; lengths are not kept. -/
  | slice (element : TypeExpr)
  /-- A slice of bytes, which JSON writes as one string. -/
  | bytes
  | map (key value : TypeExpr)
  | struct (fields : List Field)
  /-- A type of another package. -/
  | selector (package name : String)
  /-- A generic type applied to arguments. -/
  | generic (base : TypeExpr) (arguments : List TypeExpr)
  /-- An interface, which allows any value. -/
  | any
  /-- A type outside the supported set, as written, with the name of its form. -/
  | other (text form : String)

/-- A member of a struct as written: its names, none for an embedded member,
    its type, and its tag literal with the quote marks. -/
structure Field where
  names : List String
  type : TypeExpr
  tag : Option String

end

deriving instance Repr for TypeExpr, Field

instance : Inhabited TypeExpr := ⟨.any⟩

/-- A member without a name of its own. -/
def Field.isEmbedded (field : Field) : Bool :=
  field.names.isEmpty

/-- A declaration of a named type. -/
structure Declaration where
  name : String
  type : TypeExpr
  typeParams : List String := []
  isAlias : Bool := false

/-- The three ways in which a declaration is written out. -/
inductive Declaration.Shape where
  | struct
  | map
  | synonym
deriving DecidableEq, Repr

/-- The shape of a declaration, which its type decides. -/
def Declaration.shape (declaration : Declaration) : Declaration.Shape :=
  match declaration.type with
  | .struct _ => .struct
  | .map _ _ => .map
  | _ => .synonym

/-- The name of a shape. -/
def Declaration.Shape.name : Declaration.Shape → String
  | .struct => "struct"
  | .map => "map"
  | .synonym => "alias"

/-- The declarations of one file, with the names of the types that describe
    behaviour and are left out. -/
structure SourceUnit where
  path : String
  package : Option String
  declarations : List Declaration
  skipped : List String := []

/-- The names that a unit declares, in order. -/
def SourceUnit.names (unit : SourceUnit) : List String :=
  unit.declarations.map (·.name)

/-- A name is exported when it starts with an upper-case letter. -/
def isExported (name : String) : Bool :=
  match name.toList with
  | [] => false
  | first :: _ => Text.isUpper first

mutual

/-- The bare names in a type, from left to right, with their marks. -/
def TypeExpr.mentions : TypeExpr → List (String × Bool)
  | .named name isLocal => [(name, isLocal)]
  | .pointer inner => inner.mentions
  | .slice element => element.mentions
  | .map key value => key.mentions ++ value.mentions
  | .struct fields => mentionsOfFields fields
  | .generic base arguments => base.mentions ++ mentionsOfTypes arguments
  | .bytes | .selector _ _ | .any | .other _ _ => []

/-- The bare names in the types of members. -/
def mentionsOfFields : List Field → List (String × Bool)
  | [] => []
  | ⟨_, type, _⟩ :: rest => type.mentions ++ mentionsOfFields rest

/-- The bare names in several types. -/
def mentionsOfTypes : List TypeExpr → List (String × Bool)
  | [] => []
  | type :: rest => type.mentions ++ mentionsOfTypes rest

end

end StructScript
