import StructScript.TypeExpr
import StructScript.StructTag

/-! # Members of an interface

    Which fields of a struct become members of its interface, under which
    names, and which members may be absent.  Embedded fields give no members;
    unexported names and names with the JSON name `-` are left out. -/

namespace StructScript

/-- The names of Go's numeric types. -/
def numberNames : List String :=
  ["int", "int8", "int16", "int32", "int64", "uint", "uint8", "uint16", "uint32", "uint64",
    "uintptr", "byte", "rune", "float32", "float64", "complex64", "complex128"]

/-- A field of a struct as a member of an interface. -/
structure Member where
  sourceName : String
  name : String
  optional : Bool
  /-- The type of the field, without its pointer if it has one. -/
  type : TypeExpr
  pointer : Bool
  /-- The value is a number or a truth value that JSON writes as a string. -/
  asString : Bool

namespace Member

/-- The types that the option `string` applies to. -/
def isScalar : TypeExpr → Bool
  | .named name _ => numberNames.contains name || name == "bool"
  | _ => false

/-- A pointer's target, or the type itself. -/
def target : TypeExpr → TypeExpr
  | .pointer inner => inner
  | type => type

/-- Whether a type is a pointer. -/
def isPointer : TypeExpr → Bool
  | .pointer _ => true
  | _ => false

/-- Whether the JSON entry of a tag suppresses its members. -/
def isSuppressed : Option StructTag.Entry → Bool
  | some entry => entry.name == "-" && entry.options.isEmpty
  | none => false

/-- The member for one name of a field, given the JSON entry of its tag. -/
def ofName (json : Option StructTag.Entry) (type : TypeExpr) (sourceName : String) : Member :=
  let omits (entry : StructTag.Entry) := entry.hasOption "omitempty" || entry.hasOption "omitzero"
  { sourceName
    name :=
      match json with
      | some entry => if entry.name.isEmpty then sourceName else entry.name
      | none => sourceName
    optional := isPointer type || json.any omits
    type := target type
    pointer := isPointer type
    asString := json.any (·.hasOption "string") && isScalar (target type) }

end Member

/-- The label of a field in the place of a fault. -/
def fieldLabel (name : String) : String :=
  "field " ++ name

/-- The exported names of a field. -/
def Field.exported (field : Field) : List String :=
  field.names.filter isExported

/-- The JSON entry of a tag literal, if there is one. -/
def jsonEntry (tag : Option String) : Except Fault (Option StructTag.Entry) :=
  match tag with
  | none => .ok none
  | some literal => (StructTag.parseLiteral literal).map (·.get? "json")

/-- The members that a field gives.  The tag of a field without exported names
    is not looked at. -/
def Field.members (field : Field) : Except Fault (List Member) :=
  match field.exported with
  | [] => .ok []
  | first :: others =>
      match labelled (fieldLabel first) (jsonEntry field.tag) with
      | .ok json =>
          if Member.isSuppressed json then .ok []
          else .ok ((first :: others).map (Member.ofName json field.type))
      | .error fault => .error fault

/-- The members that fields give, in order. -/
def collectMembers : List Field → Except Fault (List Member)
  | [] => .ok []
  | field :: rest =>
      match field.members with
      | .ok members => (collectMembers rest).map (members ++ ·)
      | .error fault => .error fault

end StructScript
