import StructScript.TypeExpr
import StructScript.Text.Quoted

/-! # Types in messages

    A message names a type by its constructor form, such as
    `Slice(element=Named(name='X', declared_locally=False))`. -/

namespace StructScript

/-- The name of the form of a type. -/
def TypeExpr.form : TypeExpr → String
  | .named _ _ => "Named"
  | .pointer _ => "Pointer"
  | .slice _ => "Slice"
  | .bytes => "ByteSlice"
  | .map _ _ => "MapType"
  | .struct _ => "InlineStruct"
  | .selector _ _ => "Selector"
  | .generic _ _ => "GenericInstantiation"
  | .any => "InterfaceAny"
  | .other _ _ => "Opaque"

/-- A form with its labelled parts. -/
def describeForm (form : String) (parts : List (String × String)) : String :=
  form ++ "(" ++ String.intercalate ", " (parts.map fun (label, part) => label ++ "=" ++ part) ++ ")"

/-- A truth value in a message. -/
def describeBool (b : Bool) : String :=
  if b then "True" else "False"

/-- A tag literal in a message. -/
def describeTag : Option String → String
  | none => "None"
  | some literal => Text.quoted literal

mutual

/-- The constructor form of a type. -/
def TypeExpr.describe : TypeExpr → String
  | .named name isLocal =>
      describeForm "Named" [("name", Text.quoted name), ("declared_locally", describeBool isLocal)]
  | .pointer inner => describeForm "Pointer" [("inner", inner.describe)]
  | .slice element => describeForm "Slice" [("element", element.describe)]
  | .bytes => describeForm "ByteSlice" []
  | .map key value => describeForm "MapType" [("key", key.describe), ("value", value.describe)]
  | .struct fields => describeForm "InlineStruct" [("fields", Text.tuple (describeFields fields))]
  | .selector package name =>
      describeForm "Selector" [("package", Text.quoted package), ("name", Text.quoted name)]
  | .generic base arguments =>
      describeForm "GenericInstantiation"
        [("base", base.describe), ("arguments", Text.tuple (describeTypes arguments))]
  | .any => describeForm "InterfaceAny" []
  | .other text form => describeForm "Opaque" [("text", Text.quoted text), ("kind", Text.quoted form)]

/-- The constructor forms of members. -/
def describeFields : List Field → List String
  | [] => []
  | ⟨names, type, tag⟩ :: rest =>
      describeForm "Field"
          [("names", Text.tuple (names.map Text.quoted)), ("type", type.describe),
            ("tag", describeTag tag)]
        :: describeFields rest

/-- The constructor forms of several types. -/
def describeTypes : List TypeExpr → List String
  | [] => []
  | type :: rest => type.describe :: describeTypes rest

end

end StructScript
