import StructScript.Script.Name
import StructScript.Text.Repeated

/-! # TypeScript types

    The types that are written out, and how they are written: a union with
    `undefined` takes parentheses where an array is made of it or where it is
    made of an array, and an object type puts each property on a line of its
    own. -/

namespace StructScript

mutual

/-- A TypeScript type. -/
inductive ScriptType where
  /-- A type name, or a text that is taken over as it is. -/
  | named (text : String)
  /-- A type or `undefined`. -/
  | orUndefined (inner : ScriptType)
  | array (element : ScriptType)
  /-- An object with an index signature. -/
  | index (key value : ScriptType)
  /-- A generic type applied to arguments. -/
  | apply (base : ScriptType) (arguments : List ScriptType)
  /-- An object with properties. -/
  | object (properties : List Property)

/-- A property of an object type or an interface. -/
structure Property where
  name : String
  optional : Bool
  type : ScriptType
  /-- Whether `undefined` is written beside the type. -/
  widened : Bool

end

deriving instance Repr for ScriptType, Property

instance : Inhabited ScriptType := ⟨.named "any"⟩

/-- The indentation of a line at a level; below level one there is none. -/
def indentation (indent : String) (level : Int) : String :=
  Text.repeated indent level.toNat

namespace ScriptType

/-- Whether a type is an array. -/
def isArray : ScriptType → Bool
  | .array _ => true
  | _ => false

/-- A type without the `undefined` beside it. -/
def strip : ScriptType → ScriptType
  | .orUndefined inner => inner
  | type => type

/-- A text in parentheses where they are wanted. -/
def parenthesized (wanted : Bool) (text : String) : String :=
  if wanted then "(" ++ text ++ ")" else text

/-- The line of a property, given its indentation and the text of its type. -/
def propertyLine (start name : String) (optional widened : Bool) (type : String) : String :=
  start ++ Script.propertyName name ++ (if optional then "?" else "") ++ ": " ++ type
    ++ (if widened then " | undefined" else "") ++ ";\n"

mutual

/-- The text of a type.  The depth is that of the line that holds the type, and
    a tight place is one where a union needs parentheses. -/
def render (indent : String) (depth : Int) (tight : Bool) : ScriptType → String
  | .named text => text
  | .orUndefined inner =>
      parenthesized (tight || inner.isArray) (render indent depth false inner ++ " | undefined")
  | .array element => render indent depth true element ++ "[]"
  | .index key value =>
      "\x7b [key: " ++ render indent depth false key ++ "]: " ++ render indent depth false value
        ++ " \x7d"
  | .apply base arguments =>
      render indent depth false base ++ "<"
        ++ String.intercalate ", " (renderArguments indent depth arguments) ++ ">"
  | .object properties =>
      "\x7b\n" ++ renderProperties indent (depth + 1) properties
        ++ indentation indent (depth + 1) ++ "\x7d"

/-- The texts of arguments. -/
def renderArguments (indent : String) (depth : Int) : List ScriptType → List String
  | [] => []
  | type :: rest => render indent depth false type :: renderArguments indent depth rest

/-- The lines of properties below a line of the given depth. -/
def renderProperties (indent : String) (depth : Int) : List Property → String
  | [] => ""
  | ⟨name, optional, type, widened⟩ :: rest =>
      propertyLine (indentation indent (depth + 1)) name optional widened
          (render indent depth false type)
        ++ renderProperties indent depth rest

end

end ScriptType

end StructScript
