import StructScript.TypeExpr.Describe
import StructScript.Fault

/-! # Companions in Go

    How a companion is written as Go source.  Only structs of the types that a
    companion can have are spelled. -/

namespace StructScript

/-- The Go spelling of a type. -/
def TypeExpr.spelling : TypeExpr → Except Fault String
  | .pointer inner => inner.spelling.map ("*" ++ ·)
  | .bytes => .ok "[]byte"
  | .slice element => element.spelling.map ("[]" ++ ·)
  | .named name _ => .ok name
  | .selector package name => .ok (package ++ "." ++ name)
  | type => .error { cause := .unsupported type.describe type.form "no Go spelling for type" }

/-- The line of a member, without its line end. -/
def Field.spelling (field : Field) : Except Fault String :=
  field.type.spelling.map fun type =>
    "\t" ++ String.intercalate ", " field.names ++ "\t\t" ++ type
      ++ match field.tag with
        | some literal => if literal.isEmpty then "" else "\t\t" ++ literal
        | none => ""

/-- The lines of members, each with a line end. -/
def spellFields : List Field → Except Fault String
  | [] => .ok ""
  | field :: rest =>
      match field.spelling with
      | .ok line => (spellFields rest).map (line ++ "\n" ++ ·)
      | .error fault => .error fault

/-- The Go source of a struct declaration. -/
def Declaration.spelling (declaration : Declaration) : Except Fault String :=
  match declaration.type with
  | .struct fields =>
      (spellFields fields).map fun lines =>
        "type " ++ declaration.name ++ " struct \x7b\n" ++ lines ++ "\x7d"
  | type => .error { cause := .unsupported type.describe type.form "can only render structs" }

/-- The text that is appended to a source file for its companions: each one
    after an empty line. -/
def spellAppendix : List Declaration → Except Fault String
  | [] => .ok ""
  | declaration :: rest =>
      match declaration.spelling with
      | .ok text => (spellAppendix rest).map ("\n" ++ text ++ "\n" ++ ·)
      | .error fault => .error fault

end StructScript
