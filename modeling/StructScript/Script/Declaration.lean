import StructScript.ScriptType.Express
import StructScript.TypeExpr.Describe
import StructScript.Journal

/-! # Declarations in TypeScript

    A struct becomes an interface whose embedded members are its supertypes, a
    map becomes an interface with an index signature, and every other type
    becomes a type alias. -/

namespace StructScript

/-- A declaration as it is written out, with the imports it needs. -/
structure Emitted where
  name : String
  typeParams : List String
  supertypes : List String
  text : String
  imports : ImportSet

/-- The type parameters of a declaration in TypeScript: those it has in Go, or
    else the placeholder if the declaration mentions it anywhere. -/
def Declaration.genericParams (options : Options) (declaration : Declaration) : List String :=
  if declaration.typeParams.isEmpty then
    if declaration.type.mentions.any (·.1 == options.placeholder) then [options.placeholder] else []
  else declaration.typeParams

/-- A supertype with the imports it needs. -/
structure Supertype where
  text : String
  imports : ImportSet := {}

/-- The label of an embedded member in the place of a fault. -/
def embeddedLabel : String := "embedded member"

/-- The supertype for the type of an embedded member; an unexported name gives
    none. -/
def supertype? (options : Options) (type : TypeExpr) : Except Fault (Option Supertype) :=
  match Member.target type with
  | .named name isLocal =>
      if isExported name then
        .ok (some ⟨name, if isLocal then {} else ImportSet.empty.addInternal name⟩)
      else .ok none
  | .selector package name => .ok (some ⟨name, ImportSet.empty.addExternal package name⟩)
  | .generic base arguments =>
      (TypeExpr.express options (.generic base arguments)).map fun e =>
        some ⟨e.type.render options.indent 0 false, e.imports⟩
  | _ =>
      .error
        { cause := .unsupported type.describe type.form "cannot embed type"
          context := [embeddedLabel] }

/-- The supertypes for the embedded members of a struct, in order. -/
def supertypes (options : Options) : List Field → Except Fault (List Supertype)
  | [] => .ok []
  | field :: rest =>
      if field.isEmbedded then
        match supertype? options field.type with
        | .ok found => (supertypes options rest).map (found.toList ++ ·)
        | .error fault => .error fault
      else supertypes options rest

/-- The name of a declaration with its type parameters. -/
def headerName (name : String) (typeParams : List String) : String :=
  if typeParams.isEmpty then name else name ++ "<" ++ String.intercalate ", " typeParams ++ ">"

/-- An interface with its supertypes and the lines of its body. -/
def interfaceText (header : String) (parents : List String) (body : String) : String :=
  "export interface " ++ header
    ++ (if parents.isEmpty then "" else " extends " ++ String.intercalate ", " parents)
    ++ " \x7b\n" ++ body ++ "\x7d"

/-- The imports of supertypes, in order. -/
def supertypeImports (parents : List Supertype) : ImportSet :=
  parents.foldl (fun imports parent => imports.union parent.imports) {}

/-- A declaration written out. -/
def Declaration.emit (options : Options) (declaration : Declaration) : Except Fault Emitted :=
  let typeParams := declaration.genericParams options
  let header := headerName declaration.name typeParams
  let emitted (parents : List String) (text : String) (imports : ImportSet) : Emitted :=
    { name := declaration.name, typeParams, supertypes := parents, text, imports }
  match declaration.type with
  | .struct fields =>
      match supertypes options fields with
      | .ok parents =>
          (expressStruct options fields).map fun body =>
            let names := parents.map (·.text)
            emitted names
              (interfaceText header names
                (ScriptType.renderProperties options.indent 0 body.properties))
              ((supertypeImports parents).union body.imports)
      | .error fault => .error fault
  | .map key value =>
      match key.express options with
      | .ok k =>
          (value.express options).map fun v =>
            emitted []
              (interfaceText header []
                (options.indent ++ "[key: " ++ k.type.render options.indent 0 false ++ "]: "
                  ++ v.type.render options.indent 0 false ++ ";\n"))
              ((ImportSet.empty.union k.imports).union v.imports)
      | .error fault => .error fault
  | type =>
      (type.express options).map fun e =>
        emitted []
          ("export type " ++ header ++ " = " ++ e.type.render options.indent 0 false ++ ";")
          (ImportSet.empty.union e.imports)

/-- The name of an embedded member that gives no supertype. -/
def ignoredName? : TypeExpr → Option String
  | .pointer (.named name _) | .named name _ => if isExported name then none else some name
  | _ => none

/-- The unexported embedded names that are met before the supertypes are
    complete or fail. -/
def ignoredNames (options : Options) (fields : List Field) : List String :=
  let embedded := fields.filter (·.isEmbedded)
  (embedded.takeWhile fun field => (supertype? options field.type).isOk).filterMap
    fun field => ignoredName? field.type

/-- What is recorded while a declaration is written out. -/
def Declaration.records (options : Options) (declaration : Declaration) : List Record :=
  let debug (message : String) : Record := { level := .debug, logger := "declarations", message }
  let ignored :=
    match declaration.type with
    | .struct fields => ignoredNames options fields
    | _ => []
  ignored.map (fun name => debug ("Ignoring unexported embedded member " ++ name))
    ++ if (declaration.emit options).isOk then
        [debug ("Emitted " ++ declaration.name ++ " (" ++ declaration.shape.name ++ ")")]
      else []

end StructScript
