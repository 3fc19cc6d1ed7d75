import StructScript.ScriptType
import StructScript.ImportSet
import StructScript.Member
import StructScript.Script.Options

/-! # Go types as TypeScript types

    Every supported Go type has a TypeScript type and the names that must be
    imported for it.  The members of a struct are decided before any of their
    types is looked at, so a malformed tag anywhere in a struct comes before a
    type without a counterpart. -/

namespace StructScript

/-- A TypeScript type with the imports it needs. -/
structure Expressed where
  type : ScriptType
  imports : ImportSet := {}

/-- Properties with the imports they need. -/
structure ExpressedBody where
  properties : List Property := []
  imports : ImportSet := {}

/-- The TypeScript name for a Go name: built-in numbers and truth values have
    names of their own. -/
def primitiveName (name : String) : String :=
  if name == "bool" then "boolean"
  else if numberNames.contains name then "number"
  else name

/-- Whether a bare name has to be imported from the own package. -/
def needsImport (options : Options) (name : String) (isLocal : Bool) : Bool :=
  !isLocal && isExported name && name != options.placeholder

/-- A bare name. -/
def expressName (options : Options) (name : String) (isLocal : Bool) : Expressed :=
  { type := .named (primitiveName name)
    imports :=
      if needsImport options name isLocal then ImportSet.empty.addInternal name else {} }

/-- A type of another package. -/
def expressSelector (options : Options) (package name : String) : Expressed :=
  match options.scalar? package name with
  | some text => { type := .named text }
  | none => { type := .named name, imports := ImportSet.empty.addExternal package name }

/-- The property of a member, given the outcome for the whole type of its
    field. -/
def expressMember (options : Options) (outcome : Except Fault Expressed) (member : Member) :
    Except Fault ExpressedBody :=
  let property (type : ScriptType) : Property :=
    { name := member.name, optional := member.optional, type
      widened := member.pointer && options.widenPointers }
  if member.asString then .ok { properties := [property (.named "string")] }
  else
    match labelled (fieldLabel member.sourceName) outcome with
    | .ok expressed =>
        let type := if member.pointer then expressed.type.strip else expressed.type
        .ok { properties := [property type], imports := expressed.imports }
    | .error fault => .error fault

/-- One body after another. -/
def ExpressedBody.append (body other : ExpressedBody) : ExpressedBody :=
  { properties := body.properties ++ other.properties
    imports := body.imports.union other.imports }

/-- The properties of the members of one field. -/
def expressMembers (options : Options) (outcome : Except Fault Expressed) :
    List Member → Except Fault ExpressedBody
  | [] => .ok {}
  | member :: rest =>
      match expressMember options outcome member with
      | .ok body => (expressMembers options outcome rest).map body.append
      | .error fault => .error fault

mutual

/-- The TypeScript type for a Go type. -/
def TypeExpr.express (options : Options) : TypeExpr → Except Fault Expressed
  | .pointer inner =>
      (inner.express options).map fun e => { e with type := .orUndefined e.type }
  | .bytes => .ok { type := .named "string" }
  | .slice element =>
      (element.express options).map fun e => { e with type := .array e.type }
  | .struct fields =>
      match collectMembers fields with
      | .ok _ =>
          (expressFields options fields).map fun body =>
            { type := .object body.properties, imports := body.imports }
      | .error fault => .error fault
  | .named name isLocal => .ok (expressName options name isLocal)
  | .selector package name => .ok (expressSelector options package name)
  | .map key value =>
      match key.express options with
      | .ok k =>
          (value.express options).map fun v =>
            { type := .index k.type v.type, imports := k.imports.union v.imports }
      | .error fault => .error fault
  | .any => .ok { type := .named "any" }
  | .generic base arguments =>
      match base.express options with
      | .ok b =>
          (expressArguments options b.imports arguments).map fun (types, imports) =>
            { type := .apply b.type types, imports }
      | .error fault => .error fault
  | .other text form => .error { cause := .unsupported text form "cannot translate type" }

/-- The types of arguments, and the imports collected so far with theirs. -/
def expressArguments (options : Options) (imports : ImportSet) :
    List TypeExpr → Except Fault (List ScriptType × ImportSet)
  | [] => .ok ([], imports)
  | argument :: rest =>
      match argument.express options with
      | .ok e =>
          (expressArguments options (imports.union e.imports) rest).map fun (types, all) =>
            (e.type :: types, all)
      | .error fault => .error fault

/-- The properties for fields whose tags are known to be well formed. -/
def expressFields (options : Options) : List Field → Except Fault ExpressedBody
  | [] => .ok {}
  | ⟨names, type, tag⟩ :: rest =>
      match Field.members ⟨names, type, tag⟩ with
      | .ok members =>
          match expressMembers options (type.express options) members with
          | .ok body => (expressFields options rest).map body.append
          | .error fault => .error fault
      | .error fault => .error fault

end

/-- The properties for the fields of a struct. -/
def expressStruct (options : Options) (fields : List Field) : Except Fault ExpressedBody :=
  match collectMembers fields with
  | .ok _ => expressFields options fields
  | .error fault => .error fault

/-- The text of a Go type on a line of the given depth, with the imports it
    needs. -/
def TypeExpr.write (options : Options) (depth : Int) (tight : Bool) (type : TypeExpr) :
    Except Fault (String × ImportSet) :=
  (type.express options).map fun e => (e.type.render options.indent depth tight, e.imports)

/-- The lines of the fields of a struct below a line of the given depth, with
    the imports they need. -/
def writeFields (options : Options) (depth : Int) (fields : List Field) :
    Except Fault (String × ImportSet) :=
  (expressStruct options fields).map fun body =>
    (ScriptType.renderProperties options.indent depth body.properties, body.imports)

end StructScript
