import StructScript.TypeExpr.Describe
import StructScript.StructTag
import StructScript.Member
import StructScript.Journal

/-! # Update companions

    The companion of a struct `X` is a struct `XUpdate` with the members of `X`
    whose tags have the key `update`.  All its members are pointers that are
    left out when empty, so that a client sends only what it wants to change. -/

namespace StructScript

/-- The tag key by which a member asks for a place in the companion. -/
def updateKey : String := "update"

/-- The name of the companion of a declaration. -/
def companionName (name : String) : String :=
  name ++ "Update"

/-- The label of a declaration in the place of a fault. -/
def declarationLabel (name : String) : String :=
  "declaration " ++ name

/-- Refuses the types that a member of a companion cannot have. -/
def checkUpdateType : TypeExpr → Except Fault Unit
  | .other text form => .error { cause := .unsupported text form "unsupported update member type" }
  | .named _ _ | .selector _ _ | .bytes | .slice (.named _ _) => .ok ()
  | .slice element =>
      .error
        { cause := .unsupported (TypeExpr.slice element).describe "Slice"
            "update members must be slices of named types" }
  | type =>
      .error { cause := .unsupported type.describe type.form "unsupported update member type" }

/-- The tag of a member of a companion. -/
def updateTag (jsonName : String) : String :=
  "\x60json:\"" ++ jsonName ++ ",omitempty\" bson:\"" ++ jsonName ++ ",omitempty\"\x60"

/-- A member of a companion, for one name of a field. -/
def updateField (type : TypeExpr) (jsonName name : String) : Field :=
  let shown := if jsonName.isEmpty then Text.lower name else jsonName
  { names := [name], type := .pointer type, tag := some (updateTag shown) }

/-- The members that a field gives to the companion. -/
def Field.updates (field : Field) : Except Fault (List Field) :=
  match field.tag with
  | none => .ok []
  | some literal =>
      match StructTag.parseLiteral literal with
      | .error fault => .error fault
      | .ok tag =>
          if !tag.has updateKey then .ok []
          else if field.isEmbedded then
            .error
              { cause := .unsupported field.type.describe "embedded"
                  "embedded members cannot be updated" }
          else
            match checkUpdateType field.type with
            | .error fault => .error fault
            | .ok () =>
                let jsonName := ((tag.get? "json").map (·.name)).getD ""
                .ok (field.names.map (updateField field.type jsonName))

/-- The label of a field by its first name. -/
def Field.updateLabel (field : Field) : String :=
  fieldLabel (field.names.headD "embedded member")

/-- The members that fields give to the companion, in order. -/
def collectUpdates : List Field → Except Fault (List Field)
  | [] => .ok []
  | field :: rest =>
      match labelled field.updateLabel field.updates with
      | .ok updates => (collectUpdates rest).map (updates ++ ·)
      | .error fault => .error fault

/-- The companion of a declaration, if any member asks for one. -/
def Declaration.companion? (declaration : Declaration) : Except Fault (Option Declaration) :=
  match declaration.type with
  | .struct fields =>
      match labelled (declarationLabel declaration.name) (collectUpdates fields) with
      | .ok [] => .ok none
      | .ok updates =>
          .ok (some { name := companionName declaration.name, type := .struct updates })
      | .error fault => .error fault
  | _ => .ok none

/-- What becomes of a declaration when its unit is expanded. -/
inductive Expansion.Outcome where
  /-- It stays as it is. -/
  | kept
  /-- It is left out because of a fault. -/
  | dropped (fault : Fault)
  /-- It stays, with a companion behind it. -/
  | extended (companion : Declaration)

/-- The outcome for a declaration, given the names that the unit declares. -/
def Declaration.outcome (existing : List String) (declaration : Declaration) :
    Expansion.Outcome :=
  if existing.contains (companionName declaration.name) then .kept
  else
    match declaration.companion? with
    | .error fault => .dropped fault
    | .ok none => .kept
    | .ok (some companion) => .extended companion

/-- A unit with the companions of its declarations. -/
structure Expansion where
  unit : SourceUnit
  synthesized : List Declaration := []
  errors : List Fault := []

namespace Expansion

/-- What stands in the place of a declaration after the expansion. -/
def Outcome.declarations (declaration : Declaration) : Outcome → List Declaration
  | .kept => [declaration]
  | .dropped _ => []
  | .extended companion => [declaration, companion]

/-- The companion of an outcome. -/
def Outcome.companion? : Outcome → Option Declaration
  | .extended companion => some companion
  | _ => none

/-- The fault of an outcome. -/
def Outcome.fault? : Outcome → Option Fault
  | .dropped fault => some fault
  | _ => none

/-- What is recorded about an outcome. -/
def Outcome.records (path : String) (declaration : Declaration) : Outcome → List Record
  | .kept => []
  | .dropped fault =>
      [{ level := .warning, logger := "expander", source := path, declaration := declaration.name
         message := "Cannot expand: " ++ fault.message }]
  | .extended companion =>
      [{ level := .debug, logger := "expander", source := path, declaration := declaration.name
         message := "Synthesized " ++ companion.name }]

end Expansion

namespace SourceUnit

/-- The declarations of a unit with their outcomes. -/
def outcomes (unit : SourceUnit) : List (Declaration × Expansion.Outcome) :=
  unit.declarations.map fun declaration => (declaration, declaration.outcome unit.names)

/-- The unit with companions behind the declarations that ask for them, and
    without the declarations whose companions cannot be made.  A companion that
    the unit declares already is not made again. -/
def expand (unit : SourceUnit) : Expansion :=
  { unit :=
      { unit with
        declarations := unit.outcomes.flatMap fun (declaration, outcome) =>
          outcome.declarations declaration }
    synthesized := unit.outcomes.filterMap (·.2.companion?)
    errors := unit.outcomes.filterMap (·.2.fault?) }

/-- What is recorded while a unit is expanded. -/
def expandRecords (unit : SourceUnit) : List Record :=
  unit.outcomes.flatMap fun (declaration, outcome) => outcome.records unit.path declaration

end SourceUnit

end StructScript
