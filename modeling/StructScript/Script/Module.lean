import StructScript.Script.Declaration
import StructScript.Companion

/-! # TypeScript modules

    The declarations of one Go file become one TypeScript module: import lines,
    one for each package, and the declarations with an empty line between
    neighbours.  A declaration that cannot be written is left out, and its
    fault is kept. -/

namespace StructScript

/-- The outcome of writing the declarations of one file. -/
structure Conversion where
  path : String
  names : List String := []
  external : List Reference := []
  internal : List String := []
  text : String := ""
  errors : List Fault := []
  synthesized : List Declaration := []

namespace SourceUnit

/-- The outcome of writing one declaration; a fault names the declaration. -/
def emitOne (options : Options) (declaration : Declaration) : Except Fault Emitted :=
  labelled (declarationLabel declaration.name) (declaration.emit options)

/-- The declarations of a unit that can be written. -/
def emitted (options : Options) (unit : SourceUnit) : List Emitted :=
  unit.declarations.filterMap fun declaration => (emitOne options declaration).toOption

/-- The fault of an outcome. -/
def fault? {α : Type} : Except Fault α → Option Fault
  | .ok _ => none
  | .error fault => some fault

/-- The faults of the declarations of a unit that cannot be written. -/
def emitFaults (options : Options) (unit : SourceUnit) : List Fault :=
  unit.declarations.filterMap fun declaration => fault? (emitOne options declaration)

/-- The imports of written declarations, in order. -/
def emittedImports (declarations : List Emitted) : ImportSet :=
  declarations.foldl (fun imports declaration => imports.union declaration.imports) {}

/-- The declarations of a unit written out, with faults that were found before. -/
def convert (options : Options) (unit : SourceUnit) (synthesized : List Declaration)
    (priorErrors : List Fault) : Conversion :=
  let written := unit.emitted options
  let imports := emittedImports written
  { path := unit.path
    names := written.map (·.name)
    external := imports.external
    internal := imports.internal
    text := String.intercalate "\n\n" (written.map (·.text))
    errors := priorErrors ++ unit.emitFaults options
    synthesized }

/-- What is recorded while the declarations of a unit are written out, with so
    many faults found before. -/
def convertRecords (options : Options) (unit : SourceUnit) (priorErrors : Nat) : List Record :=
  let ofDeclaration (declaration : Declaration) : List Record :=
    declaration.records options
      ++ match emitOne options declaration with
        | .ok _ => []
        | .error fault =>
            [{ level := .warning, logger := "converter", source := unit.path
               declaration := declaration.name
               message := "Skipping declaration: " ++ fault.message }]
  unit.declarations.flatMap ofDeclaration
    ++ [{ level := .debug, logger := "converter", source := unit.path
          message :=
            "Converted " ++ toString (unit.emitted options).length ++ " declaration(s), "
              ++ toString (priorErrors + (unit.emitFaults options).length) ++ " error(s)" }]

/-- The declarations of a unit written out, on demand with their companions. -/
def convertExpanding (options : Options) (expand : Bool) (unit : SourceUnit) : Conversion :=
  if expand then
    unit.expand.unit.convert options unit.expand.synthesized unit.expand.errors
  else unit.convert options [] []

/-- What is recorded while a unit is written out, on demand with its
    companions. -/
def convertExpandingRecords (options : Options) (expand : Bool) (unit : SourceUnit) :
    List Record :=
  if expand then
    unit.expandRecords ++ unit.expand.unit.convertRecords options unit.expand.errors.length
  else unit.convertRecords options 0

end SourceUnit

/-- Groups with a symbol added to the group of its package. -/
def addToGroup (groups : List (String × List String)) (reference : Reference) :
    List (String × List String) :=
  match groups with
  | [] => [(reference.package, [reference.symbol])]
  | (package, symbols) :: rest =>
      if package = reference.package then (package, appendNew symbols reference.symbol) :: rest
      else (package, symbols) :: addToGroup rest reference

/-- References grouped by package: packages and symbols in the order in which
    they are first met, each once. -/
def groupByPackage (references : List Reference) : List (String × List String) :=
  references.foldl addToGroup []

/-- A line that imports symbols from a module. -/
def importLine (symbols : List String) (location : String) : String :=
  "import \x7b " ++ String.intercalate ", " symbols ++ " \x7d from \"" ++ location ++ "\";\n"

/-- The import lines for other packages, which lie under `base`. -/
def externalLines (base : String) (references : List Reference) : String :=
  if references.isEmpty then ""
  else
    String.join ((groupByPackage references).map fun (package, symbols) =>
      importLine symbols (base ++ package)) ++ "\n"

/-- The import line for the own package. -/
def internalLines (symbols : List String) : String :=
  if symbols.isEmpty then "" else importLine symbols "." ++ "\n"

/-- The text of a module, given the location of the other packages. -/
def Conversion.moduleUnder (base : String) (conversion : Conversion) : String :=
  externalLines base conversion.external ++ internalLines conversion.internal
    ++ if conversion.text.isEmpty then "" else conversion.text ++ "\n"

/-- The text of a module in the folder of its package. -/
def Conversion.module (conversion : Conversion) : String :=
  conversion.moduleUnder "../"

end StructScript
