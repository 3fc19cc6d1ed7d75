import StructScript.Generation.Job

/-! # Reports and index files

    What a run wrote and what failed, and the two kinds of index file: that of a
    folder exports the declarations of its modules, and that of the output
    folder exports the defaults of the folders. -/

namespace StructScript

/-- A source file that could not be turned into a module. -/
structure Failure where
  path : Path
  fault : Fault

/-- The summary of a run. -/
structure Report where
  written : List Path := []
  failures : List Failure := []
  declarations : Nat := 0
  declarationErrors : Nat := 0
  defaultExports : List String := []

namespace Report

/-- Whether nothing failed. -/
def ok (report : Report) : Bool :=
  report.failures.isEmpty && report.declarationErrors == 0

/-- Adds the outcome of a job. -/
def addOutcome (report : Report) (job : Job) : Job.Outcome → Report
  | .failed fault =>
      { report with failures := report.failures ++ [{ path := job.source, fault }] }
  | .done conversion =>
      { report with
        written := report.written ++ [job.target]
        declarations := report.declarations + conversion.names.length
        declarationErrors := report.declarationErrors + conversion.errors.length }

/-- Adds a file that is not a module. -/
def addWritten (report : Report) (path : Path) : Report :=
  { report with written := report.written ++ [path] }

/-- Adds the default export of a folder. -/
def addDefault (report : Report) (name : String) : Report :=
  { report with defaultExports := report.defaultExports ++ [name] }

end Report

namespace Index

/-- The name of index files. -/
def fileName : String :=
  "index.ts"

/-- Names in an export or import list. -/
def nameList (names : List String) : String :=
  "\x7b " ++ String.intercalate ", " names ++ " \x7d"

/-- The lines of a folder's index for one module, with the default export if the
    module has it. -/
def moduleLines (wanted : Option String) (stem : String) (names : List String) : String :=
  if names.isEmpty then ""
  else
    let location := "\"./" ++ stem ++ "\""
    "export " ++ nameList names ++ " from " ++ location ++ ";\n\n"
      ++ match wanted with
        | some name =>
            if names.contains name then
              "import " ++ nameList [name] ++ " from " ++ location ++ ";\n"
                ++ "export default " ++ name ++ ";\n\n"
            else ""
        | none => ""

/-- The declared names of a job's module. -/
def declared : Job.Outcome → List String
  | .done conversion => conversion.names
  | .failed _ => []

/-- The index of a folder. -/
def folderText (wanted : Option String) (outcomes : List (Job × Job.Outcome)) : String :=
  String.join (outcomes.map fun entry =>
    moduleLines wanted entry.1.target.stem (declared entry.2))

/-- The default export of a folder, if one of its modules declares it. -/
def folderDefault? (wanted : Option String) (outcomes : List (Job × Job.Outcome)) :
    Option String :=
  wanted.filter fun name => outcomes.any fun entry => (declared entry.2).contains name

/-- The index of the output folder, given the folders with a default export. -/
def rootText (defaults : List (String × String)) : String :=
  String.join (defaults.map fun entry =>
      "import " ++ entry.2 ++ " from \"./" ++ entry.1 ++ "\";\n")
    ++ "\nexport " ++ nameList (defaults.map (·.2)) ++ "\n"

end Index

end StructScript
