import StructScript.CommandLine.Grammar
import StructScript.Settings

/-! # Requests

    The three commands and what can be asked of them. -/

namespace StructScript.CommandLine

/-- What is asked of a run over a whole project. -/
structure GenerateRequest where
  path : String := "."
  config : Option String := none
  input : Option String := none
  output : Option String := none
  expand : Bool := false
  persist : Bool := false
  workers : Option Int := none
  /-- Folders with their default exports, as written. -/
  defaultExports : List String := []
deriving DecidableEq, Repr

/-- A command with what is asked of it. -/
inductive Command
  | convert (file : String) (config : Option String) (expand : Bool)
  | expand (file : String) (write : Bool)
  | generate (request : GenerateRequest)
deriving DecidableEq, Repr

/-- A command with where its records are shown. -/
structure Request where
  verbose : Bool := false
  logFile : Option String := none
  command : Command
deriving DecidableEq, Repr

/-- The switch that asks for help. -/
def helpSwitch : Switch :=
  { names := ["-h", "--help"], asksHelp := true }

/-- The switch that shows more records. -/
def verboseSwitch : Switch :=
  { names := ["-v", "--verbose"] }

/-- A switch with one long name and a value. -/
def valueSwitch (name : String) : Switch :=
  { names := [name], takesValue := true }

/-- A switch with one long name and no value. -/
def plainSwitch (name : String) : Switch :=
  { names := [name] }

/-- The program itself, which takes a command. -/
def mainGrammar : Grammar :=
  { program := "typeconv"
    switches := [helpSwitch, verboseSwitch, valueSwitch "--log-file"]
    operand := .command "command" ["convert", "expand", "generate"] }

/-- The command that prints the module of one file. -/
def convertGrammar : Grammar :=
  { program := "typeconv convert"
    switches := [helpSwitch, verboseSwitch, valueSwitch "--config", plainSwitch "--expand"]
    operand := .required "file" }

/-- The command that prints or appends the companions of one file. -/
def expandGrammar : Grammar :=
  { program := "typeconv expand"
    switches := [helpSwitch, verboseSwitch, plainSwitch "--write"]
    operand := .required "file" }

/-- The command that writes the modules of a project. -/
def generateGrammar : Grammar :=
  { program := "typeconv generate"
    switches :=
      [helpSwitch, verboseSwitch, valueSwitch "--config", valueSwitch "--input",
       valueSwitch "--output", plainSwitch "--expand", plainSwitch "--persist-updates",
       { names := ["--workers"], takesValue := true, isNumber := true },
       valueSwitch "--default-export"]
    operand := .optional "path" }

/-- The one argument of an operand. -/
def Reading.argument (reading : Reading) (usual : String) : String :=
  ((reading.operand.getD []).head?).getD usual

/-- What is asked of the conversion of one file. -/
def convertCommand (reading : Reading) : Command :=
  .convert (reading.argument "") (reading.value? "--config") (reading.has "--expand")

/-- What is asked of the expansion of one file. -/
def expandCommand (reading : Reading) : Command :=
  .expand (reading.argument "") (reading.has "--write")

/-- What is asked of a run. -/
def generateCommand (reading : Reading) : Command :=
  .generate
    { path := reading.argument "."
      config := reading.value? "--config"
      input := reading.value? "--input"
      output := reading.value? "--output"
      expand := reading.has "--expand"
      persist := reading.has "--persist-updates"
      workers := (reading.value? "--workers").bind Text.integer?
      defaultExports := reading.values "--default-export" }

/-- The request that arguments make. -/
def Request.read (arguments : List String) : Except UsageStop Request := do
  let main ← mainGrammar.read arguments
  let (grammar, command) :=
    match main.argument "" with
    | "convert" => (convertGrammar, convertCommand)
    | "expand" => (expandGrammar, expandCommand)
    | _ => (generateGrammar, generateCommand)
  let own ← grammar.read ((main.operand.getD []).drop 1)
  let leftOver := main.leftOver ++ own.leftOver
  if leftOver.isEmpty then
    return {
      verbose := main.has "--verbose" || own.has "--verbose"
      logFile := main.value? "--log-file"
      command := command own }
  else .error { grammar := mainGrammar, stop := .unrecognized leftOver }

/-! ## Default exports -/

/-- The message for a default export that is not written as one. -/
def badDefaultExport (text : String) : String :=
  "Invalid --default-export value " ++ Text.quoted text ++ "; expected FOLDER=NAME"

/-- Default exports as written on the command line: a folder, an equals sign and
    a name.  Of several for one folder the last wins. -/
def readDefaultExports : List String → Except String (List (String × String))
  | texts =>
      texts.foldlM
        (fun pairs text =>
          match splitValue? text with
          | some (folder, name) =>
              if folder.isEmpty || name.isEmpty then .error (badDefaultExport text)
              else .ok (Settings.setPair pairs folder name)
          | none => .error (badDefaultExport text))
        []

end StructScript.CommandLine
