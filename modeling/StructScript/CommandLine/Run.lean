import StructScript.CommandLine.Request
import StructScript.Generation

/-! # Running commands

    Every command works on a session and ends with an exit code and the texts it
    prints.  What goes wrong in the work of a command is reported by its exit
    code; the remaining troubles stop the program. -/

namespace StructScript.CommandLine

/-- What a command prints, and the code it ends with. -/
structure Output where
  exit : Nat := 0
  stdout : String := ""
  stderr : String := ""
deriving DecidableEq, Repr

/-- The settings for a command: those of the given file or folder, or else those
    of the folder it works in. -/
def settingsFor (machine : Machine) (disk : Disk) (config : Option String) (folder : Path) :
    Except Trouble Settings :=
  match config with
  | some path => Settings.load machine disk (Path.ofText path)
  | none => do
      if (← (disk.look folder).mapError Trouble.disk) = some .folder then
        Settings.load machine disk folder
      else if folder.parent.holdsNull then .error Trouble.nullInPath
      else .ok (Settings.defaults (disk.resolve folder.parent))

/-- A path for the reader: relative if it lies below the folder in use. -/
def showPath (disk : Disk) (path : Path) : String :=
  match relativeTo? disk.here (disk.resolve path).parts with
  | some parts => ({ parts } : Path).text
  | none => path.text

/-- The warnings about faults at the end of a command. -/
def warnings (faults : List Fault) : List Record :=
  faults.map fun fault => { level := .warning, logger := "cli", message := fault.message }

/-- The exit code of a command with faults. -/
def exitCode (faults : List Fault) : Nat :=
  if faults.isEmpty then 0 else 1

/-- The output of a command that could not do its work. -/
def failed (command message : String) : Output :=
  { exit := 1, stderr := "typeconv " ++ command ++ " failed: " ++ message ++ "\n" }

/-- Reads a source file and records what is met. -/
def readUnit (path : Path) : Action SourceUnit := do
  if path.holdsNull then throw Trouble.nullInPath
  Action.allow path
  let disk ← Action.disk
  Action.log (SourceUnit.fileRecords disk path)
  Action.ofExcept Trouble.source (SourceUnit.ofFile disk path)

/-- Turns one source file into a module. -/
def convertFile (path : Path) (options : Options) (expand : Bool) : Action Conversion := do
  let unit ← readUnit path
  Action.log (unit.convertExpandingRecords options expand)
  return unit.convertExpanding options expand

/-- Expands one source file. -/
def expandFile (path : Path) : Action Expansion := do
  let unit ← readUnit path
  Action.log unit.expandRecords
  return unit.expand

/-- Appends companions to a source file. -/
def persistTo (path : Path) (companions : List Declaration) : Action Unit := do
  if !companions.isEmpty && path.holdsNull then throw Trouble.nullInPath
  let disk ← Action.ofExcept Trouble.source (appendCompanions (← Action.disk) path companions)
  modify fun session => { session with disk }
  Action.log (appendRecords path companions)

/-- The value of an action, or the message of the trouble that stopped it if it is
    one that a command reports itself. -/
def attempt {α : Type} (reports : Trouble → Bool) (action : Action α) :
    Action (Except String α) :=
  try
    return .ok (← action)
  catch trouble =>
    if reports trouble then return .error trouble.message else throw trouble

/-- The troubles with a source file. -/
def isSourceTrouble : Trouble → Bool
  | .source _ => true
  | _ => false

/-- The troubles with a source file or with the settings. -/
def isConvertTrouble : Trouble → Bool
  | .source _ => true
  | .settings _ => true
  | _ => false

/-- The troubles that a run over a project reports. -/
def isGenerateTrouble : Trouble → Bool
  | .source _ => false
  | .lapse _ => false
  | .beyond => false
  | _ => true

/-- Prints the module of a source file. -/
def runConvert (file : String) (config : Option String) (expand : Bool) : Action Output := do
  let path := Path.ofText file
  let outcome ← attempt isConvertTrouble do
    let settings ←
      Action.ofExcept id (settingsFor (← Action.machine) (← Action.disk) config path.parent)
    convertFile path settings.options expand
  match outcome with
  | .error message => return failed "convert" message
  | .ok conversion =>
      Action.log (warnings conversion.errors)
      return { exit := exitCode conversion.errors, stdout := conversion.module }

/-- The text of companions, one after the other. -/
def companionText (companions : List Declaration) : Except Fault String := do
  let texts ← companions.mapM Declaration.spelling
  return String.join (texts.map (· ++ "\n"))

/-- Appends companions to a source file, and says so. -/
def runAppend (path : Path) (expansion : Expansion) : Action Output := do
  match ← attempt isSourceTrouble (persistTo path expansion.synthesized) with
  | .error message => return failed "expand" message
  | .ok () =>
      let stdout :=
        "Appended " ++ toString expansion.synthesized.length ++ " update struct(s) to "
          ++ showPath (← Action.disk) path ++ "\n"
      return { exit := exitCode expansion.errors, stdout }

/-- Prints the companions of a source file, or appends them to it. -/
def runExpand (file : String) (write : Bool) : Action Output := do
  let path := Path.ofText file
  match ← attempt isSourceTrouble (expandFile path) with
  | .error message => return failed "expand" message
  | .ok expansion =>
      Action.log (warnings expansion.errors)
      if write then runAppend path expansion
      else
        let stdout ← Action.ofExcept Trouble.source (companionText expansion.synthesized)
        return { exit := exitCode expansion.errors, stdout }

/-- A folder that the command line names, or the usual one. -/
def folderFor (machine : Machine) (disk : Disk) (text : Option String) (usual : Path) :
    Except Trouble Path :=
  match text with
  | none => .ok usual
  | some text => do
      let path ← machine.expandHome (Path.ofText text)
      if path.holdsNull then .error Trouble.nullInPath else .ok (disk.resolve path)

/-- The settings with what the command line says, which wins. -/
def override (machine : Machine) (disk : Disk) (request : GenerateRequest) (settings : Settings) :
    Except Trouble Settings := do
  let inputFolder ← folderFor machine disk request.input settings.inputFolder
  let outputFolder ← folderFor machine disk request.output settings.outputFolder
  let workers ←
    match request.workers with
    | none => pure settings.workers
    | some n =>
        if n < 1 then .error (.value "--workers must be a positive integer") else pure n
  let exports ← (readDefaultExports request.defaultExports).mapError Trouble.value
  .ok
    { settings with
      inputFolder
      outputFolder
      expand := settings.expand || request.expand || request.persist
      persist := settings.persist || request.persist
      workers
      defaultExports := Settings.setPairs settings.defaultExports exports }

/-- The lines about the files that failed. -/
def failureLines (disk : Disk) (report : Report) : String :=
  String.join (report.failures.map fun failure =>
    "  failed: " ++ showPath disk failure.path ++ ": " ++ failure.fault.message ++ "\n")

/-- The output of a finished run. -/
def reportOutput (disk : Disk) (settings : Settings) (report : Report) : Output :=
  let stdout :=
    "Generated " ++ toString report.declarations ++ " declaration(s) into "
      ++ showPath disk settings.outputFolder ++ "\n"
  if report.ok then { stdout }
  else
    { exit := 1, stdout
      stderr :=
        failureLines disk report
          ++ "typeconv generate finished with errors. Run with --verbose for details.\n" }

/-- Writes the modules of a project. -/
def runGenerate (request : GenerateRequest) : Action Output := do
  let outcome ← attempt isGenerateTrouble do
    let machine ← Action.machine
    let disk ← Action.disk
    let settings ←
      Action.ofExcept id (settingsFor machine disk request.config (Path.ofText request.path))
    let settings ← Action.ofExcept id (override machine disk request settings)
    let report ← settings.generateWith .logged
    return (settings, report)
  match outcome with
  | .error message => return { exit := 1, stderr := message ++ "\n" }
  | .ok (settings, report) => return reportOutput (← Action.disk) settings report

/-- Runs a command. -/
def Command.run : Command → Action Output
  | .convert file config companions => runConvert file config companions
  | .expand file write => runExpand file write
  | .generate request => runGenerate request

/-- Runs a request: records are shown before what the command itself prints. -/
def Request.run (request : Request) (time : String) : Action Output := do
  let _ ← Action.openSink request.verbose time (request.logFile.map Path.ofText)
  let output ←
    try
      request.command.run
    catch trouble =>
      let _ ← Action.showRecords
      throw trouble
  let shown ← Action.showRecords
  return { output with stderr := shown ++ output.stderr }

/-- Runs the program with arguments. -/
def run (arguments : List String) (time : String) : Action Output :=
  match Request.read arguments with
  | .ok request => request.run time
  | .error ⟨grammar, .help⟩ => return { exit := 0, stdout := grammar.usage ++ "\n" }
  | .error usage => return { exit := 2, stderr := usage.message ++ "\n" }

end StructScript.CommandLine
