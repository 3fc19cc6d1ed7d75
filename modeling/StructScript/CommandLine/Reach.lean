import StructScript.CommandLine.Run

/-! # What a request looks at

    The parts of a file tree that a request reads or writes.  Where a run over a
    project reaches depends on its settings, so the parts are known once the
    settings file is. -/

namespace StructScript.CommandLine

/-- A place in a file tree with so many levels below it. -/
structure Reach where
  location : Location
  depth : Nat := 0
deriving DecidableEq, Repr

/-- The place of a path, with so many levels below it. -/
def Reach.at (disk : Disk) (path : Path) (depth : Nat) : Reach :=
  { location := path.resolve disk.here, depth }

/-- A path that may be a settings file or the folder that holds one. -/
def settingsReach (machine : Machine) (disk : Disk) (config : Option String) (folder : Path) :
    List Reach :=
  let given := (config.map Path.ofText).getD folder
  let paths := given :: (machine.expandHome given).toOption.toList
  paths.flatMap fun path =>
    [Reach.at disk path 0, Reach.at disk (path.child Settings.fileName) 0]

/-- What a command looks at before it knows its settings. -/
def Command.firstReach (machine : Machine) (disk : Disk) : Command → List Reach
  | .convert file config _ =>
      let path := Path.ofText file
      Reach.at disk path 0 :: settingsReach machine disk config path.parent
  | .expand file _ => [Reach.at disk (Path.ofText file) 0]
  | .generate request => settingsReach machine disk request.config (Path.ofText request.path)

/-- What a request looks at before it knows its settings. -/
def Request.firstReach (machine : Machine) (disk : Disk) (request : Request) : List Reach :=
  let log := (request.logFile.map fun file => Reach.at disk (Path.ofText file) 0).toList
  { location := disk.here } :: log ++ request.command.firstReach machine disk

/-- What a command looks at once its settings can be read: the input and the
    output of a run over a project, with the packages and their files. -/
def Command.secondReach (machine : Machine) (disk : Disk) : Command → List Reach
  | .generate request =>
      let settings := do
        override machine disk request
          (← settingsFor machine disk request.config (Path.ofText request.path))
      match settings with
      | .ok settings =>
          [Reach.at disk settings.inputFolder 2, Reach.at disk settings.outputFolder 2]
      | .error _ => []
  | _ => []

end StructScript.CommandLine
