import StructScript.CommandLine.Reach
import Std.Time.Format

/-! # The program

    The command line on the file tree of the machine: what a request looks at is
    read, the request is run, and what it changed is written. -/

namespace StructScript.Program

/-- The entry of the machine's file tree at a place. -/
def machineEntry (location : Location) : IO.FS.DirEntry :=
  { root := (Path.ofLocation location.dropLast).text, fileName := location.getLastD "" }

/-- Whether an operation on the machine's file tree is allowed. -/
def isAllowed {α : Type} (operation : IO α) : IO Bool :=
  try
    let _ ← operation
    return true
  catch _ => return false

/-- Puts an entry that is open or locked at a place. -/
def putLocked (disk : Disk) (location : Location) (entry : Entry) (lock : Option Lock) : Disk :=
  let disk := disk.put location entry
  match lock with
  | none => disk
  | some lock => { disk with locks := (location, lock) :: disk.locks }

/-- Reads a file.  It is closed if it cannot be read, and read-only if nothing can be
    appended to it. -/
def readFile (disk : Disk) (location : Location) : IO Disk := do
  let entry := machineEntry location
  try
    let content := (← IO.FS.readBinFile entry.path).toList
    let changeable ← isAllowed (IO.FS.Handle.mk entry.path .append)
    return putLocked disk location (.file content) (if changeable then none else some .readOnly)
  catch _ => return putLocked disk location (.file []) (some .closed)

/-- Reads what stands at a place, with so many levels below it.  What cannot be
    read below the place is passed over. -/
def readTree (location : Location) : Nat → Disk → IO Disk
  | depth, disk => do
      let entry := machineEntry location
      if !(← entry.path.pathExists) then return disk
      match (← entry.path.metadata).type, depth with
      | .file, _ => readFile disk location
      | .dir, 0 => return disk.put location .folder
      | .dir, depth + 1 =>
          if !(← isAllowed entry.path.readDir) then
            return putLocked disk location .folder (some .closed)
          let inner ← entry.path.readDir
          inner.foldlM
            (fun disk child =>
              try readTree (location ++ [child.fileName]) depth disk catch _ => pure disk)
            (disk.put location .folder)
      | _, _ => return disk

/-- Reads a part of the file tree and the folders on the way to it. -/
def readReach (disk : Disk) (reach : CommandLine.Reach) : IO Disk := do
  let ways := (List.range reach.location.length).map fun count => reach.location.take count
  let disk ← (ways.drop 1).foldlM (fun disk way => readTree way 0 disk) disk
  readTree reach.location reach.depth disk

/-- The users of the machine with their home folders, as its table of users lists
    them. -/
def readUsers : IO (List (String × String)) := do
  let table := machineEntry ["etc", "passwd"]
  if !(← table.path.pathExists) then return []
  let lines ← IO.FS.lines table.path
  return lines.toList.filterMap fun line =>
    match line.splitOn ":" with
    | name :: _ :: _ :: _ :: _ :: home :: _ => some (name, home)
    | _ => none

/-- What the surroundings of the program say. -/
def readMachine : IO Machine := do
  let own ← IO.getEnv "HOME"
  let users ← readUsers
  return { homes := (own.map ("", ·)).toList ++ users }

/-- The part of the machine's file tree that arguments make the program look at. -/
def readDisk (machine : Machine) (arguments : List String) : IO Disk := do
  let empty : Disk := { here := (Path.ofText (toString (← IO.currentDir))).parts }
  match CommandLine.Request.read arguments with
  | .ok request =>
      let first ← (request.firstReach machine empty).foldlM readReach empty
      (request.command.secondReach machine first).foldlM readReach first
  | .error _ => return empty

/-- Writes an entry. -/
def writeEntry (entry : Location × Entry) : IO Unit :=
  let text := (Path.ofLocation entry.1).text
  match entry.2 with
  | .folder => IO.FS.createDirAll text
  | .file content => IO.FS.writeBinFile text (ByteArray.mk content.toArray)

/-- Writes what is new or different, folders before what is in them. -/
def writeChanges (before after : Disk) : IO Unit :=
  let changed := after.entries.filter fun entry => before.find? entry.1 != some entry.2
  (changed.mergeSort fun a b => a.1.length ≤ b.1.length).forM writeEntry

/-- The present time as it stands in log files. -/
def timeText : IO String := do
  return (← Std.Time.PlainDateTime.now).format "uuuu-MM-dd HH:mm:ss,SSS"

end StructScript.Program

open StructScript StructScript.Program in
/-- Runs the program. -/
def main (arguments : List String) : IO UInt32 := do
  let machine ← readMachine
  let disk ← readDisk machine arguments
  let (outcome, session) := (CommandLine.run arguments (← timeText)).run.run { disk, machine }
  writeChanges disk session.disk
  match outcome with
  | .ok output =>
      IO.print output.stdout
      IO.eprint output.stderr
      return UInt32.ofNat output.exit
  | .error trouble =>
      IO.eprintln trouble.message
      return 1
