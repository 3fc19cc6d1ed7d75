import StructScript.Disk
import StructScript.Fault
import StructScript.Journal
import StructScript.Settings
import StructScript.Text.Utf8

/-! # Sessions

    A session is the state that a command works on: the disk and the records
    made so far, on a machine that stays the same.  An action changes the session
    and gives a value or stops with a trouble; what it did before it stopped stays
    done.  A record reaches the log file when it is made, so whatever is read from
    that file later holds it. -/

namespace StructScript

/-- Why an action stops. -/
inductive Trouble
  /-- A source file or a declaration in it is at fault. -/
  | source (fault : Fault)
  /-- The settings are at fault. -/
  | settings (fault : Settings.Fault)
  /-- The disk refused an operation. -/
  | disk (fault : Disk.Fault)
  /-- The folder with the packages is not there. -/
  | noInput (folder : String)
  /-- A text is not UTF-8. -/
  | encoding (fault : Text.Utf8.Fault)
  /-- A value is out of its range. -/
  | value (message : String)
  /-- Nothing is prepared for this. -/
  | lapse (cause : Lapse)
  /-- The settings hold half of a character, or a text nests deeper than the machine
      bears; what becomes of that is not said here. -/
  | beyond
deriving DecidableEq, Repr

/-- The message of a trouble. -/
def Trouble.message : Trouble → String
  | .source fault => fault.message
  | .settings fault => fault.message
  | .disk fault => fault.message
  | .noInput folder => "Input directory not found: " ++ folder
  | .encoding fault => fault.message
  | .value message => message
  | .lapse cause => cause.message
  | .beyond => "beyond this machine"

/-- The trouble with a path that holds the character that no path can hold. -/
def Trouble.nullInPath : Trouble :=
  .value Settings.Fault.nullInPath.message

/-- The machine that a session is on. -/
structure Machine where
  /-- The home folders of users; that of the one at work is under the empty name. -/
  homes : List (String × String) := []
  /-- The most characters that there is room for in a text. -/
  room : Nat := Nat.pow 2 40
  /-- Whether the stack is deep enough for what is nested in a text. -/
  bears : String → Bool := fun _ => true

namespace Machine

/-- The home folder of a user. -/
def home? (machine : Machine) (user : String) : Option Path :=
  match machine.homes.lookup user with
  | none => none
  | some folder =>
      match (folder.toList.reverse.dropWhile (· == '/')).reverse with
      | [] => some (Path.ofLocation [])
      | '~' :: _ => none
      | text => some (Path.ofText (String.ofList text))

/-- A path with a home folder in place of a first name that starts with a tilde. -/
def expandHome (machine : Machine) (path : Path) : Except Trouble Path :=
  match path.parts with
  | [] => .ok path
  | first :: rest =>
      match path.slashes, first.toList with
      | 0, '~' :: user =>
          if user.contains (Char.ofNat 0) then .error Trouble.nullInPath
          else
            match machine.home? (String.ofList user) with
            | some home => .ok (home.join { parts := rest })
            | none => .error (.lapse .noHome)
      | _, _ => .ok path

end Machine

/-- Where records are shown: those that are grave enough on the console, and in a
    log file if there is one, with a time in front. -/
structure Sink where
  threshold : Level
  time : String
  /-- The place of the log file. -/
  file : Option Location := none
deriving DecidableEq, Repr

namespace Sink

/-- How many places a sink has. -/
def places (sink : Sink) : Nat :=
  if sink.file.isSome then 2 else 1

/-- The disk with records added to the log file, if it is still there.  The file is
    open all the time, so no lock keeps them from it. -/
def extend (sink : Sink) (records : List Record) (disk : Disk) : Disk :=
  match sink.file with
  | none => disk
  | some location =>
      match disk.find? location with
      | some (.file content) =>
          let lines := Record.file sink.time sink.threshold records
          disk.put location (.file (content ++ Text.Utf8.encode lines))
      | _ => disk

end Sink

/-- The state that a command works on. -/
structure Session where
  disk : Disk
  machine : Machine := {}
  /-- The records that have not been shown on the console yet. -/
  records : List Record := []
  sink : Option Sink := none

/-- Something that works on a session and may stop. -/
abbrev Action (α : Type) := ExceptT Trouble (StateM Session) α

namespace Action

/-- The disk as it is. -/
def disk : Action Disk := do
  return (← get).disk

/-- The machine of the session. -/
def machine : Action Machine := do
  return (← get).machine

/-- Keeps records for the console. -/
def note (records : List Record) : Action Unit :=
  modify fun session => { session with records := session.records ++ records }

/-- Makes records: they are kept for the console, and written to the log file at
    once. -/
def log (records : List Record) : Action Unit := do
  note records
  modify fun session =>
    match session.sink with
    | some sink => { session with disk := sink.extend records session.disk }
    | none => session

/-- The value of an outcome, or a stop. -/
def ofExcept {ε α : Type} (trouble : ε → Trouble) (outcome : Except ε α) : Action α :=
  match outcome with
  | .ok value => return value
  | .error fault => throw (trouble fault)

/-- Changes the disk. -/
def change (operation : Disk → Except Disk.Fault Disk) : Action Unit := do
  let disk ← ofExcept Trouble.disk (operation (← disk))
  modify fun session => { session with disk }

/-- Sets where records are shown from now on.  A log file is made at once if it is
    not there; where that fails nothing is shown any more. -/
def openSink (verbose : Bool) (time : String) (file : Option Path) : Action Sink := do
  modify fun session => { session with sink := none }
  let file := file.map ((← disk).resolve ·)
  match file with
  | some path =>
      if path.holdsNull then throw Trouble.nullInPath else change (·.append path [])
  | none => pure ()
  let sink : Sink := { threshold := Level.threshold verbose, time, file := file.map (·.parts) }
  modify fun session => { session with sink := some sink }
  return sink

/-- Shows the records made since the last time: the text for the console is given
    back. -/
def showRecords : Action String := do
  let session ← get
  set { session with records := [] }
  match session.sink with
  | none => return ""
  | some sink => return Record.console sink.threshold session.records

end Action

/-- Why the text of a file is not known. -/
inductive ReadFault
  | disk (fault : Disk.Fault)
  | encoding (fault : Text.Utf8.Fault)
deriving DecidableEq, Repr

/-- The message of a fault. -/
def ReadFault.message : ReadFault → String
  | .disk fault => fault.message
  | .encoding fault => fault.message

/-- The trouble of a fault. -/
def ReadFault.trouble : ReadFault → Trouble
  | .disk fault => .disk fault
  | .encoding fault => .encoding fault

/-- The text of a file, with line feeds alone between its lines. -/
def Disk.readText (disk : Disk) (path : Path) : Except ReadFault String := do
  let bytes ← (disk.read path).mapError ReadFault.disk
  let text ← (Text.Utf8.decode bytes).mapError ReadFault.encoding
  return String.ofList (Text.Utf8.unifyLineEnds text.toList)

/-- Goes on only if the machine bears the text of a file; a file without a text is no
    burden. -/
def Action.allow (path : Path) : Action Unit := do
  match (← disk).readText path with
  | .ok text => if !(← machine).bears text then throw Trouble.beyond
  | .error _ => pure ()

namespace Settings

/-- The settings file that a path stands for: itself, or the one in the folder
    it leads to. -/
def filePath (disk : Disk) (path : Path) : Except Trouble Path := do
  let entry ← (disk.look path).mapError Trouble.disk
  let file := if entry = some .folder then path.child fileName else path
  if file.holdsNull then .error Trouble.nullInPath else .ok (disk.resolve file)

/-- The trouble of a fault: what is wrong with a path or a number is not particular
    to settings. -/
def Fault.trouble (fault : Fault) : Trouble :=
  match fault with
  | .nullInPath | .longNumber => .value fault.message
  | .lapse cause => .lapse cause
  | _ => .settings fault

/-- The settings that a text makes for a project in a folder. -/
def ofText (machine : Machine) (root : Path) (file text : String) : Except Trouble Settings :=
  if (Text.trim text.toList).isEmpty then .ok (defaults root)
  else if !machine.bears text then .error .beyond
  else
    match Yaml.load text with
    | .error .malformed => .error (.settings (.unparsable file))
    | .error (.valueless reason) => .error (.value reason)
    | .error (.lapse cause) => .error (.lapse cause)
    | .error .beyond => .error .beyond
    | .ok value => (ofValue machine.room root value).mapError Fault.trouble

/-- The settings of a project; without a settings file they are the usual
    ones. -/
def load (machine : Machine) (disk : Disk) (path : Path) : Except Trouble Settings := do
  let path ← machine.expandHome path
  let file ← filePath disk path
  let root := file.parent
  match ← (disk.look file).mapError Trouble.disk with
  | none => return defaults root
  | some _ =>
      let text ← (disk.readText file).mapError ReadFault.trouble
      ofText machine root file.name text

end Settings

end StructScript
