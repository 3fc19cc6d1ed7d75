import StructScript.Path
import StructScript.Text.Quoted

/-! # File trees

    A disk holds folders and files, each at its place, and a folder in use from
    which relative paths start.  An operation on a path walks to its place; each
    folder on the way has to be there and to let one pass.  A place may be locked:
    what is read-only cannot be changed, and what is closed cannot be read either.
    There is no place under a name or a path that is too long. -/

namespace StructScript

/-- What stands at a place. -/
inductive Entry
  | folder
  | file (content : List UInt8)
deriving DecidableEq, Repr

/-- How a place is kept from those who work on a disk. -/
inductive Lock
  /-- A file that cannot be changed, or a folder in which nothing can be made. -/
  | readOnly
  /-- A file that cannot be read either, or a folder that cannot be looked into. -/
  | closed
deriving DecidableEq, Repr

/-- A file tree with a folder in use. -/
structure Disk where
  here : Location := []
  entries : List (Location × Entry) := []
  /-- The places that are not open to everything. -/
  locks : List (Location × Lock) := []
deriving DecidableEq, Repr

/-- Why an operation on a path is refused. -/
inductive Disk.Cause
  | missing
  | denied
  | exists
  | notFolder
  | isFolder
  | tooLong
deriving DecidableEq, Repr

/-- A refused operation on a path. -/
structure Disk.Fault where
  cause : Disk.Cause
  path : String
deriving DecidableEq, Repr

namespace Disk

/-- The number and the wording of a cause. -/
def Cause.text : Cause → String
  | .missing => "[Errno 2] No such file or directory"
  | .denied => "[Errno 13] Permission denied"
  | .exists => "[Errno 17] File exists"
  | .notFolder => "[Errno 20] Not a directory"
  | .isFolder => "[Errno 21] Is a directory"
  | .tooLong => "[Errno 36] File name too long"

/-- Whether a cause says that a path leads nowhere. -/
def Cause.isAbsence : Cause → Bool
  | .missing => true
  | .notFolder => true
  | _ => false

/-- The message of a refused operation. -/
def Fault.message (fault : Fault) : String :=
  fault.cause.text ++ ": " ++ Text.quoted fault.path

/-- What stands at a place; the top is always a folder. -/
def find? (disk : Disk) (location : Location) : Option Entry :=
  if location.isEmpty then some .folder else disk.entries.lookup location

/-- Puts an entry at a place. -/
def put (disk : Disk) (location : Location) (entry : Entry) : Disk :=
  { disk with
    entries := (location, entry) :: disk.entries.filter fun other => other.1 != location }

/-- Removes what stands at a place and below it. -/
def remove (disk : Disk) (location : Location) : Disk :=
  { disk with entries := disk.entries.filter fun other => !location.isPrefixOf other.1 }

/-- Whether what stands at a place can be read, or passed through if it is a folder. -/
def mayRead (disk : Disk) (location : Location) : Bool :=
  disk.locks.lookup location != some .closed

/-- Whether what stands at a place can be changed. -/
def mayWrite (disk : Disk) (location : Location) : Bool :=
  (disk.locks.lookup location).isNone

/-- Whether an entry can be put at a place: where nothing stands yet, the folder
    around it has to take it. -/
def mayPut (disk : Disk) (location : Location) : Bool :=
  disk.mayWrite location && ((disk.find? location).isSome || disk.mayWrite location.dropLast)

/-- The most bytes that a name can have. -/
def nameLimit : Nat := 255

/-- The most bytes that a path can have. -/
def pathLimit : Nat := 4095

/-- What bars the way from a folder to a name in it, whether or not there is one. -/
def bar? (disk : Disk) (location : Location) (name : String) : Option Cause :=
  if !disk.mayRead location then some .denied
  else if nameLimit < name.utf8ByteSize then some .tooLong
  else none

/-- The place that names lead to, through folders that are there and past what bars
    the way. -/
def walk (disk : Disk) (bar? : Location → String → Option Cause) (location : Location) :
    List String → Except Cause Location
  | [] => .ok location
  | name :: rest =>
      match disk.find? location with
      | none => .error .missing
      | some (.file _) => .error .notFolder
      | some .folder =>
          match bar? location name with
          | some cause => .error cause
          | none =>
              disk.walk bar? (if name = ".." then location.dropLast else location ++ [name]) rest

/-- Where the way along a path starts. -/
def origin (disk : Disk) (path : Path) : Location :=
  if path.slashes = 0 then disk.here else []

/-- The place of a path, for one whom nothing bars. -/
def locate (disk : Disk) (path : Path) : Except Cause Location :=
  disk.walk (fun _ _ => none) (disk.origin path) path.parts

/-- The place that a path leads to, whatever is there. -/
def resolve (disk : Disk) (path : Path) : Path :=
  Path.ofLocation (path.resolve disk.here)

/-- Whether a path is too long, as it is written or from the top. -/
def isTooLong (disk : Disk) (path : Path) : Bool :=
  pathLimit < path.text.utf8ByteSize || pathLimit < (disk.resolve path).text.utf8ByteSize

/-- The place of a path. -/
def reach (disk : Disk) (path : Path) : Except Cause Location :=
  if disk.isTooLong path then .error .tooLong
  else disk.walk disk.bar? (disk.origin path) path.parts

/-- The outcome of an operation, with the path in its fault. -/
def onPath {α : Type} (path : Path) (outcome : Except Cause α) : Except Fault α :=
  outcome.mapError fun cause => { cause, path := path.text }

/-- What a path leads to, if it leads anywhere.  A path that no file can have leads
    nowhere; what cannot be looked at is a fault. -/
def look (disk : Disk) (path : Path) : Except Fault (Option Entry) :=
  if path.holdsNull then .ok none
  else
    match disk.reach path with
    | .ok location => .ok (disk.find? location)
    | .error cause => if cause.isAbsence then .ok none else .error { cause, path := path.text }

/-- What a path leads to, as far as it can be looked at. -/
def get? (disk : Disk) (path : Path) : Option Entry :=
  match disk.reach path with
  | .ok location => disk.find? location
  | .error _ => none

/-- Whether a path leads to a folder. -/
def isFolder (disk : Disk) (path : Path) : Bool :=
  disk.get? path == some .folder

/-- Whether a path leads to a file. -/
def isFile (disk : Disk) (path : Path) : Bool :=
  match disk.get? path with
  | some (.file _) => true
  | _ => false

/-- The content of a file. -/
def read (disk : Disk) (path : Path) : Except Fault (List UInt8) :=
  onPath path do
    let location ← disk.reach path
    match disk.find? location with
    | none => .error .missing
    | some entry =>
        if !disk.mayRead location then .error .denied
        else
          match entry with
          | .folder => .error .isFolder
          | .file content => .ok content

/-- A disk with an entry at a place that takes it. -/
def install (disk : Disk) (location : Location) (entry : Entry) : Except Cause Disk :=
  if disk.mayPut location then .ok (disk.put location entry) else .error .denied

/-- A file with new content, made if it is not there. -/
def write (disk : Disk) (path : Path) (content : List UInt8) : Except Fault Disk :=
  onPath path do
    let location ← disk.reach path
    match disk.find? location with
    | some .folder => .error .isFolder
    | _ => disk.install location (.file content)

/-- A file with content added at its end, made if it is not there. -/
def append (disk : Disk) (path : Path) (content : List UInt8) : Except Fault Disk :=
  onPath path do
    let location ← disk.reach path
    match disk.find? location with
    | some .folder => .error .isFolder
    | some (.file before) => disk.install location (.file (before ++ content))
    | none => disk.install location (.file content)

/-- A new folder. -/
def makeFolder (disk : Disk) (path : Path) : Except Fault Disk :=
  onPath path do
    let location ← disk.reach path
    match disk.find? location with
    | some _ => .error .exists
    | none => disk.install location .folder

/-- A folder, made if it is not there, in a folder that is. -/
def ensureFolder (disk : Disk) (path : Path) : Except Fault Disk :=
  match disk.makeFolder path with
  | .ok disk => .ok disk
  | .error fault =>
      if fault.cause != .missing && disk.isFolder path then .ok disk else .error fault

/-- The first folders of a path, from the outermost missing one on. -/
def ensureFrom (disk : Disk) (path : Path) : Nat → Except Fault Disk
  | 0 => disk.ensureFolder path
  | depth + 1 =>
      match disk.makeFolder path with
      | .error ⟨.missing, _⟩ => do (← disk.ensureFrom path.parent depth).ensureFolder path
      | _ => disk.ensureFolder path

/-- A folder with all folders around it, made where they are not there. -/
def ensureFolders (disk : Disk) (path : Path) : Except Fault Disk :=
  disk.ensureFrom path path.parts.length

/-- The order of names by their characters. -/
def nameLe (a b : String) : Bool :=
  !(b < a)

/-- The name of a place in a folder, if it is directly in it. -/
def nameIn? (folder location : Location) : Option String :=
  match relativeTo? folder location with
  | some [name] => some name
  | _ => none

/-- The names in a folder, in order. -/
def namesIn (disk : Disk) (folder : Location) : List String :=
  (disk.entries.filterMap fun entry => nameIn? folder entry.1).mergeSort nameLe

/-- The paths of the entries of a folder, in the order of their names. -/
def children (disk : Disk) (path : Path) : List Path :=
  match disk.locate path with
  | .ok location => (disk.namesIn location).map path.child
  | .error _ => []

/-- Whether there can be an entry under a name in a folder. -/
def fits (folder : Location) (name : String) : Bool :=
  name.utf8ByteSize ≤ nameLimit
    && (Path.ofLocation (folder ++ [name])).text.utf8ByteSize ≤ pathLimit

/-- Looks at every entry of a folder. -/
def survey (disk : Disk) (path : Path) : Except Fault Unit := do
  let location ← onPath path (disk.reach path)
  match disk.find? location with
  | none => .error { cause := .missing, path := path.text }
  | some (.file _) => .error { cause := .notFolder, path := path.text }
  | some .folder =>
      if !disk.mayRead location then .error { cause := .denied, path := path.text }
      else
        match (disk.namesIn location).find? fun name => !fits location name with
        | some name => .error { cause := .tooLong, path := (path.child name).text }
        | none => .ok ()

/-- The folder of a path in use from now on. -/
def enter (disk : Disk) (path : Path) : Except Fault Disk :=
  onPath path do
    let location ← disk.locate path
    match disk.find? location with
    | some .folder => return { disk with here := location }
    | some (.file _) => .error .notFolder
    | none => .error .missing

/-- A disk without the entry that a path leads to. -/
def erase (disk : Disk) (path : Path) : Except Fault Disk :=
  onPath path do
    let location ← disk.locate path
    match disk.find? location with
    | some _ => return disk.remove location
    | none => .error .missing

/-- Whether nothing is in a folder. -/
def isEmptyFolder (disk : Disk) (location : Location) : Bool :=
  !disk.entries.any fun entry => (nameIn? location entry.1).isSome

/-- How an entry below a folder is listed: a file by its path from there and its
    content, and a folder only if nothing is in it, with a slash behind it. -/
def listingEntry? (disk : Disk) (folder : Location) (entry : Location × Entry) :
    Option (String × Option (List UInt8)) := do
  let below ← relativeTo? folder entry.1
  let text := ({ parts := below } : Path).text
  match entry.2 with
  | .file content => if below.isEmpty then none else some (text, some content)
  | .folder => if disk.isEmptyFolder entry.1 then some (text ++ "/", none) else none

/-- Everything below a folder, in order. -/
def listing (disk : Disk) (path : Path) : List (String × Option (List UInt8)) :=
  match disk.locate path with
  | .ok folder =>
      (disk.entries.filterMap (disk.listingEntry? folder)).mergeSort fun a b => nameLe a.1 b.1
  | .error _ => []

end Disk

end StructScript
