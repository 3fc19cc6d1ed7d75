import StructScript.Path
import StructScript.Script.Options
import StructScript.Text.LetterCase
import StructScript.Yaml.Value

/-! # Settings

    What a project asks for: where its packages lie, where the modules go, and
    how they are written.  The settings file is a YAML mapping; an entry of an
    unexpected kind counts as absent, and one of the right kind may still be more
    than there is a text for. -/

namespace StructScript

/-- The settings of a project. -/
structure Settings where
  root : Path
  inputFolder : Path
  outputFolder : Path
  expand : Bool := false
  /-- Whether companions are appended to the Go sources. -/
  persist : Bool := false
  workers : Int := 1
  /-- Patterns of the folders and files that are left out. -/
  excluded : List String := []
  /-- The declaration that each folder exports as its default. -/
  defaultExports : List (String × String) := []
  options : Options := {}

/-- Why a settings file cannot be used. -/
inductive Settings.Fault
  | unparsable (file : String)
  | notMapping
  | tooFewWorkers
  /-- A path holds the character that no path can hold. -/
  | nullInPath
  /-- A number has more digits than are written. -/
  | longNumber
  | lapse (cause : Lapse)
deriving DecidableEq, Repr

namespace Settings

/-- The name of the settings file. -/
def fileName : String :=
  ".typeconv.yml"

/-- The message of a fault. -/
def Fault.message : Fault → String
  | .unparsable file => "Failed to parse " ++ file
  | .notMapping => fileName ++ " must contain a mapping at the root"
  | .tooFewWorkers => "workers must be a positive integer"
  | .nullInPath => "embedded null byte"
  | .longNumber =>
      "Exceeds the limit (" ++ toString Text.digitLimit
        ++ " digits) for integer string conversion; use sys.set_int_max_str_digits() to "
        ++ "increase the limit"
  | .lapse cause => cause.message

/-- The settings of a project without a settings file. -/
def defaults (root : Path) : Settings :=
  { root, inputFolder := root, outputFolder := root.child "types" }

/-- Sets the value of a key; a key that is there keeps its place. -/
def setPair (pairs : List (String × String)) (key value : String) : List (String × String) :=
  match pairs with
  | [] => [(key, value)]
  | pair :: rest =>
      if pair.1 = key then (key, value) :: rest else pair :: setPair rest key value

/-- Sets the values of keys, of which later ones win. -/
def setPairs (pairs more : List (String × String)) : List (String × String) :=
  more.foldl (fun pairs pair => setPair pairs pair.1 pair.2) pairs

end Settings

namespace Yaml.Value

/-- The text of a truth value. -/
def boolText (b : Bool) : String :=
  if b then "True" else "False"

/-- The text of a single text, number or truth value. -/
def text? : Value → Except Settings.Fault (Option String)
  | .text written => .ok (some written)
  | .int n =>
      match Text.decimalText? n with
      | some digits => .ok (some digits)
      | none => .error .longNumber
  | .float x => .ok (some (Decimal.floatText x))
  | .bool b => .ok (some (boolText b))
  | _ => .ok none

/-- The text of a key. -/
def keyText : Value → Except Settings.Fault String
  | .null => .ok "None"
  | .moment m => .ok m.text
  | .bytes data => .ok (Text.quotedBytes data)
  | value => value.text?.map fun text => text.getD ""

/-- A whole number, or a text that writes one. -/
def integer? : Value → Option Int
  | .int n => some n
  | .text written => Text.integer? written
  | _ => none

/-- A truth value, or a text that names one. -/
def truth? : Value → Option Bool
  | .bool b => some b
  | .text written =>
      let word := Text.lower (String.ofList (Text.trim written.toList))
      if ["true", "yes", "1"].contains word then some true
      else if ["false", "no", "0"].contains word then some false
      else none
  | _ => none

/-- The texts of a list, or a single text; bytes are a list of numbers. -/
def texts : Value → Except Settings.Fault (List String)
  | .text written => .ok [written]
  | .bytes data => .ok (data.map fun byte => toString byte.toNat)
  | .list items => do return (← items.mapM text?).reduceOption
  | _ => .ok []

/-- An entry of a mapping with its texts, if its value has one. -/
def pair? (entry : Value × Value) : Except Settings.Fault (Option (String × String)) := do
  match ← entry.2.text? with
  | some value => return some (← entry.1.keyText, value)
  | none => return none

/-- The entries of a mapping whose values are texts, numbers or truth values. -/
def pairs : Value → Except Settings.Fault (List (String × String))
  | .mapping entries => do return Settings.setPairs [] (← entries.mapM pair?).reduceOption
  | _ => .ok []

/-- The value of an entry of a mapping. -/
def entry (value : Value) (key : String) : Value :=
  match value with
  | .mapping entries =>
      match entries.find? fun entry => entry.1.sameKey (.text key) with
      | some found => found.2
      | none => .null
  | _ => .null

end Yaml.Value

namespace Settings

/-- The text of an entry, unless it is empty. -/
def someText? (value : Yaml.Value) : Except Fault (Option String) :=
  value.text?.map fun text => text.filter fun written => !written.isEmpty

/-- The place of a folder, seen from another one. -/
def folderAt (root : Path) (text : String) : Except Fault Path :=
  if text.toList.contains (Char.ofNat 0) then .error .nullInPath
  else .ok (Path.ofLocation ((Path.ofText text).resolve root.parts))

/-- The place of a folder that the settings name, seen from their own folder. -/
def folderOr (root : Path) (usual : Path) (value : Yaml.Value) : Except Fault Path := do
  match ← someText? value with
  | some text => folderAt root text
  | none => return usual

/-- The least number that is too large to count characters. -/
def countLimit : Nat := Nat.pow 2 63

/-- So many spaces, if there is room for them; fewer than none are none. -/
def spaces (room : Nat) (count : Int) : Except Fault String :=
  if count < -(countLimit : Int) || (countLimit : Int) ≤ count then .error (.lapse .hugeCount)
  else if room < count.toNat then .error (.lapse .noRoom)
  else .ok (Text.repeated " " count.toNat)

/-- How much lines are indented: so many spaces, or a text. -/
def indentOr (room : Nat) (usual : String) : Yaml.Value → Except Fault String
  | .int n => spaces room n
  | .text text => .ok text
  | _ => .ok usual

/-- The options that the section on output sets. -/
def optionsOf (room : Nat) (usual : Options) (data : Yaml.Value) : Except Fault Options := do
  let indent ← indentOr room usual.indent (data.entry "indent")
  let placeholder ← someText? (data.entry "generic_placeholder")
  let scalars ← (data.entry "scalar_selectors").pairs
  .ok
    { indent
      placeholder := placeholder.getD usual.placeholder
      widenPointers := (data.entry "optional_pointer_union").truth?.getD false
      scalars := setPairs usual.scalars scalars }

/-- The number of workers, which is positive where it is set. -/
def workersOf (value : Yaml.Value) : Except Fault Int :=
  match value.integer? with
  | none => .ok 1
  | some n => if n < 1 then .error .tooFewWorkers else .ok n

/-- The settings that a mapping makes for a project in a folder. -/
def ofMapping (room : Nat) (root : Path) (data : Yaml.Value) : Except Fault Settings := do
  let usual := defaults root
  let inputFolder ← folderOr root usual.inputFolder (data.entry "input_dir")
  let outputFolder ← folderOr root usual.outputFolder (data.entry "output_dir")
  let workers ← workersOf (data.entry "workers")
  let excluded ← (data.entry "exclude_paths").texts
  let defaultExports ← (data.entry "default_exports").pairs
  let options ← optionsOf room usual.options (data.entry "translation")
  .ok
    { usual with
      inputFolder
      outputFolder
      expand := (data.entry "expand").truth?.getD false
      persist := (data.entry "persist_updates").truth?.getD false
      workers
      excluded
      defaultExports
      options }

/-- The settings that a value makes: nothing counts as an empty mapping. -/
def ofValue (room : Nat) (root : Path) (value : Yaml.Value) : Except Fault Settings :=
  match value with
  | .null => ofMapping room root (.mapping [])
  | .mapping entries => ofMapping room root (.mapping entries)
  | _ => .error .notMapping

end Settings

end StructScript
