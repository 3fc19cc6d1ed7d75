import StructScript.Text.Digit
import StructScript.Text.Integer
import StructScript.Text.Quoted

/-! # Command line grammar

    A command has switches, which may stand anywhere and be shortened as long as
    they stay unique, and one operand.  Behind two hyphens everything is an
    operand.  What does not fit is left over. -/

namespace StructScript.CommandLine

/-- A switch of a command, with all its names. -/
structure Switch where
  names : List String
  takesValue : Bool := false
  /-- Whether its value is a whole number. -/
  isNumber : Bool := false
  /-- Whether it asks how the command is used, and for nothing else. -/
  asksHelp : Bool := false
deriving DecidableEq, Repr

/-- The title of a switch in messages. -/
def Switch.title (switch : Switch) : String :=
  String.intercalate "/" switch.names

/-- What a command works on. -/
inductive Operand
  | required (name : String)
  | optional (name : String)
  /-- Another command, which takes all further arguments. -/
  | command (name : String) (choices : List String)
deriving DecidableEq, Repr

/-- The form of a command. -/
structure Grammar where
  program : String
  switches : List Switch
  operand : Operand
deriving DecidableEq, Repr

/-- Why reading stops: help is asked for, or arguments do not fit. -/
inductive Stop
  | help
  | required (name : String)
  | unrecognized (arguments : List String)
  | invalidChoice (name value : String) (choices : List String)
  | expectedValue (title : String)
  | unexpectedValue (title value : String)
  | notNumber (title value : String)
  | ambiguous (argument : String) (names : List String)
deriving DecidableEq, Repr

/-- A stop with the command that it concerns. -/
structure UsageStop where
  grammar : Grammar
  stop : Stop
deriving DecidableEq, Repr

/-- A switch as a usage line shows it. -/
def Switch.usage (switch : Switch) : String :=
  "[" ++ switch.names.headD "" ++ (if switch.takesValue then " VALUE" else "") ++ "]"

/-- An operand as a usage line shows it. -/
def Operand.usage : Operand → String
  | .required name => name
  | .optional name => "[" ++ name ++ "]"
  | .command _ choices => "\x7b" ++ String.intercalate "," choices ++ "\x7d ..."

/-- How a command is used, on one line. -/
def Grammar.usage (grammar : Grammar) : String :=
  String.intercalate " "
    (("usage: " ++ grammar.program) :: grammar.switches.map Switch.usage ++ [grammar.operand.usage])

/-- The message of a stop. -/
def Stop.message : Stop → String
  | .help => "help is asked for"
  | .required name => "the following arguments are required: " ++ name
  | .unrecognized arguments => "unrecognized arguments: " ++ String.intercalate " " arguments
  | .invalidChoice name value choices =>
      "argument " ++ name ++ ": invalid choice: " ++ Text.quoted value ++ " (choose from "
        ++ String.intercalate ", " (choices.map Text.quoted) ++ ")"
  | .expectedValue title => "argument " ++ title ++ ": expected one argument"
  | .unexpectedValue title value =>
      "argument " ++ title ++ ": ignored explicit argument " ++ Text.quoted value
  | .notNumber title value => "argument " ++ title ++ ": invalid int value: " ++ Text.quoted value
  | .ambiguous argument names =>
      "ambiguous option: " ++ argument ++ " could match " ++ String.intercalate ", " names

/-- The message of a stop, with the command in front. -/
def UsageStop.message (usage : UsageStop) : String :=
  usage.grammar.program ++ ": error: " ++ usage.stop.message

/-! ## Arguments -/

/-- A text that is joined to a switch, with an equals sign or directly. -/
structure Joined where
  text : String
  byEquals : Bool
deriving DecidableEq, Repr

/-- An argument by its role. -/
inductive Role
  | word
  /-- The two hyphens behind which everything is a word. -/
  | divider
  /-- A switch under one of its names, with what is joined to it. -/
  | switch (switch : Switch) (name : String) (joined : Option Joined)
  | unknown
deriving DecidableEq, Repr

/-- An argument as it is written, with its role. -/
structure Argument where
  text : String
  role : Role
deriving DecidableEq, Repr

/-- A text before and behind its first equals sign, if it has one. -/
def splitValue? (text : String) : Option (String × String) :=
  match text.toList.span (· != '=') with
  | (before, _ :: behind) => some (String.ofList before, String.ofList behind)
  | (_, []) => none

namespace Grammar

/-- All names of switches, in order. -/
def names (grammar : Grammar) : List (String × Switch) :=
  grammar.switches.flatMap fun switch => switch.names.map fun name => (name, switch)

/-- The switch with a name. -/
def switch? (grammar : Grammar) (name : String) : Option Switch :=
  grammar.names.lookup name

/-- Whether a text starts with another. -/
def startsWith (start text : String) : Bool :=
  start.toList.isPrefixOf text.toList

/-- The switches that a shortened name or a cluster of short names may mean. -/
def candidates (grammar : Grammar) (text : String) : List (String × Role) :=
  if startsWith "--" text then
    let (start, joined) : String × Option Joined :=
      match splitValue? text with
      | some (start, value) => (start, some ⟨value, true⟩)
      | none => (text, none)
    grammar.names.filterMap fun entry =>
      if startsWith start entry.1 then some (entry.1, .switch entry.2 entry.1 joined) else none
  else
    let short := String.ofList (text.toList.take 2)
    let cluster : Joined := ⟨String.ofList (text.toList.drop 2), false⟩
    grammar.names.filterMap fun entry =>
      if entry.1 == short then some (entry.1, .switch entry.2 entry.1 (some cluster))
      else if startsWith text entry.1 then some (entry.1, .switch entry.2 entry.1 none)
      else none

/-- Whether a text is a negative number, with or without a point. -/
def isNegativeNumber (text : String) : Bool :=
  match text.toList with
  | '-' :: body =>
      match body.span Text.isDigit with
      | (whole, []) => !whole.isEmpty
      | (_, '.' :: fraction) => !fraction.isEmpty && fraction.all Text.isDigit
      | _ => false
  | _ => false

/-- The switch that a text names exactly, perhaps with a value joined to it. -/
def exactSwitch? (grammar : Grammar) (text : String) : Option Role :=
  match grammar.switch? text with
  | some switch => some (.switch switch text none)
  | none => do
      let (name, value) ← splitValue? text
      let switch ← grammar.switch? name
      return .switch switch name (some ⟨value, true⟩)

/-- The role of a text before any divider. -/
def role (grammar : Grammar) (text : String) : Except Stop Role :=
  if !startsWith "-" text || text == "-" then .ok .word
  else
    match grammar.exactSwitch? text with
    | some role => .ok role
    | none =>
        match grammar.candidates text with
        | [(_, role)] => .ok role
        | [] => .ok (if isNegativeNumber text || text.toList.contains ' ' then .word else .unknown)
        | several => .error (.ambiguous text (several.map (·.1)))

/-- The roles of arguments. -/
def classify (grammar : Grammar) : List String → Except Stop (List Argument)
  | [] => .ok []
  | "--" :: rest => .ok (⟨"--", .divider⟩ :: rest.map fun text => ⟨text, .word⟩)
  | text :: rest => do
      let role ← grammar.role text
      return ⟨text, role⟩ :: (← grammar.classify rest)

end Grammar

/-! ## Reading -/

/-- What arguments say. -/
structure Reading where
  /-- The switches that were given, by their last name, with their values. -/
  given : List (String × Option String) := []
  /-- The arguments of the operand. -/
  operand : Option (List String) := none
  /-- Arguments without a meaning. -/
  leftOver : List String := []
deriving Repr

namespace Reading

/-- Adds a switch; one that asks for help ends the reading. -/
def give (reading : Reading) (switch : Switch) (value : Option String) : Except Stop Reading :=
  let accepted := { reading with given := reading.given ++ [(switch.names.getLastD "", value)] }
  match value with
  | some text =>
      if switch.isNumber && (Text.integer? text).isNone then .error (.notNumber switch.title text)
      else .ok accepted
  | none => if switch.asksHelp then .error .help else .ok accepted

/-- Adds an argument without a meaning. -/
def leave (reading : Reading) (text : String) : Reading :=
  { reading with leftOver := reading.leftOver ++ [text] }

/-- Whether a switch was given. -/
def has (reading : Reading) (name : String) : Bool :=
  reading.given.any (·.1 == name)

/-- The values of a switch, in order. -/
def values (reading : Reading) (name : String) : List String :=
  reading.given.filterMap fun entry => if entry.1 == name then entry.2 else none

/-- The last value of a switch, unless it is empty. -/
def value? (reading : Reading) (name : String) : Option String :=
  (reading.values name).getLast?.filter fun value => !value.isEmpty

end Reading

/-- Whether a name is a hyphen and a letter. -/
def isShort (name : String) : Bool :=
  (name.toList.drop 1).head? != some '-'

/-- A switch to which nothing is joined; its value is the next argument. -/
def giveAlone (switch : Switch) (rest : List Argument) (reading : Reading) :
    Except Stop (Reading × List Argument) :=
  if switch.takesValue then
    match rest with
    | ⟨text, .word⟩ :: rest => do return (← reading.give switch (some text), rest)
    | _ => .error (.expectedValue switch.title)
  else do return (← reading.give switch none, rest)

/-- A switch with a text that can only be its value. -/
def giveValue (switch : Switch) (text : String) (rest : List Argument) (reading : Reading) :
    Except Stop (Reading × List Argument) :=
  if switch.takesValue then do return (← reading.give switch (some text), rest)
  else .error (.unexpectedValue switch.title text)

/-- A short switch with a text behind its letter: its value, or, if it has none,
    further short switches.  A letter that names none is left over with what
    follows it. -/
def giveCluster (grammar : Grammar) (switch : Switch) (rest : List Argument) (reading : Reading) :
    List Char → Except Stop (Reading × List Argument)
  | [] => giveValue switch "" rest reading
  | letter :: more =>
      if switch.takesValue || letter == '-' then
        giveValue switch (String.ofList (letter :: more)) rest reading
      else do
        let reading ← reading.give switch none
        match grammar.switch? (String.ofList ['-', letter]) with
        | none => return (reading.leave (String.ofList ('-' :: letter :: more)), rest)
        | some next =>
            match more with
            | [] => giveAlone next rest reading
            | '=' :: value => giveValue next (String.ofList value) rest reading
            | _ => giveCluster grammar next rest reading more

/-- A switch, with what is joined to it. -/
def giveSwitch (grammar : Grammar) (switch : Switch) (name : String) (joined : Option Joined)
    (rest : List Argument) (reading : Reading) : Except Stop (Reading × List Argument) :=
  match joined with
  | some joined =>
      if isShort name && !joined.byEquals then
        giveCluster grammar switch rest reading joined.text.toList
      else giveValue switch joined.text rest reading
  | none => giveAlone switch rest reading

/-- The arguments without dividers at the front. -/
def dropDividers : List Argument → List Argument
  | ⟨_, .divider⟩ :: rest => dropDividers rest
  | arguments => arguments

/-- The arguments of an operand that starts here, and what follows it. -/
def takeOperand (operand : Operand) (arguments : List Argument) :
    Option (List String × List Argument) :=
  match operand, dropDividers arguments with
  | .required _, ⟨text, .word⟩ :: rest => some ([text], dropDividers rest)
  | .optional _, ⟨text, .word⟩ :: rest => some ([text], dropDividers rest)
  | .optional _, rest => some ([], rest)
  | .command _ _, ⟨_, .word⟩ :: _ => some (arguments.map (·.text), [])
  | _, _ => none

/-- Reads arguments one by one, with at most so many steps. -/
def readArguments (grammar : Grammar) :
    Nat → List Argument → Reading → Except Stop Reading
  | 0, _, reading => .ok reading
  | _ + 1, [], reading => .ok reading
  | steps + 1, ⟨text, .unknown⟩ :: rest, reading =>
      readArguments grammar steps rest (reading.leave text)
  | steps + 1, ⟨_, .switch switch name joined⟩ :: rest, reading => do
      let (reading, rest) ← giveSwitch grammar switch name joined rest reading
      readArguments grammar steps rest reading
  | steps + 1, argument :: rest, reading =>
      match reading.operand, takeOperand grammar.operand (argument :: rest) with
      | none, some (operand, after) =>
          readArguments grammar steps after { reading with operand := some operand }
      | _, _ => readArguments grammar steps rest (reading.leave argument.text)

/-- The operand is there where it has to be, and names a command where it must. -/
def checkOperand (operand : Operand) (given : Option (List String)) : Except Stop Unit :=
  match operand, given with
  | .required name, none => .error (.required name)
  | .command name _, none => .error (.required name)
  | .command name choices, some (choice :: _) =>
      if choices.contains choice then .ok () else .error (.invalidChoice name choice choices)
  | _, _ => .ok ()

/-- What arguments say to a command. -/
def Grammar.read (grammar : Grammar) (arguments : List String) : Except UsageStop Reading :=
  let outcome := do
    let arguments ← grammar.classify arguments
    let reading ← readArguments grammar (arguments.length + 1) arguments {}
    checkOperand grammar.operand reading.operand
    return reading
  outcome.mapError fun stop => { grammar, stop }

end StructScript.CommandLine
