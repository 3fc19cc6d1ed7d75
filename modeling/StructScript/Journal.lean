/-! # Log records

    Records say what a run does, where and how grave it is.  They are shown on
    the console and, with a time in front, in a log file. -/

namespace StructScript

/-- How grave a record is. -/
inductive Level where
  | debug
  | info
  | warning
  | error
  | critical
deriving DecidableEq, Repr

namespace Level

/-- The place of a level in the order of gravity. -/
def rank : Level → Nat
  | .debug => 0
  | .info => 1
  | .warning => 2
  | .error => 3
  | .critical => 4

/-- The name of a level. -/
def name : Level → String
  | .debug => "DEBUG"
  | .info => "INFO"
  | .warning => "WARNING"
  | .error => "ERROR"
  | .critical => "CRITICAL"

/-- The least grave level that is shown. -/
def threshold (verbose : Bool) : Level :=
  if verbose then .debug else .info

end Level

/-- A log record.  The source file and the declaration it concerns are empty
    where there is none. -/
structure Record where
  level : Level
  logger : String
  source : String := ""
  declaration : String := ""
  message : String
deriving DecidableEq, Repr

namespace Record

/-- The full name of a logger. -/
def loggerName (logger : String) : String :=
  if logger.isEmpty then "typeconv" else "typeconv." ++ logger

/-- The place that a record names.  A declaration counts only with a source. -/
def location (record : Record) : String :=
  if record.source.isEmpty then ""
  else if record.declaration.isEmpty then " (" ++ record.source ++ ")"
  else " (" ++ record.source ++ " > " ++ record.declaration ++ ")"

/-- Everything that a line says after its start. -/
def body (record : Record) : String :=
  record.level.name ++ " " ++ loggerName record.logger ++ record.location ++ ": "
    ++ record.message ++ "\n"

/-- The line on the console. -/
def consoleLine (record : Record) : String :=
  "[typeconv] " ++ record.body

/-- The line in the log file. -/
def fileLine (time : String) (record : Record) : String :=
  time ++ " " ++ record.body

/-- Whether a record is grave enough to be shown. -/
def passes (threshold : Level) (record : Record) : Bool :=
  threshold.rank ≤ record.level.rank

/-- The lines of records on the console. -/
def console (threshold : Level) (records : List Record) : String :=
  String.join ((records.filter (·.passes threshold)).map consoleLine)

/-- The lines of records in the log file. -/
def file (time : String) (threshold : Level) (records : List Record) : String :=
  String.join ((records.filter (·.passes threshold)).map (fileLine time))

end Record

/-- What is known about the place that a record concerns. -/
structure Subject where
  source : Option String := none
  declaration : Option String := none
deriving DecidableEq, Repr

namespace Subject

/-- The subject of a source file and perhaps of a declaration in it. -/
def ofSource (source : String) (declaration : Option String) : Subject :=
  { source := some source, declaration := declaration.filter fun name => !name.isEmpty }

/-- A subject with what a single record says, which wins. -/
def override (subject own : Subject) : Subject :=
  { source := own.source.or subject.source, declaration := own.declaration.or subject.declaration }

/-- A record about a subject. -/
def record (subject : Subject) (level : Level) (logger message : String) : Record :=
  { level, logger, message, source := subject.source.getD ""
    declaration := subject.declaration.getD "" }

end Subject

end StructScript
