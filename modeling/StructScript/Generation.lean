import StructScript.Generation.Report
import StructScript.Generation.Selection

/-! # Generation

    A run writes a folder of modules for every package folder, an index for each
    of them, and an index of all.  Faults of single files are collected; a disk
    that refuses a folder or an index stops the run.  The manner of a run says what
    becomes of its records: they may be kept until the end, or written to a log file
    as they are made, which may be one of the files that the run reads. -/

namespace StructScript

/-- What is done around the work of a run. -/
structure Manner where
  /-- What becomes of records. -/
  log : List Record → Action Unit
  /-- What is done before a source is read. -/
  allow : Path → Action Unit

namespace Manner

/-- Records are kept until the end, and every source is taken. -/
def kept : Manner :=
  { log := Action.note, allow := fun _ => pure () }

/-- Records are made for all places, and a source is taken if the machine bears it. -/
def logged : Manner :=
  { log := Action.log, allow := Action.allow }

end Manner

namespace Settings

/-- A record of the run itself. -/
def runRecord (level : Level) (message : String) : Record :=
  { level, logger := "generator", message }

/-- The outcome of each job that is finished. -/
def outcomes (jobs : List (Job × Job.Progress)) : List (Job × Job.Outcome) :=
  jobs.filterMap fun entry =>
    match entry.2.stage with
    | .finished outcome => some (entry.1, outcome)
    | _ => none

/-- What is recorded about the jobs of a folder that failed. -/
def failureRecords (outcomes : List (Job × Job.Outcome)) : List Record :=
  outcomes.filterMap fun entry =>
    match entry.2 with
    | .failed fault =>
        some
          { level := .error, logger := "generator", source := entry.1.source.text
            message := "Failed to translate: " ++ fault.message }
    | .done _ => none

/-- The jobs of a folder whose modules go to a target folder. -/
def jobs (sources : List Path) (target : Path) : List Job :=
  sources.map fun source => { source, target := target.child (source.stem ++ ".ts") }

/-- The next step of a job on the disk of the session, with its records made before
    and after the work on the disk. -/
def stepJob (settings : Settings) (manner : Manner) (job : Job)
    (progress : Job.Progress) : Action Job.Progress := do
  let before := Job.announcement settings progress
  manner.log before
  let (next, disk) := job.step settings progress (← Action.disk)
  modify fun session => { session with disk }
  manner.log (next.records.drop (progress.records.length + before.length))
  return next

/-- So many steps of a job. -/
def stepsJob (settings : Settings) (manner : Manner) (job : Job) :
    Nat → Job.Progress → Action Job.Progress
  | 0, progress => return progress
  | count + 1, progress => do
      let next ← settings.stepJob manner job progress
      settings.stepsJob manner job count next

/-- Runs jobs one after the other. -/
def runJobs (settings : Settings) (manner : Manner) :
    List Job → Action (List (Job × Job.Outcome))
  | [] => return []
  | job :: rest => do
      manner.allow job.source
      let progress ← settings.stepsJob manner job Job.stepCount {}
      let others ← settings.runJobs manner rest
      return outcomes [(job, progress)] ++ others

/-- The default export that is wanted of a folder. -/
def wantedDefault? (settings : Settings) (folder : Path) : Option String :=
  (settings.defaultExports.lookup folder.name).filter fun name => !name.isEmpty

/-- Writes the modules and the index of a folder; the default export is given
    back if the folder has it. -/
def generateFolder (settings : Settings) (manner : Manner) (folder : Path)
    (report : Report) : Action (Report × Option String) := do
  let target := settings.outputFolder.child folder.name
  Action.change (·.ensureFolders target)
  Action.ofExcept Trouble.disk ((← Action.disk).survey folder)
  let sources := settings.sources (← Action.disk) folder
  manner.log
    [runRecord .debug
      ("Translating " ++ toString sources.length ++ " file(s) in " ++ folder.name)]
  let outcomes ← settings.runJobs manner (jobs sources target)
  manner.log (failureRecords outcomes)
  let wanted := settings.wantedDefault? folder
  let found := Index.folderDefault? wanted outcomes
  match wanted, found with
  | some name, none =>
      manner.log
        [runRecord .warning
          ("Default export " ++ name ++ " not found in folder " ++ folder.name)]
  | _, _ => pure ()
  let index := target.child Index.fileName
  Action.change (·.write index (Text.Utf8.encode (Index.folderText wanted outcomes)))
  let report := outcomes.foldl (fun report entry => report.addOutcome entry.1 entry.2) report
  return (report.addWritten index, found)

/-- Writes the modules and the indexes of folders; the folders with a default
    export are given back. -/
def generateFolders (settings : Settings) (manner : Manner) :
    List Path → Report → Action (Report × List (String × String))
  | [], report => return (report, [])
  | folder :: rest, report => do
      let (report, found) ← settings.generateFolder manner folder report
      match found with
      | none => settings.generateFolders manner rest report
      | some name =>
          let (report, others) ← settings.generateFolders manner rest (report.addDefault name)
          return (report, (folder.name, name) :: others)

/-- A whole run in some manner. -/
def generateWith (settings : Settings) (manner : Manner) : Action Report := do
  let entry ← Action.ofExcept Trouble.disk ((← Action.disk).look settings.inputFolder)
  if entry ≠ some .folder then
    throw (.noInput settings.inputFolder.text)
  manner.log
    [runRecord .info
      ("Generating TypeScript from " ++ settings.inputFolder.text ++ " into "
        ++ settings.outputFolder.text)]
  Action.change (·.ensureFolders settings.outputFolder)
  Action.ofExcept Trouble.disk ((← Action.disk).survey settings.inputFolder)
  let disk ← Action.disk
  manner.log (settings.folderRecords disk)
  let (report, defaults) ← settings.generateFolders manner (settings.packageFolders disk) {}
  let index := settings.outputFolder.child Index.fileName
  Action.change (·.write index (Text.Utf8.encode (Index.rootText defaults)))
  let report := report.addWritten index
  manner.log
    [runRecord .info
      ("Wrote " ++ toString report.written.length ++ " file(s), "
        ++ toString report.declarations ++ " declaration(s), "
        ++ toString (report.failures.length + report.declarationErrors) ++ " failure(s)")]
  return report

/-- A whole run whose records are kept until its end. -/
def generate (settings : Settings) : Action Report :=
  settings.generateWith .kept

end Settings

end StructScript
