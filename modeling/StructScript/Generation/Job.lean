import StructScript.Companion.Spelling
import StructScript.Go.File
import StructScript.Script.Module
import StructScript.Session

/-! # Jobs

    A job writes the module of one source file.  It works in steps, each with at
    most one operation on the disk: it reads its source, extends the source with
    companions if that is asked for, and writes its module.  Several jobs may
    take their steps in any order. -/

namespace StructScript

/-- A Go source file, as it stands on a disk, with its unit. -/
def SourceUnit.ofFile (disk : Disk) (path : Path) : Except Fault SourceUnit :=
  match disk.readText path with
  | .ok source => Go.parse source path.text
  | .error fault =>
      .error { cause := .unreadable path.text ("cannot read file: " ++ fault.message) }

/-- What is recorded while a source file is read. -/
def SourceUnit.fileRecords (disk : Disk) (path : Path) : List Record :=
  match disk.readText path with
  | .ok source => Go.parseRecords source path.text
  | .error _ => []

/-- Appends companions to a source file. -/
def appendCompanions (disk : Disk) (path : Path) (companions : List Declaration) :
    Except Fault Disk :=
  if companions.isEmpty then .ok disk
  else do
    let appendix ← spellAppendix companions
    match disk.append path (Text.Utf8.encode appendix) with
    | .ok disk => return disk
    | .error fault =>
        .error
          { cause :=
              .unwritable path.text ("cannot append update structs: " ++ fault.message) }

/-- What is recorded when companions have been appended. -/
def appendRecords (path : Path) (companions : List Declaration) : List Record :=
  if companions.isEmpty then []
  else
    [{ level := .info, logger := "expander", source := path.text
       message := "Appended " ++ toString companions.length ++ " update struct(s)" }]

/-- A source file and the module to write for it. -/
structure Job where
  source : Path
  target : Path
deriving DecidableEq, Repr

namespace Job

/-- How a job ended. -/
inductive Outcome
  | done (conversion : Conversion)
  | failed (fault : Fault)

/-- How far a job is. -/
inductive Stage
  | waiting
  /-- The source has been read. -/
  | read (unit : SourceUnit)
  /-- The source has been extended where that is asked for. -/
  | extended (unit : SourceUnit)
  | finished (outcome : Outcome)

/-- A stage with the records made on the way. -/
structure Progress where
  stage : Stage := .waiting
  records : List Record := []

namespace Progress

/-- The next stage with further records. -/
def next (progress : Progress) (stage : Stage) (records : List Record) : Progress :=
  { stage, records := progress.records ++ records }

/-- The end of a job that failed. -/
def fail (progress : Progress) (fault : Fault) (records : List Record) : Progress :=
  progress.next (.finished (.failed fault)) records

end Progress

/-- Reads the source. -/
def readSource (job : Job) (progress : Progress) (disk : Disk) : Progress × Disk :=
  let records := SourceUnit.fileRecords disk job.source
  match SourceUnit.ofFile disk job.source with
  | .ok unit => (progress.next (.read unit) records, disk)
  | .error fault => (progress.fail fault records, disk)

/-- What is recorded while companions are made. -/
def expansionRecords (settings : Settings) (unit : SourceUnit) : List Record :=
  if settings.expand then unit.expandRecords else []

/-- Extends the source with companions, if the settings ask for it. -/
def extendSource (settings : Settings) (job : Job) (unit : SourceUnit) (progress : Progress)
    (disk : Disk) : Progress × Disk :=
  let expanding := expansionRecords settings unit
  if settings.expand && settings.persist then
    let companions := unit.expand.synthesized
    match appendCompanions disk job.source companions with
    | .ok disk =>
        (progress.next (.extended unit) (expanding ++ appendRecords job.source companions), disk)
    | .error fault => (progress.fail fault expanding, disk)
  else (progress.next (.extended unit) expanding, disk)

/-- The declarations of a unit written out as the settings ask for. -/
def conversion (settings : Settings) (unit : SourceUnit) : Conversion :=
  unit.convertExpanding settings.options settings.expand

/-- What is recorded while the declarations are written out. -/
def conversionRecords (settings : Settings) (unit : SourceUnit) : List Record :=
  if settings.expand then
    unit.expand.unit.convertRecords settings.options unit.expand.errors.length
  else unit.convertRecords settings.options 0

/-- Writes the module. -/
def writeModule (settings : Settings) (job : Job) (unit : SourceUnit) (progress : Progress)
    (disk : Disk) : Progress × Disk :=
  let conversion := conversion settings unit
  let records := conversionRecords settings unit
  match disk.write job.target (Text.Utf8.encode conversion.module) with
  | .ok disk =>
      let wrote : Record :=
        { level := .debug, logger := "generator", source := job.source.text
          message := "Wrote " ++ job.target.text }
      (progress.next (.finished (.done conversion)) (records ++ [wrote]), disk)
  | .error fault =>
      let fault : Fault :=
        { cause := .unwritable job.target.text ("cannot write module: " ++ fault.message) }
      (progress.fail fault records, disk)

/-- The next step of a job; a finished job does nothing more. -/
def step (settings : Settings) (job : Job) (progress : Progress) (disk : Disk) :
    Progress × Disk :=
  match progress.stage with
  | .waiting => job.readSource progress disk
  | .read unit => job.extendSource settings unit progress disk
  | .extended unit => job.writeModule settings unit progress disk
  | .finished _ => (progress, disk)

/-- What a job records before its next step works on the disk. -/
def announcement (settings : Settings) (progress : Progress) : List Record :=
  match progress.stage with
  | .read unit => expansionRecords settings unit
  | .extended unit => conversionRecords settings unit
  | _ => []

/-- A number of steps after which every job is finished. -/
def stepCount : Nat := 3

/-- So many steps of a job. -/
def steps (settings : Settings) (job : Job) : Nat → Progress → Disk → Progress × Disk
  | 0, progress, disk => (progress, disk)
  | count + 1, progress, disk =>
      let (progress, disk) := job.step settings progress disk
      job.steps settings count progress disk

/-- A whole job. -/
def run (settings : Settings) (job : Job) (disk : Disk) : Progress × Disk :=
  job.steps settings stepCount {} disk

/-- Jobs one after the other. -/
def runAll (settings : Settings) : List Job → Disk → List (Job × Progress) × Disk
  | [], disk => ([], disk)
  | job :: rest, disk =>
      let (progress, disk) := job.run settings disk
      let (others, disk) := runAll settings rest disk
      ((job, progress) :: others, disk)

end Job

end StructScript
