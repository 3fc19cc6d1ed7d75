import StructScript.Proofs.JobOrder

/-! # What a run consists of

    A run that comes to its end has made the output folder, has visited the package
    folders in their order, and has written the index of all.  Here the actions are
    taken apart once:

    * `Action.Gives` says that an action gives a value and which session it leaves,
      with one lemma for each way in which actions are put together, and `Action.Ends`
      says which disk it leaves;
    * `Settings.Visit` is what is done in one package folder, as data: everything
      else about the visit follows from the disk on which its jobs start;
    * `Settings.Account` is what the report says about a visit, and `Settings.summary`
      is the report on all of them;
    * `Settings.ends_generate` says that a run comes to its end if and only if there is a
      tour of such visits, and which report it gives then. -/

namespace StructScript

namespace Action

variable {α β : Type}

/-- Whether an action gives a value, with the session that it leaves. -/
def Gives (action : Action α) (session : Session) (value : α) (after : Session) : Prop :=
  action.run.run session = (.ok value, after)

theorem gives_pure {value found : α} {session after : Session} :
    Gives (pure value) session found after ↔ value = found ∧ session = after := by
  constructor
  · intro h
    cases h
    exact ⟨rfl, rfl⟩
  · rintro ⟨rfl, rfl⟩
    rfl

theorem not_gives_throw {trouble : Trouble} {session after : Session} {value : α} :
    ¬ Gives (throw trouble) session value after := by
  intro h
  cases h

/-- Of two actions, one after the other, the second starts where the first ends, unless that
    stops. -/
theorem run_bind (action : Action α) (next : α → Action β) (session : Session) :
    (action >>= next).run.run session
      = match action.run.run session with
        | (.ok found, between) => (next found).run.run between
        | (.error trouble, between) => (.error trouble, between) := by
  rw [ExceptT.run_bind, StateT.run_bind]
  obtain ⟨found, between⟩ := action.run.run session
  cases found with
  | ok value => rfl
  | error trouble => rfl

/-- An action and the next give what the next gives on the session in between. -/
theorem gives_bind {action : Action α} {next : α → Action β} {session after : Session}
    {value : β} :
    Gives (action >>= next) session value after
      ↔ ∃ found between, action.Gives session found between
        ∧ (next found).Gives between value after := by
  unfold Gives
  rw [run_bind]
  constructor
  · intro h
    split at h
    · next found between hfirst => exact ⟨found, between, hfirst, h⟩
    · cases h
  · rintro ⟨found, between, hfirst, hnext⟩
    rw [hfirst]
    exact hnext

theorem gives_modify {revise : Session → Session} {session after : Session} {value : PUnit} :
    Gives (modify revise) session value after ↔ revise session = after := by
  constructor
  · intro h
    cases h
    rfl
  · rintro rfl
    rfl

theorem gives_disk {session after : Session} {disk : Disk} :
    Gives Action.disk session disk after ↔ session.disk = disk ∧ session = after := by
  constructor
  · intro h
    cases h
    exact ⟨rfl, rfl⟩
  · rintro ⟨rfl, rfl⟩
    rfl

theorem gives_note {records : List Record} {session after : Session} {value : Unit} :
    Gives (note records) session value after
      ↔ { session with records := session.records ++ records } = after :=
  gives_modify

/-- An outcome gives its value, and leaves the session as it is. -/
theorem gives_ofExcept {ε : Type} {trouble : ε → Trouble} {outcome : Except ε α} {value : α}
    {session after : Session} :
    Gives (ofExcept trouble outcome) session value after
      ↔ outcome = .ok value ∧ session = after := by
  cases outcome with
  | ok found =>
      refine gives_pure.trans (and_congr_left fun _ => ?_)
      exact ⟨congrArg Except.ok, Except.ok.inj⟩
  | error fault =>
      refine iff_of_false not_gives_throw ?_
      rintro ⟨⟨⟩, -⟩

/-- A change gives nothing but the new disk. -/
theorem gives_change {operation : Disk → Except Disk.Fault Disk} {session after : Session}
    {value : Unit} :
    Gives (change operation) session value after
      ↔ ∃ disk, operation session.disk = .ok disk ∧ { session with disk } = after := by
  unfold change
  simp only [gives_bind, gives_disk, gives_ofExcept, gives_modify]
  constructor
  · rintro ⟨_, _, ⟨rfl, rfl⟩, disk, _, ⟨hdisk, rfl⟩, rfl⟩
    exact ⟨disk, hdisk, rfl⟩
  · rintro ⟨disk, hdisk, rfl⟩
    exact ⟨_, _, ⟨rfl, rfl⟩, disk, _, ⟨hdisk, rfl⟩, rfl⟩

/-- Whether an action gives a value, with the disk that it leaves. -/
def Ends (action : Action α) (session : Session) (value : α) (disk : Disk) : Prop :=
  ∃ after, action.Gives session value after ∧ after.disk = disk

/-- A value ends with the disk as it is. -/
theorem ends_pure {value found : α} {session : Session} {disk : Disk} :
    Ends (pure value) session found disk ↔ value = found ∧ session.disk = disk := by
  constructor
  · rintro ⟨after, h, rfl⟩
    obtain ⟨rfl, rfl⟩ := gives_pure.mp h
    exact ⟨rfl, rfl⟩
  · rintro ⟨rfl, rfl⟩
    exact ⟨session, rfl, rfl⟩

/-- Of two actions, one after the other, the first has to give a value, and the second has to
    end. -/
theorem ends_bind {action : Action α} {next : α → Action β} {session : Session} {value : β}
    {disk : Disk} :
    Ends (action >>= next) session value disk
      ↔ ∃ found between, action.Gives session found between
        ∧ (next found).Ends between value disk := by
  unfold Ends
  simp only [gives_bind]
  constructor
  · rintro ⟨after, ⟨found, between, hfirst, hnext⟩, rfl⟩
    exact ⟨found, between, hfirst, after, hnext, rfl⟩
  · rintro ⟨found, between, hfirst, after, hnext, rfl⟩
    exact ⟨after, ⟨found, between, hfirst, hnext⟩, rfl⟩

/-- Where the first of two actions ends, the second need only end from its disk. -/
theorem Ends.bind {action : Action α} {next : α → Action β} {session : Session} {found : α}
    {value : β} {middle disk : Disk} (h : action.Ends session found middle)
    (hnext : ∀ between : Session, between.disk = middle → (next found).Ends between value disk) :
    Ends (action >>= next) session value disk := by
  obtain ⟨between, hfirst, hmiddle⟩ := h
  exact ends_bind.mpr ⟨found, between, hfirst, hnext between hmiddle⟩

/-- Records make no difference to how an action ends. -/
theorem ends_note_bind {records : List Record} {next : Unit → Action β} {session : Session}
    {value : β} {disk : Disk} :
    Ends (note records >>= next) session value disk
      ↔ (next ()).Ends { session with records := session.records ++ records } value disk := by
  simp only [ends_bind, gives_note]
  constructor
  · rintro ⟨_, _, rfl, h⟩
    exact h
  · intro h
    exact ⟨⟨⟩, _, rfl, h⟩

/-- After a change an action ends as it does on the new disk. -/
theorem ends_change_bind {operation : Disk → Except Disk.Fault Disk} {next : Unit → Action β}
    {session : Session} {value : β} {disk : Disk} :
    Ends (change operation >>= next) session value disk
      ↔ ∃ between, operation session.disk = .ok between
        ∧ (next ()).Ends { session with disk := between } value disk := by
  simp only [ends_bind, gives_change]
  constructor
  · rintro ⟨_, _, ⟨between, hbetween, rfl⟩, h⟩
    exact ⟨between, hbetween, h⟩
  · rintro ⟨between, hbetween, h⟩
    exact ⟨⟨⟩, _, ⟨between, hbetween, rfl⟩, h⟩

/-- After an outcome with a value an action ends as it does with the value. -/
theorem ends_ofExcept_bind {ε : Type} {trouble : ε → Trouble} {outcome : Except ε α}
    {next : α → Action β} {session : Session} {value : β} {disk : Disk} :
    Ends (ofExcept trouble outcome >>= next) session value disk
      ↔ ∃ found, outcome = .ok found ∧ (next found).Ends session value disk := by
  simp only [ends_bind, gives_ofExcept]
  constructor
  · rintro ⟨found, _, ⟨hfound, rfl⟩, h⟩
    exact ⟨found, hfound, h⟩
  · rintro ⟨found, hfound, h⟩
    exact ⟨found, _, ⟨hfound, rfl⟩, h⟩

/-- After a look at the disk an action ends as it does with that disk. -/
theorem ends_disk_bind {next : Disk → Action β} {session : Session} {value : β} {disk : Disk} :
    Ends (Action.disk >>= next) session value disk
      ↔ (next session.disk).Ends session value disk := by
  simp only [ends_bind, gives_disk]
  constructor
  · rintro ⟨_, _, ⟨rfl, rfl⟩, h⟩
    exact h
  · intro h
    exact ⟨_, _, ⟨rfl, rfl⟩, h⟩

/-- A change at the end of an action. -/
theorem ends_change_pure {operation : Disk → Except Disk.Fault Disk} {value found : α}
    {session : Session} {disk : Disk} :
    Ends (change operation >>= fun _ => pure value) session found disk
      ↔ operation session.disk = .ok disk ∧ value = found := by
  simp only [ends_change_bind, ends_pure]
  constructor
  · rintro ⟨_, hdisk, rfl, rfl⟩
    exact ⟨hdisk, rfl⟩
  · rintro ⟨hdisk, rfl⟩
    exact ⟨disk, hdisk, rfl, rfl⟩

end Action

/-- A choice from a list goes through it item by item. -/
theorem filterMap_cons_toList {α β : Type} (choose : α → Option β) (item : α) (items : List α) :
    (item :: items).filterMap choose = (choose item).toList ++ items.filterMap choose := by
  rw [List.filterMap_cons]
  cases choose item with
  | none => rfl
  | some found => rfl

namespace Report

/-- The module that a job wrote. -/
def module? (entry : Job × Job.Outcome) : Option Path :=
  match entry.2 with
  | .done _ => some entry.1.target
  | .failed _ => none

/-- The failure of a job. -/
def failure? (entry : Job × Job.Outcome) : Option Failure :=
  match entry.2 with
  | .done _ => none
  | .failed fault => some { path := entry.1.source, fault }

/-- The modules of a report are those of jobs that are done. -/
theorem mem_modules {outcomes : List (Job × Job.Outcome)} {path : Path} :
    path ∈ outcomes.filterMap module?
      ↔ ∃ job conversion, (job, .done conversion) ∈ outcomes ∧ job.target = path := by
  rw [List.mem_filterMap]
  constructor
  · rintro ⟨⟨job, outcome⟩, houtcome, hpath⟩
    cases outcome with
    | done conversion => exact ⟨job, conversion, houtcome, Option.some.inj hpath⟩
    | failed fault => cases hpath
  · rintro ⟨job, conversion, houtcome, rfl⟩
    exact ⟨_, houtcome, rfl⟩

/-- The failures of a report are those of jobs that failed. -/
theorem mem_failures {outcomes : List (Job × Job.Outcome)} {failure : Failure} :
    failure ∈ outcomes.filterMap failure?
      ↔ ∃ job fault, (job, .failed fault) ∈ outcomes ∧ ⟨job.source, fault⟩ = failure := by
  rw [List.mem_filterMap]
  constructor
  · rintro ⟨⟨job, outcome⟩, houtcome, hfailure⟩
    cases outcome with
    | done conversion => cases hfailure
    | failed fault => exact ⟨job, fault, houtcome, Option.some.inj hfailure⟩
  · rintro ⟨job, fault, houtcome, rfl⟩
    exact ⟨_, houtcome, rfl⟩

/-- Adds the default export of a folder, if it has one. -/
def addDefault? (report : Report) : Option String → Report
  | none => report
  | some name => report.addDefault name

/-- The faults of the declarations that a job did not write out. -/
def errors : Job.Outcome → List Fault
  | .done conversion => conversion.errors
  | .failed _ => []

/-- The outcomes of jobs add their modules, failures and counts to a report. -/
theorem addOutcomes_eq (report : Report) (outcomes : List (Job × Job.Outcome)) :
    outcomes.foldl (fun report entry => report.addOutcome entry.1 entry.2) report
      = { report with
          written := report.written ++ outcomes.filterMap module?
          failures := report.failures ++ outcomes.filterMap failure?
          declarations := report.declarations
            + (outcomes.flatMap fun entry => Index.declared entry.2).length
          declarationErrors := report.declarationErrors
            + (outcomes.flatMap fun entry => errors entry.2).length } := by
  induction outcomes generalizing report with
  | nil => simp
  | cons entry rest ih =>
      obtain ⟨job, outcome⟩ := entry
      rw [List.foldl_cons, ih]
      cases outcome with
      | done conversion =>
          simp [addOutcome, List.filterMap_cons, module?, failure?, Index.declared, errors,
            Nat.add_assoc]
      | failed fault =>
          simp [addOutcome, List.filterMap_cons, module?, failure?, Index.declared, errors]

end Report

/-- A session after work on the disk that made records. -/
def Session.after (session : Session) (disk : Disk) (records : List Record) : Session :=
  { session with disk, records := session.records ++ records }

/-- What is left in two goes is left in one. -/
theorem Session.after_after (session : Session) (disk last : Disk)
    (records more : List Record) :
    (session.after disk records).after last more = session.after last (records ++ more) := by
  unfold Session.after
  rw [List.append_assoc]

namespace Job

/-- A step keeps the records, adds what it announces, and then what it has done. -/
theorem step_records (settings : Settings) (job : Job) (progress : Progress) (disk : Disk) :
    ∃ more, (job.step settings progress disk).1.records
      = progress.records ++ (announcement settings progress ++ more) := by
  unfold step announcement
  cases progress.stage with
  | waiting =>
      simp only [readSource]
      cases SourceUnit.ofFile disk job.source with
      | ok unit => exact ⟨_, rfl⟩
      | error fault => exact ⟨_, rfl⟩
  | read unit =>
      simp only [extendSource]
      split
      · split
        · exact ⟨_, rfl⟩
        · exact ⟨[], by rw [List.append_nil]; rfl⟩
      · exact ⟨[], by rw [List.append_nil]; rfl⟩
  | extended unit =>
      simp only [writeModule]
      split
      · exact ⟨_, rfl⟩
      · exact ⟨[], by rw [List.append_nil]; rfl⟩
  | finished outcome => exact ⟨[], (List.append_nil _).symm⟩

/-- Steps add records to those that are there. -/
theorem steps_records (settings : Settings) (job : Job) (count : Nat) (progress : Progress)
    (disk : Disk) :
    ∃ more, (job.steps settings count progress disk).1.records = progress.records ++ more := by
  induction count generalizing progress disk with
  | zero => exact ⟨[], (List.append_nil _).symm⟩
  | succ count ih =>
      obtain ⟨first, hfirst⟩ := job.step_records settings progress disk
      obtain ⟨others, hothers⟩ := ih (job.step settings progress disk).1
        (job.step settings progress disk).2
      rw [hfirst, List.append_assoc] at hothers
      exact ⟨_, hothers⟩

end Job

namespace Settings

open StructScript.Action

/-! ## Accounts -/

/-- What is known about a package folder when its jobs are finished. -/
structure Account where
  folder : Path
  outcomes : List (Job × Job.Outcome)

/-- The index of all. -/
def rootIndex (settings : Settings) : Path :=
  settings.outputFolder.child Index.fileName

/-- The index of the modules of a package folder. -/
def folderIndex (settings : Settings) (folder : Path) : Path :=
  (settings.outputFolder.child folder.name).child Index.fileName

namespace Account

variable (settings : Settings) (account : Account)

/-- The text of the index. -/
def text : String :=
  Index.folderText (settings.wantedDefault? account.folder) account.outcomes

/-- The modules that were written, and the index. -/
def written : List Path :=
  account.outcomes.filterMap Report.module? ++ [settings.folderIndex account.folder]

def failures : List Failure :=
  account.outcomes.filterMap Report.failure?

/-- The declarations that were written out. -/
def declarations : List String :=
  account.outcomes.flatMap fun entry => Index.declared entry.2

/-- The faults of those that were not. -/
def errors : List StructScript.Fault :=
  account.outcomes.flatMap fun entry => Report.errors entry.2

/-- The default export of the folder, if one of its modules declares it. -/
def default? : Option String :=
  Index.folderDefault? (settings.wantedDefault? account.folder) account.outcomes

end Account

/-- The default exports of folders, with the names of the folders. -/
def folderDefaults (settings : Settings) (accounts : List Account) : List (String × String) :=
  accounts.filterMap fun account => (account.default? settings).map (account.folder.name, ·)

/-- A report that goes on with further folders. -/
def extend (settings : Settings) (report : Report) (accounts : List Account) : Report where
  written := report.written ++ accounts.flatMap (Account.written settings)
  failures := report.failures ++ accounts.flatMap Account.failures
  declarations := report.declarations + (accounts.flatMap Account.declarations).length
  declarationErrors := report.declarationErrors + (accounts.flatMap Account.errors).length
  defaultExports := report.defaultExports ++ accounts.filterMap (Account.default? settings)

/-- The report on folders. -/
def summary (settings : Settings) (accounts : List Account) : Report :=
  (settings.extend {} accounts).addWritten settings.rootIndex

theorem extend_nil (settings : Settings) (report : Report) : settings.extend report [] = report := by
  unfold extend
  simp

/-- The first folder comes first, with its default export if it has one. -/
theorem extend_cons (settings : Settings) (report : Report) (account : Account)
    (accounts : List Account) :
    settings.extend report (account :: accounts)
      = settings.extend
          (((account.outcomes.foldl (fun report entry => report.addOutcome entry.1 entry.2)
            report).addWritten (settings.folderIndex account.folder)).addDefault?
              (account.default? settings))
          accounts := by
  rw [Report.addOutcomes_eq]
  cases hdefault : account.default? settings with
  | none =>
      simp [extend, hdefault, Account.written, Account.failures, Account.declarations,
        Account.errors, Report.addWritten, Report.addDefault?, Nat.add_assoc, -List.length_flatMap]
  | some name =>
      simp [extend, hdefault, Account.written, Account.failures, Account.declarations,
        Account.errors, Report.addWritten, Report.addDefault?, Report.addDefault,
        Nat.add_assoc, -List.length_flatMap]

/-- A summary counts what the accounts tell, and has the index of all at its end. -/
theorem summary_eq (settings : Settings) (accounts : List Account) :
    settings.summary accounts
      = { written := accounts.flatMap (Account.written settings) ++ [settings.rootIndex]
          failures := accounts.flatMap Account.failures
          declarations := (accounts.flatMap Account.declarations).length
          declarationErrors := (accounts.flatMap Account.errors).length
          defaultExports := accounts.filterMap (Account.default? settings) } := by
  simp [summary, extend, Report.addWritten]

/-- The default exports are those of the folders, in order. -/
theorem folderDefaults_cons (settings : Settings) (account : Account) (accounts : List Account) :
    settings.folderDefaults (account :: accounts)
      = ((account.default? settings).map (account.folder.name, ·)).toList
        ++ settings.folderDefaults accounts :=
  filterMap_cons_toList _ account accounts

/-! ## Visits -/

/-- A package folder, with the disk on which its jobs start. -/
structure Visit where
  folder : Path
  ready : Disk

namespace Visit

variable (settings : Settings) (visit : Visit)

/-- The folder of the modules. -/
def target : Path :=
  settings.outputFolder.child visit.folder.name

def jobs : List Job :=
  settings.folderJobs visit.ready visit.folder (visit.target settings)

/-- The jobs at their end, and the disk that they leave. -/
def result : List (Job × Job.Progress) × Disk :=
  Job.runAll settings (visit.jobs settings) visit.ready

def outcomes : List (Job × Job.Outcome) :=
  Settings.outcomes (visit.result settings).1

/-- The account of a visit. -/
def account : Account :=
  ⟨visit.folder, visit.outcomes settings⟩

/-- Whether a visit takes one disk to another. -/
structure Leads (before after : Disk) : Prop where
  ready : before.ensureFolders (visit.target settings) = .ok visit.ready
  surveyed : visit.ready.survey visit.folder = .ok ()
  index : (visit.result settings).2.write (settings.folderIndex visit.folder)
    (Text.Utf8.encode ((visit.account settings).text settings)) = .ok after

end Visit

/-- Whether visits, one after the other, take one disk to another. -/
def Tour (settings : Settings) : Disk → List Visit → Disk → Prop
  | before, [], after => before = after
  | before, visit :: rest, after =>
      ∃ between, visit.Leads settings before between ∧ settings.Tour between rest after

/-- A tour goes through visits part by part. -/
theorem tour_append {settings : Settings} {before after : Disk} {first second : List Visit} :
    settings.Tour before (first ++ second) after
      ↔ ∃ between, settings.Tour before first between ∧ settings.Tour between second after := by
  induction first generalizing before with
  | nil => simp [Tour]
  | cons visit rest ih =>
      simp only [List.cons_append, Tour, ih]
      constructor
      · rintro ⟨next, hvisit, between, hrest, hsecond⟩
        exact ⟨between, ⟨next, hvisit, hrest⟩, hsecond⟩
      · rintro ⟨between, ⟨next, hvisit, hrest⟩, hsecond⟩
        exact ⟨next, hvisit, between, hrest, hsecond⟩

/-! ## Jobs with their records -/

theorem kept_log (records : List Record) : Manner.kept.log records = note records :=
  rfl

/-- A step of a job leaves its progress, with the records that it made. -/
theorem run_stepJob (settings : Settings) (job : Job) (progress : Job.Progress)
    (session : Session) :
    let done := job.step settings progress session.disk
    (settings.stepJob .kept job progress).run.run session
      = (.ok done.1, session.after done.2 (done.1.records.drop progress.records.length)) := by
  intro done
  obtain ⟨more, hmore⟩ := job.step_records settings progress session.disk
  have hrecords : Job.announcement settings progress
      ++ done.1.records.drop (progress.records.length
        + (Job.announcement settings progress).length)
      = done.1.records.drop progress.records.length := by
    rw [show done.1.records = _ from hmore, ← List.drop_drop, List.drop_left, List.drop_left]
  have hgives : Gives (settings.stepJob .kept job progress) session done.1
      (session.after done.2 (done.1.records.drop progress.records.length)) := by
    unfold stepJob
    simp only [kept_log, gives_bind, gives_disk, gives_modify, gives_note, gives_pure]
    refine ⟨⟨⟩, _, rfl, _, _, ⟨rfl, rfl⟩, ⟨⟩, _, rfl, ⟨⟩, _, rfl, rfl, ?_⟩
    rw [← hrecords, Session.after, ← List.append_assoc]
  exact hgives

/-- So do more steps. -/
theorem run_stepsJob (settings : Settings) (job : Job) (count : Nat) (progress : Job.Progress)
    (session : Session) :
    let done := job.steps settings count progress session.disk
    (settings.stepsJob .kept job count progress).run.run session
      = (.ok done.1, session.after done.2 (done.1.records.drop progress.records.length)) := by
  induction count generalizing progress session with
  | zero =>
      show (Except.ok progress, session)
        = (Except.ok progress, session.after session.disk (progress.records.drop _))
      rw [List.drop_length, Session.after, List.append_nil]
  | succ count ih =>
      intro done
      obtain ⟨first, hfirst⟩ := job.step_records settings progress session.disk
      obtain ⟨others, hothers⟩ := job.steps_records settings count
        (job.step settings progress session.disk).1 (job.step settings progress session.disk).2
      have hdone : done.1.records = _ := hothers
      rw [stepsJob, run_bind, run_stepJob]
      simp only [ih]
      show (Except.ok done.1, Session.after _ done.2 (done.1.records.drop _)) = _
      rw [hdone, List.drop_left, hfirst, List.append_assoc, List.drop_left, List.drop_left,
        Session.after_after]

/-- Jobs leave their outcomes, with the records that they made one after the other. -/
theorem run_runJobs (settings : Settings) (jobs : List Job) (session : Session) :
    let done := Job.runAll settings jobs session.disk
    (settings.runJobs .kept jobs).run.run session
      = (.ok (outcomes done.1),
          session.after done.2 (done.1.flatMap fun entry => entry.2.records)) := by
  induction jobs generalizing session with
  | nil =>
      show (Except.ok [], session) = (_, session.after _ [])
      rw [Session.after, List.append_nil]
      rfl
  | cons job rest ih =>
      intro done
      rw [runJobs, show Manner.kept.allow job.source = pure () from rfl, pure_bind, run_bind,
        run_stepsJob]
      simp only
      rw [run_bind, ih]
      show (Except.ok (outcomes [_] ++ outcomes _), Session.after _ done.2 _) = _
      rw [Session.after_after]
      exact congrArg (fun found => (Except.ok found, _)) List.filterMap_append.symm

/-! ## Runs -/

/-- After jobs an action ends as it does with their outcomes on the disk that they leave. -/
theorem ends_runJobs_bind {α : Type} {settings : Settings} {jobs : List Job}
    {next : List (Job × Job.Outcome) → Action α} {session : Session} {value : α} {disk : Disk} :
    Ends (settings.runJobs .kept jobs >>= next) session value disk
      ↔ (next (outcomes (Job.runAll settings jobs session.disk).1)).Ends
        (session.after (Job.runAll settings jobs session.disk).2
          ((Job.runAll settings jobs session.disk).1.flatMap fun entry => entry.2.records))
        value disk := by
  rw [ends_bind]
  unfold Gives
  rw [run_runJobs]
  constructor
  · rintro ⟨_, _, hfirst, h⟩
    cases hfirst
    exact h
  · intro h
    exact ⟨_, _, rfl, h⟩

/-- Generating a folder is a visit, which the report is extended by. -/
theorem ends_generateFolder {settings : Settings} {folder : Path} {report after : Report}
    {found : Option String} {session : Session} {disk : Disk} :
    Ends (settings.generateFolder .kept folder report) session (after, found) disk
      ↔ ∃ visit : Visit, visit.folder = folder ∧ visit.Leads settings session.disk disk
        ∧ ((visit.outcomes settings).foldl (fun report entry => report.addOutcome entry.1 entry.2)
            report).addWritten (settings.folderIndex visit.folder) = after
        ∧ (visit.account settings).default? settings = found := by
  unfold generateFolder
  simp only [kept_log, ends_change_bind, ends_disk_bind, ends_ofExcept_bind, ends_note_bind,
    ends_runJobs_bind]
  constructor
  · rintro ⟨ready, hready, _, hsurveyed, h⟩
    let visit : Visit := ⟨folder, ready⟩
    -- a default export that is missed is noted, which makes no difference to the disk
    have hlast : (visit.result settings).2.write (settings.folderIndex folder)
          (Text.Utf8.encode ((visit.account settings).text settings)) = .ok disk
        ∧ (((visit.outcomes settings).foldl
            (fun report entry => report.addOutcome entry.1 entry.2) report).addWritten
              (settings.folderIndex folder), (visit.account settings).default? settings)
          = (after, found) := by
      split at h
      · exact ends_change_pure.mp (ends_note_bind.mp h)
      · exact ends_change_pure.mp h
    obtain ⟨hindex, hvalue⟩ := hlast
    obtain ⟨hreport, hdefault⟩ := Prod.mk.inj hvalue
    exact ⟨visit, rfl, ⟨hready, hsurveyed, hindex⟩, hreport, hdefault⟩
  · rintro ⟨⟨_, ready⟩, rfl, hleads, rfl, rfl⟩
    refine ⟨ready, hleads.ready, (), hleads.surveyed, ?_⟩
    split
    · exact ends_note_bind.mpr (ends_change_pure.mpr ⟨hleads.index, rfl⟩)
    · exact ends_change_pure.mpr ⟨hleads.index, rfl⟩

/-- What comes behind a folder, with or without a default export to add. -/
theorem ends_with_default {settings : Settings} {folder : Path} {rest : List Path}
    {found : Option String} {report after : Report} {defaults : List (String × String)}
    {session : Session} {disk : Disk} :
    Ends
        (match found with
        | none => settings.generateFolders .kept rest report
        | some name => do
            let (report, others) ← settings.generateFolders .kept rest (report.addDefault name)
            return (report, (folder.name, name) :: others))
        session (after, defaults) disk
      ↔ ∃ others, Ends (settings.generateFolders .kept rest (report.addDefault? found)) session
          (after, others) disk
        ∧ (found.map (folder.name, ·)).toList ++ others = defaults := by
  cases found with
  | none =>
      constructor
      · intro h
        exact ⟨defaults, h, rfl⟩
      · rintro ⟨_, h, rfl⟩
        exact h
  | some name =>
      simp only [ends_bind, ends_pure]
      constructor
      · rintro ⟨⟨extended, others⟩, between, hothers, hvalue, rfl⟩
        obtain ⟨rfl, rfl⟩ := Prod.mk.inj hvalue
        exact ⟨others, ⟨between, hothers, rfl⟩, rfl⟩
      · rintro ⟨others, ⟨between, hothers, rfl⟩, rfl⟩
        exact ⟨(after, others), between, hothers, rfl, rfl⟩

/-- Generating folders is a tour, which the report and the default exports tell of. -/
theorem ends_generateFolders {settings : Settings} {folders : List Path} {report after : Report}
    {defaults : List (String × String)} {session : Session} {disk : Disk} :
    Ends (settings.generateFolders .kept folders report) session (after, defaults) disk
      ↔ ∃ visits : List Visit, visits.map Visit.folder = folders
        ∧ settings.Tour session.disk visits disk
        ∧ settings.extend report (visits.map (Visit.account settings)) = after
        ∧ settings.folderDefaults (visits.map (Visit.account settings)) = defaults := by
  induction folders generalizing report session after defaults with
  | nil =>
      rw [generateFolders, ends_pure]
      constructor
      · rintro ⟨hvalue, rfl⟩
        obtain ⟨rfl, rfl⟩ := Prod.mk.inj hvalue
        exact ⟨[], rfl, rfl, extend_nil settings report, rfl⟩
      · rintro ⟨visits, hfolders, htour, rfl, rfl⟩
        cases List.map_eq_nil_iff.mp hfolders
        exact ⟨congrArg (·, []) (extend_nil settings report).symm, htour⟩
  | cons folder rest ih =>
      rw [generateFolders]
      constructor
      · intro h
        obtain ⟨⟨extended, found⟩, between, hfirst, hrest⟩ := ends_bind.mp h
        obtain ⟨visit, rfl, hleads, rfl, rfl⟩ := ends_generateFolder.mp ⟨between, hfirst, rfl⟩
        obtain ⟨others, hothers, rfl⟩ := ends_with_default.mp hrest
        obtain ⟨more, hmore, htour, rfl, rfl⟩ := ih.mp hothers
        exact ⟨visit :: more, congrArg (visit.folder :: ·) hmore, ⟨between.disk, hleads, htour⟩,
          extend_cons settings report (visit.account settings) _,
          folderDefaults_cons settings (visit.account settings) _⟩
      · rintro ⟨visits, hfolders, htour, rfl, rfl⟩
        obtain ⟨visit, more, rfl, rfl, hmore⟩ := List.map_eq_cons_iff.mp hfolders
        obtain ⟨middle, hleads, hothers⟩ := htour
        rw [List.map_cons, extend_cons, folderDefaults_cons]
        refine Ends.bind (ends_generateFolder.mpr ⟨visit, rfl, hleads, rfl, rfl⟩) ?_
        rintro between rfl
        exact ends_with_default.mpr ⟨_, ih.mpr ⟨more, hmore, hothers, rfl, rfl⟩, rfl⟩

/-- A run makes the output folder, visits the package folders that are there then,
    and writes the index of all. -/
theorem ends_generate {settings : Settings} {session : Session} {report : Report} {disk : Disk} :
    Ends settings.generate session report disk
      ↔ ∃ (start : Disk) (visits : List Visit) (last : Disk),
        session.disk.look settings.inputFolder = .ok (some .folder)
        ∧ session.disk.ensureFolders settings.outputFolder = .ok start
        ∧ start.survey settings.inputFolder = .ok ()
        ∧ visits.map Visit.folder = settings.packageFolders start
        ∧ settings.Tour start visits last
        ∧ last.write settings.rootIndex (Text.Utf8.encode (Index.rootText
          (settings.folderDefaults (visits.map (Visit.account settings))))) = .ok disk
        ∧ settings.summary (visits.map (Visit.account settings)) = report := by
  unfold generate generateWith
  simp only [kept_log]
  rw [ends_disk_bind, ends_ofExcept_bind]
  constructor
  · rintro ⟨entry, hentry, h⟩
    split at h
    · obtain ⟨_, _, hthrow, -⟩ := ends_bind.mp h
      exact absurd hthrow not_gives_throw
    · next hfolder =>
        simp only [ends_note_bind, ends_change_bind, ends_disk_bind, ends_ofExcept_bind] at h
        obtain ⟨start, hstart, _, hsurveyed, h⟩ := h
        obtain ⟨⟨extended, defaults⟩, between, htoured, h⟩ := ends_bind.mp h
        obtain ⟨visits, hfolders, htour, rfl, rfl⟩ :=
          ends_generateFolders.mp ⟨between, htoured, rfl⟩
        obtain ⟨last, hlast, h⟩ := ends_change_bind.mp h
        rw [ends_note_bind] at h
        obtain ⟨hreport, rfl⟩ := ends_pure.mp h
        rw [Decidable.not_not.mp hfolder] at hentry
        exact ⟨start, visits, between.disk, hentry, hstart, hsurveyed, hfolders, htour, hlast,
          hreport⟩
  · rintro ⟨start, visits, last, hentry, hstart, hsurveyed, hfolders, htour, hlast, rfl⟩
    refine ⟨some .folder, hentry, ?_⟩
    rw [if_neg (Decidable.not_not.mpr rfl)]
    simp only [ends_note_bind, ends_change_bind, ends_disk_bind, ends_ofExcept_bind]
    refine ⟨start, hstart, (), hsurveyed, Ends.bind
      (ends_generateFolders.mpr ⟨visits, hfolders, htour, rfl, rfl⟩) ?_⟩
    rintro between rfl
    rw [ends_change_bind]
    refine ⟨disk, hlast, ?_⟩
    rw [ends_note_bind]
    exact ends_pure.mpr ⟨rfl, rfl⟩

/-- What a run that came to its end has written, and what failed. -/
theorem exists_visits {settings : Settings} {session final : Session} {report : Report}
    (h : Gives settings.generate session report final) :
    ∃ (start : Disk) (visits : List Visit) (last : Disk) (text : List UInt8),
      session.disk.isFolder settings.inputFolder = true
      ∧ session.disk.ensureFolders settings.outputFolder = .ok start
      ∧ visits.map Visit.folder = settings.packageFolders start
      ∧ settings.Tour start visits last
      ∧ last.write settings.rootIndex text = .ok final.disk
      ∧ report = settings.summary (visits.map (Visit.account settings)) := by
  obtain ⟨start, visits, last, hentry, hstart, -, hfolders, htour, hfinal, rfl⟩ :=
    ends_generate.mp ⟨final, h, rfl⟩
  have hinput : session.disk.isFolder settings.inputFolder = true := by
    rw [Disk.isFolder, (Disk.look_eq_some.mp hentry).2, beq_self_eq_true]
  exact ⟨start, visits, last, _, hinput, hstart, hfolders, htour, hfinal, rfl⟩

end Settings

end StructScript
