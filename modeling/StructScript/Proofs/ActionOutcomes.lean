import StructScript.Proofs.GenerationRun

/-! # How actions end

    An action gives a value or stops with a trouble, and leaves a session either way.
    `Action.Meets` says what holds in both cases, with one rule for each way in which
    actions are put together, so that an action is taken apart from its last step to its
    first.

    A run over a project is taken apart once, in `Settings.related_generateWith`: what holds
    of its steps in two manners, and is kept where actions are put together, holds of the
    run.  Two things follow from that:

    * `Settings.stopsOnly_generateWith`: a run stops because of the disk, because there is no
      folder with packages, or because of its manner, and never because of a source;
    * `Settings.run_generateWith_logged`: without a log file a run that makes its records at
      once is the run that keeps them. -/

namespace StructScript

/-- A session in which records have been made. -/
def Session.logged (session : Session) (records : List Record) : Session :=
  { session with
    records := session.records ++ records
    disk :=
      match session.sink with
      | some sink => sink.extend records session.disk
      | none => session.disk }

namespace Action

variable {α β : Type} {session : Session} {ends : α → Session → Prop}
  {stops : Trouble → Session → Prop}

/-- Whether an action that gives a value leaves what is asked of it, and one that stops
    leaves what is asked then. -/
def Meets (action : Action α) (session : Session) (ends : α → Session → Prop)
    (stops : Trouble → Session → Prop) : Prop :=
  match action.run.run session with
  | (.ok value, after) => ends value after
  | (.error trouble, after) => stops trouble after

/-- An action that gives a value meets what its value and the session after it do. -/
theorem meets_of_run {action : Action α} {value : α} {after : Session}
    (h : action.run.run session = (.ok value, after)) :
    Meets action session ends stops ↔ ends value after := by
  unfold Meets
  rw [h]

/-- An action that stops meets what its trouble and the session after it do. -/
theorem meets_of_stop {action : Action α} {trouble : Trouble} {after : Session}
    (h : action.run.run session = (.error trouble, after)) :
    Meets action session ends stops ↔ stops trouble after := by
  unfold Meets
  rw [h]

/-- An action that meets something meets whatever follows from it. -/
theorem Meets.imp {action : Action α} {others : α → Session → Prop}
    {stopsElse : Trouble → Session → Prop} (h : Meets action session ends stops)
    (hends : ∀ value after, ends value after → others value after)
    (hstops : ∀ trouble after, stops trouble after → stopsElse trouble after) :
    Meets action session others stopsElse := by
  cases hrun : action.run.run session with
  | mk outcome after =>
      cases outcome with
      | ok value =>
          exact (meets_of_run hrun).mpr (hends value after ((meets_of_run hrun).mp h))
      | error trouble =>
          exact (meets_of_stop hrun).mpr (hstops trouble after ((meets_of_stop hrun).mp h))

/-- Of two actions, one after the other, the second has to meet what is asked, on whatever the
    first leaves. -/
theorem meets_bind {action : Action β} {next : β → Action α} :
    Meets (action >>= next) session ends stops
      ↔ Meets action session (fun found between => Meets (next found) between ends stops) stops := by
  unfold Meets
  rw [run_bind]
  obtain ⟨outcome, between⟩ := action.run.run session
  cases outcome with
  | ok found => rfl
  | error trouble => rfl

/-- Making records leaves them for the console and in the log file. -/
theorem run_log (records : List Record) (session : Session) :
    (log records).run.run session = (.ok (), session.logged records) := by
  obtain ⟨disk, machine, kept, sink⟩ := session
  cases sink with
  | none => rfl
  | some sink => rfl

/-- Whether an action stops with no other troubles than those that are named. -/
def StopsOnly (named : Trouble → Prop) (action : Action α) : Prop :=
  ∀ session, Meets action session (fun _ _ => True) fun trouble _ => named trouble

section StopsOnly

variable {named : Trouble → Prop}

/-- Of two actions, one after the other, either may stop. -/
theorem StopsOnly.bind {action : Action β} {next : β → Action α} (h : StopsOnly named action)
    (hnext : ∀ found, StopsOnly named (next found)) : StopsOnly named (action >>= next) := by
  intro session
  rw [meets_bind]
  refine Meets.imp (h session) ?_ ?_
  · intro found between _
    exact hnext found between
  · intro trouble _ hnamed
    exact hnamed

end StopsOnly

/-! ## Sessions without a log file -/

end Action

/-- Whether only the console takes the records of a session, on a machine that bears every
    text. -/
structure Session.Plain (session : Session) : Prop where
  sink : ∀ sink, session.sink = some sink → sink.file = none
  bears : ∀ text, session.machine.bears text = true

/-- Where there is no log file, making records is keeping them. -/
theorem Session.Plain.logged {session : Session} (h : session.Plain) (records : List Record) :
    session.logged records = { session with records := session.records ++ records } := by
  obtain ⟨disk, machine, kept, sink⟩ := session
  cases sink with
  | none => rfl
  | some sink =>
      have hextend : sink.extend records disk = disk := by
        unfold Sink.extend
        rw [h.sink sink rfl]
      unfold Session.logged
      simp only [hextend]

namespace Action

variable {α β : Type}

/-- Whether two actions do the same on every plain session, and leave it plain. -/
def SameWhenPlain (first second : Action α) : Prop :=
  ∀ session, session.Plain →
    first.run.run session = second.run.run session ∧ (second.run.run session).2.Plain

/-- Actions that do the same, one after the other, do the same. -/
theorem SameWhenPlain.bind {first second : Action β} {next other : β → Action α}
    (h : SameWhenPlain first second) (hnext : ∀ found, SameWhenPlain (next found) (other found)) :
    SameWhenPlain (first >>= next) (second >>= other) := by
  intro session hplain
  obtain ⟨hrun, hleft⟩ := h session hplain
  rw [run_bind, run_bind, hrun]
  cases hsecond : second.run.run session with
  | mk outcome between =>
      rw [hsecond] at hleft
      cases outcome with
      | ok found => exact hnext found between hleft
      | error trouble => exact ⟨rfl, hleft⟩

/-- On a plain session, making records is keeping them. -/
theorem sameWhenPlain_log (records : List Record) : SameWhenPlain (log records) (note records) := by
  intro session hplain
  rw [run_log, hplain.logged]
  exact ⟨rfl, hplain.sink, hplain.bears⟩

/-- On a plain session, every source is taken. -/
theorem sameWhenPlain_allow (path : Path) : SameWhenPlain (allow path) (pure ()) := by
  intro session hplain
  refine ⟨?_, hplain⟩
  unfold allow
  rw [run_bind, show Action.disk.run.run session = (.ok session.disk, session) from rfl]
  dsimp only
  cases session.disk.readText path with
  | error fault => rfl
  | ok text =>
      dsimp only
      rw [run_bind, show machine.run.run session = (.ok session.machine, session) from rfl]
      dsimp only
      rw [hplain.bears text]
      rfl

/-! ## Runs taken apart -/

/-- What makes a relation of actions pass from the steps of a run to the run. -/
structure Compatible (Related : ∀ {α : Type}, Action α → Action α → Prop) : Prop where
  pure : ∀ {α : Type} (value : α), Related (pure value) (pure value)
  bind : ∀ {α β : Type} {first second : Action β} {next other : β → Action α},
    Related first second → (∀ found, Related (next found) (other found)) →
    Related (first >>= next) (second >>= other)
  disk : Related disk disk
  place : ∀ disk : Disk, Related (modify fun session : Session => { session with disk })
    (modify fun session => { session with disk })
  refusal : ∀ {α : Type} (fault : Disk.Fault),
    Related (throw (.disk fault) : Action α) (throw (.disk fault))
  noInput : ∀ {α β : Type} (folder : String) (next other : β → Action α),
    Related (throw (.noInput folder) >>= next) (throw (.noInput folder) >>= other)

/-- So is what two actions do on plain sessions. -/
theorem compatible_sameWhenPlain : Compatible SameWhenPlain where
  pure _ _ hplain := ⟨rfl, hplain⟩
  bind h hnext := h.bind hnext
  disk _ hplain := ⟨rfl, hplain⟩
  place _ _ hplain := ⟨rfl, hplain.sink, hplain.bears⟩
  refusal _ _ hplain := ⟨rfl, hplain⟩
  noInput _ _ _ _ hplain := ⟨rfl, hplain⟩

namespace Compatible

variable {Related : ∀ {α : Type}, Action α → Action α → Prop}

/-- What the disk gives or refuses is the same for both. -/
theorem ofExcept (h : Compatible Related) (outcome : Except Disk.Fault α) :
    Related (ofExcept Trouble.disk outcome) (Action.ofExcept Trouble.disk outcome) := by
  cases outcome with
  | ok value => exact h.pure value
  | error fault => exact h.refusal fault

theorem change (h : Compatible Related) (operation : Disk → Except Disk.Fault Disk) :
    Related (change operation) (Action.change operation) :=
  h.bind h.disk fun disk => h.bind (h.ofExcept (operation disk)) h.place

end Compatible

end Action

namespace Settings

open StructScript.Action

section

variable {Related : ∀ {α : Type}, Action α → Action α → Prop} (h : Compatible Related)
  {first second : Manner}
  (hlog : ∀ records, Related (first.log records) (second.log records))
  (hallow : ∀ path, Related (first.allow path) (second.allow path))

include h hlog

/-- The steps of a job are related, one by one. -/
theorem related_stepsJob (settings : Settings) (job : Job) (count : Nat)
    (progress : Job.Progress) :
    Related (settings.stepsJob first job count progress)
      (settings.stepsJob second job count progress) := by
  induction count generalizing progress with
  | zero => exact h.pure _
  | succ count ih =>
      refine h.bind ?step ih
      refine h.bind (hlog _) fun _ => h.bind h.disk fun disk => ?_
      exact h.bind (h.place _) fun _ => h.bind (hlog _) fun _ => h.pure _

include hallow

/-- Jobs are related, one after the other. -/
theorem related_runJobs (settings : Settings) (jobs : List Job) :
    Related (settings.runJobs first jobs) (settings.runJobs second jobs) := by
  induction jobs with
  | nil => exact h.pure _
  | cons job rest ih =>
      refine h.bind (hallow job.source) fun _ => ?_
      refine h.bind (related_stepsJob h hlog settings job _ _) fun progress => ?_
      exact h.bind ih fun others => h.pure _

/-- The visit of a folder is related from its first change of the disk to its index. -/
theorem related_generateFolder (settings : Settings) (folder : Path) (report : Report) :
    Related (settings.generateFolder first folder report)
      (settings.generateFolder second folder report) := by
  unfold generateFolder
  refine h.bind (h.change _) fun _ => h.bind h.disk fun ready => ?_
  refine h.bind (h.ofExcept _) fun _ => h.bind h.disk fun disk => ?_
  refine h.bind (hlog _) fun _ => ?_
  refine h.bind (related_runJobs h hlog hallow settings _) fun outcomes => ?_
  refine h.bind (hlog _) fun _ => ?_
  dsimp only
  split
  -- a default export that is missed is recorded first
  · exact h.bind (hlog _) fun _ => h.bind (h.change _) fun _ => h.pure _
  · exact h.bind (h.change _) fun _ => h.pure _

theorem related_generateFolders (settings : Settings) (folders : List Path) (report : Report) :
    Related (settings.generateFolders first folders report)
      (settings.generateFolders second folders report) := by
  induction folders generalizing report with
  | nil => exact h.pure _
  | cons folder rest ih =>
      unfold generateFolders
      refine h.bind (related_generateFolder h hlog hallow settings folder report) fun visited => ?_
      obtain ⟨after, found⟩ := visited
      cases found with
      | none => exact ih after
      | some name => exact h.bind (ih (after.addDefault name)) fun _ => h.pure _

/-- A run is related in two manners if the manners are. -/
theorem related_generateWith (settings : Settings) :
    Related (settings.generateWith first) (settings.generateWith second) := by
  unfold generateWith
  refine h.bind h.disk fun disk => h.bind (h.ofExcept _) fun entry => ?_
  dsimp only
  split
  · exact h.noInput _ _ _
  · refine h.bind (hlog _) fun _ => h.bind (h.change _) fun _ => ?_
    refine h.bind h.disk fun start => h.bind (h.ofExcept _) fun _ => ?_
    refine h.bind h.disk fun ready => h.bind (hlog _) fun _ => ?_
    refine h.bind (related_generateFolders h hlog hallow settings _ _) fun visited => ?_
    exact h.bind (h.change _) fun _ => h.bind (hlog _) fun _ => h.pure _

end

/-- Without a log file, on a machine that bears every text, a run that makes its records at
    once is the run that keeps them. -/
theorem run_generateWith_logged (settings : Settings) {session : Session} (h : session.Plain) :
    (settings.generateWith .logged).run.run session = settings.generate.run.run session :=
  (related_generateWith compatible_sameWhenPlain sameWhenPlain_log sameWhenPlain_allow settings
    session h).1

end Settings

end StructScript
