import StructScript.Generation
import StructScript.Proofs.Selection

/-! # The order of jobs does not matter

    The jobs of a folder may take their steps in any order, as they do when
    several workers share them.  The result is that of one job after the other:

    * `Job.step_local` says that a step is decided by what the job sees through the
      paths of its source and its module, and makes at most one edit there;
    * `Job.sees_of_edits` says that no other job sees that edit, because the names
      of sources and modules are all different;
    * so steps of two jobs commute (`Pool.turn_comm`), and every schedule may be
      reordered (`Pool.run_perm`);
    * a schedule that finishes all jobs and the schedule of one job after the other
      are, put end to end in either order, reorderings of each other, and what comes
      second does nothing any more. -/

namespace StructScript

/-- The unit of a file is decided by its content. -/
theorem SourceUnit.ofFile_congr {first second : Disk} {path : Path}
    (h : first.read path = second.read path) : ofFile first path = ofFile second path := by
  unfold ofFile Disk.readText
  rw [h]

/-- What is recorded about a source depends on what is read. -/
theorem SourceUnit.fileRecords_congr {first second : Disk} {path : Path}
    (h : first.read path = second.read path) :
    fileRecords first path = fileRecords second path := by
  unfold fileRecords Disk.readText
  rw [h]

namespace Job

/-! ## What a step does -/

/-- Whether an edit is one of a job's own files. -/
def Edits (job : Job) (disk : Disk) (edit : Disk.Edit) : Prop :=
  ∃ path revise, (path = job.source ∨ path = job.target) ∧ disk.edit path revise = .ok edit

/-- Whether two disks look the same to a job. -/
structure Sees (job : Job) (first second : Disk) : Prop where
  source : Disk.SameAt job.source first second
  target : Disk.SameAt job.target first second

/-- A step that is the same on every disk that looks the same to the job. -/
def Local (job : Job) (disk : Disk) (act : Disk → Progress × Disk) : Prop :=
  ∃ next edit?, (∀ edit ∈ edit?, job.Edits disk edit)
    ∧ ∀ other, job.Sees disk other → act other = (next, other.afterEdit edit?)

theorem local_of_unchanged {job : Job} {disk : Disk} {act : Disk → Progress × Disk}
    (next : Progress) (h : ∀ other, job.Sees disk other → act other = (next, other)) :
    job.Local disk act :=
  ⟨next, none, by simp, h⟩

/-- Reading a source is local. -/
theorem readSource_local (job : Job) (progress : Progress) (disk : Disk) :
    job.Local disk (job.readSource progress) := by
  refine local_of_unchanged (job.readSource progress disk).1 fun other hsees => ?_
  unfold readSource
  rw [← SourceUnit.ofFile_congr hsees.source.read, ← SourceUnit.fileRecords_congr hsees.source.read]
  cases SourceUnit.ofFile disk job.source with
  | ok unit => rfl
  | error fault => rfl

/-- An edit of an own file, with what follows on it, is local. -/
theorem local_of_edit {job : Job} {disk : Disk} {path : Path}
    (hpath : path = job.source ∨ path = job.target) (revise : List UInt8 → List UInt8)
    {act : Disk → Progress × Disk} {done : Progress} {failed : Disk.Fault → Progress}
    (hact : ∀ other, act other
      = match other.edit path revise with
        | .ok edit => (done, other.edited edit)
        | .error fault => (failed fault, other)) :
    job.Local disk act := by
  have hsame : ∀ other, job.Sees disk other → disk.edit path revise = other.edit path revise := by
    intro other hsees
    rcases hpath with rfl | rfl
    · exact hsees.source.edit revise
    · exact hsees.target.edit revise
  cases hedit : disk.edit path revise with
  | error fault =>
      refine local_of_unchanged (failed fault) fun other hsees => ?_
      rw [hact, ← hsame other hsees, hedit]
  | ok edit =>
      refine ⟨done, some edit, ?_, fun other hsees => ?_⟩
      · rintro found hfound
        cases hfound
        exact ⟨path, revise, hpath, hedit⟩
      · rw [hact, ← hsame other hsees, hedit]
        rfl

/-- Appending companions is an edit of the source, if there are any and they can be
    written. -/
theorem appendCompanions_eq (disk : Disk) (path : Path) (companions : List Declaration) :
    appendCompanions disk path companions
      = if companions.isEmpty then .ok disk
        else
          match spellAppendix companions with
          | .error fault => .error fault
          | .ok appendix =>
              ((disk.edit path (· ++ Text.Utf8.encode appendix)).map disk.edited).mapError
                fun fault =>
                  { cause := .unwritable path.text
                      ("cannot append update structs: " ++ fault.message) } := by
  unfold appendCompanions
  split
  · rfl
  · cases spellAppendix companions with
    | error fault => rfl
    | ok appendix =>
        simp only [bind, Except.bind, Disk.append_eq_edit]
        cases disk.edit path (· ++ Text.Utf8.encode appendix) with
        | error fault => rfl
        | ok edit => rfl

/-- Extending the source is local. -/
theorem extendSource_local (settings : Settings) (job : Job) (unit : SourceUnit)
    (progress : Progress) (disk : Disk) :
    job.Local disk (job.extendSource settings unit progress) := by
  unfold extendSource
  simp only [appendCompanions_eq]
  by_cases hpersist : (settings.expand && settings.persist) = true
  · simp only [if_pos hpersist]
    by_cases hnone : unit.expand.synthesized.isEmpty = true
    · simp only [if_pos hnone]
      exact local_of_unchanged _ fun _ _ => rfl
    · simp only [if_neg hnone]
      cases spellAppendix unit.expand.synthesized with
      | error fault => exact local_of_unchanged _ fun _ _ => rfl
      | ok appendix =>
          simp only
          apply local_of_edit (Or.inl rfl) (· ++ Text.Utf8.encode appendix)
          intro other
          cases other.edit job.source (· ++ Text.Utf8.encode appendix) with
          | ok edit => rfl
          | error fault => rfl
  · simp only [if_neg hpersist]
    exact local_of_unchanged _ fun _ _ => rfl

/-- Writing a module is local. -/
theorem writeModule_local (settings : Settings) (job : Job) (unit : SourceUnit)
    (progress : Progress) (disk : Disk) :
    job.Local disk (job.writeModule settings unit progress) := by
  unfold writeModule
  simp only [Disk.write_eq_edit]
  apply local_of_edit (Or.inr rfl) fun _ => Text.Utf8.encode (conversion settings unit).module
  intro other
  cases other.edit job.target fun _ => Text.Utf8.encode (conversion settings unit).module with
  | ok edit => rfl
  | error fault => rfl

/-- A step of a job depends on its own files only, and edits at most one of them. -/
theorem step_local (settings : Settings) (job : Job) (progress : Progress) (disk : Disk) :
    job.Local disk (job.step settings progress) := by
  unfold step
  cases progress.stage with
  | waiting => exact job.readSource_local progress disk
  | read unit => exact extendSource_local settings job unit progress disk
  | extended unit => exact writeModule_local settings job unit progress disk
  | finished outcome => exact local_of_unchanged _ fun _ _ => rfl

/-! ## What other jobs see -/

/-- The job for a stem, which its source and its module have in common. -/
def ofStem (folder target : Path) (stem : String) : Job :=
  { source := folder.child (stem ++ ".go"), target := target.child (stem ++ ".ts") }

theorem go_ne_up (stem : String) : stem ++ ".go" ≠ ".." := by
  intro h
  simpa using congrArg (fun name => name.toList.getLast?) h

theorem ts_ne_up (stem : String) : stem ++ ".ts" ≠ ".." := by
  intro h
  simpa using congrArg (fun name => name.toList.getLast?) h

/-- No source has the name of a module. -/
theorem go_ne_ts (stem other : String) : stem ++ ".go" ≠ other ++ ".ts" := by
  intro h
  simpa using congrArg (fun name => name.toList.getLast?) h

theorem append_ne {stem other : String} (h : stem ≠ other) (ending : String) :
    stem ++ ending ≠ other ++ ending :=
  fun heq => h ((String.append_left_inj ending).mp heq)

/-- Different stems make different jobs. -/
theorem ofStem_ne (folder target : Path) {stem other : String} (h : stem ≠ other) :
    ofStem folder target stem ≠ ofStem folder target other := by
  intro heq
  exact append_ne h ".go" (Path.child_inj.mp (congrArg Job.source heq)).2

/-- Whether the source of a job is there. -/
def Present (job : Job) (disk : Disk) : Prop :=
  disk.isFile job.source = true

section

variable {folder target : Path} {stem other : String} {disk : Disk} {edit : Disk.Edit}

/-- A job does not see the edits of a job with another stem. -/
theorem sees_of_edits (hne : other ≠ stem) (hpresent : (ofStem folder target stem).Present disk)
    (hother : (ofStem folder target other).Present disk)
    (h : (ofStem folder target stem).Edits disk edit) :
    (ofStem folder target other).Sees disk (disk.edited edit) := by
  obtain ⟨path, revise, hpath, hedit⟩ := h
  obtain ⟨place, content, hplace⟩ := Disk.isFile_iff.mp hother
  rcases hpath with rfl | rfl
  · -- the source is there already
    exact ⟨Disk.sameAt_child (go_ne_up _) (go_ne_up _) (append_ne hne _) hedit (Or.inl hpresent),
      Disk.sameAt_child (go_ne_up _) (ts_ne_up _) (go_ne_ts _ _).symm hedit (Or.inl hpresent)⟩
  · -- if one module can be written, the others have a place
    obtain ⟨around, haround, -⟩ := Disk.location_of_edit_child (ts_ne_up _) hedit
    exact ⟨Disk.sameAt_child (ts_ne_up _) (go_ne_up _) (go_ne_ts _ _) hedit
        (Or.inr ⟨place, hplace.locate⟩),
      Disk.sameAt_child (ts_ne_up _) (ts_ne_up _) (append_ne hne _) hedit
        (Or.inr ⟨_, haround.locate_child (ts_ne_up _)⟩)⟩

/-- Jobs of different stems edit different places. -/
theorem location_ne_of_edits {otherEdit : Disk.Edit} (hne : other ≠ stem)
    (h : (ofStem folder target stem).Edits disk edit)
    (hother : (ofStem folder target other).Edits disk otherEdit) :
    edit.location ≠ otherEdit.location := by
  obtain ⟨path, revise, rfl | rfl, hedit⟩ := h
  · obtain ⟨otherPath, otherRevise, rfl | rfl, hotherEdit⟩ := hother
    · exact Disk.location_ne_of_edit_child (go_ne_up _) (go_ne_up _) (append_ne hne.symm _) hedit
        hotherEdit
    · exact Disk.location_ne_of_edit_child (go_ne_up _) (ts_ne_up _) (go_ne_ts _ _) hedit
        hotherEdit
  · obtain ⟨otherPath, otherRevise, rfl | rfl, hotherEdit⟩ := hother
    · exact Disk.location_ne_of_edit_child (ts_ne_up _) (go_ne_up _) (go_ne_ts _ _).symm hedit
        hotherEdit
    · exact Disk.location_ne_of_edit_child (ts_ne_up _) (ts_ne_up _) (append_ne hne.symm _) hedit
        hotherEdit

/-- A job keeps its own source. -/
theorem present_of_edits (hpresent : (ofStem folder target stem).Present disk)
    (h : (ofStem folder target stem).Edits disk edit) :
    (ofStem folder target stem).Present (disk.edited edit) := by
  obtain ⟨place, content, hplace⟩ := Disk.isFile_iff.mp hpresent
  obtain ⟨path, revise, rfl | rfl, hedit⟩ := h
  · exact Disk.isFile_iff.mpr ⟨_, _, Disk.fileAt_edited hedit⟩
  · have hsame : Disk.SameAt (ofStem folder target stem).source disk (disk.edited edit) :=
      Disk.sameAt_child (ts_ne_up _) (go_ne_up _) (go_ne_ts _ _) hedit
        (Or.inr ⟨place, hplace.locate⟩)
    exact hsame.isFile.symm.trans hpresent

end

/-! ## Pools -/

/-- Jobs on their way, and the disk that they share. -/
structure Pool where
  progress : Job → Progress := fun _ => {}
  disk : Disk

namespace Pool

/-- A pool in which a job has got further and made an edit. -/
def advance (pool : Pool) (job : Job) (next : Progress) (edit? : Option Disk.Edit) : Pool :=
  { progress := fun other => if other = job then next else pool.progress other
    disk := pool.disk.afterEdit edit? }

/-- The next step of a job. -/
def turn (settings : Settings) (pool : Pool) (job : Job) : Pool :=
  let (next, disk) := job.step settings (pool.progress job) pool.disk
  { progress := fun other => if other = job then next else pool.progress other, disk }

/-- Steps in the order of a schedule, which names the job that is next. -/
def run (settings : Settings) (pool : Pool) (schedule : List Job) : Pool :=
  schedule.foldl (turn settings) pool

/-- A turn takes a job one step further. -/
theorem progress_turn_self (settings : Settings) (pool : Pool) (job : Job) :
    (pool.turn settings job).progress job
      = (job.step settings (pool.progress job) pool.disk).1 :=
  if_pos rfl

/-- A turn leaves other jobs where they are. -/
theorem progress_turn_of_ne (settings : Settings) (pool : Pool) {job other : Job}
    (h : other ≠ job) : (pool.turn settings job).progress other = pool.progress other :=
  if_neg h

/-- Pools that differ at most in the way in which their disks are kept. -/
structure Same (first second : Pool) : Prop where
  progress : first.progress = second.progress
  disk : Disk.Same first.disk second.disk

theorem Same.refl (pool : Pool) : Same pool pool := ⟨rfl, .refl _⟩

/-- Pools that are the same as a third are the same. -/
theorem Same.trans {first second third : Pool} (h : Same first second) (hnext : Same second third) :
    Same first third :=
  ⟨h.progress.trans hnext.progress, h.disk.trans hnext.disk⟩

/-- A turn is the same in all pools that look the same to the job. -/
theorem exists_turn (settings : Settings) (pool : Pool) (job : Job) :
    ∃ next edit?, (∀ edit ∈ edit?, job.Edits pool.disk edit)
      ∧ ∀ other : Pool, other.progress job = pool.progress job → job.Sees pool.disk other.disk →
        other.turn settings job = other.advance job next edit? := by
  obtain ⟨next, edit?, hedits, hstep⟩ := step_local settings job (pool.progress job) pool.disk
  refine ⟨next, edit?, hedits, fun other hprogress hsees => ?_⟩
  unfold turn advance
  rw [hprogress, hstep other.disk hsees]

/-- A turn is the same on pools that are. -/
theorem turn_congr (settings : Settings) {first second : Pool} (h : Same first second)
    (job : Job) : Same (first.turn settings job) (second.turn settings job) := by
  obtain ⟨next, edit?, -, hturn⟩ := exists_turn settings first job
  have hself : job.Sees first.disk first.disk := ⟨.refl _ _, .refl _ _⟩
  rw [hturn first rfl hself,
    hturn second (congrFun h.progress job).symm ⟨h.disk.sameAt _, h.disk.sameAt _⟩]
  refine ⟨?_, h.disk.afterEdit edit?⟩
  unfold advance
  rw [h.progress]

/-- So are the turns of a schedule. -/
theorem run_congr (settings : Settings) {first second : Pool} (h : Same first second)
    (schedule : List Job) : Same (first.run settings schedule) (second.run settings schedule) := by
  induction schedule generalizing first second with
  | nil => exact h
  | cons job rest ih => exact ih (turn_congr settings h job)

/-! ## Reordering -/

section

variable {folder target : Path} {stems : List String}

/-- Whether the sources of all jobs are there. -/
def Ready (folder target : Path) (stems : List String) (pool : Pool) : Prop :=
  ∀ stem ∈ stems, (ofStem folder target stem).Present pool.disk

/-- A turn keeps jobs ready. -/
theorem Ready.turn {pool : Pool} (h : Ready folder target stems pool) (settings : Settings)
    {stem : String} (hstem : stem ∈ stems) :
    Ready folder target stems (pool.turn settings (ofStem folder target stem)) := by
  obtain ⟨next, edit?, hedits, hturn⟩ := exists_turn settings pool (ofStem folder target stem)
  rw [hturn pool rfl ⟨.refl _ _, .refl _ _⟩]
  cases edit? with
  | none => exact h
  | some edit =>
      have hedit := hedits edit rfl
      intro other hother
      by_cases hsame : other = stem
      · subst hsame
        exact present_of_edits (h other hother) hedit
      · have hsees := sees_of_edits hsame (h stem hstem) (h other hother) hedit
        exact hsees.source.isFile.symm.trans (h other hother)

/-- What is known about each job stays so in a turn, if it does in a step of the job itself
    and as long as the job sees no difference. -/
theorem Ready.forall_turn {pool : Pool} (h : Ready folder target stems pool) {settings : Settings}
    (known : Job → Disk → Stage → Prop)
    (hstep : ∀ stem ∈ stems, ∀ progress disk, (ofStem folder target stem).Present disk →
      known (ofStem folder target stem) disk progress.stage →
        known (ofStem folder target stem)
          ((ofStem folder target stem).step settings progress disk).2
          ((ofStem folder target stem).step settings progress disk).1.stage)
    (hsees : ∀ (job : Job) first second stage, known job first stage → job.Sees first second →
      known job second stage)
    (hknown : ∀ stem ∈ stems, known (ofStem folder target stem) pool.disk
      (pool.progress (ofStem folder target stem)).stage) {stem : String} (hstem : stem ∈ stems) :
    ∀ other ∈ stems, known (ofStem folder target other)
      (pool.turn settings (ofStem folder target stem)).disk
      ((pool.turn settings (ofStem folder target stem)).progress
        (ofStem folder target other)).stage := by
  intro other hother
  by_cases hsame : other = stem
  · subst hsame
    rw [progress_turn_self]
    exact hstep other hother _ _ (h other hother) (hknown other hother)
  · -- the job of another stem stands as it did, and sees no difference
    obtain ⟨next, edit?, hedits, hturn⟩ := exists_turn settings pool (ofStem folder target stem)
    rw [progress_turn_of_ne settings pool (ofStem_ne folder target hsame),
      hturn pool rfl ⟨.refl _ _, .refl _ _⟩]
    show known _ (pool.disk.afterEdit edit?) _
    cases edit? with
    | none => exact hknown other hother
    | some edit =>
        exact hsees _ _ _ _ (hknown other hother)
          (sees_of_edits hsame (h stem hstem) (h other hother) (hedits edit rfl))

/-- What each step of a job keeps, and no other job can see to, a schedule keeps. -/
theorem Ready.forall_run {pool : Pool} (h : Ready folder target stems pool) {settings : Settings}
    (known : Job → Disk → Stage → Prop)
    (hstep : ∀ stem ∈ stems, ∀ progress disk, (ofStem folder target stem).Present disk →
      known (ofStem folder target stem) disk progress.stage →
        known (ofStem folder target stem)
          ((ofStem folder target stem).step settings progress disk).2
          ((ofStem folder target stem).step settings progress disk).1.stage)
    (hsees : ∀ (job : Job) first second stage, known job first stage → job.Sees first second →
      known job second stage)
    (hknown : ∀ stem ∈ stems, known (ofStem folder target stem) pool.disk
      (pool.progress (ofStem folder target stem)).stage) {schedule : List Job}
    (hschedule : ∀ job ∈ schedule, job ∈ stems.map (ofStem folder target)) :
    ∀ stem ∈ stems, known (ofStem folder target stem) (pool.run settings schedule).disk
      ((pool.run settings schedule).progress (ofStem folder target stem)).stage := by
  induction schedule generalizing pool with
  | nil => exact hknown
  | cons job rest ih =>
      obtain ⟨hjob, hrest⟩ := List.forall_mem_cons.mp hschedule
      obtain ⟨stem, hstem, rfl⟩ := List.mem_map.mp hjob
      exact ih (h.turn settings hstem) (h.forall_turn known hstep hsees hknown hstem) hrest

/-- Steps of two jobs can be taken in either order. -/
theorem turn_comm {pool : Pool} (h : Ready folder target stems pool) (settings : Settings)
    {stem other : String} (hstem : stem ∈ stems) (hother : other ∈ stems) :
    Same ((pool.turn settings (ofStem folder target stem)).turn settings
        (ofStem folder target other))
      ((pool.turn settings (ofStem folder target other)).turn settings
        (ofStem folder target stem)) := by
  by_cases hne : other = stem
  · rw [hne]
    exact .refl _
  obtain ⟨next, edit?, hedits, hturn⟩ := exists_turn settings pool (ofStem folder target stem)
  obtain ⟨otherNext, otherEdit?, hotherEdits, hotherTurn⟩ :=
    exists_turn settings pool (ofStem folder target other)
  have hjobs := ofStem_ne folder target hne
  -- neither job sees what the other does
  have hunseen : (ofStem folder target other).Sees pool.disk (pool.disk.afterEdit edit?) := by
    cases edit? with
    | none => exact ⟨.refl _ _, .refl _ _⟩
    | some edit => exact sees_of_edits hne (h stem hstem) (h other hother) (hedits edit rfl)
  have hotherUnseen :
      (ofStem folder target stem).Sees pool.disk (pool.disk.afterEdit otherEdit?) := by
    cases otherEdit? with
    | none => exact ⟨.refl _ _, .refl _ _⟩
    | some edit =>
        exact sees_of_edits (Ne.symm hne) (h other hother) (h stem hstem) (hotherEdits edit rfl)
  rw [hturn pool rfl ⟨.refl _ _, .refl _ _⟩, hotherTurn pool rfl ⟨.refl _ _, .refl _ _⟩,
    hotherTurn (pool.advance _ next edit?) (if_neg hjobs) hunseen,
    hturn (pool.advance _ otherNext otherEdit?) (if_neg hjobs.symm) hotherUnseen]
  refine ⟨funext fun job => ?_, ?_⟩
  · unfold advance
    by_cases hfirst : job = ofStem folder target other
    · simp only [hfirst, if_true, if_neg hjobs]
    · simp only [if_neg hfirst]
  · show Disk.Same ((pool.disk.afterEdit edit?).afterEdit otherEdit?)
      ((pool.disk.afterEdit otherEdit?).afterEdit edit?)
    cases edit? with
    | none => exact .refl _
    | some edit =>
        cases otherEdit? with
        | none => exact .refl _
        | some otherEdit =>
            exact Disk.same_edited_comm pool.disk
              (location_ne_of_edits hne (hedits edit rfl) (hotherEdits otherEdit rfl))

/-- Every schedule of the jobs may be reordered. -/
theorem run_perm (settings : Settings) {first second : List Job} (hperm : first.Perm second)
    (hfirst : ∀ job ∈ first, job ∈ stems.map (ofStem folder target)) {pool : Pool}
    (h : Ready folder target stems pool) :
    Same (pool.run settings first) (pool.run settings second) := by
  induction hperm generalizing pool with
  | nil => exact .refl _
  | cons job _ ih =>
      obtain ⟨hjob, hrest⟩ := List.forall_mem_cons.mp hfirst
      obtain ⟨stem, hstem, rfl⟩ := List.mem_map.mp hjob
      exact ih hrest (h.turn settings hstem)
  | swap job other rest =>
      obtain ⟨hother, hmore⟩ := List.forall_mem_cons.mp hfirst
      obtain ⟨stem, hstem, rfl⟩ := List.mem_map.mp hother
      obtain ⟨otherStem, hotherStem, rfl⟩ := List.mem_map.mp (List.forall_mem_cons.mp hmore).1
      exact run_congr settings (turn_comm h settings hstem hotherStem) rest
  | trans hperm _ ih ihnext =>
      exact (ih hfirst h).trans
        (ihnext (fun job hjob => hfirst job (hperm.mem_iff.mpr hjob)) h)

end

/-! ## Finished jobs -/

/-- Whether a job is finished. -/
def Finished (pool : Pool) (job : Job) : Prop :=
  ∃ outcome, (pool.progress job).stage = .finished outcome

/-- A finished job does nothing more. -/
theorem turn_of_finished (settings : Settings) {pool : Pool} {job : Job}
    (h : pool.Finished job) : pool.turn settings job = pool := by
  obtain ⟨outcome, hstage⟩ := h
  unfold turn step
  rw [hstage]
  have hprogress : (fun other => if other = job then pool.progress job else pool.progress other)
      = pool.progress := by
    funext other
    by_cases hother : other = job
    · rw [if_pos hother, hother]
    · rw [if_neg hother]
  exact congrArg (Pool.mk · pool.disk) hprogress

/-- Finished jobs do nothing more. -/
theorem run_of_finished (settings : Settings) {pool : Pool} {schedule : List Job}
    (h : ∀ job ∈ schedule, pool.Finished job) : pool.run settings schedule = pool := by
  induction schedule with
  | nil => rfl
  | cons job rest ih =>
      obtain ⟨hjob, hrest⟩ := List.forall_mem_cons.mp h
      show (pool.turn settings job).run settings rest = pool
      rw [turn_of_finished settings hjob]
      exact ih hrest

/-- How many steps a job still has before it, at most. -/
def remaining : Stage → Nat
  | .waiting => stepCount
  | .read _ => 2
  | .extended _ => 1
  | .finished _ => 0

/-- Every step brings a job nearer to its end. -/
theorem remaining_step (settings : Settings) (job : Job) (progress : Progress) (disk : Disk) :
    remaining (job.step settings progress disk).1.stage ≤ remaining progress.stage - 1 := by
  unfold step
  cases hstage : progress.stage with
  | waiting =>
      simp only [readSource]
      cases SourceUnit.ofFile disk job.source with
      | ok unit => exact Nat.le_refl 2
      | error fault => exact Nat.zero_le _
  | read unit =>
      simp only [extendSource]
      split
      · cases appendCompanions disk job.source unit.expand.synthesized with
        | ok after => exact Nat.le_refl 1
        | error fault => exact Nat.zero_le _
      · exact Nat.le_refl 1
  | extended unit =>
      simp only [writeModule]
      cases disk.write job.target (Text.Utf8.encode (conversion settings unit).module) with
      | ok after => exact Nat.le_refl 0
      | error fault => exact Nat.le_refl 0
  | finished outcome =>
      simp only [hstage]
      exact Nat.le_refl 0

/-- Every turn of a job brings it nearer to its end. -/
theorem remaining_run (settings : Settings) (pool : Pool) (schedule : List Job) (job : Job) :
    remaining ((pool.run settings schedule).progress job).stage
      ≤ remaining (pool.progress job).stage - schedule.count job := by
  induction schedule generalizing pool with
  | nil => exact Nat.le_refl _
  | cons first rest ih =>
      refine Nat.le_trans (ih (pool.turn settings first)) ?_
      by_cases hjob : job = first
      · subst hjob
        have hstep := remaining_step settings job (pool.progress job) pool.disk
        rw [progress_turn_self, List.count_cons_self]
        omega
      · have hcount : (first :: rest).count job = rest.count job :=
          List.count_cons_of_ne (Ne.symm hjob)
        exact Nat.le_of_eq (by rw [progress_turn_of_ne settings pool hjob, hcount])

/-- A job with enough turns is finished. -/
theorem finished_of_count (settings : Settings) {pool : Pool} {schedule : List Job} {job : Job}
    (hstart : (pool.progress job).stage = .waiting) (h : stepCount ≤ schedule.count job) :
    (pool.run settings schedule).Finished job := by
  have hremaining := remaining_run settings pool schedule job
  rw [hstart, remaining, Nat.sub_eq_zero_of_le h] at hremaining
  unfold Finished
  cases hstage : ((pool.run settings schedule).progress job).stage with
  | finished outcome => exact ⟨outcome, rfl⟩
  | _ =>
      rw [hstage] at hremaining
      cases hremaining

/-! ## One job after the other -/

/-- Schedules are run one after the other. -/
theorem run_append (settings : Settings) (pool : Pool) (first second : List Job) :
    pool.run settings (first ++ second) = (pool.run settings first).run settings second :=
  List.foldl_append

/-- A job with several turns in a row takes so many steps. -/
theorem run_replicate (settings : Settings) (pool : Pool) (job : Job) (count : Nat) :
    pool.run settings (List.replicate count job)
      = { progress := fun other =>
            if other = job then (job.steps settings count (pool.progress job) pool.disk).1
            else pool.progress other
          disk := (job.steps settings count (pool.progress job) pool.disk).2 } := by
  induction count generalizing pool with
  | zero =>
      have hprogress : pool.progress = fun other =>
          if other = job then pool.progress job else pool.progress other := by
        funext other
        by_cases hother : other = job
        · rw [if_pos hother, hother]
        · rw [if_neg hother]
      exact congrArg (Pool.mk · pool.disk) hprogress
  | succ count ih =>
      show (pool.turn settings job).run settings (List.replicate count job) = _
      rw [ih]
      unfold turn
      simp only [steps, if_true]
      refine congrArg (Pool.mk · _) (funext fun other => ?_)
      by_cases hother : other = job
      · rw [if_pos hother, if_pos hother]
      · rw [if_neg hother, if_neg hother, if_neg hother]

/-- A schedule without a job leaves it where it is. -/
theorem progress_run_of_not_mem (settings : Settings) (pool : Pool) {schedule : List Job}
    {job : Job} (h : job ∉ schedule) :
    (pool.run settings schedule).progress job = pool.progress job := by
  induction schedule generalizing pool with
  | nil => rfl
  | cons first rest ih =>
      rw [List.mem_cons, not_or] at h
      exact (ih (pool.turn settings first) h.2).trans (progress_turn_of_ne settings pool h.1)

/-- The schedule of one job after the other. -/
def oneByOne (jobs : List Job) : List Job :=
  jobs.flatMap (List.replicate stepCount)

/-- The jobs that have their turns one by one are the jobs. -/
theorem mem_oneByOne {jobs : List Job} {job : Job} : job ∈ oneByOne jobs ↔ job ∈ jobs := by
  unfold oneByOne
  simp only [List.mem_flatMap, List.mem_replicate, ne_eq]
  constructor
  · rintro ⟨other, hother, -, rfl⟩
    exact hother
  · intro h
    exact ⟨job, h, by decide, rfl⟩

/-- One by one, each job has all the turns that it needs. -/
theorem le_count_oneByOne {jobs : List Job} {job : Job} (h : job ∈ jobs) :
    stepCount ≤ (oneByOne jobs).count job := by
  induction jobs with
  | nil => cases h
  | cons first rest ih =>
      unfold oneByOne at ih ⊢
      rw [List.flatMap_cons, List.count_append]
      rcases List.mem_cons.mp h with rfl | hrest
      · rw [List.count_replicate_self]
        exact Nat.le_add_right _ _
      · exact Nat.le_trans (ih hrest) (Nat.le_add_left _ _)

/-- Running jobs one after the other is running a pool by that schedule. -/
theorem runAll_eq_run (settings : Settings) {jobs : List Job} (h : jobs.Nodup) (pool : Pool)
    (hstart : ∀ job ∈ jobs, pool.progress job = {}) :
    runAll settings jobs pool.disk
      = (jobs.map fun job => (job, (pool.run settings (oneByOne jobs)).progress job),
        (pool.run settings (oneByOne jobs)).disk) := by
  induction jobs generalizing pool with
  | nil => rfl
  | cons job rest ih =>
      obtain ⟨hjob, hrest⟩ := List.nodup_cons.mp h
      obtain ⟨hfirst, hothers⟩ := List.forall_mem_cons.mp hstart
      have hrun : pool.run settings (oneByOne (job :: rest))
          = (pool.run settings (List.replicate stepCount job)).run settings (oneByOne rest) :=
        run_append settings pool (List.replicate stepCount job) (oneByOne rest)
      rw [hrun]
      generalize hafter : pool.run settings (List.replicate stepCount job) = after
      rw [run_replicate, hfirst] at hafter
      have hdisk : (job.run settings pool.disk).2 = after.disk := congrArg Pool.disk hafter
      have hprogress : (job.run settings pool.disk).1 = after.progress job := by
        rw [← hafter]
        exact (if_pos rfl).symm
      have hwaiting : ∀ other ∈ rest, after.progress other = {} := by
        intro other hother
        have hne : other ≠ job := fun heq => hjob (heq ▸ hother)
        rw [← hafter]
        exact (if_neg hne).trans (hothers other hother)
      have hnext := ih hrest after hwaiting
      have hkept : (after.run settings (oneByOne rest)).progress job = after.progress job :=
        progress_run_of_not_mem settings after fun hmem => hjob (mem_oneByOne.mp hmem)
      show ((job, (job.run settings pool.disk).1)
          :: (runAll settings rest (job.run settings pool.disk).2).1,
        (runAll settings rest (job.run settings pool.disk).2).2) = _
      rw [hdisk, hprogress, hnext, List.map_cons, hkept]

/-- A schedule that finishes all jobs comes to the same as one job after the
    other. -/
theorem run_same_oneByOne (settings : Settings) {folder target : Path} {stems : List String}
    {pool : Pool} (h : Ready folder target stems pool)
    (hstart : ∀ job, (pool.progress job).stage = .waiting) {schedule : List Job}
    (hschedule : ∀ job ∈ schedule, job ∈ stems.map (ofStem folder target))
    (hfinished : ∀ job ∈ stems.map (ofStem folder target),
      (pool.run settings schedule).Finished job) :
    Same (pool.run settings schedule)
      (pool.run settings (oneByOne (stems.map (ofStem folder target)))) := by
  generalize hserial : oneByOne (stems.map (ofStem folder target)) = serial
  have hmem : ∀ job ∈ serial, job ∈ stems.map (ofStem folder target) := by
    intro job hjob
    exact mem_oneByOne.mp (hserial ▸ hjob)
  -- behind a schedule that finishes all jobs, another one does nothing any more
  have hfirst : pool.run settings (schedule ++ serial) = pool.run settings schedule := by
    rw [run_append]
    exact run_of_finished settings fun job hjob => hfinished job (hmem job hjob)
  have hsecond : pool.run settings (serial ++ schedule) = pool.run settings serial := by
    rw [run_append]
    refine run_of_finished settings fun job hjob => finished_of_count settings (hstart job) ?_
    rw [← hserial]
    exact le_count_oneByOne (hschedule job hjob)
  have hperm : (schedule ++ serial).Perm (serial ++ schedule) := List.perm_append_comm
  have hsame := run_perm settings hperm
    (fun job hjob => (List.mem_append.mp hjob).elim (hschedule job) (hmem job)) h
  rwa [hfirst, hsecond] at hsame

end Pool

end Job

namespace Settings

/-! ## The jobs of a folder -/

/-- A source has its ending, and is a file that no setting leaves out. -/
theorem of_mem_sources {settings : Settings} {disk : Disk} {folder source : Path}
    (h : source ∈ settings.sources disk folder) :
    source = folder.child (source.stem ++ ".go") ∧ settings.isSource disk source = true := by
  obtain ⟨hchild, hsource⟩ := List.mem_filter.mp h
  refine ⟨?_, hsource⟩
  unfold Disk.children at hchild
  split at hchild
  · obtain ⟨name, -, rfl⟩ := List.mem_map.mp hchild
    have hending : (folder.child name).ending = ".go" := by
      unfold isSource at hsource
      simp only [Bool.and_eq_true, beq_iff_eq] at hsource
      exact hsource.1.1.2
    unfold Path.ending Path.stem at *
    rw [Path.name_child] at hending ⊢
    rw [← hending, Path.splitName_append]
  · cases hchild

/-- A source is a file. -/
theorem isFile_of_isSource {settings : Settings} {disk : Disk} {source : Path}
    (h : settings.isSource disk source = true) : disk.isFile source = true := by
  unfold isSource at h
  simp only [Bool.and_eq_true] at h
  exact h.1.1.1

/-- Whether a path is a source depends on its name and on there being a file. -/
theorem isSource_congr (settings : Settings) {first second : Disk} {path : Path}
    (h : first.isFile path = second.isFile path) :
    settings.isSource first path = settings.isSource second path := by
  unfold isSource
  rw [h]

/-- The sources of a folder are the files in it that are. -/
theorem mem_sources_iff {settings : Settings} {disk : Disk} {folder source : Path}
    {location : Location} (h : disk.FolderAt folder location) :
    source ∈ settings.sources disk folder
      ↔ (∃ stem, source = folder.child (stem ++ ".go")) ∧ settings.isSource disk source = true := by
  constructor
  · intro hsource
    exact ⟨⟨_, (of_mem_sources hsource).1⟩, (of_mem_sources hsource).2⟩
  · rintro ⟨⟨stem, rfl⟩, hsource⟩
    refine List.mem_filter.mpr ⟨?_, hsource⟩
    -- the source is a file, so the folder has its name
    obtain ⟨place, content, hplace⟩ := Disk.isFile_iff.mp (isFile_of_isSource hsource)
    cases (h.locate_child (Job.go_ne_up stem)).symm.trans hplace.locate
    refine (Disk.mem_children h).mpr ⟨_, rfl, ?_⟩
    rw [hplace.find?]
    simp

/-- No source is there twice. -/
theorem nodup_sources (settings : Settings) {disk : Disk} (h : disk.IsTree) (folder : Path) :
    (settings.sources disk folder).Nodup :=
  ((Disk.pairwise_children h folder).imp fun hne heq => hne (congrArg Path.name heq)).filter _

/-- The jobs of a folder are known by their stems, which are all different. -/
theorem exists_stems (settings : Settings) {disk : Disk} (h : disk.IsTree)
    (folder target : Path) :
    ∃ stems : List String, stems.Nodup
      ∧ jobs (settings.sources disk folder) target = stems.map (Job.ofStem folder target)
      ∧ Job.Pool.Ready folder target stems { disk } := by
  refine ⟨(settings.sources disk folder).map Path.stem, ?_, ?_, ?_⟩
  · refine List.pairwise_map.mpr ((settings.nodup_sources h folder).imp_of_mem ?_)
    intro first second hfirst hsecond hne heq
    apply hne
    rw [(of_mem_sources hfirst).1, (of_mem_sources hsecond).1, heq]
  · unfold jobs
    rw [List.map_map]
    refine List.map_congr_left fun source hsource => ?_
    show (⟨source, _⟩ : Job) = ⟨folder.child (source.stem ++ ".go"), _⟩
    rw [← (of_mem_sources hsource).1]
  · intro stem hstem
    obtain ⟨source, hsource, rfl⟩ := List.mem_map.mp hstem
    obtain ⟨hname, his⟩ := of_mem_sources hsource
    show disk.isFile (folder.child (source.stem ++ ".go")) = true
    rw [← hname]
    exact isFile_of_isSource his

/-- The jobs of a folder as it stands on a disk. -/
def folderJobs (settings : Settings) (disk : Disk) (folder target : Path) : List Job :=
  jobs (settings.sources disk folder) target

/-- The jobs of a folder are those of its sources. -/
theorem mem_folderJobs {settings : Settings} {disk : Disk} {folder target : Path} {job : Job}
    {location : Location} (h : disk.FolderAt folder location) :
    job ∈ settings.folderJobs disk folder target
      ↔ ∃ stem, job = Job.ofStem folder target stem
        ∧ settings.isSource disk (folder.child (stem ++ ".go")) = true := by
  unfold folderJobs jobs
  rw [List.mem_map]
  constructor
  · rintro ⟨source, hsource, rfl⟩
    obtain ⟨hname, his⟩ := of_mem_sources hsource
    refine ⟨source.stem, ?_, hname ▸ his⟩
    rw [Job.ofStem, ← hname]
  · rintro ⟨stem, rfl, his⟩
    have hsource := (mem_sources_iff h).mpr ⟨⟨stem, rfl⟩, his⟩
    have hstem : (folder.child (stem ++ ".go")).stem = stem := by
      have hname := congrArg Path.name (of_mem_sources hsource).1
      rw [Path.name_child, Path.name_child] at hname
      exact ((String.append_left_inj ".go").mp hname).symm
    refine ⟨_, hsource, ?_⟩
    rw [hstem]
    rfl

/-- The jobs of a folder may take their steps in any order.  A job that has taken
    enough steps is finished; and once all jobs are finished, each has gone the
    way, with the outcome, that it goes when the jobs are run one after the other,
    and the disk holds the same at every place. -/
theorem order_of_steps_does_not_matter (settings : Settings) {disk : Disk} (hdisk : disk.IsTree)
    (folder target : Path) (schedule : List Job)
    (hschedule : ∀ job ∈ schedule, job ∈ settings.folderJobs disk folder target) :
    let all := settings.folderJobs disk folder target
    let pool := Job.Pool.run settings { disk } schedule
    let serial := Job.runAll settings all disk
    (∀ job ∈ all, Job.stepCount ≤ schedule.count job → pool.Finished job)
    ∧ ((∀ job ∈ all, pool.Finished job) →
      (all.map fun job => (job, pool.progress job)) = serial.1
      ∧ ∀ location, pool.disk.find? location = serial.2.find? location) := by
  obtain ⟨stems, hstems, hjobs, hready⟩ := settings.exists_stems hdisk folder target
  have hall : settings.folderJobs disk folder target = stems.map (Job.ofStem folder target) :=
    hjobs
  rw [hall] at hschedule ⊢
  refine ⟨fun job _ => Job.Pool.finished_of_count settings rfl, fun hfinished => ?_⟩
  have hsame := Job.Pool.run_same_oneByOne settings hready (fun _ => rfl) hschedule hfinished
  have hnodup : (stems.map (Job.ofStem folder target)).Nodup :=
    List.pairwise_map.mpr (hstems.imp (Job.ofStem_ne folder target))
  rw [Job.Pool.runAll_eq_run settings hnodup { disk } fun _ _ => rfl]
  exact ⟨by rw [hsame.progress], hsame.disk.find?⟩

/-- A folder with a source that gets a companion and one that is empty. -/
def pairDisk : Disk :=
  { entries :=
      [(["in"], .folder), (["out"], .folder), (["in", "b.go"], .file []),
       (["in", "a.go"], .file (Text.Utf8.encode
          "type A struct \x7b\n\tX int \x60update:\"\"\x60\n\x7d\n"))] }

/-- Settings that make the sources change as well. -/
def pairSettings : Settings :=
  { root := {}, inputFolder := {}, outputFolder := .ofLocation ["out"], expand := true
    persist := true, workers := 2 }

/-- The jobs of the folder. -/
def pairJob (stem : String) : Job :=
  Job.ofStem (.ofLocation ["in"]) (.ofLocation ["out"]) stem

/-- Two workers that take turns. -/
def pairSchedule : List Job :=
  ["a", "b", "b", "a", "a", "b"].map pairJob

theorem order_of_steps_does_not_matter_for_pair :
    pairDisk.IsTree
    ∧ (∀ job ∈ pairSchedule,
      job ∈ pairSettings.folderJobs pairDisk (.ofLocation ["in"]) (.ofLocation ["out"]))
    ∧ (∀ job ∈ pairSettings.folderJobs pairDisk (.ofLocation ["in"]) (.ofLocation ["out"]),
      (Job.Pool.run pairSettings ⟨fun _ => {}, pairDisk⟩ pairSchedule).Finished job)
    ∧ ∀ location,
      (Job.Pool.run pairSettings ⟨fun _ => {}, pairDisk⟩ pairSchedule).disk.find? location
      = (Job.runAll pairSettings
          (pairSettings.folderJobs pairDisk (.ofLocation ["in"]) (.ofLocation ["out"]))
          pairDisk).2.find? location := by
  have htree : pairDisk.IsTree := ⟨by decide, by decide, by decide⟩
  have hfolder : pairDisk.FolderAt (.ofLocation ["in"]) ["in"] := ⟨rfl, rfl⟩
  have hsources : ∀ stem ∈ ["a", "b"],
      pairSettings.isSource pairDisk ((Path.ofLocation ["in"]).child (stem ++ ".go")) = true := by
    decide +kernel
  have hschedule : ∀ job ∈ pairSchedule,
      job ∈ pairSettings.folderJobs pairDisk (.ofLocation ["in"]) (.ofLocation ["out"]) := by
    intro job hjob
    obtain ⟨stem, hstem, rfl⟩ := List.mem_map.mp hjob
    refine (mem_folderJobs hfolder).mpr ⟨stem, rfl, hsources stem ?_⟩
    revert stem
    decide
  obtain ⟨hturns, hresult⟩ := order_of_steps_does_not_matter pairSettings htree
    (.ofLocation ["in"]) (.ofLocation ["out"]) pairSchedule hschedule
  have hfinished : ∀ job ∈ pairSettings.folderJobs pairDisk (.ofLocation ["in"])
      (.ofLocation ["out"]),
      (Job.Pool.run pairSettings ⟨fun _ => {}, pairDisk⟩ pairSchedule).Finished job := by
    intro job hjob
    refine hturns job hjob ?_
    obtain ⟨stem, rfl, hsource⟩ := (mem_folderJobs hfolder).mp hjob
    obtain ⟨place, content, hplace⟩ := Disk.isFile_iff.mp (isFile_of_isSource hsource)
    cases (hfolder.locate_child (Job.go_ne_up stem)).symm.trans hplace.locate
    have hname : stem ++ ".go" = "b" ++ ".go" ∨ stem ++ ".go" = "a" ++ ".go" := by
      simpa [pairDisk] using Disk.mem_entries_of_find? hplace.find?
    rw [String.append_left_inj, String.append_left_inj] at hname
    rcases hname with rfl | rfl
    · decide
    · decide
  exact ⟨htree, hschedule, hfinished, (hresult hfinished).2⟩

end Settings

end StructScript
