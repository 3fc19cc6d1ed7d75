import StructScript.Proofs.GenerationRun

/-! # What becomes of the modules that a run writes

    A run writes modules, then the index of their folder, then the index of all, and
    with several folders many of each.  The modules are safe from each other, and from
    every index but one:

    * `Job.Faithful` says what is known about a job at each of its stages, and
      `Job.Pool.Keeps.turn` that steps of other jobs do not change it; so a job that is
      done has left the module of its source, as the source was at the start;
    * `Job.Touches` names the places where the jobs and the index of a folder put files;
      folders with different names touch different places, so what one folder's visit
      leaves is still there when the tour is over (`Settings.Round.grows`);
    * within a folder, the index goes over the module of a source with the stem `index`,
      which is the one condition of `Settings.modules_kept_unless_named_index`. -/

namespace StructScript

namespace Job

/-! ## Jobs -/

/-- What is known about a job at each of its stages.  As long as it waits, its source
    stands as at the start; then it works on the unit of that source; and when it is
    done, the module of that unit stands at the target. -/
def Faithful (settings : Settings) (start : Disk) (job : Job) (disk : Disk) : Stage → Prop
  | .waiting => Disk.SameAt job.source start disk
  | .read unit => SourceUnit.ofFile start job.source = .ok unit
  | .extended unit => SourceUnit.ofFile start job.source = .ok unit
  | .finished (.failed _) => True
  | .finished (.done conversion) =>
      ∃ unit, SourceUnit.ofFile start job.source = .ok unit
        ∧ conversion = Job.conversion settings unit
        ∧ disk.read job.target = .ok (Text.Utf8.encode conversion.module)

/-- A step of the job keeps it faithful. -/
theorem Faithful.step {settings : Settings} {start : Disk} {job : Job} {progress : Progress}
    {disk : Disk} (h : job.Faithful settings start disk progress.stage) :
    job.Faithful settings start (job.step settings progress disk).2
      (job.step settings progress disk).1.stage := by
  unfold Job.step
  cases hstage : progress.stage with
  | waiting =>
      rw [hstage] at h
      have hunit := SourceUnit.ofFile_congr h.read
      simp only [readSource]
      cases hread : SourceUnit.ofFile disk job.source with
      | ok unit => exact hunit.trans hread
      | error fault => exact True.intro
  | read unit =>
      rw [hstage] at h
      simp only [extendSource]
      split
      · cases appendCompanions disk job.source unit.expand.synthesized with
        | ok after => exact h
        | error fault => exact True.intro
      · exact h
  | extended unit =>
      rw [hstage] at h
      simp only [writeModule, Disk.write_eq_edit]
      cases hedit : disk.edit job.target
          fun _ => Text.Utf8.encode (conversion settings unit).module with
      | ok edit =>
          refine ⟨unit, h, rfl, ?_⟩
          rw [← (Disk.edit_eq_ok.mp hedit).2.2.1]
          exact Disk.read_edited hedit
      | error fault => exact True.intro
  | finished outcome =>
      rw [hstage] at h
      simpa only [hstage] using h

/-- What is known about a job stays true as long as it sees no difference. -/
theorem Faithful.of_sees {settings : Settings} {start : Disk} {job : Job} {disk other : Disk}
    {stage : Stage} (h : job.Faithful settings start disk stage) (hsees : job.Sees disk other) :
    job.Faithful settings start other stage := by
  cases stage with
  | waiting => exact Disk.SameAt.trans h hsees.source
  | read unit => exact h
  | extended unit => exact h
  | finished outcome =>
      cases outcome with
      | failed fault => exact True.intro
      | done conversion =>
          obtain ⟨unit, hunit, hconversion, hread⟩ := h
          exact ⟨unit, hunit, hconversion, hsees.target.read ▸ hread⟩

/-- The places where the jobs of a folder put files, given the places of the folder
    and of the folder for its modules. -/
def Touches (source target place : Location) : Prop :=
  ∃ stem, place = source ++ [stem ++ ".go"] ∨ place = target ++ [stem ++ ".ts"]

namespace Pool

section

variable {settings : Settings} {start : Disk} {folder target : Path}
  {sourcePlace targetPlace : Location} {stems : List String} {pool : Pool}

/-- What the jobs of a folder keep up while they take their steps. -/
structure Keeps (settings : Settings) (start : Disk) (folder target : Path)
    (sourcePlace targetPlace : Location) (stems : List String) (pool : Pool) : Prop where
  ready : Ready folder target stems pool
  tree : pool.disk.IsTree
  grows : Disk.Grows (Touches sourcePlace targetPlace) start pool.disk
  faithful : ∀ stem ∈ stems, (ofStem folder target stem).Faithful settings start pool.disk
    (pool.progress (ofStem folder target stem)).stage

/-- A job edits places that it may touch. -/
theorem Keeps.touches (h : Keeps settings start folder target sourcePlace targetPlace stems pool)
    (hfolder : start.FolderAt folder sourcePlace) (htarget : start.FolderAt target targetPlace)
    {stem : String} {edit : Disk.Edit} (hedit : (ofStem folder target stem).Edits pool.disk edit) :
    Touches sourcePlace targetPlace edit.location := by
  obtain ⟨path, revise, rfl | rfl, hedit⟩ := hedit
  · obtain ⟨place, hplace, hlocation⟩ := Disk.location_of_edit_child (go_ne_up _) hedit
    cases (h.grows.folderAt hfolder).locate.symm.trans hplace.locate
    exact ⟨stem, Or.inl hlocation⟩
  · obtain ⟨place, hplace, hlocation⟩ := Disk.location_of_edit_child (ts_ne_up _) hedit
    cases (h.grows.folderAt htarget).locate.symm.trans hplace.locate
    exact ⟨stem, Or.inr hlocation⟩

/-- A turn keeps what is kept. -/
theorem Keeps.turn (h : Keeps settings start folder target sourcePlace targetPlace stems pool)
    (hfolder : start.FolderAt folder sourcePlace) (htarget : start.FolderAt target targetPlace)
    {stem : String} (hstem : stem ∈ stems) :
    Keeps settings start folder target sourcePlace targetPlace stems
      (pool.turn settings (ofStem folder target stem)) := by
  obtain ⟨next, edit?, hedits, hturn⟩ := exists_turn settings pool (ofStem folder target stem)
  have hdisk : (pool.turn settings (ofStem folder target stem)).disk
      = pool.disk.afterEdit edit? := by
    rw [hturn pool rfl ⟨.refl _ _, .refl _ _⟩]
    rfl
  refine ⟨h.ready.turn settings hstem, ?_, ?_, ?_⟩
  · rw [hdisk]
    cases edit? with
    | none => exact h.tree
    | some edit =>
        obtain ⟨path, revise, -, hedit⟩ := hedits edit rfl
        exact h.tree.edited hedit
  · rw [hdisk]
    cases edit? with
    | none => exact h.grows
    | some edit =>
        have htouches := h.touches hfolder htarget (hedits edit rfl)
        obtain ⟨path, revise, -, hedit⟩ := hedits edit rfl
        exact h.grows.trans ((Disk.grows_edited (Disk.edit_eq_ok.mp hedit).2.1).mono
          fun location hlocation => hlocation ▸ htouches)
  · exact h.ready.forall_turn (Faithful settings start) (fun _ _ _ _ _ hfaithful => hfaithful.step)
      (fun _ _ _ _ hfaithful hsees => hfaithful.of_sees hsees) h.faithful hstem

/-- So do the turns of a schedule. -/
theorem Keeps.run (h : Keeps settings start folder target sourcePlace targetPlace stems pool)
    (hfolder : start.FolderAt folder sourcePlace) (htarget : start.FolderAt target targetPlace)
    {schedule : List Job} (hschedule : ∀ job ∈ schedule, job ∈ stems.map (ofStem folder target)) :
    Keeps settings start folder target sourcePlace targetPlace stems
      (pool.run settings schedule) := by
  induction schedule generalizing pool with
  | nil => exact h
  | cons job rest ih =>
      obtain ⟨hjob, hrest⟩ := List.forall_mem_cons.mp hschedule
      obtain ⟨stem, hstem, rfl⟩ := List.mem_map.mp hjob
      exact ih (h.turn hfolder htarget hstem) hrest

theorem keeps_start (settings : Settings) {disk : Disk} (htree : disk.IsTree)
    (hready : Ready folder target stems { disk }) (sourcePlace targetPlace : Location) :
    Keeps settings disk folder target sourcePlace targetPlace stems { disk } :=
  ⟨hready, htree, .refl _ _, fun _ _ => .refl _ _⟩

end

end Pool

end Job

namespace Settings

/-! ## Visits -/

namespace Visit

variable {settings : Settings} {visit : Visit}

/-- The jobs of a visit when all have taken their steps. -/
def pool (settings : Settings) (visit : Visit) : Job.Pool :=
  Job.Pool.run settings { disk := visit.ready } (Job.Pool.oneByOne (visit.jobs settings))

/-- No two jobs of a visit have the same target. -/
theorem pairwise_jobs (settings : Settings) (htree : visit.ready.IsTree) :
    (visit.jobs settings).Pairwise fun first second => first.target ≠ second.target := by
  obtain ⟨stems, hstems, hjobs, -⟩ :=
    settings.exists_stems htree visit.folder (visit.target settings)
  have hall : visit.jobs settings = stems.map (Job.ofStem visit.folder (visit.target settings)) :=
    hjobs
  rw [hall]
  refine List.pairwise_map.mpr (hstems.imp ?_)
  intro stem other hne heq
  exact Job.append_ne hne ".ts" (Path.child_inj.mp heq).2

/-- What a visit comes to is what a pool of its jobs does. -/
theorem result_eq (settings : Settings) (htree : visit.ready.IsTree) :
    visit.result settings
      = ((visit.jobs settings).map fun job => (job, (visit.pool settings).progress job),
        (visit.pool settings).disk) :=
  Job.Pool.runAll_eq_run settings
    ((pairwise_jobs settings htree).imp fun hne heq => hne (congrArg Job.target heq))
    { disk := visit.ready } fun _ _ => rfl

/-- The outcomes of a visit are those of its jobs when they are finished. -/
theorem mem_outcomes (htree : visit.ready.IsTree) {job : Job} {outcome : Job.Outcome} :
    (job, outcome) ∈ visit.outcomes settings
      ↔ job ∈ visit.jobs settings
        ∧ ((visit.pool settings).progress job).stage = .finished outcome := by
  unfold outcomes Settings.outcomes
  rw [result_eq settings htree, List.filterMap_map, List.mem_filterMap]
  constructor
  · rintro ⟨found, hfound, h⟩
    simp only [Function.comp_apply] at h
    split at h
    · next finished hstage =>
        cases h
        exact ⟨hfound, hstage⟩
    · cases h
  · rintro ⟨hjob, hstage⟩
    exact ⟨job, hjob, by simp only [Function.comp_apply, hstage]⟩

/-- Every job of a visit comes to its end. -/
theorem exists_outcome (htree : visit.ready.IsTree) {job : Job} (h : job ∈ visit.jobs settings) :
    ∃ outcome, (job, outcome) ∈ visit.outcomes settings := by
  have hfinished : (visit.pool settings).Finished job :=
    Job.Pool.finished_of_count settings rfl (Job.Pool.le_count_oneByOne h)
  obtain ⟨outcome, hstage⟩ := hfinished
  exact ⟨outcome, (mem_outcomes htree).mpr ⟨h, hstage⟩⟩

/-- A job has one outcome. -/
theorem outcome_unique (htree : visit.ready.IsTree) {job : Job} {first second : Job.Outcome}
    (hfirst : (job, first) ∈ visit.outcomes settings)
    (hsecond : (job, second) ∈ visit.outcomes settings) : first = second := by
  have hstages := ((mem_outcomes htree).mp hfirst).2.symm.trans ((mem_outcomes htree).mp hsecond).2
  exact Job.Stage.finished.inj hstages

/-- Where the folders of a visit are, before it. -/
structure Placed (settings : Settings) (visit : Visit) (before : Disk)
    (inputPlace outputPlace : Location) : Prop where
  tree : before.IsTree
  named : visit.folder.name ≠ ".."
  source : before.FolderAt visit.folder (inputPlace ++ [visit.folder.name])
  output : before.FolderAt settings.outputFolder outputPlace

/-- The places that a visit touches. -/
def Touches (visit : Visit) (inputPlace outputPlace place : Location) : Prop :=
  Job.Touches (inputPlace ++ [visit.folder.name]) (outputPlace ++ [visit.folder.name]) place

section

variable {before after : Disk} {inputPlace outputPlace : Location}

/-- A visit makes its target folder first. -/
theorem Leads.makes (h : visit.Leads settings before after) :
    Disk.Makes (visit.target settings) before visit.ready :=
  Disk.makes_of_ensureFolders h.ready

/-- The folders of a visit, when its jobs start. -/
theorem Placed.ready (hplaced : visit.Placed settings before inputPlace outputPlace)
    (h : visit.Leads settings before after) :
    visit.ready.IsTree ∧ visit.ready.FolderAt visit.folder (inputPlace ++ [visit.folder.name])
      ∧ visit.ready.FolderAt (visit.target settings) (outputPlace ++ [visit.folder.name]) := by
  obtain ⟨place, hplace⟩ := h.makes.folder
  have hchild := (h.makes.grows.folderAt hplaced.output).locate_child hplaced.named
  cases hchild.symm.trans hplace.locate
  exact ⟨h.makes.tree hplaced.tree, h.makes.grows.folderAt hplaced.source, hplace⟩

/-- What the jobs of a visit have kept up when all have taken their steps. -/
theorem Placed.keeps (hplaced : visit.Placed settings before inputPlace outputPlace)
    (h : visit.Leads settings before after) :
    ∃ stems, visit.jobs settings = stems.map (Job.ofStem visit.folder (visit.target settings))
      ∧ Job.Pool.Keeps settings visit.ready visit.folder (visit.target settings)
        (inputPlace ++ [visit.folder.name]) (outputPlace ++ [visit.folder.name]) stems
        (visit.pool settings) := by
  obtain ⟨htree, hsource, htarget⟩ := hplaced.ready h
  obtain ⟨stems, -, hjobs, hready⟩ :=
    settings.exists_stems htree visit.folder (visit.target settings)
  refine ⟨stems, hjobs,
    (Job.Pool.keeps_start settings htree hready _ _).run hsource htarget ?_⟩
  intro job hjob
  have hmem := Job.Pool.mem_oneByOne.mp hjob
  exact hjobs ▸ hmem

/-- The index is written last, over what the jobs have left. -/
theorem Placed.exists_edit (hplaced : visit.Placed settings before inputPlace outputPlace)
    (h : visit.Leads settings before after) :
    ∃ revise edit,
      (visit.pool settings).disk.edit (settings.folderIndex visit.folder) revise = .ok edit
      ∧ edit.location = outputPlace ++ [visit.folder.name] ++ [Index.fileName]
      ∧ after = (visit.pool settings).disk.edited edit := by
  obtain ⟨htree, -, htarget⟩ := hplaced.ready h
  obtain ⟨stems, -, hkeeps⟩ := hplaced.keeps h
  have hwrite := h.index
  rw [result_eq settings htree] at hwrite
  obtain ⟨edit, hedit, rfl⟩ := Disk.write_eq_ok.mp hwrite
  obtain ⟨place, hplace, hlocation⟩ := Disk.location_of_edit_child (by decide) hedit
  cases (hkeeps.grows.folderAt htarget).locate.symm.trans hplace.locate
  exact ⟨_, edit, hedit, hlocation, rfl⟩

/-- A visit touches its own places only, and leaves a tree. -/
theorem Placed.grows (hplaced : visit.Placed settings before inputPlace outputPlace)
    (h : visit.Leads settings before after) :
    Disk.Grows (visit.Touches inputPlace outputPlace) before after ∧ after.IsTree := by
  obtain ⟨stems, -, hkeeps⟩ := hplaced.keeps h
  obtain ⟨revise, edit, hedit, hlocation, rfl⟩ := hplaced.exists_edit h
  refine ⟨?_, hkeeps.tree.edited hedit⟩
  have hmade : Disk.Grows (visit.Touches inputPlace outputPlace) before visit.ready :=
    h.makes.grows.mono fun _ hnothing => hnothing.elim
  refine (hmade.trans hkeeps.grows).trans ?_
  refine (Disk.grows_edited (Disk.edit_eq_ok.mp hedit).2.1).mono ?_
  rintro _ rfl
  exact ⟨"index", Or.inr hlocation⟩

/-- A module stands where its job has put it, unless the index goes there. -/
theorem Placed.read_target (hplaced : visit.Placed settings before inputPlace outputPlace)
    (h : visit.Leads settings before after) {job : Job} {conversion : Conversion}
    (hdone : (job, .done conversion) ∈ visit.outcomes settings)
    (hindex : job.target ≠ settings.folderIndex visit.folder) :
    ∃ unit, SourceUnit.ofFile visit.ready job.source = .ok unit
      ∧ after.read job.target = .ok (Text.Utf8.encode (Job.conversion settings unit).module) := by
  obtain ⟨htree, -, htarget⟩ := hplaced.ready h
  obtain ⟨stems, hjobs, hkeeps⟩ := hplaced.keeps h
  obtain ⟨hjob, hstage⟩ := (mem_outcomes htree).mp hdone
  rw [hjobs] at hjob
  obtain ⟨stem, hstem, rfl⟩ := List.mem_map.mp hjob
  have hfaithful := hkeeps.faithful stem hstem
  rw [hstage] at hfaithful
  obtain ⟨unit, hunit, rfl, hread⟩ := hfaithful
  refine ⟨unit, hunit, ?_⟩
  obtain ⟨revise, edit, hedit, -, rfl⟩ := hplaced.exists_edit h
  have hname : stem ++ ".ts" ≠ Index.fileName := fun heq => hindex (Path.child_inj.mpr ⟨rfl, heq⟩)
  have hplace := (hkeeps.grows.folderAt htarget).locate_child (Job.ts_ne_up stem)
  have hsame := Disk.sameAt_child (by decide) (Job.ts_ne_up stem) hname hedit (Or.inr ⟨_, hplace⟩)
  exact hsame.read ▸ hread

end

/-- The place of a file next to the modules. -/
theorem locate_target_child {disk : Disk} {outputPlace place : Location} {name : String}
    (houtput : disk.FolderAt settings.outputFolder outputPlace)
    (hfolder : visit.folder.name ≠ "..") (hname : name ≠ "..")
    (h : disk.locate ((visit.target settings).child name) = .ok place) :
    place = outputPlace ++ [visit.folder.name] ++ [name] := by
  obtain ⟨around, haround, rfl⟩ := Disk.exists_folderAt_of_locate_child h hname
  cases (houtput.locate_child hfolder).symm.trans haround.locate
  rfl

/-- Where the files are that a visit writes. -/
theorem exists_name_of_mem_written (htree : visit.ready.IsTree) {path : Path}
    (h : path ∈ (visit.account settings).written settings) :
    ∃ name, path = (visit.target settings).child name := by
  rcases List.mem_append.mp h with hmodule | hindex
  · obtain ⟨job, conversion, hdone, rfl⟩ := Report.mem_modules.mp hmodule
    obtain ⟨hjob, -⟩ := (mem_outcomes htree).mp hdone
    obtain ⟨source, -, rfl⟩ := List.mem_map.mp hjob
    exact ⟨_, rfl⟩
  · cases List.mem_singleton.mp hindex
    exact ⟨_, rfl⟩

/-- A visit writes no file twice, unless the index goes over a module. -/
theorem nodup_written_iff (htree : visit.ready.IsTree) :
    ((visit.account settings).written settings).Nodup
      ↔ ∀ job conversion, (job, .done conversion) ∈ visit.outcomes settings →
        job.target ≠ settings.folderIndex visit.folder := by
  have hmodules : ((visit.outcomes settings).filterMap Report.module?).Nodup := by
    have houtcomes : (visit.outcomes settings).Pairwise fun first second =>
        first.1.target ≠ second.1.target := by
      unfold outcomes Settings.outcomes
      rw [result_eq settings htree, List.filterMap_map]
      refine (pairwise_jobs settings htree).filterMap _ ?_
      intro job other hne entry hentry otherEntry hotherEntry
      simp only [Function.comp_apply] at hentry hotherEntry
      split at hentry <;> cases hentry
      split at hotherEntry <;> cases hotherEntry
      exact hne
    refine houtcomes.filterMap _ ?_
    rintro ⟨job, outcome⟩ ⟨other, otherOutcome⟩ hne path hpath otherPath hotherPath
    cases outcome <;> cases hpath
    cases otherOutcome <;> cases hotherPath
    exact hne
  unfold Account.written
  rw [List.nodup_append]
  constructor
  · rintro ⟨-, -, happart⟩ job conversion hdone
    exact happart _ (Report.mem_modules.mpr ⟨job, conversion, hdone, rfl⟩) _
      (List.mem_singleton.mpr rfl)
  · intro h
    refine ⟨hmodules, by simp, ?_⟩
    intro path hpath other hother
    cases List.mem_singleton.mp hother
    obtain ⟨job, conversion, hdone, rfl⟩ := Report.mem_modules.mp hpath
    exact h job conversion hdone

end Visit

/-! ## Tours -/

/-- What a tour starts from: package folders with different names, all in one folder,
    and the output folder. -/
structure Round (settings : Settings) (start : Disk) (visits : List Visit)
    (inputPlace outputPlace : Location) : Prop where
  tree : start.IsTree
  output : start.FolderAt settings.outputFolder outputPlace
  named : ∀ visit ∈ visits, visit.folder.name ≠ ".."
  folders : ∀ visit ∈ visits, start.FolderAt visit.folder (inputPlace ++ [visit.folder.name])
  distinct : visits.Pairwise fun first second => first.folder.name ≠ second.folder.name

/-- The places that visits touch. -/
def Touched (visits : List Visit) (inputPlace outputPlace place : Location) : Prop :=
  ∃ visit ∈ visits, visit.Touches inputPlace outputPlace place

/-- Folders with different names touch different places. -/
theorem name_eq_of_touches {first second : Visit} {inputPlace outputPlace place : Location}
    (hfirst : first.Touches inputPlace outputPlace place)
    (hsecond : second.Touches inputPlace outputPlace place) :
    first.folder.name = second.folder.name := by
  have hnames : ∀ {around : Location} {name other : String} {last otherLast : String},
      around ++ [name] ++ [last] = around ++ [other] ++ [otherLast] → name = other := by
    intro around name other last otherLast h
    simpa using (List.append_inj' h rfl).1
  have hlast : ∀ {around otherAround : Location} {last otherLast : String},
      around ++ [last] = otherAround ++ [otherLast] → last = otherLast := by
    intro around otherAround last otherLast h
    simpa using (List.append_inj' h rfl).2
  obtain ⟨stem, rfl | rfl⟩ := hfirst
  · obtain ⟨other, h | h⟩ := hsecond
    · exact hnames h
    · exact absurd (hlast h) (Job.go_ne_ts _ _)
  · obtain ⟨other, h | h⟩ := hsecond
    · exact absurd (hlast h).symm (Job.go_ne_ts _ _)
    · exact hnames h

namespace Round

variable {settings : Settings} {start last : Disk} {visits : List Visit} {visit : Visit}
  {inputPlace outputPlace : Location}

/-- Every visit of a round has its places. -/
theorem placed (h : Round settings start visits inputPlace outputPlace) (hvisit : visit ∈ visits) :
    visit.Placed settings start inputPlace outputPlace :=
  ⟨h.tree, h.named visit hvisit, h.folders visit hvisit, h.output⟩

/-- Some visits of a round are a round. -/
theorem of_sublist {some : List Visit} (h : Round settings start visits inputPlace outputPlace)
    (hsome : some.Sublist visits) : Round settings start some inputPlace outputPlace :=
  ⟨h.tree, h.output, fun visit hvisit => h.named visit (hsome.subset hvisit),
    fun visit hvisit => h.folders visit (hsome.subset hvisit), h.distinct.sublist hsome⟩

/-- The other visits find their folders as they were. -/
theorem next {between : Disk} (h : Round settings start (visit :: visits) inputPlace outputPlace)
    (hvisit : visit.Leads settings start between) :
    Round settings between visits inputPlace outputPlace := by
  obtain ⟨hgrows, htree⟩ := (h.placed List.mem_cons_self).grows hvisit
  have hrest := h.of_sublist (List.sublist_cons_self visit visits)
  exact ⟨htree, hgrows.folderAt hrest.output, hrest.named,
    fun other hother => hgrows.folderAt (hrest.folders other hother), hrest.distinct⟩

/-- What is left of a round is a round on the disk between. -/
theorem rest {between : Disk} {first : List Visit}
    (h : Round settings start (first ++ visits) inputPlace outputPlace)
    (htour : settings.Tour start first between) :
    Round settings between visits inputPlace outputPlace := by
  induction first generalizing start with
  | nil => exact htour ▸ h
  | cons visit more ih =>
      obtain ⟨middle, hvisit, hmore⟩ := htour
      exact ih (next h hvisit) hmore

/-- A tour changes files only at places that its visits touch. -/
theorem grows (h : Round settings start visits inputPlace outputPlace)
    (htour : settings.Tour start visits last) :
    Disk.Grows (Touched visits inputPlace outputPlace) start last := by
  induction visits generalizing start with
  | nil => exact htour ▸ .refl _ _
  | cons visit more ih =>
      obtain ⟨between, hvisit, hmore⟩ := htour
      have hfirst := ((h.placed List.mem_cons_self).grows hvisit).1
      refine (hfirst.mono ?_).trans ((ih (h.next hvisit) hmore).mono ?_)
      · intro place hplace
        exact ⟨visit, List.mem_cons_self, hplace⟩
      · rintro place ⟨other, hother, hplace⟩
        exact ⟨other, List.mem_cons_of_mem _ hother, hplace⟩

/-- What a visit of a tour finds and leaves is what stands at the start and at the
    end, at the places that it touches. -/
theorem exists_leads (h : Round settings start visits inputPlace outputPlace)
    (htour : settings.Tour start visits last) (hvisit : visit ∈ visits) :
    ∃ before after, visit.Placed settings before inputPlace outputPlace
      ∧ visit.Leads settings before after
      ∧ (∀ path place, start.locate path = .ok place → visit.Touches inputPlace outputPlace place →
        Disk.SameFile path start before)
      ∧ (∀ path place, after.locate path = .ok place → visit.Touches inputPlace outputPlace place →
        Disk.SameFile path after last) := by
  obtain ⟨first, more, rfl⟩ := List.append_of_mem hvisit
  obtain ⟨before, hfirst, after, hleads, hmore⟩ := tour_append.mp htour
  obtain ⟨-, hdistinct, hothers⟩ := List.pairwise_append.mp h.distinct
  have hround := h.rest hfirst
  have hgrowsFirst := (h.of_sublist (List.sublist_append_left _ _)).grows hfirst
  have hgrowsMore := (hround.next hleads).grows hmore
  refine ⟨before, after, hround.placed List.mem_cons_self, hleads, ?_, ?_⟩
  · intro path place hplace htouches
    refine hgrowsFirst.sameFile hplace ?_
    rintro ⟨other, hother, hplaceOther⟩
    exact hothers other hother visit List.mem_cons_self (name_eq_of_touches hplaceOther htouches)
  · intro path place hplace htouches
    refine hgrowsMore.sameFile hplace ?_
    rintro ⟨other, hother, hplaceOther⟩
    exact (List.pairwise_cons.mp hdistinct).1 other hother (name_eq_of_touches htouches hplaceOther)

/-- The jobs of a visit find their sources as they were at the start. -/
theorem same_source (h : Round settings start visits inputPlace outputPlace)
    (htour : settings.Tour start visits last) (hvisit : visit ∈ visits) (stem : String) :
    Disk.SameFile (visit.folder.child (stem ++ ".go")) start visit.ready := by
  obtain ⟨before, after, hplaced, hleads, hbefore, -⟩ := h.exists_leads htour hvisit
  have hfirst := hbefore _ _ ((h.folders visit hvisit).locate_child (Job.go_ne_up stem))
    ⟨stem, Or.inl rfl⟩
  exact hfirst.trans
    (hleads.makes.grows.sameFile (hplaced.source.locate_child (Job.go_ne_up stem)) id)

/-- The disk on which a visit starts is a tree. -/
theorem tree_ready (h : Round settings start visits inputPlace outputPlace)
    (htour : settings.Tour start visits last) (hvisit : visit ∈ visits) :
    visit.ready.IsTree := by
  obtain ⟨before, after, hplaced, hleads, -⟩ := h.exists_leads htour hvisit
  exact (hplaced.ready hleads).1

/-- A visit finds the sources that were there at the start of the round. -/
theorem mem_sources_ready (h : Round settings start visits inputPlace outputPlace)
    (htour : settings.Tour start visits last) (hvisit : visit ∈ visits) {source : Path} :
    source ∈ settings.sources visit.ready visit.folder
      ↔ source ∈ settings.sources start visit.folder := by
  obtain ⟨before, after, hplaced, hleads, -⟩ := h.exists_leads htour hvisit
  rw [mem_sources_iff (hplaced.ready hleads).2.1, mem_sources_iff (h.folders visit hvisit)]
  refine and_congr_right ?_
  rintro ⟨stem, rfl⟩
  rw [settings.isSource_congr (h.same_source htour hvisit stem).isFile_eq]

/-- What stands next to the modules is not touched by the index of all, which is one
    name below the output folder and not two. -/
theorem read_final (h : Round settings start visits inputPlace outputPlace)
    (htour : settings.Tour start visits last) (hvisit : visit ∈ visits) {final : Disk}
    {text : List UInt8} (hfinal : last.write settings.rootIndex text = .ok final) {name : String}
    (hname : name ≠ "..") {content : List UInt8}
    (hlast : last.read ((visit.target settings).child name) = .ok content) :
    final.read ((visit.target settings).child name) = .ok content := by
  have houtput := (h.grows htour).folderAt h.output
  obtain ⟨edit, hedit, rfl⟩ := Disk.write_eq_ok.mp hfinal
  obtain ⟨around, haround, hlocation⟩ := Disk.location_of_edit_child (by decide) hedit
  cases houtput.locate.symm.trans haround.locate
  obtain ⟨place, ⟨-, hplace, -⟩, -⟩ := Disk.read_eq_ok.mp hlast
  have hmodule := Visit.locate_target_child houtput (h.named visit hvisit) hname hplace
  have hne : place ≠ edit.location := by
    rw [hmodule, hlocation]
    intro heq
    simpa using congrArg List.length heq
  exact (Disk.sameAt_edited (Disk.edit_eq_ok.mp hedit).2.1 hplace hne).read ▸ hlast

/-- A module that the index of its folder does not go over is there at the end, and
    it is that of the source as it was at the start. -/
theorem read_target (h : Round settings start visits inputPlace outputPlace)
    (htour : settings.Tour start visits last) (hvisit : visit ∈ visits) {final : Disk}
    {text : List UInt8} (hfinal : last.write settings.rootIndex text = .ok final) {job : Job}
    {conversion : Conversion} (hdone : (job, .done conversion) ∈ visit.outcomes settings)
    (hindex : job.target ≠ settings.folderIndex visit.folder) :
    ∃ unit, SourceUnit.ofFile start job.source = .ok unit
      ∧ final.read job.target = .ok (Text.Utf8.encode (Job.conversion settings unit).module) := by
  obtain ⟨before, after, hplaced, hleads, -, hafter⟩ := h.exists_leads htour hvisit
  obtain ⟨unit, hunit, hread⟩ := hplaced.read_target hleads hdone hindex
  obtain ⟨hjob, -⟩ := (Visit.mem_outcomes (hplaced.ready hleads).1).mp hdone
  obtain ⟨stem, rfl, his⟩ := (mem_folderJobs (hplaced.ready hleads).2.1).mp hjob
  refine ⟨unit, ?_, ?_⟩
  · rw [← hunit]
    exact SourceUnit.ofFile_congr
      ((h.same_source htour hvisit stem).symm.read_eq (isFile_of_isSource his)).symm
  · obtain ⟨place, ⟨-, hplace, -⟩, -⟩ := Disk.read_eq_ok.mp hread
    have hmodule := Visit.locate_target_child ((hplaced.grows hleads).1.folderAt hplaced.output)
      hplaced.named (Job.ts_ne_up stem) hplace
    have hlast := ((hafter _ place hplace ⟨stem, Or.inr hmodule⟩).read_iff _).mp hread
    exact h.read_final htour hvisit hfinal (Job.ts_ne_up stem) hlast

/-- Visits of folders with the same name are the same. -/
theorem eq_of_name_eq (h : Round settings start visits inputPlace outputPlace) {other : Visit}
    (hvisit : visit ∈ visits) (hother : other ∈ visits)
    (hname : other.folder.name = visit.folder.name) : other = visit := by
  obtain ⟨first, more, rfl⟩ := List.append_of_mem hvisit
  obtain ⟨-, hdistinct, hbefore⟩ := List.pairwise_append.mp h.distinct
  rcases List.mem_append.mp hother with hfirst | hrest
  · exact absurd hname (hbefore other hfirst visit List.mem_cons_self)
  · rcases List.mem_cons.mp hrest with rfl | hmore
    · rfl
    · exact absurd hname.symm ((List.pairwise_cons.mp hdistinct).1 other hmore)

/-- A source whose job is done has no failure: it is in one folder only, so no other
    visit has a job for it. -/
theorem unfailed_of_done (h : Round settings start visits inputPlace outputPlace)
    (htour : settings.Tour start visits last) (hvisit : visit ∈ visits) {job : Job}
    {conversion : Conversion} (hdone : (job, .done conversion) ∈ visit.outcomes settings) :
    ∀ failure ∈ (visits.map (Visit.account settings)).flatMap Account.failures,
      failure.path ≠ job.source := by
  intro failure hfailure hpath
  rw [List.flatMap_map] at hfailure
  obtain ⟨other, hother, hfailure⟩ := List.mem_flatMap.mp hfailure
  obtain ⟨otherJob, fault, hfailed, rfl⟩ := Report.mem_failures.mp hfailure
  obtain ⟨hjob, -⟩ := (Visit.mem_outcomes (h.tree_ready htour hvisit)).mp hdone
  obtain ⟨hotherJob, -⟩ := (Visit.mem_outcomes (h.tree_ready htour hother)).mp hfailed
  obtain ⟨source, hsource, rfl⟩ := List.mem_map.mp hjob
  obtain ⟨otherSource, hotherSource, rfl⟩ := List.mem_map.mp hotherJob
  cases hpath
  have hfolder : other.folder = visit.folder :=
    (Path.child_inj.mp ((of_mem_sources hotherSource).1.symm.trans (of_mem_sources hsource).1)).1
  cases h.eq_of_name_eq hvisit hother (congrArg Path.name hfolder)
  cases Visit.outcome_unique (h.tree_ready htour hvisit) hdone hfailed

/-- A run writes no file twice, unless the index of a folder goes over a module. -/
theorem nodup_written_iff (h : Round settings start visits inputPlace outputPlace)
    (htour : settings.Tour start visits last) :
    ((visits.map (Visit.account settings)).flatMap (Account.written settings)
        ++ [settings.rootIndex]).Nodup
      ↔ ∀ visit ∈ visits, ∀ job conversion, (job, .done conversion) ∈ visit.outcomes settings →
        job.target ≠ settings.folderIndex visit.folder := by
  have heach : ∀ visit ∈ visits, ((visit.account settings).written settings).Nodup
      ↔ ∀ job conversion, (job, .done conversion) ∈ visit.outcomes settings →
        job.target ≠ settings.folderIndex visit.folder :=
    fun visit hvisit => Visit.nodup_written_iff (h.tree_ready htour hvisit)
  rw [List.flatMap_map, List.nodup_append]
  unfold List.Nodup at *
  rw [List.pairwise_flatMap]
  constructor
  · rintro ⟨⟨hvisits, -⟩, -⟩ visit hvisit
    exact (heach visit hvisit).mp (hvisits visit hvisit)
  · intro hall
    refine ⟨⟨fun visit hvisit => (heach visit hvisit).mpr (hall visit hvisit), ?_⟩,
      List.pairwise_singleton _ _, ?_⟩
    · -- files of different folders
      refine h.distinct.imp_of_mem ?_
      intro first second hfirst hsecond hne path hpath other hother heq
      obtain ⟨name, rfl⟩ := Visit.exists_name_of_mem_written (h.tree_ready htour hfirst) hpath
      obtain ⟨otherName, rfl⟩ :=
        Visit.exists_name_of_mem_written (h.tree_ready htour hsecond) hother
      exact hne (Path.child_inj.mp (Path.child_inj.mp heq).1).2
    · -- the index of all, and a file of a folder
      intro path hpath other hother heq
      obtain ⟨visit, hvisit, hpath⟩ := List.mem_flatMap.mp hpath
      obtain ⟨name, rfl⟩ := Visit.exists_name_of_mem_written (h.tree_ready htour hvisit) hpath
      cases List.mem_singleton.mp hother
      exact Path.child_ne _ _ (Path.child_inj.mp heq).1

end Round

/-! ## Runs -/

/-- The path of the module for a source of a package. -/
def modulePath (settings : Settings) (folder source : Path) : Path :=
  (settings.outputFolder.child folder.name).child (source.stem ++ ".ts")

/-- Whether a run turns a source into a module: it is a source of a package when the
    run starts, and no failure is reported for it. -/
structure Translated (settings : Settings) (start : Disk) (report : Report)
    (folder source : Path) : Prop where
  package : folder ∈ settings.packageFolders start
  listed : source ∈ settings.sources start folder
  unfailed : ∀ failure ∈ report.failures, failure.path ≠ source

/-- A package folder is in the input folder, under its name. -/
theorem folderAt_of_mem_packageFolders {settings : Settings} {start : Disk}
    {inputPlace : Location} {folder : Path} (htree : start.IsTree)
    (hinput : start.FolderAt settings.inputFolder inputPlace)
    (h : folder ∈ settings.packageFolders start) :
    folder.name ≠ ".." ∧ start.FolderAt folder (inputPlace ++ [folder.name]) := by
  have hpackage := (mem_packageFolders htree hinput).mp h
  obtain ⟨name, hup, rfl⟩ := hpackage.inside
  obtain ⟨-, place, hfolderAt⟩ := Disk.isFolder_iff.mp hpackage.isFolder
  cases (hinput.locate_child hup).symm.trans hfolderAt.locate
  rw [Path.name_child]
  exact ⟨hup, hfolderAt⟩

/-- The package folders have different names and are all in the input folder. -/
theorem round_of_packageFolders {settings : Settings} {start : Disk} {visits : List Visit}
    {inputPlace outputPlace : Location} (htree : start.IsTree)
    (hinput : start.FolderAt settings.inputFolder inputPlace)
    (houtput : start.FolderAt settings.outputFolder outputPlace)
    (hfolders : visits.map Visit.folder = settings.packageFolders start) :
    Round settings start visits inputPlace outputPlace := by
  have hplaces : ∀ visit ∈ visits, visit.folder.name ≠ ".."
      ∧ start.FolderAt visit.folder (inputPlace ++ [visit.folder.name]) := by
    intro visit hvisit
    have hfolder : visit.folder ∈ settings.packageFolders start :=
      hfolders ▸ List.mem_map_of_mem hvisit
    exact folderAt_of_mem_packageFolders htree hinput hfolder
  refine ⟨htree, houtput, fun visit hvisit => (hplaces visit hvisit).1,
    fun visit hvisit => (hplaces visit hvisit).2, ?_⟩
  have hpairwise : (settings.packageFolders start).Pairwise fun first second =>
      first.name ≠ second.name :=
    ((Disk.pairwise_children htree settings.inputFolder).filter _).filter _
  rw [← hfolders, List.pairwise_map] at hpairwise
  exact hpairwise

section

variable {settings : Settings} {start last : Disk} {visits : List Visit}
  {inputPlace outputPlace : Location} {report : Report} {folder source : Path}

/-- The sources that are turned into modules are those whose jobs are done. -/
theorem Round.translated_iff (h : Round settings start visits inputPlace outputPlace)
    (htour : settings.Tour start visits last)
    (hfolders : visits.map Visit.folder = settings.packageFolders start)
    (hfailures : report.failures
      = (visits.map (Visit.account settings)).flatMap Account.failures) :
    Translated settings start report folder source
      ↔ ∃ visit ∈ visits, visit.folder = folder ∧ ∃ conversion,
        (⟨source, settings.modulePath folder source⟩, .done conversion)
          ∈ visit.outcomes settings := by
  constructor
  · rintro ⟨hfolder, hsource, hunfailed⟩
    rw [← hfolders] at hfolder
    obtain ⟨visit, hvisit, rfl⟩ := List.mem_map.mp hfolder
    have htree := h.tree_ready htour hvisit
    have hjob : ⟨source, settings.modulePath visit.folder source⟩ ∈ visit.jobs settings :=
      List.mem_map.mpr ⟨source, (h.mem_sources_ready htour hvisit).mpr hsource, rfl⟩
    obtain ⟨outcome, houtcome⟩ := Visit.exists_outcome htree hjob
    cases outcome with
    | done conversion => exact ⟨visit, hvisit, rfl, conversion, houtcome⟩
    | failed fault =>
        refine absurd rfl (hunfailed ⟨source, fault⟩ ?_)
        rw [hfailures, List.flatMap_map]
        exact List.mem_flatMap.mpr
          ⟨visit, hvisit, Report.mem_failures.mpr ⟨_, fault, houtcome, rfl⟩⟩
  · rintro ⟨visit, hvisit, rfl, conversion, hdone⟩
    obtain ⟨hjob, -⟩ := (Visit.mem_outcomes (h.tree_ready htour hvisit)).mp hdone
    obtain ⟨found, hfound, hsame⟩ := List.mem_map.mp hjob
    cases congrArg Job.source hsame
    refine ⟨hfolders ▸ List.mem_map_of_mem hvisit,
      (h.mem_sources_ready htour hvisit).mp hfound, ?_⟩
    rw [hfailures]
    exact h.unfailed_of_done htour hvisit hdone

/-- A module lies at the place of the index if its source is called so. -/
theorem modulePath_eq_index_iff :
    settings.modulePath folder source = settings.folderIndex folder
      ↔ source.stem = "index" := by
  unfold modulePath folderIndex
  rw [Path.child_inj]
  constructor
  · rintro ⟨-, hname⟩
    exact (String.append_left_inj ".ts").mp hname
  · intro hstem
    rw [hstem]
    exact ⟨rfl, rfl⟩

end

/-- The modules of a run are all there at its end, except that the index of a folder
    goes over the module of a source with the stem `index`.  For every run that comes
    to its end: the files that it reports as written are all different if and only if
    no source with that stem was turned into a module; every source that was turned
    into a module has its file reported; and if its stem is another, the file holds
    the module of the source as it was when the run started. -/
theorem modules_kept_unless_named_index (settings : Settings) {session final : Session}
    {report : Report} (htree : session.disk.IsTree)
    (hrun : settings.generate.run.run session = (.ok report, final)) :
    ∃ start, session.disk.ensureFolders settings.outputFolder = .ok start
      ∧ (report.written.Nodup ↔ ∀ folder source,
        Translated settings start report folder source → source.stem ≠ "index")
      ∧ ∀ folder source, Translated settings start report folder source →
        settings.modulePath folder source ∈ report.written
        ∧ (source.stem ≠ "index" → ∃ unit, SourceUnit.ofFile start source = .ok unit
          ∧ final.disk.read (settings.modulePath folder source)
            = .ok (Text.Utf8.encode (Job.conversion settings unit).module)) := by
  obtain ⟨start, visits, last, text, hinput, hstart, hfolders, htour, hfinal, hreport⟩ :=
    exists_visits hrun
  rw [summary_eq] at hreport
  have hwritten := congrArg Report.written hreport
  have hfailures := congrArg Report.failures hreport
  have hmakes := Disk.makes_of_ensureFolders hstart
  obtain ⟨outputPlace, houtput⟩ := hmakes.folder
  obtain ⟨-, inputPlace, hinput⟩ := Disk.isFolder_iff.mp hinput
  have hround : Round settings start visits inputPlace outputPlace :=
    round_of_packageFolders (hmakes.tree htree) (hmakes.grows.folderAt hinput) houtput hfolders
  have htranslated : ∀ {folder source}, Translated settings start report folder source ↔ _ :=
    hround.translated_iff htour hfolders hfailures
  refine ⟨start, hstart, ?_, ?_⟩
  · rw [hwritten, hround.nodup_written_iff htour]
    constructor
    · intro hindex folder source hsource hstem
      obtain ⟨visit, hvisit, rfl, conversion, hdone⟩ := htranslated.mp hsource
      exact hindex visit hvisit _ conversion hdone (modulePath_eq_index_iff.mpr hstem)
    · intro hstem visit hvisit job conversion hdone heq
      obtain ⟨hjob, -⟩ := (Visit.mem_outcomes (hround.tree_ready htour hvisit)).mp hdone
      obtain ⟨source, -, rfl⟩ := List.mem_map.mp hjob
      refine hstem visit.folder source ?_ (modulePath_eq_index_iff.mp heq)
      exact htranslated.mpr ⟨visit, hvisit, rfl, conversion, hdone⟩
  · intro folder source hsource
    obtain ⟨visit, hvisit, rfl, conversion, hdone⟩ := htranslated.mp hsource
    refine ⟨?_, fun hstem => ?_⟩
    · rw [hwritten, List.flatMap_map]
      refine List.mem_append_left _ (List.mem_flatMap.mpr ⟨visit, hvisit, ?_⟩)
      exact List.mem_append_left _ (Report.mem_modules.mpr ⟨_, conversion, hdone, rfl⟩)
    · have hindex : settings.modulePath visit.folder source
          ≠ settings.folderIndex visit.folder :=
        fun heq => hstem (modulePath_eq_index_iff.mp heq)
      have hread := hround.read_target htour hvisit hfinal hdone hindex
      exact hread

/-- A package with one source, under a name. -/
def usersDisk (name : String) : Disk :=
  { entries :=
      [(["models"], .folder), (["models", "users"], .folder),
       (["models", "users", name], .file (Text.Utf8.encode
          "package users\n\ntype User struct \x7b\n\tName string\n\x7d\n"))] }

def usersSettings : Settings :=
  { root := {}, inputFolder := .ofLocation ["models"], outputFolder := .ofLocation ["types"] }

/-- The folder of the package. -/
def usersFolder : Path :=
  .ofLocation ["models", "users"]

/-- A run on the package. -/
def usersRun (name : String) : Except Trouble Report × Session :=
  usersSettings.generate.run.run { disk := usersDisk name }

theorem modules_kept_unless_named_index_for_user :
    (usersDisk "user.go").IsTree ∧ ∃ report final start,
      usersSettings.generate.run.run { disk := usersDisk "user.go" } = (.ok report, final)
      ∧ (usersDisk "user.go").ensureFolders usersSettings.outputFolder = .ok start
      ∧ Translated usersSettings start report usersFolder (usersFolder.child "user.go")
      ∧ ∃ unit, SourceUnit.ofFile start (usersFolder.child "user.go") = .ok unit
        ∧ final.disk.read (usersSettings.modulePath usersFolder (usersFolder.child "user.go"))
          = .ok (Text.Utf8.encode (Job.conversion usersSettings unit).module) := by
  have htree : (usersDisk "user.go").IsTree := ⟨by decide, by decide, by decide⟩
  have hends : (usersRun "user.go").1.toOption.map (·.failures.isEmpty) = some true := by
    decide +kernel
  cases hreport : (usersRun "user.go").1 with
  | error trouble =>
      rw [hreport] at hends
      cases hends
  | ok report =>
      have hfailures : report.failures = [] := by
        rw [hreport] at hends
        simpa [Except.toOption] using hends
      have hrun : usersSettings.generate.run.run { disk := usersDisk "user.go" }
          = (.ok report, (usersRun "user.go").2) :=
        Prod.ext hreport rfl
      obtain ⟨start, hstart, -, hkept⟩ := modules_kept_unless_named_index usersSettings htree hrun
      have hput : (usersDisk "user.go").ensureFolders usersSettings.outputFolder
          = .ok ((usersDisk "user.go").put ["types"] .folder) := rfl
      cases hstart.symm.trans hput
      have htranslated : Translated usersSettings ((usersDisk "user.go").put ["types"] .folder)
          report usersFolder (usersFolder.child "user.go") :=
        ⟨by decide +kernel, by decide +kernel, by simp [hfailures]⟩
      exact ⟨htree, report, _, _, hrun, hput, htranslated,
        (hkept usersFolder _ htranslated).2 (by decide +kernel)⟩

/-- The index of a folder goes over the module of a source that is named like it: the
    source is turned into a module without a failure, but the file is reported twice,
    and does not hold the module at the end. -/
theorem index_goes_over_module :
    ∃ report unit, (usersRun "index.go").1 = .ok report ∧ report.failures = []
      ∧ SourceUnit.ofFile (usersDisk "index.go") (usersFolder.child "index.go") = .ok unit
      ∧ ¬ report.written.Nodup
      ∧ (usersRun "index.go").2.disk.read
          (usersSettings.modulePath usersFolder (usersFolder.child "index.go"))
        ≠ .ok (Text.Utf8.encode (Job.conversion usersSettings unit).module) := by
  have hends : (usersRun "index.go").1.toOption.map (fun report =>
      (report.failures.isEmpty, decide report.written.Nodup)) = some (true, false) := by
    decide +kernel
  have hmodule : (SourceUnit.ofFile (usersDisk "index.go")
      (usersFolder.child "index.go")).toOption.map (fun unit =>
        decide (((usersRun "index.go").2.disk.read
          (usersSettings.modulePath usersFolder (usersFolder.child "index.go"))).toOption
          = some (Text.Utf8.encode (Job.conversion usersSettings unit).module)))
      = some false := by
    decide +kernel
  cases hreport : (usersRun "index.go").1 with
  | error trouble =>
      rw [hreport] at hends
      cases hends
  | ok report =>
      cases hunit : SourceUnit.ofFile (usersDisk "index.go") (usersFolder.child "index.go") with
      | error fault =>
          rw [hunit] at hmodule
          cases hmodule
      | ok unit =>
          rw [hreport] at hends
          rw [hunit] at hmodule
          have hlists : report.failures = [] ∧ ¬ report.written.Nodup := by
            simpa [Except.toOption] using hends
          refine ⟨report, unit, rfl, hlists.1, rfl, hlists.2, fun hread => ?_⟩
          rw [hread] at hmodule
          simp [Except.toOption] at hmodule

end Settings

end StructScript
