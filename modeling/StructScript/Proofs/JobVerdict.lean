import StructScript.Proofs.CompanionShape
import StructScript.Proofs.JobOrder

/-! # How a job will end

    A job takes three steps, and each of them may fail.  Here its end is told in
    advance, from the disk on which it starts:

    * `exists_spellAppendix` says that companions can always be written, so extending a
      source fails only if the disk refuses it;
    * `Job.verdict` is the end of a job as the disk decides it: the source is at fault, or
      something hinders extending it, or something hinders writing the module, or the
      module is written;
    * `Job.run_eq_verdict` says that a job ends like that, and `Job.outcomes_runAll` that
      the jobs of a folder do, one after the other, each as if it were alone. -/

namespace StructScript

/-! ## Companions can be written -/

/-- A type that can be updated can be spelled. -/
theorem TypeExpr.exists_spelling {type : TypeExpr} (h : type.isUpdatable = true) :
    ∃ text, type.spelling = .ok text := by
  cases type with
  | named name isLocal => exact ⟨_, rfl⟩
  | selector package name => exact ⟨_, rfl⟩
  | bytes => exact ⟨_, rfl⟩
  | slice element =>
      cases element with
      | named name isLocal => exact ⟨_, rfl⟩
      | _ => cases h
  | _ => cases h

theorem Field.exists_spelling {update field : Field} (h : update.IsUpdateOf field) :
    ∃ line, update.spelling = .ok line := by
  obtain ⟨jsonName, name, -, hupdatable, -, rfl⟩ := h
  obtain ⟨text, htext⟩ := TypeExpr.exists_spelling hupdatable
  unfold Field.spelling updateField
  simp only [TypeExpr.spelling, htext]
  exact ⟨_, rfl⟩

/-- Fields can be spelled if each can. -/
theorem exists_spellFields {fields : List Field}
    (h : ∀ field ∈ fields, ∃ line, field.spelling = .ok line) :
    ∃ lines, spellFields fields = .ok lines := by
  induction fields with
  | nil => exact ⟨_, rfl⟩
  | cons field rest ih =>
      obtain ⟨⟨line, hline⟩, hrest⟩ := List.forall_mem_cons.mp h
      obtain ⟨lines, hlines⟩ := ih hrest
      rw [spellFields, hline, hlines]
      exact ⟨_, rfl⟩

/-- A companion is a struct of members that can be written. -/
theorem Declaration.exists_spelling {declaration companion : Declaration}
    (h : declaration.companion? = .ok (some companion)) :
    ∃ text, companion.spelling = .ok text := by
  obtain ⟨fields, updates, -, hupdates, -, rfl⟩ := companion?_eq_some h
  have hlines : ∃ lines, spellFields updates = .ok lines := by
    refine exists_spellFields fun update hupdate => ?_
    obtain ⟨field, -, hof⟩ := mem_collectUpdates hupdates hupdate
    exact Field.exists_spelling hof
  obtain ⟨lines, hlines⟩ := hlines
  unfold Declaration.spelling
  simp only [hlines]
  exact ⟨_, rfl⟩

/-- Companions can be written if each can be spelled. -/
theorem exists_spellAppendix_of_forall {companions : List Declaration}
    (h : ∀ companion ∈ companions, ∃ text, companion.spelling = .ok text) :
    ∃ text, spellAppendix companions = .ok text := by
  induction companions with
  | nil => exact ⟨_, rfl⟩
  | cons companion rest ih =>
      obtain ⟨⟨first, hfirst⟩, hrest⟩ := List.forall_mem_cons.mp h
      obtain ⟨others, hothers⟩ := ih hrest
      rw [spellAppendix, hfirst, hothers]
      exact ⟨_, rfl⟩

/-- A companion can be spelled. -/
theorem SourceUnit.exists_spelling {unit : SourceUnit} {companion : Declaration}
    (h : companion ∈ unit.expand.synthesized) : ∃ text, companion.spelling = .ok text := by
  obtain ⟨declaration, -, -, hmade⟩ := mem_synthesized.mp h
  exact Declaration.exists_spelling hmade

/-- The companions of a unit can always be written. -/
theorem exists_spellAppendix (unit : SourceUnit) :
    ∃ text, spellAppendix unit.expand.synthesized = .ok text :=
  exists_spellAppendix_of_forall fun _ => SourceUnit.exists_spelling

namespace Job

/-! ## The verdict -/

/-- The fault of a job whose source cannot be extended. -/
def unextended (job : Job) (cause : Disk.Cause) : Fault :=
  { cause := .unwritable job.source.text
      ("cannot append update structs: " ++ (Disk.Fault.mk cause job.source.text).message) }

/-- The fault of a job whose module cannot be written. -/
def blocked (job : Job) (cause : Disk.Cause) : Fault :=
  { cause := .unwritable job.target.text
      ("cannot write module: " ++ (Disk.Fault.mk cause job.target.text).message) }

/-- Whether a source is extended: the settings ask for it, and it gets companions. -/
def extendsSource (settings : Settings) (unit : SourceUnit) : Bool :=
  (settings.expand && settings.persist) && !unit.expand.synthesized.isEmpty

/-- Why a job cannot extend its source where it has to, if it cannot. -/
def obstruction? (settings : Settings) (job : Job) (unit : SourceUnit) (disk : Disk) :
    Option Disk.Cause :=
  if extendsSource settings unit then disk.hindrance? job.source else none

/-- How a job ends that has come to writing its module. -/
def outcomeAt (settings : Settings) (job : Job) (unit : SourceUnit) (disk : Disk) : Outcome :=
  match disk.hindrance? job.target with
  | some cause => .failed (job.blocked cause)
  | none => .done (conversion settings unit)

/-- How a job ends that has read its source. -/
def outcomeOf (settings : Settings) (job : Job) (unit : SourceUnit) (disk : Disk) : Outcome :=
  match job.obstruction? settings unit disk with
  | some cause => .failed (job.unextended cause)
  | none => job.outcomeAt settings unit disk

/-- How a job will end, as the disk on which it starts decides it. -/
def verdict (settings : Settings) (disk : Disk) (job : Job) : Outcome :=
  match SourceUnit.ofFile disk job.source with
  | .error fault => .failed fault
  | .ok unit => job.outcomeOf settings unit disk

/-- What a job with an outcome has left at the place of its module. -/
def Outcome.edit? (place : Location) : Outcome → Option Disk.Edit
  | .done conversion => some ⟨place, Text.Utf8.encode conversion.module⟩
  | .failed _ => none

/-- After a job, a place is what it was, or has the module of the job. -/
theorem find?_afterEdit (disk : Disk) (place : Location) (hplace : place ≠ [])
    (outcome : Outcome) (location : Location) :
    (disk.afterEdit (outcome.edit? place)).find? location = disk.find? location
    ∨ ∃ conversion, outcome = .done conversion ∧ location = place
      ∧ (disk.afterEdit (outcome.edit? place)).find? location
        = some (.file (Text.Utf8.encode conversion.module)) := by
  cases outcome with
  | failed fault => exact Or.inl rfl
  | done conversion =>
      by_cases hlocation : location = place
      · refine Or.inr ⟨conversion, rfl, hlocation, ?_⟩
        show (disk.put place _).find? location = _
        rw [hlocation, Disk.find?_put_self, if_neg (by simpa using hplace)]
      · exact Or.inl (Disk.find?_put_of_ne disk _ hlocation)

theorem Sees.refl (job : Job) (disk : Disk) : job.Sees disk disk :=
  ⟨.refl _ _, .refl _ _⟩

/-- What looks the same to a job on two disks and on the next two looks the same on all. -/
theorem Sees.trans {job : Job} {first second third : Disk} (h : job.Sees first second)
    (hnext : job.Sees second third) : job.Sees first third :=
  ⟨h.source.trans hnext.source, h.target.trans hnext.target⟩

/-- A source that is there is there on every disk that looks the same. -/
theorem Sees.present {job : Job} {first second : Disk} (h : job.Sees first second)
    (hpresent : job.Present first) : job.Present second :=
  h.source.isFile.symm.trans hpresent

/-- A job that will be done has the conversion of its source, and nothing hinders it. -/
theorem verdict_eq_done {settings : Settings} {disk : Disk} {job : Job} {conversion : Conversion}
    (h : job.verdict settings disk = .done conversion) :
    disk.hindrance? job.target = none
      ∧ ∃ unit, SourceUnit.ofFile disk job.source = .ok unit
        ∧ conversion = Job.conversion settings unit := by
  unfold verdict at h
  split at h
  · cases h
  · next unit hunit =>
      unfold outcomeOf outcomeAt at h
      split at h
      · cases h
      · split at h
        · cases h
        · next hhindrance => exact ⟨hhindrance, unit, hunit, (Outcome.done.inj h).symm⟩

/-- What is in the way of extending a source is what hinders changing it. -/
theorem obstruction?_congr (settings : Settings) {job : Job} {first second : Disk}
    (h : first.hindrance? job.source = second.hindrance? job.source) (unit : SourceUnit) :
    job.obstruction? settings unit first = job.obstruction? settings unit second := by
  unfold obstruction?
  rw [h]

/-- The verdict depends on the source, on what is in the way of extending it, if it is to be
    extended, and on what hinders writing the module. -/
theorem verdict_congr (settings : Settings) {job : Job} {first second : Disk}
    (hsource : first.read job.source = second.read job.source)
    (hextend : ∀ unit, SourceUnit.ofFile second job.source = .ok unit →
      job.obstruction? settings unit first = job.obstruction? settings unit second)
    (htarget : first.hindrance? job.target = second.hindrance? job.target) :
    job.verdict settings first = job.verdict settings second := by
  unfold verdict
  rw [SourceUnit.ofFile_congr hsource]
  cases hfile : SourceUnit.ofFile second job.source with
  | error fault => rfl
  | ok unit =>
      show job.outcomeOf settings unit first = job.outcomeOf settings unit second
      unfold outcomeOf outcomeAt
      rw [hextend unit hfile, htarget]

/-- A source that is there has a place. -/
theorem Present.locate {job : Job} {disk : Disk} (h : job.Present disk) :
    ∃ place, disk.locate job.source = .ok place := by
  obtain ⟨place, _, hplace⟩ := Disk.isFile_iff.mp h
  exact ⟨place, hplace.locate⟩

/-- The verdict is that of every disk that looks the same to the job. -/
theorem verdict_of_sees (settings : Settings) {job : Job} {first second : Disk} {place : Location}
    (h : job.Sees first second) (hpresent : job.Present first)
    (hplace : first.locate job.target = .ok place) :
    job.verdict settings first = job.verdict settings second := by
  obtain ⟨sourcePlace, hsourcePlace⟩ := hpresent.locate
  exact verdict_congr settings h.source.read
    (fun unit _ => obstruction?_congr settings (h.source.hindrance?_eq hsourcePlace) unit)
    (h.target.hindrance?_eq hplace)

/-! ## The steps -/

/-- How the step ends that extends a source, and what it leaves: the companions behind the
    source, or nothing where it is not to be extended or cannot be. -/
theorem extendSource_eq (settings : Settings) {job : Job} (unit : SourceUnit)
    (progress : Progress) {disk : Disk} (h : job.Present disk) :
    ∃ records edit?, job.extendSource settings unit progress disk
        = (match job.obstruction? settings unit disk with
            | none => progress.next (.extended unit) records
            | some cause => progress.fail (job.unextended cause) records,
          disk.afterEdit edit?)
      ∧ (∀ edit ∈ edit?, extendsSource settings unit = true
        ∧ ∃ text, spellAppendix unit.expand.synthesized = .ok text
          ∧ disk.edit job.source (· ++ Text.Utf8.encode text) = .ok edit)
      ∧ (edit? = none → extendsSource settings unit = true →
        disk.hindrance? job.source ≠ none) := by
  unfold extendSource obstruction? extendsSource
  simp only [appendCompanions_eq]
  cases hpersist : settings.expand && settings.persist with
  | false => exact ⟨_, none, rfl, by simp, by simp⟩
  | true =>
      cases hnone : unit.expand.synthesized.isEmpty with
      | true => exact ⟨_, none, rfl, by simp, by simp⟩
      | false =>
          obtain ⟨text, htext⟩ := exists_spellAppendix unit
          obtain ⟨place, hplace⟩ := h.locate
          have hedit := Disk.edit_of_locate hplace (· ++ Text.Utf8.encode text)
          rw [htext]
          cases hhindrance : disk.hindrance? job.source with
          | some cause =>
              rw [hhindrance] at hedit
              simp only [hedit]
              exact ⟨_, none, rfl, by simp, by simp⟩
          | none =>
              rw [hhindrance] at hedit
              simp only [hedit]
              refine ⟨_, some _, rfl, ?_, by simp⟩
              rintro found ⟨⟩
              exact ⟨rfl, text, rfl, hedit⟩

/-- Writing a module fails if something hinders it, and only then. -/
theorem writeModule_eq (settings : Settings) (job : Job) (unit : SourceUnit)
    (progress : Progress) {disk : Disk} {place : Location}
    (h : disk.locate job.target = .ok place) :
    ∃ records, job.writeModule settings unit progress disk
      = (progress.next (.finished (job.outcomeAt settings unit disk)) records,
        disk.afterEdit ((job.outcomeAt settings unit disk).edit? place)) := by
  have hedit := Disk.edit_of_locate h
    fun _ => Text.Utf8.encode (conversion settings unit).module
  unfold writeModule outcomeAt
  simp only [Disk.write_eq_edit]
  cases hhindrance : disk.hindrance? job.target with
  | some cause =>
      rw [hhindrance] at hedit
      simp only [hedit]
      exact ⟨_, rfl⟩
  | none =>
      rw [hhindrance] at hedit
      simp only [hedit]
      exact ⟨_, rfl⟩

/-! ## Whole jobs -/

section

variable {folder target : Path} {stem other : String} {disk : Disk}

/-- An edit of the source does not change how writing the module ends. -/
theorem outcomeAt_afterEdit (settings : Settings) (unit : SourceUnit) {place : Location}
    {edit? : Option Disk.Edit} (hpresent : (ofStem folder target stem).Present disk)
    (hplace : disk.locate (ofStem folder target stem).target = .ok place)
    (hedits : ∀ edit ∈ edit?, ∃ revise,
      disk.edit (ofStem folder target stem).source revise = .ok edit) :
    let job := ofStem folder target stem
    (disk.afterEdit edit?).locate job.target = .ok place
    ∧ job.outcomeAt settings unit (disk.afterEdit edit?) = job.outcomeAt settings unit disk := by
  intro job
  have hsame : Disk.SameAt job.target disk (disk.afterEdit edit?) := by
    cases edit? with
    | none => exact .refl _ _
    | some edit =>
        obtain ⟨revise, hedit⟩ := hedits edit rfl
        exact Disk.sameAt_child (go_ne_up _) (ts_ne_up _) (go_ne_ts _ _).symm hedit
          (Or.inl hpresent)
  refine ⟨hsame.locate ▸ hplace, ?_⟩
  unfold outcomeAt
  rw [← hsame.hindrance?_eq hplace]

/-- How a job goes on that has read its source. -/
theorem steps_of_read (settings : Settings) {unit : SourceUnit} {progress : Progress}
    {place : Location} (hstage : progress.stage = .read unit)
    (hpresent : (ofStem folder target stem).Present disk)
    (hplace : disk.locate (ofStem folder target stem).target = .ok place) :
    let job := ofStem folder target stem
    let outcome := job.outcomeOf settings unit disk
    (job.steps settings 2 progress disk).1.stage = .finished outcome
    ∧ ((settings.expand && settings.persist) = false →
      (job.steps settings 2 progress disk).2 = disk.afterEdit (outcome.edit? place)) := by
  intro job outcome
  obtain ⟨records, edit?, hextend, hmade, -⟩ :=
    extendSource_eq settings unit progress hpresent
  have hedits : ∀ edit ∈ edit?, ∃ revise, disk.edit job.source revise = .ok edit := by
    intro edit hin
    obtain ⟨-, text, -, hedit⟩ := hmade edit hin
    exact ⟨_, hedit⟩
  have hnone : (settings.expand && settings.persist) = false → edit? = none := by
    intro hpersist
    refine Option.eq_none_iff_forall_not_mem.mpr fun edit hin => ?_
    have hextends := (hmade edit hin).1
    unfold extendsSource at hextends
    rw [hpersist] at hextends
    cases hextends
  have hfirst : job.steps settings 2 progress disk
      = job.steps settings 1 (job.extendSource settings unit progress disk).1
        (job.extendSource settings unit progress disk).2 := by
    rw [steps, step, hstage]
  rw [hfirst, hextend]
  cases hobstruction : job.obstruction? settings unit disk with
  | some cause =>
      have houtcome : outcome = .failed (job.unextended cause) := by
        show job.outcomeOf settings unit disk = _
        rw [outcomeOf, hobstruction]
      rw [houtcome]
      refine ⟨rfl, fun hpersist => ?_⟩
      rw [hnone hpersist]
      rfl
  | none =>
      have houtcome : outcome = job.outcomeAt settings unit disk := by
        show job.outcomeOf settings unit disk = _
        rw [outcomeOf, hobstruction]
      obtain ⟨hlocate, hafter⟩ := outcomeAt_afterEdit settings unit hpresent hplace hedits
      obtain ⟨more, hwrite⟩ := writeModule_eq settings job unit
        (progress.next (.extended unit) records) hlocate
      have hsecond : job.steps settings 1 (progress.next (.extended unit) records)
            (disk.afterEdit edit?)
          = job.writeModule settings unit (progress.next (.extended unit) records)
            (disk.afterEdit edit?) := rfl
      rw [hsecond, hwrite, hafter, houtcome]
      refine ⟨rfl, fun hpersist => ?_⟩
      rw [hnone hpersist]
      rfl

/-- A job ends as the verdict says.  If sources are not extended, it leaves its module
    and nothing else. -/
theorem run_eq_verdict (settings : Settings) {place : Location}
    (hpresent : (ofStem folder target stem).Present disk)
    (hplace : disk.locate (ofStem folder target stem).target = .ok place) :
    let job := ofStem folder target stem
    (job.run settings disk).1.stage = .finished (job.verdict settings disk)
    ∧ ((settings.expand && settings.persist) = false →
      (job.run settings disk).2 = disk.afterEdit ((job.verdict settings disk).edit? place)) := by
  intro job
  have hfirst : job.run settings disk
      = job.steps settings 2 (job.readSource {} disk).1 (job.readSource {} disk).2 := rfl
  rw [hfirst]
  unfold verdict readSource
  cases SourceUnit.ofFile disk job.source with
  | error fault => exact ⟨rfl, fun _ => rfl⟩
  | ok unit => exact steps_of_read settings rfl hpresent hplace

/-- What all edits of a job keep, the whole job keeps. -/
theorem kept_of_edits {job : Job} (holds : Disk → Prop)
    (hedits : ∀ disk edit, holds disk → job.Edits disk edit → holds (disk.edited edit))
    (settings : Settings) (count : Nat) (progress : Progress) {disk : Disk} (h : holds disk) :
    holds (job.steps settings count progress disk).2 := by
  induction count generalizing progress disk with
  | zero => exact h
  | succ count ih =>
      obtain ⟨next, edit?, hown, hstep⟩ := step_local settings job progress disk
      rw [steps, hstep disk (.refl _ _)]
      refine ih next ?_
      cases edit? with
      | none => exact h
      | some edit => exact hedits disk edit h (hown edit rfl)

/-- A job does not see what a job with another stem has done. -/
theorem sees_run (settings : Settings) (hne : other ≠ stem)
    (hpresent : (ofStem folder target stem).Present disk)
    (hother : (ofStem folder target other).Present disk) :
    (ofStem folder target other).Sees disk ((ofStem folder target stem).run settings disk).2 := by
  refine (kept_of_edits (fun after => (ofStem folder target stem).Present after
    ∧ (ofStem folder target other).Sees disk after) ?_ settings stepCount {}
    ⟨hpresent, .refl _ _⟩).2
  rintro after edit ⟨hafter, hsees⟩ hedit
  exact ⟨present_of_edits hafter hedit,
    hsees.trans (sees_of_edits hne hafter (hsees.present hother) hedit)⟩

end

/-! ## One job after the other -/

theorem runAll_cons (settings : Settings) (job : Job) (rest : List Job) (disk : Disk) :
    runAll settings (job :: rest) disk
      = ((job, (job.run settings disk).1) :: (runAll settings rest (job.run settings disk).2).1,
        (runAll settings rest (job.run settings disk).2).2) := by
  rw [runAll]

/-- What all edits of all jobs keep, the jobs keep one after the other. -/
theorem runAll_kept_of_edits (holds : Disk → Prop)
    (hedits : ∀ (job : Job) disk edit, holds disk → job.Edits disk edit → holds (disk.edited edit))
    (settings : Settings) (jobs : List Job) {disk : Disk} (h : holds disk) :
    holds (runAll settings jobs disk).2 := by
  induction jobs generalizing disk with
  | nil => exact h
  | cons job rest ih => exact ih (kept_of_edits holds (hedits job) settings stepCount {} h)

/-- Jobs let a disk grow. -/
theorem grows_runAll (settings : Settings) (jobs : List Job) (disk : Disk) :
    Disk.Grows (fun _ => True) disk (runAll settings jobs disk).2 := by
  refine runAll_kept_of_edits (Disk.Grows (fun _ => True) disk) ?_ settings jobs (.refl _ disk)
  rintro job after edit h ⟨path, revise, -, hedit⟩
  exact h.trans ((Disk.grows_edited (Disk.edit_eq_ok.mp hedit).2.1).mono fun _ _ => True.intro)

/-- Jobs make no folders. -/
theorem foldersFrom_runAll (made : Location → Prop) (settings : Settings) (jobs : List Job)
    (disk : Disk) : Disk.FoldersFrom made disk (runAll settings jobs disk).2 := by
  refine runAll_kept_of_edits (Disk.FoldersFrom made disk) ?_ settings jobs (.refl made disk)
  intro job after edit h _
  exact h.trans (.edited made after edit)

section

variable {folder target : Path} {stems : List String} {start disk : Disk} {around : Location}

/-- What the jobs that are still to come find: their sources and the places of their
    modules as they were at the start. -/
structure Unseen (folder target : Path) (stems : List String) (start disk : Disk)
    (around : Location) : Prop where
  distinct : stems.Nodup
  output : start.FolderAt target around
  present : ∀ stem ∈ stems, (ofStem folder target stem).Present start
  sees : ∀ stem ∈ stems, (ofStem folder target stem).Sees start disk

/-- The place of a module is its name in the target folder. -/
theorem Unseen.locate (h : Unseen folder target stems start disk around) (stem : String) :
    start.locate (ofStem folder target stem).target = .ok (around ++ [stem ++ ".ts"]) :=
  h.output.locate_child (ts_ne_up stem)

/-- A job that is run leaves the others unseen. -/
theorem Unseen.next {stem : String} (h : Unseen folder target (stem :: stems) start disk around)
    (settings : Settings) :
    Unseen folder target stems start ((ofStem folder target stem).run settings disk).2 around := by
  obtain ⟨hfresh, hdistinct⟩ := List.nodup_cons.mp h.distinct
  obtain ⟨hpresent, hpresents⟩ := List.forall_mem_cons.mp h.present
  obtain ⟨hsees, hothers⟩ := List.forall_mem_cons.mp h.sees
  refine ⟨hdistinct, h.output, hpresents, fun other hother => ?_⟩
  have hne : other ≠ stem := fun heq => hfresh (heq ▸ hother)
  exact (hothers other hother).trans (sees_run settings hne (hsees.present hpresent)
    ((hothers other hother).present (hpresents other hother)))

/-- The next job ends as if it were alone on the disk of the start. -/
theorem Unseen.run_eq {stem : String} (h : Unseen folder target (stem :: stems) start disk around)
    (settings : Settings) :
    let job := ofStem folder target stem
    (job.run settings disk).1.stage = .finished (job.verdict settings start)
    ∧ ((settings.expand && settings.persist) = false →
      (job.run settings disk).2
        = disk.afterEdit ((job.verdict settings start).edit? (around ++ [stem ++ ".ts"]))) := by
  intro job
  have hsees := h.sees stem List.mem_cons_self
  have hplace := h.locate stem
  have hverdict : job.verdict settings start = job.verdict settings disk :=
    verdict_of_sees settings hsees (h.present stem List.mem_cons_self) hplace
  rw [hverdict]
  exact run_eq_verdict settings (hsees.present (h.present stem List.mem_cons_self))
    (hsees.target.locate ▸ hplace)

/-- Every job of a folder ends as the verdict on the disk of the start says. -/
theorem outcomes_runAll (settings : Settings)
    (h : Unseen folder target stems start disk around) :
    Settings.outcomes (runAll settings (stems.map (ofStem folder target)) disk).1
      = stems.map fun stem =>
        (ofStem folder target stem, (ofStem folder target stem).verdict settings start) := by
  induction stems generalizing disk with
  | nil => rfl
  | cons stem rest ih =>
      have hstage := (h.run_eq settings).1
      have hrest := ih (h.next settings)
      unfold Settings.outcomes at hrest ⊢
      simp only [List.map_cons, runAll_cons]
      rw [List.filterMap_cons_some (by rw [hstage]), hrest]

/-- If sources are not extended, every place is as it was, or it is that of a module
    that was written. -/
theorem find?_runAll (settings : Settings) (hpersist : (settings.expand && settings.persist) = false)
    (h : Unseen folder target stems start disk around) (location : Location) :
    (runAll settings (stems.map (ofStem folder target)) disk).2.find? location
      = disk.find? location
    ∨ ∃ stem ∈ stems, ∃ conversion,
      (ofStem folder target stem).verdict settings start = .done conversion
      ∧ location = around ++ [stem ++ ".ts"]
      ∧ (runAll settings (stems.map (ofStem folder target)) disk).2.find? location
        = some (.file (Text.Utf8.encode conversion.module)) := by
  induction stems generalizing disk with
  | nil => exact Or.inl rfl
  | cons stem rest ih =>
      rw [List.map_cons, runAll_cons]
      rcases ih (h.next settings) with hkept | ⟨other, hother, hmodule⟩
      · have hfirst := find?_afterEdit disk (around ++ [stem ++ ".ts"]) (by simp)
          ((ofStem folder target stem).verdict settings start) location
        rw [← (h.run_eq settings).2 hpersist] at hfirst
        rcases hfirst with hsame | ⟨conversion, hverdict, hlocation, hmodule⟩
        · exact Or.inl (hkept.trans hsame)
        · exact Or.inr
            ⟨stem, List.mem_cons_self, conversion, hverdict, hlocation, hkept.trans hmodule⟩
      · exact Or.inr ⟨other, List.mem_cons_of_mem stem hother, hmodule⟩

end

end Job

end StructScript
