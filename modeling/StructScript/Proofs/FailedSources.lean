import StructScript.Proofs.Foretold

/-! # What failures leave of their sources

    A job that extends its source does so before it writes its module, and nothing takes the
    extension back if the module cannot be written.

    * `Job.FailsBy` says by which cause a job fails: its source is at fault, or something
      hinders extending it, or something hinders writing the module;
    * `Settings.appendix` is what is appended to the source of a unit, and `Job.addition`
      what a job appends, as the disk of the start tells it;
    * `Job.SourceStands` says what stands at the source of a job at each of its stages, and
      `Job.SourceStands.step` that a step keeps this up; other jobs do not see the source;
    * `Settings.Round.fileAt_source` follows every source to the end of the run: it is
      what it was, with the addition behind it.

    So a source whose job failed is as it was unless companions were put behind it, and then
    the failure is that of the module (`Settings.failed_sources_kept_unless_extended`). -/

namespace StructScript

/-! ## What is appended -/

namespace Text.Utf8

theorem length_toList_loop (bytes : ByteArray) (index : Nat) (found : List UInt8) :
    (ByteArray.toList.loop bytes index found).length = bytes.size - index + found.length := by
  fun_induction ByteArray.toList.loop bytes index found with
  | case1 index found hindex ih =>
      rw [ih, List.length_cons]
      omega
  | case2 index found hindex =>
      rw [List.length_reverse]
      omega

/-- Only the empty text has no bytes. -/
theorem encode_eq_nil_iff {text : String} : encode text = [] ↔ text = "" := by
  have hlength : (encode text).length = text.utf8ByteSize := by
    unfold encode ByteArray.toList
    rw [length_toList_loop]
    rfl
  rw [← List.length_eq_zero_iff, hlength, String.utf8ByteSize_eq_zero_iff]

end Text.Utf8

/-- Only for no companions is there nothing to append. -/
theorem spellAppendix_eq_empty_iff {companions : List Declaration} {text : String}
    (h : spellAppendix companions = .ok text) : text = "" ↔ companions = [] := by
  cases companions with
  | nil =>
      cases h
      exact iff_of_true rfl rfl
  | cons companion rest =>
      rw [spellAppendix] at h
      split at h
      · obtain ⟨others, -, rfl⟩ := map_eq_ok.mp h
        refine iff_of_false (fun hempty => ?_) (List.cons_ne_nil _ _)
        have hchars := congrArg String.toList hempty
        simp at hchars
      · cases h

/-- The bytes that are appended to the source of a unit, if that is asked for. -/
def Settings.appendix (settings : Settings) (unit : SourceUnit) : List UInt8 :=
  if settings.expand && settings.persist then
    match spellAppendix unit.expand.synthesized with
    | .ok text => Text.Utf8.encode text
    | .error _ => []
  else []

/-- Where sources are extended, the appendix is the text of the companions, and there is none
    without companions. -/
theorem Settings.appendix_of_persist {settings : Settings} (unit : SourceUnit)
    (hpersist : (settings.expand && settings.persist) = true) :
    ∃ text, spellAppendix unit.expand.synthesized = .ok text
      ∧ settings.appendix unit = Text.Utf8.encode text
      ∧ (settings.appendix unit = [] ↔ unit.expand.synthesized = []) := by
  obtain ⟨text, htext⟩ := exists_spellAppendix unit
  have happendix : settings.appendix unit = Text.Utf8.encode text := by
    rw [Settings.appendix, if_pos hpersist, htext]
  refine ⟨text, htext, happendix, ?_⟩
  rw [happendix, Text.Utf8.encode_eq_nil_iff, spellAppendix_eq_empty_iff htext]

/-- Where it is asked for, sources that get companions are extended. -/
theorem Job.extendsSource_iff {settings : Settings} {unit : SourceUnit}
    (hpersist : (settings.expand && settings.persist) = true) :
    extendsSource settings unit = true ↔ unit.expand.synthesized ≠ [] := by
  unfold extendsSource
  rw [hpersist, Bool.true_and, Bool.not_eq_true', Bool.eq_false_iff, ne_eq, List.isEmpty_iff]

/-- Nothing is appended where a source is not to be extended. -/
theorem Settings.appendix_eq_nil {settings : Settings} {unit : SourceUnit}
    (h : Job.extendsSource settings unit ≠ true) : settings.appendix unit = [] := by
  by_cases hpersist : (settings.expand && settings.persist) = true
  · obtain ⟨-, -, -, hnil⟩ := settings.appendix_of_persist unit hpersist
    rw [ne_eq, Job.extendsSource_iff hpersist, ne_eq, Decidable.not_not] at h
    exact hnil.mpr h
  · rw [Settings.appendix, if_neg hpersist]

/-- Whether a run that extends sources extends the one of a path: companions are made for it,
    and nothing hinders putting them behind it. -/
def Settings.Extended (disk : Disk) (path : Path) : Prop :=
  ∃ unit, SourceUnit.ofFile disk path = .ok unit ∧ unit.expand.synthesized ≠ []
    ∧ disk.hindrance? path = none

namespace Job

/-- Whether a job fails with a fault, by what the disk on which it starts tells. -/
inductive FailsBy (disk : Disk) (job : Job) : Fault → Prop where
  /-- The source cannot be read, or it is no Go file. -/
  | source {fault : Fault} : SourceUnit.ofFile disk job.source = .error fault →
      FailsBy disk job fault
  /-- The source has companions, but they cannot be put behind it. -/
  | extending {unit : SourceUnit} {cause : Disk.Cause} :
      SourceUnit.ofFile disk job.source = .ok unit → unit.expand.synthesized ≠ [] →
      disk.hindrance? job.source = some cause → FailsBy disk job (job.unextended cause)
  /-- The module cannot be written. -/
  | module {unit : SourceUnit} {cause : Disk.Cause} :
      SourceUnit.ofFile disk job.source = .ok unit →
      (unit.expand.synthesized ≠ [] → disk.hindrance? job.source = none) →
      FailsBy disk job (job.blocked cause)

/-- Why a job fails depends on the source, and on what hinders changing it. -/
theorem FailsBy.congr {first second : Disk} {job : Job} {fault : Fault}
    (h : job.FailsBy first fault) (hsource : first.read job.source = second.read job.source)
    (hextend : first.hindrance? job.source = second.hindrance? job.source) :
    job.FailsBy second fault := by
  have hunit := SourceUnit.ofFile_congr hsource
  cases h with
  | source hfault => exact .source (hunit ▸ hfault)
  | extending hread hsome hcause => exact .extending (hunit ▸ hread) hsome (hextend ▸ hcause)
  | module hread hfree => exact .module (hunit ▸ hread) fun hsome => hextend ▸ hfree hsome

/-- The module of a source that is extended is to blame for the failure. -/
theorem FailsBy.of_extended {disk : Disk} {job : Job} {fault : Fault} (h : job.FailsBy disk fault)
    (hextended : Settings.Extended disk job.source) : ∃ cause, fault = job.blocked cause := by
  obtain ⟨unit, hunit, -, hfree⟩ := hextended
  cases h with
  | source hfault => cases hunit.symm.trans hfault
  | extending _ _ hcause => cases hfree.symm.trans hcause
  | module _ _ => exact ⟨_, rfl⟩

/-- A source that has companions and cannot be changed is itself to blame. -/
theorem FailsBy.of_hindrance {disk : Disk} {job : Job} {fault : Fault} (h : job.FailsBy disk fault)
    {unit : SourceUnit} (hunit : SourceUnit.ofFile disk job.source = .ok unit)
    (hsome : unit.expand.synthesized ≠ []) {cause : Disk.Cause}
    (hcause : disk.hindrance? job.source = some cause) : fault = job.unextended cause := by
  cases h with
  | source hfault => cases hunit.symm.trans hfault
  | extending _ _ hfound => rw [Option.some.inj (hcause.symm.trans hfound)]
  | module hread hfree =>
      cases hunit.symm.trans hread
      cases (hfree hsome).symm.trans hcause

/-- A job that will fail, where sources are extended, fails by one of the causes. -/
theorem failsBy_of_verdict {settings : Settings} {disk : Disk} {job : Job} {fault : Fault}
    (hpersist : (settings.expand && settings.persist) = true)
    (h : job.verdict settings disk = .failed fault) : job.FailsBy disk fault := by
  unfold verdict at h
  split at h
  · next found hfault => exact Outcome.failed.inj h ▸ .source hfault
  · next unit hunit =>
      unfold outcomeOf at h
      split at h
      · next cause hobstruction =>
          unfold obstruction? at hobstruction
          split at hobstruction
          · next hextends =>
              exact Outcome.failed.inj h ▸
                .extending hunit ((extendsSource_iff hpersist).mp hextends) hobstruction
          · cases hobstruction
      · next hobstruction =>
          have hfree : unit.expand.synthesized ≠ [] → disk.hindrance? job.source = none := by
            intro hsome
            unfold obstruction? at hobstruction
            rwa [if_pos ((extendsSource_iff hpersist).mpr hsome)] at hobstruction
          unfold outcomeAt at h
          split at h
          · exact Outcome.failed.inj h ▸ .module hunit hfree
          · cases h

/-- What a job appends to its source, as the disk on which it starts tells it. -/
def addition (settings : Settings) (start : Disk) (job : Job) : List UInt8 :=
  match SourceUnit.ofFile start job.source with
  | .ok unit => if start.hindrance? job.source = none then settings.appendix unit else []
  | .error _ => []

/-- To a source with a unit its appendix is added, if nothing hinders that. -/
theorem addition_of_unit (settings : Settings) {start : Disk} {job : Job} {unit : SourceUnit}
    (h : SourceUnit.ofFile start job.source = .ok unit) :
    job.addition settings start
      = if start.hindrance? job.source = none then settings.appendix unit else [] := by
  unfold addition
  rw [h]

/-- Nothing is added to a source without a unit. -/
theorem addition_of_fault (settings : Settings) {start : Disk} {job : Job} {fault : Fault}
    (h : SourceUnit.ofFile start job.source = .error fault) :
    job.addition settings start = [] := by
  unfold addition
  rw [h]

/-- Where sources are extended, there is an addition to those that are. -/
theorem addition_eq_nil_iff {settings : Settings} {disk : Disk} {job : Job}
    (hpersist : (settings.expand && settings.persist) = true) :
    job.addition settings disk = [] ↔ ¬ Settings.Extended disk job.source := by
  unfold addition Settings.Extended
  split
  · next unit hunit =>
      obtain ⟨-, -, -, hnil⟩ := settings.appendix_of_persist unit hpersist
      constructor
      · rintro hempty ⟨found, hfound, hsome, hfree⟩
        cases hunit.symm.trans hfound
        rw [if_pos hfree] at hempty
        exact hsome (hnil.mp hempty)
      · intro hnot
        split
        · next hfree =>
            refine hnil.mpr (Decidable.byContradiction fun hsome => ?_)
            exact hnot ⟨unit, hunit, hsome, hfree⟩
        · rfl
  · next fault hfault =>
      refine iff_of_true rfl ?_
      rintro ⟨unit, hunit, -⟩
      cases hfault.symm.trans hunit

/-- The addition depends on the source, and on what hinders changing it. -/
theorem addition_congr (settings : Settings) {first second : Disk} {job : Job}
    (hsource : first.read job.source = second.read job.source)
    (hextend : first.hindrance? job.source = second.hindrance? job.source) :
    job.addition settings first = job.addition settings second := by
  unfold addition
  rw [SourceUnit.ofFile_congr hsource, hextend]

/-! ## The source at each stage -/

/-- What a job has put behind its source when it has come to a stage. -/
def added (settings : Settings) (start : Disk) (job : Job) : Stage → List UInt8
  | .waiting | .read _ => []
  | .extended _ | .finished _ => job.addition settings start

/-- What is known about the source of a job at a stage: what stood there at the start, with
    what the job has put behind it. -/
structure SourceStands (settings : Settings) (start : Disk) (job : Job) (location : Location)
    (content : List UInt8) (disk : Disk) (stage : Stage) : Prop where
  locks : disk.locks = start.locks
  there : disk.FileAt job.source location (content ++ job.added settings start stage)
  unit : ∀ unit, stage = .read unit → SourceUnit.ofFile start job.source = .ok unit

section

variable {settings : Settings} {start disk : Disk} {job : Job} {location : Location}
  {content : List UInt8} {stage : Stage}

/-- At the start a source is what it is. -/
theorem SourceStands.atStart (h : start.FileAt job.source location content) :
    job.SourceStands settings start location content start .waiting :=
  ⟨rfl, by simpa only [added, List.append_nil] using h, fun found hfound => by cases hfound⟩

/-- It stays so on every disk that looks the same to the job. -/
theorem SourceStands.of_sees {other : Disk}
    (h : job.SourceStands settings start location content disk stage)
    (hsees : job.Sees disk other) :
    job.SourceStands settings start location content other stage :=
  ⟨hsees.source.locks.symm.trans h.locks, hsees.source.fileAt h.there, h.unit⟩

/-- As long as nothing has been put behind it, the source looks as it did. -/
theorem SourceStands.same (h : job.SourceStands settings start location content disk stage)
    (hstart : start.FileAt job.source location content)
    (hnothing : job.added settings start stage = []) :
    disk.read job.source = start.read job.source
      ∧ disk.hindrance? job.source = start.hindrance? job.source := by
  have hthere := h.there
  rw [hnothing, List.append_nil] at hthere
  constructor
  · rw [hthere.read, hstart.read]
    unfold Disk.mayRead
    rw [h.locks]
  · rw [hthere.hindrance?, hstart.hindrance?]
    unfold Disk.mayWrite
    rw [h.locks]

/-- An edit of a file revises what the file holds. -/
theorem fileAt_edited_of_fileAt {path : Path} (hthere : disk.FileAt path location content)
    {revise : List UInt8 → List UInt8} {edit : Disk.Edit}
    (hedit : disk.edit path revise = .ok edit) :
    (disk.edited edit).FileAt path location (revise content) := by
  obtain ⟨hlocate, -, hcontent, -⟩ := Disk.edit_eq_ok.mp hedit
  have hafter := Disk.fileAt_edited hedit
  cases hthere.locate.symm.trans hlocate
  rw [hcontent, hthere.find?] at hafter
  exact hafter

/-- Extending a source puts the addition behind it, and nothing if it cannot be changed. -/
theorem fileAt_extended {unit : SourceUnit} (hunit : SourceUnit.ofFile disk job.source = .ok unit)
    (hthere : disk.FileAt job.source location content) {edit? : Option Disk.Edit}
    (hmade : ∀ edit ∈ edit?, extendsSource settings unit = true
      ∧ ∃ text, spellAppendix unit.expand.synthesized = .ok text
        ∧ disk.edit job.source (· ++ Text.Utf8.encode text) = .ok edit)
    (hnone : edit? = none → extendsSource settings unit = true →
      disk.hindrance? job.source ≠ none) :
    (disk.afterEdit edit?).FileAt job.source location (content ++ job.addition settings disk) := by
  rw [addition_of_unit settings hunit]
  cases edit? with
  | none =>
      have hnothing : (if disk.hindrance? job.source = none then settings.appendix unit else [])
          = [] := by
        split
        · next hfree =>
            refine Settings.appendix_eq_nil fun hextends => ?_
            exact absurd hfree (hnone rfl hextends)
        · rfl
      rw [hnothing, List.append_nil]
      exact hthere
  | some edit =>
      obtain ⟨hextends, text, htext, hedit⟩ := hmade edit rfl
      have hfree : disk.hindrance? job.source = none := by
        obtain ⟨hlocate, hfolder, -, hclear, hput⟩ := Disk.edit_eq_ok.mp hedit
        rw [← Disk.resolve_of_locate hlocate] at hfolder hput
        exact Disk.hindrance?_eq_none.mpr ⟨hclear, hfolder, hput⟩
      have hpersist := (Bool.and_eq_true_iff.mp hextends).1
      rw [if_pos hfree, Settings.appendix, if_pos hpersist, htext]
      exact fileAt_edited_of_fileAt hthere hedit

end

/-- Writing a module ends the job and leaves its source alone. -/
theorem sameAt_writeModule (settings : Settings) {folder target : Path} {stem : String}
    (unit : SourceUnit) (progress : Progress) {disk : Disk}
    (h : (ofStem folder target stem).Present disk) :
    let job := ofStem folder target stem
    ∃ outcome records after, job.writeModule settings unit progress disk
        = (progress.next (.finished outcome) records, after)
      ∧ Disk.SameAt job.source disk after := by
  intro job
  unfold writeModule
  cases hwrite : disk.write job.target (Text.Utf8.encode (conversion settings unit).module) with
  | error fault =>
      simp only [hwrite]
      exact ⟨_, _, disk, rfl, .refl _ _⟩
  | ok after =>
      simp only [hwrite]
      obtain ⟨edit, hedit, rfl⟩ := Disk.write_eq_ok.mp hwrite
      obtain ⟨place, hplace⟩ := h.locate
      exact ⟨_, _, _, rfl, Disk.sameAt_child (ts_ne_up _) (go_ne_up _) (go_ne_ts _ _) hedit
        (Or.inr ⟨place, hplace⟩)⟩

section

variable {settings : Settings} {start disk : Disk} {folder target : Path} {stem : String}
  {location : Location} {content : List UInt8}

/-- Reading a source leaves it as it was.  If it cannot be read, nothing is to be added. -/
theorem SourceStands.readSource {job : Job} {progress : Progress}
    (hstart : start.FileAt job.source location content)
    (h : job.SourceStands settings start location content disk .waiting) :
    job.SourceStands settings start location content (job.readSource progress disk).2
      (job.readSource progress disk).1.stage := by
  obtain ⟨hread, -⟩ := h.same hstart rfl
  have hunit := SourceUnit.ofFile_congr hread
  unfold Job.readSource
  cases hfile : SourceUnit.ofFile disk job.source with
  | ok unit =>
      refine ⟨h.locks, h.there, fun found hfound => ?_⟩
      cases hfound
      exact hunit.symm.trans hfile
  | error fault =>
      have hnothing := addition_of_fault settings (hunit.symm.trans hfile)
      refine ⟨h.locks, ?_, fun found hfound => by cases hfound⟩
      show disk.FileAt job.source location (content ++ job.addition settings start)
      rw [hnothing]
      exact h.there

/-- Extending a source puts the addition behind it. -/
theorem SourceStands.extendSource {unit : SourceUnit} {progress : Progress}
    (hstart : start.FileAt (ofStem folder target stem).source location content)
    (hpresent : (ofStem folder target stem).Present disk)
    (h : (ofStem folder target stem).SourceStands settings start location content disk
      (.read unit)) :
    let job := ofStem folder target stem
    job.SourceStands settings start location content
      (job.extendSource settings unit progress disk).2
      (job.extendSource settings unit progress disk).1.stage := by
  intro job
  obtain ⟨hread, hhindrance⟩ := h.same hstart rfl
  have hunit : SourceUnit.ofFile disk job.source = .ok unit :=
    (SourceUnit.ofFile_congr hread).trans (h.unit unit rfl)
  have hthere : disk.FileAt job.source location content := by
    simpa only [added, List.append_nil] using h.there
  obtain ⟨records, edit?, hstep, hmade, hnone⟩ := extendSource_eq settings unit progress hpresent
  have hextend : job.extendSource settings unit progress disk = _ := hstep
  have hafter := fileAt_extended hunit hthere hmade hnone
  rw [addition_congr settings hread hhindrance] at hafter
  have hlocks : (disk.afterEdit edit?).locks = start.locks := by
    cases edit? with
    | none => exact h.locks
    | some edit => exact h.locks
  rw [hextend]
  cases job.obstruction? settings unit disk with
  | none => exact ⟨hlocks, hafter, fun found hfound => by cases hfound⟩
  | some cause => exact ⟨hlocks, hafter, fun found hfound => by cases hfound⟩

/-- Writing the module leaves the source as it is. -/
theorem SourceStands.writeModule {unit : SourceUnit} {progress : Progress}
    (hpresent : (ofStem folder target stem).Present disk)
    (h : (ofStem folder target stem).SourceStands settings start location content disk
      (.extended unit)) :
    let job := ofStem folder target stem
    job.SourceStands settings start location content
      (job.writeModule settings unit progress disk).2
      (job.writeModule settings unit progress disk).1.stage := by
  intro job
  obtain ⟨outcome, records, after, hwrite, hsame⟩ :
      ∃ outcome records after, job.writeModule settings unit progress disk
          = (progress.next (.finished outcome) records, after)
        ∧ Disk.SameAt job.source disk after :=
    sameAt_writeModule settings unit progress hpresent
  rw [hwrite]
  exact ⟨hsame.locks.symm.trans h.locks, hsame.fileAt h.there,
    fun found hfound => by cases hfound⟩

/-- A step of the job keeps its source what it was, with what has been added. -/
theorem SourceStands.step {progress : Progress}
    (hstart : start.FileAt (ofStem folder target stem).source location content)
    (hpresent : (ofStem folder target stem).Present disk)
    (h : (ofStem folder target stem).SourceStands settings start location content disk
      progress.stage) :
    let job := ofStem folder target stem
    job.SourceStands settings start location content (job.step settings progress disk).2
      (job.step settings progress disk).1.stage := by
  intro job
  unfold Job.step
  cases hstage : progress.stage with
  | waiting =>
      rw [hstage] at h
      exact h.readSource hstart
  | read unit =>
      rw [hstage] at h
      exact h.extendSource hstart hpresent
  | extended unit =>
      rw [hstage] at h
      exact h.writeModule hpresent
  | finished outcome =>
      rw [hstage] at h
      simpa only [hstage] using h

end

end Job

namespace Settings

/-! ## Visits and tours -/

variable {settings : Settings} {start last final : Disk} {visits : List Visit} {visit : Visit}
  {inputPlace outputPlace location : Location} {content : List UInt8}

/-- After a visit, every source is what it was, with the addition behind it. -/
theorem Visit.Placed.fileAt_source {before after : Disk}
    (hplaced : visit.Placed settings before inputPlace outputPlace)
    (h : visit.Leads settings before after) {job : Job} (hjob : job ∈ visit.jobs settings)
    (hthere : visit.ready.FileAt job.source location content) :
    after.FileAt job.source location (content ++ job.addition settings visit.ready) := by
  obtain ⟨htree, hsource, -⟩ := hplaced.ready h
  obtain ⟨stems, -, hjobs, hready⟩ :=
    settings.exists_stems htree visit.folder (visit.target settings)
  obtain ⟨outcome, houtcome⟩ := exists_outcome htree hjob
  have hstage := ((mem_outcomes htree).mp houtcome).2
  have hall : visit.jobs settings = stems.map (Job.ofStem visit.folder (visit.target settings)) :=
    hjobs
  obtain ⟨stem, hstem, rfl⟩ := List.mem_map.mp (hall ▸ hjob)
  have hstands : (Job.ofStem visit.folder (visit.target settings) stem).SourceStands settings
      visit.ready location content (visit.pool settings).disk
      ((visit.pool settings).progress
        (Job.ofStem visit.folder (visit.target settings) stem)).stage :=
    hready.forall_run
      (fun job disk stage => ∀ location content, visit.ready.FileAt job.source location content →
        job.SourceStands settings visit.ready location content disk stage)
      (fun _ _ _ _ hpresent hknown location content hfile =>
        (hknown location content hfile).step hfile hpresent)
      (fun _ _ _ _ hknown hsees location content hfile =>
        (hknown location content hfile).of_sees hsees)
      (fun _ _ location content hfile => .atStart hfile)
      (fun job hmem => hall ▸ Job.Pool.mem_oneByOne.mp hmem) stem hstem location content hthere
  rw [hstage] at hstands
  -- the index, which is written last, is no source
  obtain ⟨revise, edit, hedit, -, rfl⟩ := hplaced.exists_edit h
  obtain ⟨_, -, hkeeps⟩ := hplaced.keeps h
  have hplace := (hkeeps.grows.folderAt hsource).locate_child (Job.go_ne_up stem)
  have hsame := Disk.sameAt_child (by decide) (Job.go_ne_up stem) (Job.go_ne_ts stem "index") hedit
    (Or.inr ⟨_, hplace⟩)
  exact hsame.fileAt hstands.there

/-- At the end of a run, every source is what it was at the start, with the addition of its
    job behind it. -/
theorem Round.fileAt_source (h : Round settings start visits inputPlace outputPlace)
    (htour : settings.Tour start visits last) (hvisit : visit ∈ visits) {text : List UInt8}
    (hfinal : last.write settings.rootIndex text = .ok final) {source : Path}
    (hsource : source ∈ settings.sources start visit.folder)
    (hthere : start.FileAt source location content) :
    final.FileAt source location
      (content ++ (settings.sourceJob visit.folder source).addition settings start) := by
  obtain ⟨before, after, hplaced, hleads, -, hafter⟩ := h.exists_leads htour hvisit
  have hjob : settings.sourceJob visit.folder source ∈ visit.jobs settings :=
    List.mem_map.mpr ⟨source, (h.mem_sources_ready htour hvisit).mpr hsource, rfl⟩
  have hname := (of_mem_sources hsource).1
  have hsame : Disk.SameFile source start visit.ready := by
    rw [hname]
    exact h.same_source htour hvisit source.stem
  have hfile := Disk.isFile_iff.mpr ⟨location, content, hthere⟩
  have hready := (hsame.fileAt location content).mp hthere
  have hadded : (settings.sourceJob visit.folder source).addition settings start
      = (settings.sourceJob visit.folder source).addition settings visit.ready :=
    Job.addition_congr settings (hsame.read_eq hfile) (hsame.hindrance?_eq hfile)
  rw [hadded]
  -- the visit leaves the source with the addition
  have hleft := hplaced.fileAt_source hleads hjob hready
  generalize (settings.sourceJob visit.folder source).addition settings visit.ready = bytes at *
  -- and neither the other visits nor the index of all change it
  have hplace : after.locate source
      = .ok (inputPlace ++ [visit.folder.name] ++ [source.stem ++ ".go"]) := by
    have hchild := ((hplaced.grows hleads).1.folderAt hplaced.source).locate_child
      (Job.go_ne_up source.stem)
    rw [← hname] at hchild
    exact hchild
  have hlater := hafter _ _ hplace ⟨source.stem, Or.inl rfl⟩
  have hlast : last.FileAt source location (content ++ bytes) := (hlater.fileAt _ _).mp hleft
  obtain ⟨edit, hedit, rfl⟩ := Disk.write_eq_ok.mp hfinal
  have hsee : Disk.SameAt source last (last.edited edit) := by
    have hlocate := hlast.locate
    rw [hname] at hlocate ⊢
    exact Disk.sameAt_child (by decide) (Job.go_ne_up source.stem)
      (Job.go_ne_ts source.stem "index") hedit (Or.inr ⟨_, hlocate⟩)
  exact hsee.fileAt hlast

end Settings

/-! ## Runs -/

/-- Whether everything on a disk lies in a folder. -/
def Disk.Nested (disk : Disk) : Prop :=
  ∀ entry ∈ disk.entries, disk.find? entry.1.dropLast = some .folder

/-- On a nested disk every entry lies in a folder. -/
theorem Disk.Nested.folder {disk : Disk} (h : disk.Nested) {location : Location} {name : String}
    {entry : Entry} (hfind : disk.find? (location ++ [name]) = some entry) :
    disk.find? location = some .folder := by
  unfold Disk.find? at hfind
  rw [if_neg (by simp), List.lookup_eq_some_iff] at hfind
  obtain ⟨before, behind, hsplit, -⟩ := hfind
  have hmem : (location ++ [name], entry) ∈ disk.entries := by
    rw [hsplit]
    exact List.mem_append_right before List.mem_cons_self
  have hfolder := h _ hmem
  rw [List.dropLast_concat] at hfolder
  exact hfolder

namespace Settings

/-- A source that is there once the output folder has been made was there before. -/
theorem sameFile_of_start {settings : Settings} {disk start : Disk} (hnested : disk.Nested)
    (htree : start.IsTree) (hinput : disk.look settings.inputFolder = .ok (some .folder))
    (hstart : disk.ensureFolders settings.outputFolder = .ok start) {folder source : Path}
    (hfolder : folder ∈ settings.packageFolders start)
    (hsource : source ∈ settings.sources start folder) : Disk.SameFile source start disk := by
  have hgrows := (Disk.makes_of_ensureFolders hstart).grows
  obtain ⟨inputPlace, hplace⟩ := Disk.exists_folderAt_of_look hinput
  obtain ⟨hname, hthere⟩ :=
    folderAt_of_mem_packageFolders htree (hgrows.folderAt hplace) hfolder
  have hpackage := (mem_packageFolders htree (hgrows.folderAt hplace)).mp hfolder
  obtain ⟨name, hup, rfl⟩ := hpackage.inside
  rw [Path.name_child] at hthere
  refine ⟨hgrows.locks, fun location content => ⟨?_, ?_⟩⟩
  · rw [(of_mem_sources hsource).1]
    rintro ⟨hclear, hlocate, hfile⟩
    cases (hthere.locate_child (Job.go_ne_up _)).symm.trans hlocate
    -- the file was there, so the folder that it lies in was there as well
    have hbefore := (hgrows.files _ _ id).mp hfile
    have hinside : disk.FolderAt (settings.inputFolder.child name) (inputPlace ++ [name]) :=
      ⟨hplace.locate_child hup, hnested.folder hbefore⟩
    exact ⟨hgrows.clear_iff.mp hclear, hinside.locate_child (Job.go_ne_up _), hbefore⟩
  · intro hbefore
    exact (hgrows.fileAt_iff hbefore.locate id).mpr hbefore

/-- A failure is that of a source of a package, by the verdict on it. -/
theorem exists_verdict_of_failure {settings : Settings} {start : Disk} {failure : Failure}
    (h : failure ∈ (settings.summary
      ((settings.packageFolders start).map (settings.foretold start))).failures) :
    ∃ folder ∈ settings.packageFolders start, failure.path ∈ settings.sources start folder
      ∧ (settings.sourceJob folder failure.path).verdict settings start
        = .failed failure.fault := by
  rw [summary_eq] at h
  obtain ⟨account, haccount, hfailure⟩ := List.mem_flatMap.mp h
  obtain ⟨folder, hfolder, rfl⟩ := List.mem_map.mp haccount
  obtain ⟨job, fault, hfailed, rfl⟩ := Report.mem_failures.mp hfailure
  obtain ⟨source, hsource, hentry⟩ := List.mem_map.mp hfailed
  obtain ⟨rfl, hverdict⟩ := Prod.mk.inj hentry
  exact ⟨folder, hfolder, hsource, hverdict⟩

/-- Sources whose jobs failed are as they were, except for companions.  For every run that
    comes to its end with sources to be extended, and every failure that it reports, the
    source is a file that was there before the run, and the failure has one of three causes.
    If the source cannot be read or is no Go file, or if it has companions and cannot be
    changed, it holds the bytes that it held.  If its module cannot be written, the text of
    its companions stands behind them.  So it is as it was exactly if it is not extended. -/
theorem failed_sources_kept_unless_extended (settings : Settings) {session final : Session}
    {report : Report} (htree : session.disk.IsTree) (hnested : session.disk.Nested)
    (hpersist : (settings.expand && settings.persist) = true)
    (hrun : settings.generate.run.run session = (.ok report, final)) :
    ∀ failure ∈ report.failures, ∃ folder location content,
      session.disk.FileAt failure.path location content
      ∧ (settings.sourceJob folder failure.path).FailsBy session.disk failure.fault
      ∧ (final.disk.FileAt failure.path location content ↔ ¬ Extended session.disk failure.path)
      ∧ (Extended session.disk failure.path →
        ∃ cause, failure.fault = (settings.sourceJob folder failure.path).blocked cause)
      ∧ ∀ unit, SourceUnit.ofFile session.disk failure.path = .ok unit →
        session.disk.hindrance? failure.path = none →
        ∃ appendix, spellAppendix unit.expand.synthesized = .ok appendix
          ∧ final.disk.FileAt failure.path location (content ++ Text.Utf8.encode appendix) := by
  obtain ⟨start, visits, last, inputPlace, outputPlace, hstart, -, -, hround, hfolders, htour,
    hfinal, rfl⟩ := exists_round htree ⟨final, hrun, rfl⟩
  obtain ⟨-, -, -, hinput, -⟩ := ends_generate.mp ⟨final, hrun, rfl⟩
  intro failure hfailure
  obtain ⟨folder, hfolder, hsource, hverdict⟩ := exists_verdict_of_failure hfailure
  have hsame := sameFile_of_start hnested hround.tree hinput hstart hfolder hsource
  have hfile := isFile_of_isSource (of_mem_sources hsource).2
  obtain ⟨location, content, hthere⟩ := Disk.isFile_iff.mp hfile
  have hread := hsame.read_eq hfile
  have hextend := hsame.hindrance?_eq hfile
  rw [← hfolders] at hfolder
  obtain ⟨visit, hvisit, rfl⟩ := List.mem_map.mp hfolder
  have hafter := hround.fileAt_source htour hvisit hfinal hsource hthere
  have hadded : (settings.sourceJob visit.folder failure.path).addition settings start
      = (settings.sourceJob visit.folder failure.path).addition settings session.disk :=
    Job.addition_congr settings hread hextend
  have hnothing : (settings.sourceJob visit.folder failure.path).addition settings session.disk = []
      ↔ ¬ Extended session.disk failure.path := Job.addition_eq_nil_iff hpersist
  rw [hadded] at hafter
  have hfails := (Job.failsBy_of_verdict hpersist hverdict).congr hread hextend
  refine ⟨visit.folder, location, content, (hsame.fileAt _ _).mp hthere, hfails, ?_,
    hfails.of_extended, ?_⟩
  · -- the source is as it was if nothing is appended to it
    rw [← hnothing]
    constructor
    · intro hkept
      have hcontent := Option.some.inj (hkept.find?.symm.trans hafter.find?)
      exact List.append_right_eq_self.mp (Entry.file.inj hcontent).symm
    · intro hempty
      rwa [hempty, List.append_nil] at hafter
  · intro unit hunit hfree
    obtain ⟨text, htext, happendix, -⟩ := settings.appendix_of_persist unit hpersist
    have hbytes : (settings.sourceJob visit.folder failure.path).addition settings session.disk
        = if session.disk.hindrance? failure.path = none then settings.appendix unit else [] :=
      Job.addition_of_unit settings hunit
    rw [hbytes, if_pos hfree, happendix] at hafter
    exact ⟨text, htext, hafter⟩

/-- A package with one source, and a folder in the place of its module. -/
def occupiedDisk (source : String) : Disk :=
  { entries :=
      [(["models"], .folder), (["models", "users"], .folder),
       (["models", "users", "user.go"], .file (Text.Utf8.encode source)),
       (["types"], .folder), (["types", "users"], .folder),
       (["types", "users", "user.ts"], .folder)] }

theorem read_occupiedDisk (source : String) :
    (occupiedDisk source).read (usersFolder.child "user.go") = .ok (Text.Utf8.encode source) :=
  rfl

/-- Settings by which sources are extended. -/
def extendingSettings : Settings :=
  { usersSettings with expand := true, persist := true }

/-- A run on the package. -/
def occupiedRun (source : String) : Except Trouble Report × Session :=
  extendingSettings.generate.run.run { disk := occupiedDisk source }

/-- A source with an update. -/
def updatedSource : String :=
  "package users\n\ntype User struct \x7b\n\tName string \x60update:\"\"\x60\n\x7d\n"

/-- The package with an update, where the source is kept from changes. -/
def keptDisk : Disk :=
  { occupiedDisk updatedSource with locks := [(["models", "users", "user.go"], .readOnly)] }

theorem failed_sources_kept_unless_extended_of_user :
    keptDisk.IsTree ∧ keptDisk.Nested
      ∧ ∃ report final failure folder location,
        extendingSettings.generate.run.run { disk := keptDisk } = (.ok report, final)
        ∧ failure ∈ report.failures ∧ failure.path = usersFolder.child "user.go"
        ∧ failure.fault = (extendingSettings.sourceJob folder failure.path).unextended .denied
        ∧ final.disk.FileAt failure.path location (Text.Utf8.encode updatedSource) := by
  have htree : keptDisk.IsTree := ⟨by decide, by decide, by decide⟩
  have hnested : keptDisk.Nested := by
    unfold Disk.Nested
    decide
  have hends : (extendingSettings.generate.run.run { disk := keptDisk }).1.toOption.map
      (·.failures.map (·.path)) = some [usersFolder.child "user.go"] := by
    decide +kernel
  have hunits : (SourceUnit.ofFile keptDisk (usersFolder.child "user.go")).toOption.map
      (·.expand.synthesized.isEmpty) = some false := by
    decide +kernel
  have hlocked : keptDisk.hindrance? (usersFolder.child "user.go") = some .denied := by
    decide +kernel
  -- from here on the run is only a name, and is not evaluated again
  rcases hrun : extendingSettings.generate.run.run { disk := keptDisk } with ⟨answer, final⟩
  rw [hrun] at hends
  obtain ⟨report, hreport, hfailures⟩ := Option.map_eq_some_iff.mp hends
  obtain rfl : answer = .ok report := toOption_eq_some.mp hreport
  obtain ⟨unit, hunit, hsome⟩ := Option.map_eq_some_iff.mp hunits
  have hmem : usersFolder.child "user.go" ∈ report.failures.map (·.path) := by
    rw [hfailures]
    exact List.mem_singleton.mpr rfl
  obtain ⟨failure, hfailure, hpath⟩ := List.mem_map.mp hmem
  obtain ⟨folder, location, content, hthere, hfails, hkept, -⟩ :=
    failed_sources_kept_unless_extended extendingSettings htree hnested rfl hrun failure hfailure
  have hfile : SourceUnit.ofFile keptDisk failure.path = .ok unit :=
    hpath ▸ toOption_eq_some.mp hunit
  have hcompanions : unit.expand.synthesized ≠ [] := by
    intro hempty
    rw [hempty] at hsome
    cases hsome
  rw [← hpath] at hlocked
  have hread : keptDisk.read failure.path = .ok (Text.Utf8.encode updatedSource) := hpath ▸ rfl
  have hcontent : content = Text.Utf8.encode updatedSource := by
    obtain ⟨place, hplace, -⟩ := Disk.read_eq_ok.mp hread
    cases hplace.locate.symm.trans hthere.locate
    exact Entry.file.inj (Option.some.inj (hthere.find?.symm.trans hplace.find?))
  subst hcontent
  refine ⟨htree, hnested, report, final, failure, folder, location, rfl, hfailure, hpath,
    hfails.of_hindrance hfile hcompanions hlocked, hkept.mpr ?_⟩
  rintro ⟨-, -, -, hfree⟩
  cases hlocked.symm.trans hfree

/-- What is put behind the source with an update. -/
def userCompanion : String :=
  "\ntype UserUpdate struct \x7b\n\tName\t\t*string\t\t"
    ++ "\x60json:\"name,omitempty\" bson:\"name,omitempty\"\x60\n\x7d\n"

/-- A source whose module cannot be written is extended all the same. -/
theorem failed_source_is_extended :
    ∃ report, (occupiedRun updatedSource).1 = .ok report
      ∧ report.failures.map (·.path) = [usersFolder.child "user.go"]
      ∧ (occupiedDisk updatedSource).read (usersFolder.child "user.go")
        = .ok (Text.Utf8.encode updatedSource)
      ∧ (occupiedRun updatedSource).2.disk.read (usersFolder.child "user.go")
        = .ok (Text.Utf8.encode (updatedSource ++ userCompanion)) := by
  -- both facts in one, so that the run is evaluated once
  have hboth : ((occupiedRun updatedSource).1.toOption.map (·.failures.map (·.path)),
      ((occupiedRun updatedSource).2.disk.read (usersFolder.child "user.go")).toOption)
      = (some [usersFolder.child "user.go"],
        some (Text.Utf8.encode (updatedSource ++ userCompanion))) := by
    decide +kernel
  obtain ⟨hends, hafter⟩ := Prod.mk.inj hboth
  obtain ⟨report, hreport, hfailures⟩ := Option.map_eq_some_iff.mp hends
  exact ⟨report, toOption_eq_some.mp hreport, hfailures, read_occupiedDisk updatedSource,
    toOption_eq_some.mp hafter⟩

end Settings

end StructScript
