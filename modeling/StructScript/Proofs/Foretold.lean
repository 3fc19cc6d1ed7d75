import StructScript.Proofs.JobVerdict
import StructScript.Proofs.ModulesKept

/-! # A run is told by the disk on which it starts

    The visits of a run come one after the other, and each finds a disk that those before
    it have changed.  What a visit comes to does not depend on that:

    * `Settings.foretold` is the account of a package folder as a disk tells it, with the
      verdict on each source;
    * `Settings.foretold_congr` says what it depends on: the sources of the folder, and
      what hinders writing their modules;
    * a run changes neither.  It makes folders only for packages, right below the output
      folder (`Round.foldersFrom`), and it finds every source and the place of every module
      as it was;
    * so the accounts of all visits are told by the disk of the start
      (`Round.account_eq`). -/

namespace StructScript

namespace Settings

/-- The job for a source of a package. -/
def sourceJob (settings : Settings) (folder source : Path) : Job :=
  ⟨source, settings.modulePath folder source⟩

/-- The account of a package folder, as a disk tells it in advance. -/
def foretold (settings : Settings) (disk : Disk) (folder : Path) : Account where
  folder := folder
  outcomes := (settings.sources disk folder).map fun source =>
    (settings.sourceJob folder source, (settings.sourceJob folder source).verdict settings disk)

/-- The place of a module, whatever is there. -/
theorem resolve_modulePath {settings : Settings} {disk : Disk} {outputPlace : Location}
    (houtput : disk.FolderAt settings.outputFolder outputPlace) {folder : Path}
    (hname : folder.name ≠ "..") (source : Path) :
    (settings.modulePath folder source).resolve disk.here
      = outputPlace ++ [folder.name] ++ [source.stem ++ ".ts"] := by
  unfold modulePath
  rw [Path.resolve_child _ _ (Job.ts_ne_up _), Path.resolve_child _ _ hname,
    Disk.resolve_of_locate houtput.locate]

section

variable {settings : Settings} {first second : Disk} {folder : Path}
  {sourcePlace outputPlace : Location}

/-- What two disks have in common for a package folder. -/
structure AlikeIn (settings : Settings) (folder : Path) (sourcePlace outputPlace : Location)
    (first second : Disk) : Prop where
  trees : first.IsTree ∧ second.IsTree
  named : folder.name ≠ ".."
  folders : first.FolderAt folder sourcePlace ∧ second.FolderAt folder sourcePlace
  outputs : first.FolderAt settings.outputFolder outputPlace
    ∧ second.FolderAt settings.outputFolder outputPlace
  sources : ∀ stem, Disk.SameFile (folder.child (stem ++ ".go")) first second
  modules : ∀ source, first.hindrance? (settings.modulePath folder source)
    = second.hindrance? (settings.modulePath folder source)

/-- Folders that look alike have the same sources. -/
theorem AlikeIn.sources_eq (h : AlikeIn settings folder sourcePlace outputPlace first second) :
    settings.sources first folder = settings.sources second folder := by
  refine eq_of_pairwise_lt (pairwise_lt_sources h.trees.1 folder)
    (pairwise_lt_sources h.trees.2 folder) fun source => ?_
  rw [mem_sources_iff h.folders.1, mem_sources_iff h.folders.2]
  refine and_congr_right ?_
  rintro ⟨stem, rfl⟩
  rw [settings.isSource_congr (h.sources stem).isFile_eq]

theorem AlikeIn.verdict_eq (h : AlikeIn settings folder sourcePlace outputPlace first second)
    {source : Path} (hsource : source ∈ settings.sources first folder) :
    (settings.sourceJob folder source).verdict settings first
      = (settings.sourceJob folder source).verdict settings second := by
  obtain ⟨hname, his⟩ := of_mem_sources hsource
  have hsame : Disk.SameFile source first second := hname ▸ h.sources source.stem
  have hfile := isFile_of_isSource his
  have hextend : first.hindrance? (settings.sourceJob folder source).source
      = second.hindrance? (settings.sourceJob folder source).source := hsame.hindrance?_eq hfile
  exact Job.verdict_congr settings (hsame.read_eq hfile)
    (fun unit _ => Job.obstruction?_congr settings hextend unit) (h.modules source)

/-- The account depends on the sources, and on what hinders writing their modules. -/
theorem foretold_congr (h : AlikeIn settings folder sourcePlace outputPlace first second) :
    settings.foretold first folder = settings.foretold second folder := by
  unfold foretold
  rw [← h.sources_eq]
  refine congrArg (Account.mk folder) (List.map_congr_left fun source hsource => ?_)
  rw [h.verdict_eq hsource]

end

/-! ## Visits -/

namespace Visit

variable {settings : Settings} {visit : Visit} {before after : Disk}
  {inputPlace outputPlace : Location}

/-- The jobs of a visit are known by their stems, and start with nothing done yet. -/
theorem exists_unseen {place : Location} (htree : visit.ready.IsTree)
    (htarget : visit.ready.FolderAt (visit.target settings) place) :
    ∃ stems, visit.jobs settings = stems.map (Job.ofStem visit.folder (visit.target settings))
      ∧ Job.Unseen visit.folder (visit.target settings) stems visit.ready visit.ready place := by
  obtain ⟨stems, hstems, hjobs, hready⟩ :=
    settings.exists_stems htree visit.folder (visit.target settings)
  exact ⟨stems, hjobs, hstems, htarget, hready, fun stem _ => .refl _ _⟩

/-- The account of a visit is told by the disk on which its jobs start. -/
theorem account_eq_foretold {place : Location} (htree : visit.ready.IsTree)
    (htarget : visit.ready.FolderAt (visit.target settings) place) :
    visit.account settings = settings.foretold visit.ready visit.folder := by
  obtain ⟨stems, hjobs, hunseen⟩ := exists_unseen htree htarget
  have houtcomes : visit.outcomes settings
      = (visit.jobs settings).map fun job => (job, job.verdict settings visit.ready) := by
    unfold outcomes result
    rw [hjobs, Job.outcomes_runAll settings hunseen, List.map_map]
    rfl
  unfold account foretold
  rw [houtcomes]
  show Account.mk _ ((List.map _ (settings.sources visit.ready visit.folder)).map _) = _
  rw [List.map_map]
  rfl

/-- A visit makes the folder of its modules and no other. -/
theorem Placed.foldersFrom_ready (hplaced : visit.Placed settings before inputPlace outputPlace)
    (h : visit.Leads settings before after) :
    Disk.FoldersFrom (· = outputPlace ++ [visit.folder.name]) before visit.ready :=
  .ensured hplaced.output hplaced.named h.ready

/-- A visit makes no other folder than its own. -/
theorem Placed.foldersFrom (hplaced : visit.Placed settings before inputPlace outputPlace)
    (h : visit.Leads settings before after) :
    Disk.FoldersFrom (· = outputPlace ++ [visit.folder.name]) before after := by
  obtain ⟨edit, -, rfl⟩ := Disk.write_eq_ok.mp h.index
  exact ((hplaced.foldersFrom_ready h).trans (Job.foldersFrom_runAll _ settings _ _)).trans
    (.edited _ _ edit)

end Visit

/-- The places where visits make folders. -/
def Made (visits : List Visit) (outputPlace location : Location) : Prop :=
  ∃ visit ∈ visits, location = outputPlace ++ [visit.folder.name]

/-! ## Tours -/

namespace Round

variable {settings : Settings} {start last final : Disk} {visits : List Visit} {visit : Visit}
  {inputPlace outputPlace : Location}

/-- A tour makes folders right below the output folder only. -/
theorem foldersFrom (h : Round settings start visits inputPlace outputPlace)
    (htour : settings.Tour start visits last) :
    Disk.FoldersFrom (Made visits outputPlace) start last := by
  induction visits generalizing start with
  | nil => exact htour ▸ .refl _ _
  | cons visit more ih =>
      obtain ⟨between, hvisit, hmore⟩ := htour
      have hfirst := (h.placed List.mem_cons_self).foldersFrom hvisit
      refine (hfirst.mono ?_).trans ((ih (h.next hvisit) hmore).mono ?_)
      · intro location hlocation
        exact ⟨visit, List.mem_cons_self, hlocation⟩
      · rintro location ⟨other, hother, hlocation⟩
        exact ⟨other, List.mem_cons_of_mem _ hother, hlocation⟩

/-- What is two names below a place is not one name below it. -/
theorem below_ne (place : Location) (name file other : String) :
    place ++ [name] ++ [file] ≠ place ++ [other] := by
  intro h
  simpa using congrArg List.length h

/-- No file lies at the place of a folder that was made. -/
theorem not_made {name file : String} :
    ¬ Made visits outputPlace (outputPlace ++ [name] ++ [file]) := by
  rintro ⟨other, -, hlocation⟩
  exact below_ne _ _ _ _ hlocation

/-- A visit finds a folder in the place of a module if one was there at the start. -/
theorem blocked_iff (h : Round settings start visits inputPlace outputPlace)
    (htour : settings.Tour start visits last) (hvisit : visit ∈ visits) (stem : String) :
    visit.ready.find? (outputPlace ++ [visit.folder.name] ++ [stem ++ ".ts"]) = some .folder
      ↔ start.find? (outputPlace ++ [visit.folder.name] ++ [stem ++ ".ts"]) = some .folder := by
  obtain ⟨first, more, rfl⟩ := List.append_of_mem hvisit
  obtain ⟨before, hfirst, after, hleads, -⟩ := tour_append.mp htour
  have hplaced := (h.rest hfirst).placed List.mem_cons_self
  have hfirstRound := h.of_sublist (List.sublist_append_left first _)
  constructor
  · intro hfolder
    rcases hplaced.foldersFrom_ready hleads _ hfolder with hbefore | hmade
    · exact (hfirstRound.foldersFrom hfirst _ hbefore).resolve_right not_made
    · exact absurd hmade (below_ne _ _ _ _)
  · intro hfolder
    exact hleads.makes.grows.folders _ ((hfirstRound.grows hfirst).folders _ hfolder)

/-- A visit finds at the place of a module what was there at the start. -/
theorem find?_module (h : Round settings start visits inputPlace outputPlace)
    (htour : settings.Tour start visits last) (hvisit : visit ∈ visits) (stem : String) :
    visit.ready.find? (outputPlace ++ [visit.folder.name] ++ [stem ++ ".ts"])
      = start.find? (outputPlace ++ [visit.folder.name] ++ [stem ++ ".ts"]) := by
  have hfolder := h.blocked_iff htour hvisit stem
  have hfiles : ∀ content,
      visit.ready.find? (outputPlace ++ [visit.folder.name] ++ [stem ++ ".ts"])
          = some (.file content)
        ↔ start.find? (outputPlace ++ [visit.folder.name] ++ [stem ++ ".ts"])
          = some (.file content) := by
    intro content
    obtain ⟨first, more, rfl⟩ := List.append_of_mem hvisit
    obtain ⟨before, hfirst, after, hleads, -⟩ := tour_append.mp htour
    obtain ⟨-, -, hothers⟩ := List.pairwise_append.mp h.distinct
    have hgrows := (h.of_sublist (List.sublist_append_left first _)).grows hfirst
    refine (hleads.makes.grows.files _ content id).trans (hgrows.files _ content ?_)
    rintro ⟨other, hother, hplace⟩
    exact hothers other hother visit List.mem_cons_self
      (name_eq_of_touches hplace ⟨stem, Or.inr rfl⟩)
  cases hstart : start.find? (outputPlace ++ [visit.folder.name] ++ [stem ++ ".ts"]) with
  | some entry =>
      cases entry with
      | folder => exact hfolder.mpr hstart
      | file content => exact (hfiles content).mpr hstart
  | none =>
      cases hready : visit.ready.find?
          (outputPlace ++ [visit.folder.name] ++ [stem ++ ".ts"]) with
      | none => rfl
      | some entry =>
          cases entry with
          | folder => cases hstart.symm.trans (hfolder.mp hready)
          | file content => cases hstart.symm.trans ((hfiles content).mp hready)

/-- The disk of a visit has the folder in use and the locks of the start. -/
theorem grows_ready (h : Round settings start visits inputPlace outputPlace)
    (htour : settings.Tour start visits last) (hvisit : visit ∈ visits) :
    Disk.Grows (Touched visits inputPlace outputPlace) start visit.ready := by
  obtain ⟨first, more, rfl⟩ := List.append_of_mem hvisit
  obtain ⟨before, hfirst, after, hleads, -⟩ := tour_append.mp htour
  have hgrows := (h.of_sublist (List.sublist_append_left first _)).grows hfirst
  refine (hgrows.mono ?_).trans (hleads.makes.grows.mono fun _ hnothing => hnothing.elim)
  rintro place ⟨other, hother, hplace⟩
  exact ⟨other, List.mem_append_left _ hother, hplace⟩

/-- What hinders writing a module is there from the start. -/
theorem hindrance?_module (h : Round settings start visits inputPlace outputPlace)
    (htour : settings.Tour start visits last) (hvisit : visit ∈ visits) (source : Path) :
    visit.ready.hindrance? (settings.modulePath visit.folder source)
      = start.hindrance? (settings.modulePath visit.folder source) := by
  have hgrows := h.grows_ready htour hvisit
  refine Disk.hindrance?_congr hgrows.here hgrows.locks ?_
  rw [resolve_modulePath (hgrows.folderAt h.output) (h.named visit hvisit)]
  exact h.find?_module htour hvisit source.stem

/-- The account of a visit is told by the disk of the start. -/
theorem account_eq (h : Round settings start visits inputPlace outputPlace)
    (htour : settings.Tour start visits last) (hvisit : visit ∈ visits) :
    visit.account settings = settings.foretold start visit.folder := by
  obtain ⟨before, after, hplaced, hleads, -⟩ := h.exists_leads htour hvisit
  obtain ⟨htree, hfolder, htarget⟩ := hplaced.ready hleads
  rw [Visit.account_eq_foretold htree htarget]
  exact foretold_congr ⟨⟨htree, h.tree⟩, hplaced.named, ⟨hfolder, h.folders visit hvisit⟩,
    ⟨hleads.makes.grows.folderAt hplaced.output, h.output⟩,
    fun stem => (h.same_source htour hvisit stem).symm, h.hindrance?_module htour hvisit⟩

/-- The accounts of visits are those that were foretold. -/
theorem accounts_eq (h : Round settings start visits inputPlace outputPlace)
    (htour : settings.Tour start visits last)
    (hfolders : visits.map Visit.folder = settings.packageFolders start) :
    visits.map (Visit.account settings)
      = (settings.packageFolders start).map (settings.foretold start) := by
  rw [← hfolders, List.map_map]
  exact List.map_congr_left fun visit hvisit => h.account_eq htour hvisit

/-- The module of a source is there at the end, if the index does not go over it. -/
theorem read_module (h : Round settings start visits inputPlace outputPlace)
    (htour : settings.Tour start visits last) (hvisit : visit ∈ visits) {text : List UInt8}
    (hfinal : last.write settings.rootIndex text = .ok final) {source : Path}
    (hsource : source ∈ settings.sources start visit.folder) {conversion : Conversion}
    (hverdict : (settings.sourceJob visit.folder source).verdict settings start = .done conversion)
    (hstem : source.stem ≠ "index") :
    final.read (settings.modulePath visit.folder source)
      = .ok (Text.Utf8.encode conversion.module) := by
  have hdone : (settings.sourceJob visit.folder source, .done conversion)
      ∈ visit.outcomes settings := by
    have houtcomes := congrArg Account.outcomes (h.account_eq htour hvisit)
    rw [show visit.outcomes settings = _ from houtcomes, ← hverdict]
    exact List.mem_map_of_mem hsource
  have hindex : settings.modulePath visit.folder source ≠ settings.folderIndex visit.folder :=
    fun heq => hstem (modulePath_eq_index_iff.mp heq)
  obtain ⟨unit, hunit, hread⟩ := h.read_target htour hvisit hfinal hdone hindex
  obtain ⟨-, found, hfound, rfl⟩ := Job.verdict_eq_done hverdict
  cases hfound.symm.trans hunit
  exact hread

/-- The index of a folder is there at the end. -/
theorem read_index (h : Round settings start visits inputPlace outputPlace)
    (htour : settings.Tour start visits last) (hvisit : visit ∈ visits) {text : List UInt8}
    (hfinal : last.write settings.rootIndex text = .ok final) :
    final.read (settings.folderIndex visit.folder)
      = .ok (Text.Utf8.encode ((visit.account settings).text settings)) := by
  obtain ⟨before, after, hplaced, hleads, -, hafter⟩ := h.exists_leads htour hvisit
  have hread : after.read (settings.folderIndex visit.folder)
      = .ok (Text.Utf8.encode ((visit.account settings).text settings)) := by
    obtain ⟨edit, hedit, rfl⟩ := Disk.write_eq_ok.mp hleads.index
    rw [Disk.read_edited hedit, (Disk.edit_eq_ok.mp hedit).2.2.1]
  obtain ⟨place, ⟨-, hplace, -⟩, -⟩ := Disk.read_eq_ok.mp hread
  have hindex := Visit.locate_target_child ((hplaced.grows hleads).1.folderAt hplaced.output)
    hplaced.named (by decide) hplace
  have hlast := ((hafter _ place hplace ⟨"index", Or.inr hindex⟩).read_iff _).mp hread
  exact h.read_final htour hvisit hfinal (by decide) hlast

end Round

/-! ## Runs -/

/-- What a run that comes to its end consists of, told from the disk of the start. -/
theorem exists_round {settings : Settings} {session : Session} {report : Report} {final : Disk}
    (htree : session.disk.IsTree) (h : Action.Ends settings.generate session report final) :
    ∃ (start : Disk) (visits : List Visit) (last : Disk) (inputPlace outputPlace : Location),
      session.disk.ensureFolders settings.outputFolder = .ok start
      ∧ start.FolderAt settings.inputFolder inputPlace
      ∧ (start.look settings.inputFolder = .ok (some .folder)
        ∧ start.survey settings.inputFolder = .ok ())
      ∧ Round settings start visits inputPlace outputPlace
      ∧ visits.map Visit.folder = settings.packageFolders start
      ∧ settings.Tour start visits last
      ∧ last.write settings.rootIndex (Text.Utf8.encode (Index.rootText (settings.folderDefaults
        ((settings.packageFolders start).map (settings.foretold start))))) = .ok final
      ∧ report
        = settings.summary ((settings.packageFolders start).map (settings.foretold start)) := by
  obtain ⟨start, visits, last, hlook, hstart, hsurvey, hfolders, htour, hfinal, rfl⟩ :=
    ends_generate.mp h
  have hmakes := Disk.makes_of_ensureFolders hstart
  obtain ⟨outputPlace, houtput⟩ := hmakes.folder
  obtain ⟨inputPlace, hinput⟩ := Disk.exists_folderAt_of_look hlook
  have hthere := hmakes.grows.folderAt hinput
  have hround : Round settings start visits inputPlace outputPlace :=
    round_of_packageFolders (hmakes.tree htree) hthere houtput hfolders
  have haccounts := hround.accounts_eq htour hfolders
  rw [haccounts] at hfinal ⊢
  exact ⟨start, visits, last, inputPlace, outputPlace, hstart, hthere,
    ⟨hmakes.grows.look_folder hlook, hsurvey⟩, hround, hfolders, htour, hfinal, rfl⟩

end Settings

end StructScript
