import StructScript.Proofs.Foretold

/-! # A second run changes nothing

    A run reads and writes one disk, and the output folder may be anywhere on it, so a
    second run sees what the first has made.  If sources are not extended, it makes no
    difference:

    * `Settings.Left` says what a run leaves: the files that it wrote have the ending of
      modules, the folders that it made are those of packages, right below the output
      folder, all are where they can be put again, and each file that it wrote holds what
      it wrote last;
    * `Left.packageFolders_eq` and `Left.alike` say that neither of these is a package or a
      source, or is in the way of a module, that was none before;
    * so a visit writes what is there already (`Left.exists_leads`), except that the index
      of a folder may first be gone over by a module and is then restored. -/

namespace StructScript

namespace Settings

/-- Whether a place has the ending of modules. -/
def IsScript (place : Location) : Prop :=
  ∃ around stem, place = around ++ [stem ++ ".ts"]

/-- A source is no script. -/
theorem not_isScript_go (around : Location) (stem : String) :
    ¬ IsScript (around ++ [stem ++ ".go"]) := by
  rintro ⟨other, otherStem, h⟩
  exact Job.go_ne_ts _ _ (List.cons.inj (List.append_inj' h rfl).2).1

/-! ## What a run leaves -/

namespace Visit

variable {settings : Settings} {visit : Visit} {before after : Disk}
  {inputPlace outputPlace : Location}

/-- If sources are not extended, the jobs of a visit leave every place as it was, or with
    a module. -/
theorem find?_result (visit : Visit) (hpersist : (settings.expand && settings.persist) = false)
    {place : Location} (htree : visit.ready.IsTree)
    (htarget : visit.ready.FolderAt (visit.target settings) place) (location : Location) :
    (visit.result settings).2.find? location = visit.ready.find? location
    ∨ ∃ source ∈ settings.sources visit.ready visit.folder, ∃ conversion,
      (settings.sourceJob visit.folder source).verdict settings visit.ready = .done conversion
      ∧ location = place ++ [source.stem ++ ".ts"]
      ∧ (visit.result settings).2.find? location
        = some (.file (Text.Utf8.encode conversion.module)) := by
  obtain ⟨stems, hjobs, hunseen⟩ := exists_unseen htree htarget
  have hrun := Job.find?_runAll settings hpersist hunseen location
  rw [← hjobs] at hrun
  refine hrun.imp_right ?_
  rintro ⟨stem, hstem, conversion, hverdict, hlocation, hmodule⟩
  have hjob : Job.ofStem visit.folder (visit.target settings) stem ∈ visit.jobs settings :=
    hjobs ▸ List.mem_map_of_mem hstem
  obtain ⟨source, hsource, hsame⟩ := List.mem_map.mp hjob
  have hname : source.stem ++ ".ts" = stem ++ ".ts" :=
    (Path.child_inj.mp (congrArg Job.target hsame)).2
  refine ⟨source, hsource, conversion, ?_, ?_, hmodule⟩
  · rw [← hverdict, ← hsame]
    rfl
  · rw [hlocation, hname]

/-- If sources are not extended, a visit writes modules and their index only. -/
theorem Placed.grows_scripts (hpersist : (settings.expand && settings.persist) = false)
    (hplaced : visit.Placed settings before inputPlace outputPlace)
    (h : visit.Leads settings before after) : Disk.Grows IsScript before after := by
  obtain ⟨htree, -, htarget⟩ := hplaced.ready h
  obtain ⟨hgrows, -⟩ := hplaced.grows h
  refine ⟨hgrows.here, hgrows.locks, hgrows.folders, fun location content hscript => ?_⟩
  obtain ⟨edit, hedit, rfl⟩ := Disk.write_eq_ok.mp h.index
  obtain ⟨around, -, hlocation⟩ := Disk.location_of_edit_child (by decide) hedit
  have hindex : location ≠ edit.location :=
    fun heq => hscript ⟨around, "index", heq.trans hlocation⟩
  have hjobs : (visit.result settings).2.find? location = visit.ready.find? location := by
    refine (find?_result visit hpersist htree htarget location).resolve_right ?_
    rintro ⟨source, -, conversion, -, hplace, -⟩
    exact hscript ⟨_, _, hplace⟩
  rw [Disk.find?_edited_of_ne _ hindex, hjobs]
  exact h.makes.grows.files location content id

/-- If sources are not extended, what the jobs of a visit put on the disk are modules that
    nothing hinders. -/
theorem fills_result (visit : Visit) (hpersist : (settings.expand && settings.persist) = false)
    {place : Location} (htree : visit.ready.IsTree)
    (htarget : visit.ready.FolderAt (visit.target settings) place) :
    Disk.Fills visit.ready (visit.result settings).2 := by
  refine ⟨Job.grows_runAll settings _ _, fun location hthere => ?_, fun location hthere => ?_⟩
  · rcases find?_result visit hpersist htree htarget location with
      hkept | ⟨_, _, _, _, _, hmodule⟩
    · exact hkept ▸ hthere
    · simp [hmodule]
  · rcases find?_result visit hpersist htree htarget location with
      hkept | ⟨source, -, conversion, hverdict, rfl, -⟩
    · exact Or.inl (hkept ▸ hthere)
    · obtain ⟨hclear, -, hput⟩ := Disk.hindrance?_eq_none.mp (Job.verdict_eq_done hverdict).1
      have hresolve : (settings.sourceJob visit.folder source).target.resolve visit.ready.here
          = place ++ [source.stem ++ ".ts"] :=
        Disk.resolve_of_locate (htarget.locate_child (Job.ts_ne_up _))
      exact Disk.Fills.takes_of_mayPut htarget.locate (Job.ts_ne_up _) hclear (hresolve ▸ hput)

/-- So is everything that a visit puts there, before and after its sources are looked at. -/
theorem Placed.fills (hpersist : (settings.expand && settings.persist) = false)
    (hplaced : visit.Placed settings before inputPlace outputPlace)
    (h : visit.Leads settings before after) :
    Disk.Fills before visit.ready ∧ Disk.Fills visit.ready after := by
  obtain ⟨htree, -, htarget⟩ := hplaced.ready h
  obtain ⟨edit, hedit, rfl⟩ := Disk.write_eq_ok.mp h.index
  exact ⟨.ensured hplaced.output hplaced.named h.ready,
    (fills_result visit hpersist htree htarget).trans (.edited (by decide) hedit)⟩

end Visit

/-- A round that keeps its companions to itself writes scripts only. -/
theorem Round.grows_scripts {settings : Settings}
    (hpersist : (settings.expand && settings.persist) = false) {start last : Disk}
    {visits : List Visit} {inputPlace outputPlace : Location}
    (h : Round settings start visits inputPlace outputPlace)
    (htour : settings.Tour start visits last) : Disk.Grows IsScript start last := by
  induction visits generalizing start with
  | nil => exact htour ▸ .refl _ _
  | cons visit more ih =>
      obtain ⟨between, hvisit, hmore⟩ := htour
      exact ((h.placed List.mem_cons_self).grows_scripts hpersist hvisit).trans
        (ih (h.next hvisit) hmore)

/-- It takes no file away. -/
theorem Round.fills {settings : Settings}
    (hpersist : (settings.expand && settings.persist) = false) {start last : Disk}
    {visits : List Visit} {inputPlace outputPlace : Location}
    (h : Round settings start visits inputPlace outputPlace)
    (htour : settings.Tour start visits last) : Disk.Fills start last := by
  induction visits generalizing start with
  | nil => exact htour ▸ .refl _
  | cons visit more ih =>
      obtain ⟨between, hvisit, hmore⟩ := htour
      obtain ⟨hready, hafter⟩ := (h.placed List.mem_cons_self).fills hpersist hvisit
      exact (hready.trans hafter).trans (ih (h.next hvisit) hmore)

/-- A package that was looked over can be looked over again. -/
theorem Round.survey {settings : Settings}
    (hpersist : (settings.expand && settings.persist) = false) {start last : Disk}
    {visits : List Visit} {inputPlace outputPlace : Location}
    (h : Round settings start visits inputPlace outputPlace)
    (htour : settings.Tour start visits last) {visit : Visit} (hvisit : visit ∈ visits) :
    last.survey visit.folder = .ok () := by
  obtain ⟨first, more, rfl⟩ := List.append_of_mem hvisit
  obtain ⟨before, hfirst, after, hleads, hmore⟩ := tour_append.mp htour
  have hrest := h.rest hfirst
  obtain ⟨-, hafter⟩ := (hrest.placed List.mem_cons_self).fills hpersist hleads
  exact (hafter.trans ((hrest.next hleads).fills hpersist hmore)).survey hleads.surveyed

/-- What a run on a disk leaves, if it does not extend sources. -/
structure Left (settings : Settings) (start : Disk) (inputPlace outputPlace : Location)
    (disk : Disk) : Prop where
  base : start.IsTree
  input : start.FolderAt settings.inputFolder inputPlace
  output : start.FolderAt settings.outputFolder outputPlace
  tree : disk.IsTree
  grows : Disk.Grows IsScript start disk
  fills : Disk.Fills start disk
  looked : start.look settings.inputFolder = .ok (some .folder)
  surveyed : ∀ path ∈ settings.inputFolder :: settings.packageFolders start,
    disk.survey path = .ok ()
  clear : start.Clear settings.outputFolder
    ∧ ∀ folder ∈ settings.packageFolders start,
      start.Clear (settings.outputFolder.child folder.name)
  free : disk.hindrance? settings.rootIndex = none
    ∧ ∀ folder ∈ settings.packageFolders start,
      disk.hindrance? (settings.folderIndex folder) = none
  made : Disk.FoldersFrom
    (fun location => ∃ folder ∈ settings.packageFolders start,
      location = outputPlace ++ [folder.name]) start disk
  target : ∀ folder ∈ settings.packageFolders start,
    disk.find? (outputPlace ++ [folder.name]) = some .folder
  modules : ∀ folder ∈ settings.packageFolders start, ∀ source ∈ settings.sources start folder,
    ∀ conversion, (settings.sourceJob folder source).verdict settings start = .done conversion →
      source.stem ≠ "index" →
      disk.find? (outputPlace ++ [folder.name] ++ [source.stem ++ ".ts"])
        = some (.file (Text.Utf8.encode conversion.module))
  indexes : ∀ folder ∈ settings.packageFolders start,
    disk.find? (outputPlace ++ [folder.name] ++ [Index.fileName])
      = some (.file (Text.Utf8.encode ((settings.foretold start folder).text settings)))
  root : disk.find? (outputPlace ++ [Index.fileName])
    = some (.file (Text.Utf8.encode (Index.rootText (settings.folderDefaults
        ((settings.packageFolders start).map (settings.foretold start))))))

namespace Round

variable {settings : Settings} {start last final : Disk} {visits : List Visit} {visit : Visit}
  {inputPlace outputPlace : Location} {text : List UInt8}

/-- The index of a folder at the end, by its place. -/
theorem find?_index (h : Round settings start visits inputPlace outputPlace)
    (htour : settings.Tour start visits last) (hvisit : visit ∈ visits)
    (houtput : final.FolderAt settings.outputFolder outputPlace)
    (hfinal : last.write settings.rootIndex text = .ok final) :
    final.find? (outputPlace ++ [visit.folder.name]) = some .folder
    ∧ final.find? (outputPlace ++ [visit.folder.name] ++ [Index.fileName])
      = some (.file (Text.Utf8.encode ((settings.foretold start visit.folder).text settings))) := by
  have hread := h.read_index htour hvisit hfinal
  rw [h.account_eq htour hvisit] at hread
  obtain ⟨place, ⟨-, hplace, hfile⟩, -⟩ := Disk.read_eq_ok.mp hread
  obtain ⟨around, haround, rfl⟩ := Disk.exists_folderAt_of_locate_child hplace (by decide)
  cases (houtput.locate_child (h.named visit hvisit)).symm.trans haround.locate
  exact ⟨haround.find?, hfile⟩

/-- A module at the end, by its place. -/
theorem find?_written (h : Round settings start visits inputPlace outputPlace)
    (htour : settings.Tour start visits last) (hvisit : visit ∈ visits)
    (houtput : final.FolderAt settings.outputFolder outputPlace)
    (hfinal : last.write settings.rootIndex text = .ok final) {source : Path}
    (hsource : source ∈ settings.sources start visit.folder) {conversion : Conversion}
    (hverdict : (settings.sourceJob visit.folder source).verdict settings start = .done conversion)
    (hstem : source.stem ≠ "index") :
    final.find? (outputPlace ++ [visit.folder.name] ++ [source.stem ++ ".ts"])
      = some (.file (Text.Utf8.encode conversion.module)) := by
  have hread := h.read_module htour hvisit hfinal hsource hverdict hstem
  obtain ⟨place, ⟨-, hplace, hfile⟩, -⟩ := Disk.read_eq_ok.mp hread
  have hmodule := Visit.locate_target_child houtput (h.named visit hvisit) (Job.ts_ne_up _) hplace
  exact hmodule ▸ hfile

/-- The index of a folder can be written again. -/
theorem hindrance?_index (h : Round settings start visits inputPlace outputPlace)
    (hpersist : (settings.expand && settings.persist) = false)
    (htour : settings.Tour start visits last) (hvisit : visit ∈ visits)
    (hwritten : Disk.Fills last final)
    (hfinal : last.write settings.rootIndex text = .ok final) :
    final.Clear (visit.target settings)
    ∧ final.hindrance? (settings.folderIndex visit.folder) = none := by
  obtain ⟨first, more, rfl⟩ := List.append_of_mem hvisit
  obtain ⟨before, hfirst, after, hleads, hmore⟩ := tour_append.mp htour
  have hrest := h.rest hfirst
  have hplaced := hrest.placed List.mem_cons_self
  obtain ⟨htree, -, htarget⟩ := hplaced.ready hleads
  obtain ⟨edit, hedit, rfl⟩ := Disk.write_eq_ok.mp hleads.index
  have hfills : Disk.Fills (visit.result settings).2 final :=
    (Disk.Fills.edited (by decide) hedit).trans
      (((hrest.next hleads).fills hpersist hmore).trans hwritten)
  have hall := (Visit.fills_result visit hpersist htree htarget).trans hfills
  refine ⟨hall.grows.clear_iff.mpr hleads.makes.clear, ?_⟩
  obtain ⟨hlocate, hfolder, -, hclear, hput⟩ := Disk.edit_eq_ok.mp hedit
  have hresolve := Disk.resolve_of_locate hlocate
  obtain ⟨place, hthere, -⟩ := Disk.read_eq_ok.mp (h.read_index htour hvisit hfinal)
  have hplace : place = edit.location := by
    rw [← Disk.resolve_of_locate hthere.locate, hfills.grows.here, hresolve]
  have hfile : final.find? edit.location ≠ some .folder := by
    rw [← hplace, hthere.find?]
    simp
  rw [hfills.hindrance?_eq (by rw [hresolve]; exact iff_of_false hfile hfolder)]
  exact Disk.hindrance?_eq_none.mpr ⟨hclear, hresolve ▸ hfolder, hresolve ▸ hput⟩

/-- What the run leaves. -/
theorem left (h : Round settings start visits inputPlace outputPlace)
    (hpersist : (settings.expand && settings.persist) = false)
    (hinput : start.FolderAt settings.inputFolder inputPlace)
    (hlook : start.look settings.inputFolder = .ok (some .folder))
    (hsurvey : start.survey settings.inputFolder = .ok ())
    (hclear : start.Clear settings.outputFolder)
    (hfolders : visits.map Visit.folder = settings.packageFolders start)
    (htour : settings.Tour start visits last)
    (hfinal : last.write settings.rootIndex (Text.Utf8.encode (Index.rootText
      (settings.folderDefaults ((settings.packageFolders start).map (settings.foretold start)))))
      = .ok final) :
    Left settings start inputPlace outputPlace final := by
  obtain ⟨edit, hedit, hafter⟩ := Disk.write_eq_ok.mp hfinal
  obtain ⟨-, hfolder, hcontent, -, -⟩ := Disk.edit_eq_ok.mp hedit
  obtain ⟨around, haround, hlocation⟩ := Disk.location_of_edit_child (by decide) hedit
  cases ((h.grows htour).folderAt h.output).locate.symm.trans haround.locate
  have hlast : Round settings last [] inputPlace outputPlace :=
    Round.rest ((List.append_nil visits).symm ▸ h) htour
  have hgrows : Disk.Grows IsScript start final := by
    refine (h.grows_scripts hpersist htour).trans ?_
    rw [← hafter]
    refine (Disk.grows_edited hfolder).mono ?_
    rintro _ rfl
    exact ⟨outputPlace, "index", hlocation⟩
  have hmade : Disk.FoldersFrom (Made visits outputPlace) start final :=
    (h.foldersFrom htour).trans (hafter ▸ .edited _ last edit)
  have hvisits : ∀ folder ∈ settings.packageFolders start,
      ∃ visit ∈ visits, visit.folder = folder := by
    intro folder hin
    rw [← hfolders] at hin
    exact List.mem_map.mp hin
  have houtput := hgrows.folderAt h.output
  have hwritten : Disk.Fills last final := hafter ▸ .edited (by decide) hedit
  have hfills := (h.fills hpersist htour).trans hwritten
  refine ⟨h.tree, hinput, h.output, hafter ▸ hlast.tree.edited hedit, hgrows, hfills, hlook,
    List.forall_mem_cons.mpr ⟨hfills.survey hsurvey, ?_⟩, ⟨hclear, ?_⟩,
    ⟨hafter ▸ Disk.hindrance?_edited hedit, ?_⟩, hmade.mono ?_, ?_, ?_, ?_, ?_⟩
  · intro folder hin
    obtain ⟨visit, hvisit, rfl⟩ := hvisits folder hin
    exact hwritten.survey (h.survey hpersist htour hvisit)
  · intro folder hin
    obtain ⟨visit, hvisit, rfl⟩ := hvisits folder hin
    exact hfills.grows.clear_iff.mp (h.hindrance?_index hpersist htour hvisit hwritten hfinal).1
  · intro folder hin
    obtain ⟨visit, hvisit, rfl⟩ := hvisits folder hin
    exact (h.hindrance?_index hpersist htour hvisit hwritten hfinal).2
  · rintro location ⟨visit, hvisit, hplace⟩
    exact ⟨visit.folder, hfolders ▸ List.mem_map_of_mem hvisit, hplace⟩
  · intro folder hin
    obtain ⟨visit, hvisit, rfl⟩ := hvisits folder hin
    exact (h.find?_index htour hvisit houtput hfinal).1
  · intro folder hin source hsource conversion hverdict hstem
    obtain ⟨visit, hvisit, rfl⟩ := hvisits folder hin
    exact h.find?_written htour hvisit houtput hfinal hsource hverdict hstem
  · intro folder hin
    obtain ⟨visit, hvisit, rfl⟩ := hvisits folder hin
    exact (h.find?_index htour hvisit houtput hfinal).2
  · rw [← hafter, ← hlocation, ← hcontent]
    exact Disk.find?_edited_self hfolder

end Round

/-! ## What a second run finds -/

namespace Left

variable {settings : Settings} {start disk : Disk} {inputPlace outputPlace : Location}

/-- Where a package of the first run is. -/
theorem place (h : Left settings start inputPlace outputPlace disk) {folder : Path}
    (hfolder : folder ∈ settings.packageFolders start) :
    folder.name ≠ ".." ∧ start.FolderAt folder (inputPlace ++ [folder.name]) :=
  folderAt_of_mem_packageFolders h.base h.input hfolder

/-- A folder directly in the input folder was there at the start, as the only ones that are
    made are those of packages. -/
theorem isFolder_iff (h : Left settings start inputPlace outputPlace disk) {name : String}
    (hname : name ≠ "..") :
    disk.isFolder (settings.inputFolder.child name) = true
      ↔ start.isFolder (settings.inputFolder.child name) = true := by
  rw [Disk.isFolder_iff, Disk.isFolder_iff, h.grows.clear_iff]
  refine and_congr_right fun _ => ?_
  constructor
  · rintro ⟨place, hplace⟩
    cases ((h.grows.folderAt h.input).locate_child hname).symm.trans hplace.locate
    refine ⟨_, h.input.locate_child hname, ?_⟩
    rcases h.made _ hplace.find? with hfolder | ⟨other, hother, heq⟩
    · exact hfolder
    · -- the output folder is the input folder
      obtain ⟨rfl, hnames⟩ := List.append_inj' heq rfl
      rw [(List.cons.inj hnames).1]
      exact (h.place hother).2.find?
  · rintro ⟨place, hplace⟩
    exact ⟨place, h.grows.folderAt hplace⟩

/-- A second run visits the same folders. -/
theorem packageFolders_eq (h : Left settings start inputPlace outputPlace disk) :
    settings.packageFolders disk = settings.packageFolders start := by
  refine eq_of_pairwise_lt (pairwise_lt_packageFolders h.tree)
    (pairwise_lt_packageFolders h.base) fun folder => ?_
  rw [mem_packageFolders h.tree (h.grows.folderAt h.input), mem_packageFolders h.base h.input]
  have hresolve : ∀ path, disk.resolve path = start.resolve path := by
    intro path
    unfold Disk.resolve
    rw [h.grows.here]
  constructor
  · rintro ⟨⟨name, hname, rfl⟩, hfolder, hkept, hapart, hunmatched⟩
    rw [hresolve, hresolve] at hapart
    exact ⟨⟨name, hname, rfl⟩, (h.isFolder_iff hname).mp hfolder, hkept, hapart, hunmatched⟩
  · rintro ⟨⟨name, hname, rfl⟩, hfolder, hkept, hapart, hunmatched⟩
    rw [← hresolve, ← hresolve settings.outputFolder] at hapart
    exact ⟨⟨name, hname, rfl⟩, (h.isFolder_iff hname).mpr hfolder, hkept, hapart, hunmatched⟩

/-- A second run finds the sources of a package as they were, and the same in the way of
    their modules. -/
theorem alike (h : Left settings start inputPlace outputPlace disk) {folder : Path}
    (hfolder : folder ∈ settings.packageFolders start) :
    AlikeIn settings folder (inputPlace ++ [folder.name]) outputPlace disk start := by
  obtain ⟨hname, hplace⟩ := h.place hfolder
  refine ⟨⟨h.tree, h.base⟩, hname, ⟨h.grows.folderAt hplace, hplace⟩,
    ⟨h.grows.folderAt h.output, h.output⟩, ?_, ?_⟩
  · intro stem
    exact (h.grows.sameFile (hplace.locate_child (Job.go_ne_up stem)) (not_isScript_go _ _)).symm
  · intro source
    refine h.fills.hindrance?_eq ?_
    rw [resolve_modulePath h.output hname source]
    constructor
    · intro hfound
      refine (h.made _ hfound).resolve_right ?_
      rintro ⟨other, -, heq⟩
      exact Round.below_ne _ _ _ _ heq
    · exact h.grows.folders _

/-- The same at every place is left by the same run. -/
theorem of_same {other : Disk} (h : Left settings start inputPlace outputPlace disk)
    (hsame : Disk.Same other disk) (htree : other.IsTree) :
    Left settings start inputPlace outputPlace other where
  base := h.base
  input := h.input
  output := h.output
  tree := htree
  grows := h.grows.trans (hsame.grows _)
  fills := h.fills.trans (.of_same hsame)
  looked := h.looked
  surveyed path hpath := (Disk.Fills.of_same hsame).survey (h.surveyed path hpath)
  clear := h.clear
  free := by
    have hfree : ∀ path, other.hindrance? path = disk.hindrance? path := by
      intro path
      refine (Disk.Fills.of_same hsame).hindrance?_eq ?_
      rw [hsame.find?]
    simpa only [hfree] using h.free
  made location := by
    rw [hsame.find?]
    exact h.made location
  target folder hfolder := by
    rw [hsame.find?]
    exact h.target folder hfolder
  modules folder hfolder source hsource := by
    rw [hsame.find?]
    exact h.modules folder hfolder source hsource
  indexes folder hfolder := by
    rw [hsame.find?]
    exact h.indexes folder hfolder
  root := by
    rw [hsame.find?]
    exact h.root

/-! ## What a second run does -/

/-- The folder for the modules of a package is there. -/
theorem folderAt_target (h : Left settings start inputPlace outputPlace disk) {folder : Path}
    (hfolder : folder ∈ settings.packageFolders start) :
    disk.FolderAt ((Visit.mk folder disk).target settings) (outputPlace ++ [folder.name]) :=
  ⟨(h.grows.folderAt h.output).locate_child (h.place hfolder).1, h.target folder hfolder⟩

/-- What a visit accounts for is foretold by the disk at the start. -/
theorem account_eq (h : Left settings start inputPlace outputPlace disk) {folder : Path}
    (hfolder : folder ∈ settings.packageFolders start) :
    (Visit.mk folder disk).account settings = settings.foretold start folder :=
  (Visit.account_eq_foretold h.tree (h.folderAt_target hfolder)).trans
    (foretold_congr (h.alike hfolder))

/-- The jobs of a second visit write the modules that are there, and one that is in the
    place of the index. -/
theorem find?_result (h : Left settings start inputPlace outputPlace disk)
    (hpersist : (settings.expand && settings.persist) = false) {folder : Path}
    (hfolder : folder ∈ settings.packageFolders start) {location : Location}
    (hlocation : location ≠ outputPlace ++ [folder.name] ++ [Index.fileName]) :
    ((Visit.mk folder disk).result settings).2.find? location = disk.find? location := by
  rcases Visit.find?_result ⟨folder, disk⟩ hpersist h.tree (h.folderAt_target hfolder) location with
    hkept | ⟨source, hsource, conversion, hverdict, rfl, hmodule⟩
  · exact hkept
  · have halike := h.alike hfolder
    have hstem : source.stem ≠ "index" := by
      intro hstem
      rw [hstem] at hlocation
      exact hlocation rfl
    rw [hmodule, h.modules folder hfolder source (halike.sources_eq ▸ hsource) conversion
      ((halike.verdict_eq hsource).symm.trans hverdict) hstem]

/-- The place of the index holds a file when the jobs of a second visit are done. -/
theorem find?_result_index (h : Left settings start inputPlace outputPlace disk)
    (hpersist : (settings.expand && settings.persist) = false) {folder : Path}
    (hfolder : folder ∈ settings.packageFolders start) :
    ((Visit.mk folder disk).result settings).2.find?
      (outputPlace ++ [folder.name] ++ [Index.fileName]) ≠ some .folder := by
  rcases Visit.find?_result ⟨folder, disk⟩ hpersist h.tree (h.folderAt_target hfolder)
    (outputPlace ++ [folder.name] ++ [Index.fileName]) with
    hkept | ⟨source, -, conversion, -, -, hmodule⟩
  · rw [hkept]
    show disk.find? _ ≠ _
    rw [h.indexes folder hfolder]
    simp
  · rw [hmodule]
    simp

/-- Writing what a place holds leaves everything as it is. -/
theorem same_edited {before after : Disk} {edit : Disk.Edit} (hhere : after.here = before.here)
    (hlocks : after.locks = before.locks)
    (hfolder : after.find? edit.location ≠ some .folder)
    (hcontent : before.find? edit.location = some (.file edit.content))
    (hothers : ∀ location, location ≠ edit.location →
      after.find? location = before.find? location) :
    Disk.Same (after.edited edit) before := by
  refine ⟨hhere, hlocks, fun location => ?_⟩
  by_cases hlocation : location = edit.location
  · rw [hlocation, Disk.find?_edited_self hfolder, hcontent]
  · rw [Disk.find?_edited_of_ne _ hlocation, hothers location hlocation]

/-- A second visit can be made, and leaves everything as it is. -/
theorem exists_leads (h : Left settings start inputPlace outputPlace disk)
    (hpersist : (settings.expand && settings.persist) = false) {folder : Path}
    (hfolder : folder ∈ settings.packageFolders start) :
    ∃ after, (Visit.mk folder disk).Leads settings disk after ∧ Disk.Same after disk
      ∧ after.IsTree := by
  let visit : Visit := ⟨folder, disk⟩
  have hgrows : Disk.Grows (fun _ => True) disk (visit.result settings).2 :=
    Job.grows_runAll settings _ disk
  have htarget := h.folderAt_target hfolder
  have hlocate : (visit.result settings).2.locate (settings.folderIndex folder)
      = .ok (outputPlace ++ [folder.name] ++ [Index.fileName]) :=
    (hgrows.folderAt htarget).locate_child (by decide)
  have hfree : (visit.result settings).2.hindrance? (settings.folderIndex folder) = none := by
    rw [(visit.fills_result hpersist h.tree htarget).hindrance?_eq ?_]
    · exact h.free.2 folder hfolder
    · have hresolve : (settings.folderIndex folder).resolve disk.here
          = outputPlace ++ [folder.name] ++ [Index.fileName] :=
        Disk.resolve_of_locate (htarget.locate_child (by decide))
      show _ ↔ disk.find? _ = _
      rw [hresolve, h.indexes folder hfolder]
      exact iff_of_false (h.find?_result_index hpersist hfolder) (by simp)
  let edit : Disk.Edit := ⟨outputPlace ++ [folder.name] ++ [Index.fileName],
    Text.Utf8.encode ((visit.account settings).text settings)⟩
  have hedit : (visit.result settings).2.edit (settings.folderIndex folder)
      (fun _ => Text.Utf8.encode ((visit.account settings).text settings)) = .ok edit := by
    rw [Disk.edit_of_locate hlocate, hfree]
  have hleads : visit.Leads settings disk ((visit.result settings).2.edited edit) :=
    ⟨htarget.ensureFolders (h.grows.clear_iff.mpr (h.clear.2 folder hfolder)),
      h.surveyed folder (List.mem_cons_of_mem _ hfolder),
      Disk.write_eq_ok.mpr ⟨edit, hedit, rfl⟩⟩
  have hplaced : visit.Placed settings disk inputPlace outputPlace :=
    ⟨h.tree, (h.place hfolder).1, h.grows.folderAt (h.place hfolder).2, h.grows.folderAt h.output⟩
  refine ⟨_, hleads, ?_, (hplaced.grows hleads).2⟩
  refine same_edited hgrows.here hgrows.locks (h.find?_result_index hpersist hfolder) ?_ ?_
  · show disk.find? _ = some (.file (Text.Utf8.encode ((visit.account settings).text settings)))
    rw [show visit.account settings = _ from h.account_eq hfolder]
    exact h.indexes folder hfolder
  · intro location hlocation
    exact h.find?_result hpersist hfolder hlocation

/-- A second tour can be made, with the accounts of the first, and leaves everything as it
    is. -/
theorem exists_tour (h : Left settings start inputPlace outputPlace disk)
    (hpersist : (settings.expand && settings.persist) = false) (folders : List Path)
    (hfolders : ∀ folder ∈ folders, folder ∈ settings.packageFolders start) :
    ∃ visits last, visits.map Visit.folder = folders ∧ settings.Tour disk visits last
      ∧ visits.map (Visit.account settings) = folders.map (settings.foretold start)
      ∧ Disk.Same last disk ∧ last.IsTree := by
  induction folders generalizing disk with
  | nil => exact ⟨[], disk, rfl, rfl, rfl, .refl disk, h.tree⟩
  | cons folder rest ih =>
      obtain ⟨hfolder, hrest⟩ := List.forall_mem_cons.mp hfolders
      obtain ⟨between, hleads, hsame, htree⟩ := h.exists_leads hpersist hfolder
      obtain ⟨visits, last, hmap, htour, haccounts, hlast, hlastTree⟩ :=
        ih (h.of_same hsame htree) hrest
      refine ⟨⟨folder, disk⟩ :: visits, last, ?_, ⟨between, hleads, htour⟩, ?_,
        hlast.trans hsame, hlastTree⟩
      · rw [List.map_cons, hmap]
      · rw [List.map_cons, List.map_cons, haccounts, h.account_eq hfolder]

/-- The index of all is written over with what it holds. -/
theorem exists_write (h : Left settings start inputPlace outputPlace disk) :
    ∃ after, disk.write settings.rootIndex (Text.Utf8.encode (Index.rootText
        (settings.folderDefaults ((settings.packageFolders start).map (settings.foretold start)))))
        = .ok after
      ∧ Disk.Same after disk := by
  have hlocate : disk.locate settings.rootIndex = .ok (outputPlace ++ [Index.fileName]) :=
    (h.grows.folderAt h.output).locate_child (by decide)
  have hfolder : disk.find? (outputPlace ++ [Index.fileName]) ≠ some .folder := by
    rw [h.root]
    simp
  have hedit := Disk.edit_of_locate hlocate fun _ => Text.Utf8.encode (Index.rootText
    (settings.folderDefaults ((settings.packageFolders start).map (settings.foretold start))))
  rw [h.free.1] at hedit
  exact ⟨_, Disk.write_eq_ok.mpr ⟨_, hedit, rfl⟩,
    same_edited rfl rfl hfolder h.root fun _ _ => rfl⟩

/-- A second run comes to its end with the same report, and leaves everything as it is. -/
theorem exists_ends (h : Left settings start inputPlace outputPlace disk)
    (hpersist : (settings.expand && settings.persist) = false) {again : Session}
    (hagain : again.disk = disk) :
    ∃ after, Action.Ends settings.generate again
        (settings.summary ((settings.packageFolders start).map (settings.foretold start))) after
      ∧ Disk.Same after disk := by
  subst hagain
  obtain ⟨visits, last, hfolders, htour, haccounts, hsame, htree⟩ :=
    h.exists_tour hpersist (settings.packageFolders start) fun _ => id
  obtain ⟨after, hwrite, hafter⟩ := (h.of_same hsame htree).exists_write
  rw [← h.packageFolders_eq] at hfolders
  rw [← haccounts] at hwrite ⊢
  refine ⟨after, ends_generate.mpr ⟨again.disk, visits, last, h.grows.look_folder h.looked, ?_,
    h.surveyed _ List.mem_cons_self, hfolders, htour, hwrite, rfl⟩, hafter.trans hsame⟩
  exact (h.grows.folderAt h.output).ensureFolders (h.grows.clear_iff.mpr h.clear.1)

end Left

/-- A second run changes nothing.  If sources are not extended, then after every run that
    comes to its end, wherever the output folder is, another run on the disk that it leaves
    comes to its end too, gives the same report, and leaves a disk with the same at every
    place. -/
theorem second_run_changes_nothing (settings : Settings) {session final again : Session}
    {report : Report} (htree : session.disk.IsTree)
    (hpersist : (settings.expand && settings.persist) = false)
    (hrun : settings.generate.run.run session = (.ok report, final))
    (hagain : again.disk = final.disk) :
    ∃ last, settings.generate.run.run again = (.ok report, last)
      ∧ last.disk.here = final.disk.here
      ∧ ∀ location, last.disk.find? location = final.disk.find? location := by
  obtain ⟨start, visits, last, inputPlace, outputPlace, hstart, hinput, ⟨hlook, hsurvey⟩, hround,
    hfolders, htour, hfinal, rfl⟩ := exists_round htree ⟨final, hrun, rfl⟩
  have hclear := (Disk.makes_of_ensureFolders hstart).clear
  have hleft := hround.left hpersist hinput hlook hsurvey hclear hfolders htour hfinal
  obtain ⟨_, ⟨after, hgives, rfl⟩, hsame⟩ := hleft.exists_ends hpersist hagain
  exact ⟨after, hgives, hsame.here, hsame.find?⟩

/-- Settings that put the modules next to their sources. -/
def besideSettings : Settings :=
  { usersSettings with outputFolder := usersSettings.inputFolder }

theorem second_run_changes_nothing_beside_user :
    (usersDisk "user.go").IsTree ∧ (besideSettings.expand && besideSettings.persist) = false
    ∧ ∃ report final last,
      besideSettings.generate.run.run { disk := usersDisk "user.go" } = (.ok report, final)
      ∧ report.written.length = 3
      ∧ besideSettings.generate.run.run final = (.ok report, last)
      ∧ last.disk.here = final.disk.here
      ∧ ∀ location, last.disk.find? location = final.disk.find? location := by
  have htree : (usersDisk "user.go").IsTree := ⟨by decide, by decide, by decide⟩
  have hends : (besideSettings.generate.run.run { disk := usersDisk "user.go" }).1.toOption.map
      (·.written.length) = some 3 := by
    decide +kernel
  cases hreport : (besideSettings.generate.run.run { disk := usersDisk "user.go" }).1 with
  | error trouble =>
      rw [hreport] at hends
      cases hends
  | ok report =>
      rw [hreport] at hends
      have hrun : besideSettings.generate.run.run { disk := usersDisk "user.go" }
          = (.ok report, (besideSettings.generate.run.run { disk := usersDisk "user.go" }).2) :=
        Prod.ext hreport rfl
      obtain ⟨last, hagain, hhere, hfind⟩ :=
        second_run_changes_nothing besideSettings htree rfl hrun rfl
      exact ⟨htree, rfl, report, _, last, hrun, Option.some.inj hends, hagain, hhere, hfind⟩

end Settings

end StructScript
