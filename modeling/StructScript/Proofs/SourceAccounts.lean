import StructScript.Proofs.Foretold

/-! # Every source is accounted for

    A source of a package leaves its mark in a run in one of two ways: it has a module,
    its declarations are counted and exported, or it has a failure and nothing else.
    `Settings.contribution` is that mark, told from the disk of the start, and
    `Settings.Accounts` puts the report and the index files together from the marks of
    all sources, folder by folder.  `Settings.every_source_is_accounted_for` says that
    this is what every run comes to. -/

namespace StructScript

namespace Index

/-- The line of an index that exports names of a module. -/
def exportLine (stem : String) (names : List String) : String :=
  "export \x7b " ++ String.intercalate ", " names ++ " \x7d from \"./" ++ stem ++ "\";\n\n"

/-- The lines of an index that make a name of a module its default. -/
def defaultLines (stem name : String) : String :=
  "import \x7b " ++ name ++ " \x7d from \"./" ++ stem ++ "\";\nexport default " ++ name ++ ";\n\n"

end Index

/-- A script has the stem that it was called by. -/
theorem Path.stem_child_append (path : Path) {stem : String} (h : stem ≠ "") :
    (path.child (stem ++ ".ts")).stem = stem := by
  unfold Path.stem Path.splitName
  rw [Path.name_child]
  simp [h]

namespace Settings

/-- The mark that a source leaves in a run. -/
structure Contribution where
  written : List Path := []
  failures : List Failure := []
  declarations : List String := []
  /-- The faults of the declarations that are left out. -/
  errors : List StructScript.Fault := []
  /-- Its lines in the index of its folder. -/
  lines : String := ""

/-- The mark of a source: either its module is written and what it declares is counted and
    exported, or it has a failure and nothing else. -/
def contribution (settings : Settings) (start : Disk) (folder source : Path) : Contribution :=
  match (settings.sourceJob folder source).verdict settings start with
  | .done conversion =>
      { written := [settings.modulePath folder source]
        declarations := conversion.names
        errors := conversion.errors
        lines :=
          if conversion.names = [] then ""
          else
            Index.exportLine source.stem conversion.names
              ++ match settings.wantedDefault? folder with
                | some name =>
                    if name ∈ conversion.names then Index.defaultLines source.stem name else ""
                | none => "" }
  | .failed fault => { failures := [⟨source, fault⟩] }

/-- Whether a list has the paths with a property, in the order of their names. -/
def Lists (paths : List Path) (holds : Path → Prop) : Prop :=
  paths.Pairwise (fun path other => path.name < other.name) ∧ ∀ path, path ∈ paths ↔ holds path

/-- Whether a report, and the index files on a disk, are put together from the marks of
    sources, folder by folder. -/
structure Accounts (settings : Settings) (start final : Disk) (report : Report)
    (folders : List Path) (sources : Path → List Path) : Prop where
  written : report.written
    = (folders.flatMap fun folder =>
        ((sources folder).flatMap fun source => (settings.contribution start folder source).written)
          ++ [settings.folderIndex folder])
      ++ [settings.rootIndex]
  failures : report.failures
    = folders.flatMap fun folder =>
        (sources folder).flatMap fun source => (settings.contribution start folder source).failures
  declarations : report.declarations
    = (folders.flatMap fun folder => (sources folder).flatMap fun source =>
        (settings.contribution start folder source).declarations).length
  declarationErrors : report.declarationErrors
    = (folders.flatMap fun folder => (sources folder).flatMap fun source =>
        (settings.contribution start folder source).errors).length
  index : ∀ folder ∈ folders, final.read (settings.folderIndex folder)
    = .ok (Text.Utf8.encode (String.join ((sources folder).map fun source =>
        (settings.contribution start folder source).lines)))
  ok : report.ok = true ↔ ∀ folder ∈ folders, ∀ source ∈ sources folder, ∃ conversion,
    (settings.sourceJob folder source).verdict settings start = .done conversion
    ∧ conversion.errors = []

/-- The lines of a module in an index: one line for what it declares, if anything, and two
    for the default. -/
theorem moduleLines_eq (wanted : Option String) (stem : String) (names : List String) :
    Index.moduleLines wanted stem names
      = if names = [] then ""
        else
          Index.exportLine stem names
            ++ match wanted with
              | some name => if name ∈ names then Index.defaultLines stem name else ""
              | none => "" := by
  have hexport : "export " ++ Index.nameList names ++ " from " ++ ("\"./" ++ stem ++ "\"")
      ++ ";\n\n" = Index.exportLine stem names := by
    apply String.toList_inj.mp
    simp [Index.nameList, Index.exportLine]
  have hdefault : ∀ name, "import " ++ Index.nameList [name] ++ " from "
      ++ ("\"./" ++ stem ++ "\"") ++ ";\n" ++ "export default " ++ name ++ ";\n\n"
      = Index.defaultLines stem name := by
    intro name
    apply String.toList_inj.mp
    simp [Index.nameList, Index.defaultLines]
  unfold Index.moduleLines
  by_cases hnames : names = []
  · rw [if_pos hnames, if_pos (List.isEmpty_iff.mpr hnames)]
  · rw [if_neg hnames, if_neg fun hempty => hnames (List.isEmpty_iff.mp hempty)]
    simp only [hexport, hdefault]
    cases wanted with
    | none => rfl
    | some name =>
        by_cases hname : name ∈ names
        · simp only [if_pos hname, if_pos (List.contains_iff_mem.mpr hname)]
        · simp only [if_neg hname, if_neg fun hin => hname (List.contains_iff_mem.mp hin)]

/-- What the report and the index say about a source is its mark. -/
theorem outcome_eq_contribution (settings : Settings) (start : Disk) (folder : Path)
    {source : Path} (hstem : source.stem ≠ "") :
    let entry := (settings.sourceJob folder source,
      (settings.sourceJob folder source).verdict settings start)
    ({ written := (Report.module? entry).toList
       failures := (Report.failure? entry).toList
       declarations := Index.declared entry.2
       errors := Report.errors entry.2
       lines := Index.moduleLines (settings.wantedDefault? folder) entry.1.target.stem
         (Index.declared entry.2) } : Contribution)
      = settings.contribution start folder source := by
  have htarget : (settings.sourceJob folder source).target.stem = source.stem :=
    Path.stem_child_append _ hstem
  simp only [htarget, moduleLines_eq]
  unfold contribution
  cases (settings.sourceJob folder source).verdict settings start with
  | done conversion => rfl
  | failed fault => rfl

section

variable {settings : Settings} {start : Disk} {folder : Path}

/-- Every source has a stem. -/
theorem stem_ne_empty_of_mem_sources {source : Path} (h : source ∈ settings.sources start folder) :
    source.stem ≠ "" := by
  intro hempty
  have hname := (of_mem_sources h).1
  rw [hempty] at hname
  -- a name that is all ending counts as a name without one
  rw [hname, Path.stem, Path.name_child] at hempty
  exact absurd hempty (by decide)

/-- The account of a folder is put together from the marks of its sources. -/
theorem foretold_eq_contributions (settings : Settings) (start : Disk) (folder : Path) :
    let sources := settings.sources start folder
    let mark := settings.contribution start folder
    let account := settings.foretold start folder
    account.outcomes.filterMap Report.module?
        = (sources.flatMap fun source => (mark source).written)
    ∧ account.failures = (sources.flatMap fun source => (mark source).failures)
    ∧ account.declarations = (sources.flatMap fun source => (mark source).declarations)
    ∧ account.errors = (sources.flatMap fun source => (mark source).errors)
    ∧ account.text settings = String.join (sources.map fun source => (mark source).lines) := by
  have hstems : ∀ source ∈ settings.sources start folder, source.stem ≠ "" :=
    fun source => stem_ne_empty_of_mem_sources
  unfold Account.failures Account.declarations Account.errors Account.text
    Index.folderText foretold
  simp only
  generalize settings.sources start folder = sources at hstems ⊢
  induction sources with
  | nil => exact ⟨rfl, rfl, rfl, rfl, rfl⟩
  | cons source rest ih =>
      obtain ⟨hstem, hrest⟩ := List.forall_mem_cons.mp hstems
      obtain ⟨hwritten, hfailures, hdeclarations, herrors, hlines⟩ := ih hrest
      have hmark := settings.outcome_eq_contribution start folder hstem
      simp only [List.map_cons, List.flatMap_cons, filterMap_cons_toList,
        String.join_cons, hwritten, hfailures, hdeclarations, herrors, hlines, ← hmark, and_self]

/-- Nothing failed if every source has a module with all its declarations. -/
theorem ok_summary_iff (settings : Settings) (accounts : List Account) :
    (settings.summary accounts).ok = true
      ↔ ∀ account ∈ accounts, ∀ entry ∈ account.outcomes,
        ∃ conversion, entry.2 = .done conversion ∧ conversion.errors = [] := by
  have hentry : ∀ entry : Job × Job.Outcome,
      (∃ conversion, entry.2 = .done conversion ∧ conversion.errors = [])
        ↔ Report.failure? entry = none ∧ Report.errors entry.2 = [] := by
    rintro ⟨job, outcome⟩
    cases outcome with
    | done conversion => simp [Report.failure?, Report.errors]
    | failed fault => simp [Report.failure?]
  simp only [hentry]
  rw [summary_eq, Report.ok, Bool.and_eq_true, List.isEmpty_iff, beq_iff_eq, List.length_eq_zero_iff,
    List.flatMap_eq_nil_iff, List.flatMap_eq_nil_iff]
  simp only [Account.failures, Account.errors, List.filterMap_eq_nil_iff, List.flatMap_eq_nil_iff]
  constructor
  · rintro ⟨hfailures, herrors⟩ account haccount entry hmem
    exact ⟨hfailures account haccount entry hmem, herrors account haccount entry hmem⟩
  · intro h
    exact ⟨fun account haccount entry hmem => (h account haccount entry hmem).1,
      fun account haccount entry hmem => (h account haccount entry hmem).2⟩

end

/-- A run accounts for every source of every package once.  For every run that comes to
    its end there are the packages, as they are once the output folder is there, and the
    sources of each, in the order of their names; and the report and the index files are
    put together from the marks of these sources. -/
theorem every_source_is_accounted_for (settings : Settings) {session final : Session}
    {report : Report} (htree : session.disk.IsTree)
    (hrun : settings.generate.run.run session = (.ok report, final)) :
    ∃ (start : Disk) (folders : List Path) (sources : Path → List Path),
      session.disk.ensureFolders settings.outputFolder = .ok start
      ∧ Lists folders (settings.IsPackage start)
      ∧ (∀ folder ∈ folders, Lists (sources folder) (settings.IsSourceIn start folder))
      ∧ settings.Accounts start final.disk report folders sources := by
  obtain ⟨start, visits, last, inputPlace, outputPlace, hstart, hinput, -, hround, hfolders, htour,
    hfinal, rfl⟩ := exists_round htree ⟨final, hrun, rfl⟩
  refine ⟨start, settings.packageFolders start, settings.sources start, hstart,
    ⟨pairwise_lt_packageFolders hround.tree, fun folder => mem_packageFolders hround.tree hinput⟩,
    ?_, ?_⟩
  · intro folder hfolder
    obtain ⟨-, hplace⟩ := folderAt_of_mem_packageFolders hround.tree hinput hfolder
    obtain ⟨name, -, hname⟩ := ((mem_packageFolders hround.tree hinput).mp hfolder).inside
    exact ⟨pairwise_lt_sources hround.tree folder, fun source => mem_sources ⟨name, hname⟩ hplace⟩
  · have hmarks := settings.foretold_eq_contributions start
    simp only at hmarks
    rw [summary_eq]
    refine ⟨?_, ?_, ?_, ?_, ?_, ?_⟩
    · simp only [List.flatMap_map, Account.written, hmarks]
      rfl
    · simp only [List.flatMap_map, hmarks]
    · simp only [List.flatMap_map, hmarks]
    · simp only [List.flatMap_map, hmarks]
    · intro folder hfolder
      rw [← hfolders] at hfolder
      obtain ⟨visit, hvisit, rfl⟩ := List.mem_map.mp hfolder
      have hindex := hround.read_index htour hvisit hfinal
      rw [hround.account_eq htour hvisit, (hmarks visit.folder).2.2.2.2] at hindex
      exact hindex
    · rw [← summary_eq, ok_summary_iff, List.forall_mem_map]
      simp only [foretold, List.forall_mem_map]

/-- Settings with a default export for the package. -/
def userSettings : Settings :=
  { usersSettings with defaultExports := [("users", "User")] }

theorem every_source_is_accounted_for_with_user :
    (usersDisk "user.go").IsTree ∧ ∃ report final,
      userSettings.generate.run.run { disk := usersDisk "user.go" } = (.ok report, final)
      ∧ report.written.length = 3 ∧ report.declarations = 1 ∧ report.defaultExports = ["User"]
      ∧ ∃ (start : Disk) (folders : List Path) (sources : Path → List Path),
        (usersDisk "user.go").ensureFolders userSettings.outputFolder = .ok start
        ∧ Lists folders (userSettings.IsPackage start)
        ∧ (∀ folder ∈ folders, Lists (sources folder) (userSettings.IsSourceIn start folder))
        ∧ userSettings.Accounts start final.disk report folders sources := by
  have htree : (usersDisk "user.go").IsTree := ⟨by decide, by decide, by decide⟩
  have hends : (userSettings.generate.run.run { disk := usersDisk "user.go" }).1.toOption.map
      (fun report => (report.written.length, report.declarations, report.defaultExports))
      = some (3, 1, ["User"]) := by
    decide +kernel
  cases hreport : (userSettings.generate.run.run { disk := usersDisk "user.go" }).1 with
  | error trouble =>
      rw [hreport] at hends
      cases hends
  | ok report =>
      rw [hreport] at hends
      obtain ⟨hwritten, hcounts⟩ := Prod.mk.inj (Option.some.inj hends)
      obtain ⟨hdeclarations, hdefaults⟩ := Prod.mk.inj hcounts
      have hrun : userSettings.generate.run.run { disk := usersDisk "user.go" }
          = (.ok report, (userSettings.generate.run.run { disk := usersDisk "user.go" }).2) :=
        Prod.ext hreport rfl
      exact ⟨htree, report, _, hrun, hwritten, hdeclarations, hdefaults,
        every_source_is_accounted_for userSettings htree hrun⟩

end Settings

end StructScript
