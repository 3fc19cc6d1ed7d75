import StructScript.Proofs.DiskLaws

/-! # What a run does to a file tree

    A run makes folders and writes files, and takes nothing away:

    * `Grows` says that folders stay, and that files change only at places that are named;
    * `SameFile` is what it leaves of a file that it does not touch;
    * `Makes` is what making a folder comes to, with or without those around it;
    * `FoldersFrom` says which folders are new, and `Fills` which entries are: each is
      in a folder that takes it, under a name that fits. -/

namespace StructScript

namespace Disk

/-! ## Growth -/

/-- What a run does to a disk: folders stay, and files appear or change only at
    places that are named. -/
structure Grows (touched : Location → Prop) (before after : Disk) : Prop where
  here : after.here = before.here
  locks : after.locks = before.locks
  folders : ∀ location, before.find? location = some .folder →
    after.find? location = some .folder
  files : ∀ location content, ¬ touched location →
    (after.find? location = some (.file content) ↔ before.find? location = some (.file content))

namespace Grows

variable {touched : Location → Prop} {before after : Disk}

theorem refl (touched : Location → Prop) (disk : Disk) : Grows touched disk disk :=
  ⟨rfl, rfl, fun _ h => h, fun _ _ _ => Iff.rfl⟩

theorem trans {last : Disk} (h : Grows touched before after) (hnext : Grows touched after last) :
    Grows touched before last where
  here := hnext.here.trans h.here
  locks := hnext.locks.trans h.locks
  folders location hfolder := hnext.folders location (h.folders location hfolder)
  files location content huntouched :=
    (hnext.files location content huntouched).trans (h.files location content huntouched)

/-- What grows at some places grows at more of them. -/
theorem mono {more : Location → Prop} (h : Grows touched before after)
    (hmore : ∀ location, touched location → more location) : Grows more before after :=
  ⟨h.here, h.locks, h.folders, fun location content huntouched =>
    h.files location content fun htouched => huntouched (hmore location htouched)⟩

/-- A path that leads to a place still leads there. -/
theorem locate (h : Grows touched before after) {path : Path} {place : Location}
    (hplace : before.locate path = .ok place) : after.locate path = .ok place := by
  unfold Disk.locate origin at hplace ⊢
  rw [h.here]
  exact walk_mono h.folders hplace

/-- Growth bars no way and opens none. -/
theorem obstacle?_eq (h : Grows touched before after) (path : Path) :
    after.obstacle? path = before.obstacle? path :=
  obstacle?_congr h.here h.locks path

theorem clear_iff (h : Grows touched before after) {path : Path} :
    after.Clear path ↔ before.Clear path := by
  unfold Clear
  rw [h.obstacle?_eq]

/-- Growth closes no place. -/
theorem mayRead_eq (h : Grows touched before after) (location : Location) :
    after.mayRead location = before.mayRead location := by
  unfold mayRead
  rw [h.locks]

/-- A folder stays where it is. -/
theorem folderAt (h : Grows touched before after) {path : Path} {location : Location}
    (hfolder : before.FolderAt path location) : after.FolderAt path location :=
  ⟨h.locate hfolder.locate, h.folders location hfolder.find?⟩

theorem isFolder (h : Grows touched before after) {path : Path}
    (hfolder : before.isFolder path = true) : after.isFolder path = true := by
  obtain ⟨hclear, location, hplace⟩ := isFolder_iff.mp hfolder
  exact isFolder_iff.mpr ⟨h.clear_iff.mpr hclear, location, h.folderAt hplace⟩

/-- A folder that one has looked at can be looked at again. -/
theorem look_folder (h : Grows touched before after) {path : Path}
    (hlook : before.look path = .ok (some .folder)) : after.look path = .ok (some .folder) := by
  obtain ⟨hnull, hget⟩ := look_eq_some.mp hlook
  have hfolder : after.isFolder path = true := h.isFolder (by simp [Disk.isFolder, hget])
  exact look_eq_some.mpr ⟨hnull, by simpa [Disk.isFolder] using hfolder⟩

/-- A file that is not touched is there as before. -/
theorem fileAt_iff (h : Grows touched before after) {path : Path} {place location : Location}
    (hplace : before.locate path = .ok place) (huntouched : ¬ touched place)
    {content : List UInt8} :
    after.FileAt path location content ↔ before.FileAt path location content := by
  constructor
  · rintro ⟨hclear, hlocation, hfile⟩
    cases (h.locate hplace).symm.trans hlocation
    exact ⟨h.clear_iff.mp hclear, hplace, (h.files place content huntouched).mp hfile⟩
  · rintro ⟨hclear, hlocation, hfile⟩
    cases hplace.symm.trans hlocation
    exact ⟨h.clear_iff.mpr hclear, h.locate hplace, (h.files place content huntouched).mpr hfile⟩

end Grows

/-- Two disks on which a path leads to the same file, if it leads to one. -/
structure SameFile (path : Path) (first second : Disk) : Prop where
  locks : first.locks = second.locks
  fileAt : ∀ location content,
    first.FileAt path location content ↔ second.FileAt path location content

namespace SameFile

variable {path : Path} {first second third : Disk}

theorem symm (h : SameFile path first second) : SameFile path second first :=
  ⟨h.locks.symm, fun location content => (h.fileAt location content).symm⟩

/-- What is the same file on two disks and on the next two is the same on all. -/
theorem trans (h : SameFile path first second) (hnext : SameFile path second third) :
    SameFile path first third :=
  ⟨h.locks.trans hnext.locks,
    fun location content => (h.fileAt location content).trans (hnext.fileAt location content)⟩

/-- The same file is there on both disks or on neither. -/
theorem isFile_eq (h : SameFile path first second) : first.isFile path = second.isFile path := by
  rw [Bool.eq_iff_iff, isFile_iff, isFile_iff]
  exact exists_congr fun location => exists_congr fun content => h.fileAt location content

/-- The file is read, or is not, on both. -/
theorem read_eq (h : SameFile path first second) (hfile : first.isFile path = true) :
    first.read path = second.read path := by
  obtain ⟨location, content, hthere⟩ := isFile_iff.mp hfile
  rw [hthere.read, ((h.fileAt location content).mp hthere).read]
  unfold mayRead
  rw [h.locks]

/-- The same file is read as the same bytes. -/
theorem read_iff (h : SameFile path first second) (content : List UInt8) :
    first.read path = .ok content ↔ second.read path = .ok content := by
  rw [read_eq_ok, read_eq_ok]
  refine exists_congr fun location => ?_
  rw [h.fileAt location content]
  unfold mayRead
  rw [h.locks]

/-- The file is changed, or is not, on both. -/
theorem hindrance?_eq (h : SameFile path first second) (hfile : first.isFile path = true) :
    first.hindrance? path = second.hindrance? path := by
  obtain ⟨location, content, hthere⟩ := isFile_iff.mp hfile
  rw [hthere.hindrance?, ((h.fileAt location content).mp hthere).hindrance?]
  unfold mayWrite
  rw [h.locks]

end SameFile

/-- A file that is not touched is the same. -/
theorem Grows.sameFile {touched : Location → Prop} {before after : Disk}
    (h : Grows touched before after) {path : Path} {place : Location}
    (hplace : before.locate path = .ok place) (huntouched : ¬ touched place) :
    SameFile path before after :=
  ⟨h.locks.symm, fun _ _ => (h.fileAt_iff hplace huntouched).symm⟩

/-- Disks that are the same have grown at no place. -/
theorem Same.grows {first second : Disk} (h : Same first second) (touched : Location → Prop) :
    Grows touched second first where
  here := h.here
  locks := h.locks
  folders location := by
    rw [h.find?]
    exact id
  files location content _ := by rw [h.find?]

/-- An edit touches its place alone. -/
theorem grows_edited {disk : Disk} {edit : Edit} (h : disk.find? edit.location ≠ some .folder) :
    Grows (· = edit.location) disk (disk.edited edit) where
  here := rfl
  locks := rfl
  folders _ := find?_edited_folder h
  files location content hne := by rw [find?_edited_of_ne disk hne]

/-- A tree stays one when an entry is put at a proper place. -/
theorem IsTree.put {disk : Disk} (h : disk.IsTree) {location : Location}
    (hlocation : ".." ∉ location) (entry : Entry) : (disk.put location entry).IsTree where
  distinct := by
    refine List.nodup_cons.mpr ⟨?_, List.pairwise_map.mpr ?_⟩
    · intro hmem
      obtain ⟨other, hother, hsame⟩ := List.mem_map.mp hmem
      have hne := (List.mem_filter.mp hother).2
      simp [hsame] at hne
    · exact (List.pairwise_map.mp h.distinct).filter _
  named := by
    intro other hother
    rcases List.mem_cons.mp hother with rfl | hkept
    · exact hlocation
    · exact h.named other (List.mem_filter.mp hkept).1
  here := h.here

/-- On a tree, no path leads to a place under the name for the folder above. -/
theorem IsTree.up_not_mem {disk : Disk} (h : disk.IsTree) {path : Path} {place : Location}
    (hplace : disk.locate path = .ok place) : ".." ∉ place := by
  refine up_not_mem_walk ?_ hplace
  unfold origin
  split
  · exact h.here
  · exact List.not_mem_nil

/-- A tree stays one when a file is edited. -/
theorem IsTree.edited {disk : Disk} (h : disk.IsTree) {path : Path}
    {revise : List UInt8 → List UInt8} {edit : Edit} (hedit : disk.edit path revise = .ok edit) :
    (disk.edited edit).IsTree :=
  h.put (h.up_not_mem (edit_eq_ok.mp hedit).1) _

/-! ## Making folders -/

/-- A folder is made where nothing stands, if the way is clear and the place can take it. -/
theorem makeFolder_eq_ok {disk after : Disk} {path : Path} :
    disk.makeFolder path = .ok after
      ↔ ∃ location, disk.locate path = .ok location ∧ disk.find? location = none
        ∧ disk.put location .folder = after ∧ disk.Clear path ∧ disk.mayPut location = true := by
  unfold makeFolder
  rw [onPath_eq_ok, bind_reach_eq_ok]
  constructor
  · rintro ⟨location, hlocate, hclear, h⟩
    split at h
    · cases h
    · next hfind =>
        obtain ⟨hput, hafter⟩ := install_eq_ok.mp h
        exact ⟨location, hlocate, hfind, hafter, hclear, hput⟩
  · rintro ⟨location, hlocate, hfind, hafter, hclear, hput⟩
    refine ⟨location, hlocate, hclear, ?_⟩
    simp only [hfind]
    exact install_eq_ok.mpr ⟨hput, hafter⟩

/-- What making a folder, with or without those around it, comes to. -/
structure Makes (path : Path) (before after : Disk) : Prop where
  grows : Grows (fun _ => False) before after
  folder : ∃ location, after.FolderAt path location
  clear : after.Clear path
  tree : before.IsTree → after.IsTree

/-- Making a folder makes the folder of its path. -/
theorem makes_of_makeFolder {disk after : Disk} {path : Path}
    (h : disk.makeFolder path = .ok after) : Makes path disk after := by
  obtain ⟨location, hlocate, hnone, rfl, hclear, -⟩ := makeFolder_eq_ok.mp h
  have hne : location ≠ [] := ne_nil_of_find? (by rw [hnone]; simp)
  have hself : (disk.put location .folder).find? location = some .folder := by
    rw [find?_put_self, if_neg (by simpa using hne)]
  have hgrows : Grows (fun _ => False) disk (disk.put location .folder) := by
    refine ⟨rfl, rfl, fun other hother => ?_, fun other content _ => ?_⟩
    · by_cases hsame : other = location
      · rw [hsame, hself]
      · rw [find?_put_of_ne disk _ hsame, hother]
    · by_cases hsame : other = location
      · rw [hsame, hself, hnone]
        simp
      · rw [find?_put_of_ne disk _ hsame]
  exact ⟨hgrows, ⟨location, hgrows.locate hlocate, hself⟩, hgrows.clear_iff.mpr hclear,
    fun htree => htree.put (htree.up_not_mem hlocate) _⟩

theorem makes_of_ensureFolder {disk after : Disk} {path : Path}
    (h : disk.ensureFolder path = .ok after) : Makes path disk after := by
  unfold ensureFolder at h
  split at h
  · next made hmade =>
      cases h
      exact makes_of_makeFolder hmade
  · split at h
    · next hthere =>
        cases h
        obtain ⟨hclear, hfolder⟩ := isFolder_iff.mp (Bool.and_eq_true_iff.mp hthere).2
        exact ⟨.refl _ _, hfolder, hclear, id⟩
    · cases h

theorem makes_of_ensureFrom {disk after : Disk} {path : Path} {depth : Nat}
    (h : disk.ensureFrom path depth = .ok after) : Makes path disk after := by
  induction depth generalizing disk path after with
  | zero => exact makes_of_ensureFolder h
  | succ depth ih =>
      rw [ensureFrom] at h
      split at h
      · simp only [bind, Except.bind] at h
        split at h
        · cases h
        · next around haround =>
            -- the folder around comes first
            have hfirst := ih haround
            have hthen := makes_of_ensureFolder h
            exact ⟨hfirst.grows.trans hthen.grows, hthen.folder, hthen.clear,
              fun htree => hthen.tree (hfirst.tree htree)⟩
      · exact makes_of_ensureFolder h

theorem makes_of_ensureFolders {disk after : Disk} {path : Path}
    (h : disk.ensureFolders path = .ok after) : Makes path disk after :=
  makes_of_ensureFrom h

/-- No folder is made where something stands. -/
theorem makeFolder_of_find? {disk : Disk} {path : Path} {location : Location} {entry : Entry}
    (hclear : disk.Clear path) (hlocate : disk.locate path = .ok location)
    (hfind : disk.find? location = some entry) :
    disk.makeFolder path = .error ⟨.exists, path.text⟩ := by
  unfold makeFolder
  rw [reach_eq_ok.mpr ⟨hlocate, hclear⟩]
  simp only [bind, Except.bind, hfind]
  rfl

/-- Where a folder cannot be made although the one around it is there, it has to be there
    itself. -/
theorem ensureFrom_of_refused {disk : Disk} {path : Path} {cause : Cause}
    (h : disk.makeFolder path = .error ⟨cause, path.text⟩) (hcause : cause ≠ .missing)
    (depth : Nat) :
    disk.ensureFrom path depth
      = if disk.isFolder path then .ok disk else .error ⟨cause, path.text⟩ := by
  have hensure : disk.ensureFolder path
      = if disk.isFolder path then .ok disk else .error ⟨cause, path.text⟩ := by
    unfold ensureFolder
    rw [h]
    cases disk.isFolder path with
    | true => simp [hcause]
    | false => simp
  cases depth with
  | zero => exact hensure
  | succ depth =>
      rw [ensureFrom, h]
      cases cause with
      | missing => exact absurd rfl hcause
      | _ => exact hensure

/-- A folder that is there need not be made. -/
theorem FolderAt.ensureFolders {disk : Disk} {path : Path} {location : Location}
    (h : disk.FolderAt path location) (hclear : disk.Clear path) :
    disk.ensureFolders path = .ok disk := by
  unfold Disk.ensureFolders
  rw [ensureFrom_of_refused (makeFolder_of_find? hclear h.locate h.find?) (by simp),
    if_pos (isFolder_iff.mpr ⟨hclear, location, h⟩)]

/-- In a folder that is there, a folder is there already or is made at its own place. -/
theorem FolderAt.ensureFolders_child {disk after : Disk} {path : Path} {location : Location}
    (h : disk.FolderAt path location) {name : String} (hname : name ≠ "..")
    (hensure : disk.ensureFolders (path.child name) = .ok after) :
    after = disk
    ∨ disk.mayPut (location ++ [name]) = true ∧ after = disk.put (location ++ [name]) .folder := by
  have hlocate := h.locate_child hname
  have hmakes := makes_of_ensureFrom hensure
  have hclear : disk.Clear (path.child name) := hmakes.grows.clear_iff.mp hmakes.clear
  unfold Disk.ensureFolders at hensure
  cases hfind : disk.find? (location ++ [name]) with
  | none =>
      have hmake : disk.makeFolder (path.child name)
          = onPath (path.child name) (disk.install (location ++ [name]) .folder) := by
        unfold makeFolder
        rw [reach_eq_ok.mpr ⟨hlocate, hclear⟩]
        simp only [bind, Except.bind, hfind]
      unfold install at hmake
      split at hmake
      · next hput =>
          have hthis : disk.ensureFolder (path.child name)
              = .ok (disk.put (location ++ [name]) .folder) := by
            unfold ensureFolder
            rw [hmake]
            rfl
          refine Or.inr ⟨hput, ?_⟩
          cases hdepth : (path.child name).parts.length with
          | zero =>
              rw [hdepth, ensureFrom, hthis] at hensure
              exact (Except.ok.inj hensure).symm
          | succ depth =>
              rw [hdepth, ensureFrom, hmake] at hensure
              exact (Except.ok.inj (hthis.symm.trans hensure)).symm
      · -- it is refused, and not there either
        rw [ensureFrom_of_refused hmake (by simp)] at hensure
        split at hensure
        · next hfolder =>
            obtain ⟨-, place, hplace⟩ := isFolder_iff.mp hfolder
            cases hlocate.symm.trans hplace.locate
            cases hfind.symm.trans hplace.find?
        · cases hensure
  | some entry =>
      rw [ensureFrom_of_refused (makeFolder_of_find? hclear hlocate hfind) (by simp)] at hensure
      split at hensure
      · exact Or.inl (Except.ok.inj hensure).symm
      · cases hensure

/-! ## Which folders there are -/

/-- Whether every folder of a disk was there before, or is at a place that is named. -/
def FoldersFrom (made : Location → Prop) (before after : Disk) : Prop :=
  ∀ location, after.find? location = some .folder →
    before.find? location = some .folder ∨ made location

namespace FoldersFrom

variable {made : Location → Prop} {before after : Disk}

theorem refl (made : Location → Prop) (disk : Disk) : FoldersFrom made disk disk :=
  fun _ => Or.inl

/-- Folders that are made in two goes are made by either. -/
theorem trans {last : Disk} (h : FoldersFrom made before after)
    (hnext : FoldersFrom made after last) : FoldersFrom made before last := by
  intro location hfolder
  rcases hnext location hfolder with hbetween | hmade
  · exact h location hbetween
  · exact Or.inr hmade

theorem mono {more : Location → Prop} (h : FoldersFrom made before after)
    (hmore : ∀ location, made location → more location) : FoldersFrom more before after :=
  fun location hfolder => (h location hfolder).imp_right (hmore location)

/-- An edit makes no folder. -/
theorem edited (made : Location → Prop) (disk : Disk) (edit : Edit) :
    FoldersFrom made disk (disk.edited edit) := by
  intro location hfolder
  by_cases hlocation : location = edit.location
  · rw [Disk.edited, hlocation, find?_put_self] at hfolder
    split at hfolder
    · next htop =>
        rw [hlocation, List.isEmpty_iff.mp htop]
        exact Or.inl rfl
    · cases hfolder
  · exact Or.inl (find?_edited_of_ne disk hlocation ▸ hfolder)

/-- A folder that is made in another one is the only new one. -/
theorem ensured {path : Path} {location : Location} (h : before.FolderAt path location)
    {name : String} (hname : name ≠ "..")
    (hensure : before.ensureFolders (path.child name) = .ok after) :
    FoldersFrom (· = location ++ [name]) before after := by
  intro other hfolder
  rcases h.ensureFolders_child hname hensure with rfl | ⟨-, rfl⟩
  · exact Or.inl hfolder
  · by_cases hother : other = location ++ [name]
    · exact Or.inr hother
    · exact Or.inl (find?_put_of_ne before _ hother ▸ hfolder)

end FoldersFrom

/-! ## Which entries there are -/

/-- A way is barred on its first part or on what comes behind it. -/
theorem barOn?_append (disk : Disk) (location : Location) (first second : List String) :
    disk.barOn? location (first ++ second)
      = (disk.barOn? location first).or (disk.barOn? (Path.settle location first) second) := by
  induction first generalizing location with
  | nil => rfl
  | cons name rest ih => rw [List.cons_append, barOn?, barOn?, ih, Option.or_assoc, Path.settle]

/-- A path that nothing bars ends with a name that fits. -/
theorem Clear.fits {disk : Disk} {path : Path} {name : String}
    (h : disk.Clear (path.child name)) (hname : name ≠ "..") :
    fits (path.resolve disk.here) name = true := by
  unfold Clear obstacle? at h
  split at h
  · cases h
  · next hlong =>
      have hlast : disk.bar? (Path.settle (disk.origin path) path.parts) name = none := by
        have hbar : disk.barOn? (disk.origin path) (path.parts ++ [name]) = none := h
        rw [barOn?_append] at hbar
        simpa [barOn?] using (Option.or_eq_none_iff.mp hbar).2
      have hshort : ¬ nameLimit < name.utf8ByteSize := by
        intro hover
        unfold bar? at hlast
        rw [if_pos hover] at hlast
        split at hlast <;> cases hlast
      unfold isTooLong resolve at hlong
      rw [Path.resolve_child _ _ hname] at hlong
      simp only [Bool.or_eq_true, decide_eq_true_eq, not_or] at hlong
      simp only [Disk.fits, Bool.and_eq_true, decide_eq_true_eq]
      omega

/-- The names in a folder are those of its entries. -/
theorem mem_namesIn_iff {disk : Disk} {folder : Location} {name : String} :
    name ∈ disk.namesIn folder ↔ disk.find? (folder ++ [name]) ≠ none := by
  have hlookup : disk.find? (folder ++ [name]) = disk.entries.lookup (folder ++ [name]) :=
    if_neg (by simp)
  rw [mem_namesIn, hlookup, ne_eq, List.lookup_eq_none_iff]
  constructor
  · rintro hmem hnone
    obtain ⟨entry, hentry, hplace⟩ := List.mem_map.mp hmem
    simpa [hplace] using hnone entry hentry
  · intro hsome
    refine Decidable.byContradiction fun hmem => hsome fun entry hentry => ?_
    have hne : folder ++ [name] ≠ entry.1 := fun heq => hmem (heq ▸ List.mem_map_of_mem hentry)
    simpa using hne

/-- A folder is looked over if nothing bars the way, it is open, and every name in it fits. -/
theorem survey_eq_ok {disk : Disk} {path : Path} :
    disk.survey path = .ok ()
      ↔ disk.Clear path ∧ ∃ location, disk.FolderAt path location
        ∧ disk.mayRead location = true
        ∧ ∀ name, disk.find? (location ++ [name]) ≠ none → fits location name = true := by
  unfold survey
  constructor
  · intro h
    cases hreach : disk.reach path with
    | error cause =>
        rw [hreach] at h
        cases h
    | ok location =>
        rw [hreach, show onPath path (.ok location) = .ok location from rfl] at h
        obtain ⟨hlocate, hclear⟩ := reach_eq_ok.mp hreach
        simp only [bind, Except.bind] at h
        split at h
        · cases h
        · cases h
        · next hfind =>
            split at h
            · cases h
            · next hread =>
                split at h
                · cases h
                · next hfits =>
                    refine ⟨hclear, location, ⟨hlocate, hfind⟩, by simpa using hread, ?_⟩
                    intro name hname
                    have hall := List.find?_eq_none.mp hfits name (mem_namesIn_iff.mpr hname)
                    simpa using hall
  · rintro ⟨hclear, location, ⟨hlocate, hfind⟩, hread, hfits⟩
    rw [reach_eq_ok.mpr ⟨hlocate, hclear⟩, show onPath path (.ok location) = .ok location from rfl]
    have hnone : ((disk.namesIn location).find? fun name => !fits location name) = none := by
      refine List.find?_eq_none.mpr fun name hname => ?_
      simp [hfits name (mem_namesIn_iff.mp hname)]
    simp only [bind, Except.bind, hfind, hread, hnone]
    rfl

/-- Whether a place without an entry can be given one, in a folder that is there. -/
def Takes (disk : Disk) (location : Location) : Prop :=
  ∃ folder name, location = folder ++ [name] ∧ fits folder name = true
    ∧ disk.mayWrite location = true ∧ disk.mayWrite folder = true

/-- Whether a place can be given an entry depends on the locks alone. -/
theorem takes_congr {first second : Disk} (h : first.locks = second.locks)
    {location : Location} : first.Takes location ↔ second.Takes location := by
  unfold Takes mayWrite
  rw [h]

/-- What a run adds to the entries of a disk: those that are there stay, and new ones are
    where they can be put. -/
structure Fills (before after : Disk) : Prop where
  grows : Grows (fun _ => True) before after
  kept : ∀ location, before.find? location ≠ none → after.find? location ≠ none
  taken : ∀ location, after.find? location ≠ none →
    before.find? location ≠ none ∨ before.Takes location

namespace Fills

variable {before after : Disk}

theorem refl (disk : Disk) : Fills disk disk :=
  ⟨.refl _ _, fun _ => id, fun _ => Or.inl⟩

theorem trans {last : Disk} (h : Fills before after) (hnext : Fills after last) :
    Fills before last where
  grows := h.grows.trans hnext.grows
  kept location hthere := hnext.kept location (h.kept location hthere)
  taken location hthere := by
    rcases hnext.taken location hthere with hafter | htakes
    · exact h.taken location hafter
    · exact Or.inr ((takes_congr h.grows.locks).mp htakes)

/-- Disks that are the same fill each other. -/
theorem of_same (h : Same after before) : Fills before after where
  grows := h.grows _
  kept location := by
    rw [h.find?]
    exact id
  taken location := by
    rw [h.find?]
    exact Or.inl

/-- A place that can be given an entry is one that takes it, unless it has one. -/
theorem takes_of_mayPut {disk : Disk} {folder : Path} {around : Location} {name : String}
    (hfolder : disk.locate folder = .ok around) (hname : name ≠ "..")
    (hclear : disk.Clear (folder.child name)) (hput : disk.mayPut (around ++ [name]) = true) :
    disk.find? (around ++ [name]) ≠ none ∨ disk.Takes (around ++ [name]) := by
  unfold mayPut at hput
  rw [Bool.and_eq_true, Bool.or_eq_true, Option.isSome_iff_ne_none, List.dropLast_concat] at hput
  refine hput.2.imp_right fun haround => ⟨around, name, rfl, ?_, hput.1, haround⟩
  exact resolve_of_locate hfolder ▸ hclear.fits hname

/-- An entry that is put at a place that takes it. -/
theorem put {touched : Location → Prop} {location : Location} {entry : Entry}
    (hgrows : Grows touched before (before.put location entry))
    (h : before.find? location ≠ none ∨ before.Takes location) :
    Fills before (before.put location entry) where
  grows := hgrows.mono fun _ _ => True.intro
  kept other hthere := by
    by_cases hother : other = location
    · rw [hother, find?_put_self]
      split <;> simp
    · rw [find?_put_of_ne before entry hother]
      exact hthere
  taken other hthere := by
    by_cases hother : other = location
    · exact hother ▸ h
    · rw [find?_put_of_ne before entry hother] at hthere
      exact Or.inl hthere

/-- An edit of a file in a folder. -/
theorem edited {folder : Path} {name : String} (hname : name ≠ "..")
    {revise : List UInt8 → List UInt8} {edit : Edit}
    (h : before.edit (folder.child name) revise = .ok edit) :
    Fills before (before.edited edit) := by
  obtain ⟨around, haround, hlocation⟩ := location_of_edit_child hname h
  obtain ⟨-, hfolder, -, hclear, hput⟩ := edit_eq_ok.mp h
  refine .put (grows_edited hfolder) ?_
  rw [hlocation] at hput ⊢
  exact takes_of_mayPut haround.locate hname hclear hput

/-- A folder that is made in a folder. -/
theorem ensured {path : Path} {location : Location} (h : before.FolderAt path location)
    {name : String} (hname : name ≠ "..")
    (hensure : before.ensureFolders (path.child name) = .ok after) : Fills before after := by
  have hmakes := makes_of_ensureFolders hensure
  have hclear := hmakes.grows.clear_iff.mp hmakes.clear
  rcases h.ensureFolders_child hname hensure with rfl | ⟨hput, rfl⟩
  · exact .refl _
  · exact .put hmakes.grows (takes_of_mayPut h.locate hname hclear hput)

/-- What hinders writing a file stays the same, unless a folder comes in its place. -/
theorem refusal?_eq (h : Fills before after) {place : Location}
    (hfolder : after.find? place = some .folder ↔ before.find? place = some .folder) :
    after.refusal? place = before.refusal? place := by
  have hput : after.mayPut place = before.mayPut place := by
    have hwrite : ∀ location, after.mayWrite location = before.mayWrite location := by
      intro location
      unfold mayWrite
      rw [h.grows.locks]
    unfold mayPut
    rw [hwrite, hwrite]
    cases hbefore : before.find? place with
    | some entry =>
        have hsome := Option.isSome_iff_ne_none.mpr (h.kept place (by simp [hbefore]))
        rw [hsome]
        rfl
    | none =>
        cases hafter : after.find? place with
        | none => rfl
        | some entry =>
            rcases h.taken place (by simp [hafter]) with hthere | htakes
            · exact absurd hbefore hthere
            · obtain ⟨folder, name, rfl, -, -, haround⟩ := htakes
              rw [List.dropLast_concat, haround]
              rfl
  unfold refusal?
  simp only [hfolder, hput]

/-- What hinders changing a file stays, unless its place becomes a folder or was one. -/
theorem hindrance?_eq (h : Fills before after) {path : Path}
    (hfolder : after.find? (path.resolve before.here) = some .folder
      ↔ before.find? (path.resolve before.here) = some .folder) :
    after.hindrance? path = before.hindrance? path := by
  unfold hindrance?
  rw [h.grows.obstacle?_eq, h.grows.here, h.refusal?_eq hfolder]

/-- A folder that is looked over can be looked over again. -/
theorem survey (h : Fills before after) {path : Path} (hsurvey : before.survey path = .ok ()) :
    after.survey path = .ok () := by
  obtain ⟨hclear, location, hfolder, hread, hfits⟩ := survey_eq_ok.mp hsurvey
  refine survey_eq_ok.mpr ⟨h.grows.clear_iff.mpr hclear, location, h.grows.folderAt hfolder,
    (h.grows.mayRead_eq location).trans hread, fun name hname => ?_⟩
  rcases h.taken _ hname with hbefore | ⟨around, other, hplace, hother, -⟩
  · exact hfits name hbefore
  · obtain ⟨rfl, hnames⟩ := List.append_inj' hplace rfl
    rw [(List.cons.inj hnames).1]
    exact hother

end Fills

end Disk

end StructScript
