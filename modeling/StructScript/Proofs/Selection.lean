import StructScript.Generation.Selection
import StructScript.Proofs.DiskGrowth

/-! # Which folders and files a run selects

    The selection is made by passes over the entries of a folder.  Here it is said
    without them: `Settings.IsPackage` and `Settings.IsSourceIn` say what a package and a
    source are, entry by entry, and the selected lists are those entries in the order of
    their names (`Settings.mem_packageFolders`, `Settings.mem_sources`,
    `Disk.pairwise_lt_children`).  A list in strict order is known by its members
    (`eq_of_pairwise_lt`), so two disks with the same packages and sources give the same
    lists. -/

namespace StructScript

/-- A list in strict order is known by its members. -/
theorem eq_of_pairwise_lt {first second : List Path}
    (hfirst : first.Pairwise fun path other => path.name < other.name)
    (hsecond : second.Pairwise fun path other => path.name < other.name)
    (h : ∀ path, path ∈ first ↔ path ∈ second) : first = second := by
  have hnodup : ∀ {paths : List Path},
      paths.Pairwise (fun path other => path.name < other.name) → paths.Nodup := by
    intro paths hpaths
    refine hpaths.imp fun hlt heq => ?_
    rw [heq] at hlt
    exact String.lt_irrefl _ hlt
  have hperm : first.Perm second :=
    (List.perm_ext_iff_of_nodup (hnodup hfirst) (hnodup hsecond)).mpr h
  refine hperm.eq_of_pairwise ?_ hfirst hsecond
  intro path other _ _ hlt hgt
  exact absurd hgt (String.lt_asymm hlt)

namespace Disk

theorem nameLe_iff {first second : String} : nameLe first second = true ↔ first ≤ second := by
  rw [nameLe, Bool.not_eq_true', decide_eq_false_iff_not, String.not_lt]

/-- The names in a folder are in strict order. -/
theorem pairwise_lt_namesIn {disk : Disk} (h : disk.IsTree) (folder : Location) :
    (disk.namesIn folder).Pairwise (· < ·) := by
  have hsorted : (disk.namesIn folder).Pairwise fun first second => nameLe first second = true := by
    refine List.pairwise_mergeSort ?_ ?_ _
    · intro first second third hfirst hsecond
      exact nameLe_iff.mpr (String.le_trans (nameLe_iff.mp hfirst) (nameLe_iff.mp hsecond))
    · intro first second
      rw [Bool.or_eq_true, nameLe_iff, nameLe_iff]
      exact String.le_total first second
  refine (hsorted.and (nodup_namesIn h folder)).imp ?_
  rintro first second ⟨hle, hne⟩
  refine String.not_le.mp fun hge => hne ?_
  exact String.le_antisymm (nameLe_iff.mp hle) hge

/-- The children of a folder stand in the order of their names, each once. -/
theorem pairwise_lt_children {disk : Disk} (h : disk.IsTree) (path : Path) :
    (disk.children path).Pairwise fun first second => first.name < second.name := by
  unfold children
  cases disk.locate path with
  | ok location =>
      refine List.pairwise_map.mpr ((pairwise_lt_namesIn h location).imp ?_)
      intro first second hlt
      rw [Path.name_child, Path.name_child]
      exact hlt
  | error cause => exact .nil

/-- A place below the top is that of an entry if something stands there. -/
theorem mem_entries_iff {disk : Disk} {location : Location} (h : location ≠ []) :
    location ∈ disk.entries.map (·.1) ↔ disk.find? location ≠ none := by
  rw [find?, if_neg (by simpa using h)]
  constructor
  · intro hmem hnone
    obtain ⟨entry, hentry, rfl⟩ := List.mem_map.mp hmem
    simpa using List.lookup_eq_none_iff.mp hnone entry hentry
  · intro hsome
    obtain ⟨entry, hentry⟩ := Option.ne_none_iff_exists'.mp hsome
    obtain ⟨before, after, hentries, -⟩ := List.lookup_eq_some_iff.mp hentry
    rw [hentries]
    simp

/-- The entries of a folder are what stands right below its place. -/
theorem mem_children {disk : Disk} {path child : Path} {location : Location}
    (h : disk.FolderAt path location) :
    child ∈ disk.children path
      ↔ ∃ name, child = path.child name ∧ disk.find? (location ++ [name]) ≠ none := by
  unfold children
  rw [h.locate]
  rw [List.mem_map]
  constructor
  · rintro ⟨name, hname, rfl⟩
    exact ⟨name, rfl, (mem_entries_iff (by simp)).mp (mem_namesIn.mp hname)⟩
  · rintro ⟨name, rfl, hfind⟩
    exact ⟨name, mem_namesIn.mpr ((mem_entries_iff (by simp)).mpr hfind), rfl⟩

/-- In a tree no name means the folder above. -/
theorem IsTree.ne_up {disk : Disk} (h : disk.IsTree) {location : Location} {name : String}
    (hfind : disk.find? (location ++ [name]) ≠ none) : name ≠ ".." := by
  rintro rfl
  obtain ⟨entry, hentry, hplace⟩ := List.mem_map.mp ((mem_entries_iff (by simp)).mpr hfind)
  have hnamed := h.named entry hentry
  rw [hplace] at hnamed
  simp at hnamed

end Disk

namespace Settings

/-- Whether a folder is a package: it is directly in the input folder, its name is none
    of those that are ignored, it is not where the output goes, and no pattern leaves it
    out. -/
structure IsPackage (settings : Settings) (disk : Disk) (folder : Path) : Prop where
  inside : ∃ name, name ≠ ".." ∧ folder = settings.inputFolder.child name
  isFolder : disk.isFolder folder = true
  kept : folder.name ∉ ignoredFolders
  apart : disk.resolve folder ≠ disk.resolve settings.outputFolder
  unmatched : ∀ pattern ∈ settings.excluded, Text.matchesPattern pattern folder.name = false

/-- Whether a file is a source of a package: it is directly in its folder, it is a Go
    file but no test, and no pattern leaves it out. -/
structure IsSourceIn (settings : Settings) (disk : Disk) (folder source : Path) : Prop where
  inside : ∃ name, source = folder.child name
  isFile : disk.isFile source = true
  isGo : source.ending = ".go"
  noTest : source.name.endsWith "_test.go" = false
  unmatched : ∀ pattern ∈ settings.excluded,
    Text.matchesPattern pattern (folder.name ++ "/" ++ source.name) = false

section

variable {settings : Settings} {disk : Disk}

/-- A path below the input folder is left in if no pattern matches its way down. -/
theorem excludes_eq_false_iff {path : Path} (below : List String)
    (h : path.parts = settings.inputFolder.parts ++ below) :
    settings.excludes path = false
      ↔ ∀ pattern ∈ settings.excluded,
        Text.matchesPattern pattern (String.intercalate "/" below) = false := by
  unfold excludes
  rw [h, List.drop_left]
  simp only [List.any_eq_false, Bool.not_eq_true]

/-- The package folders are the packages, in the order of their names. -/
theorem mem_packageFolders {inputPlace : Location} (htree : disk.IsTree)
    (hinput : disk.FolderAt settings.inputFolder inputPlace) {folder : Path} :
    folder ∈ settings.packageFolders disk ↔ settings.IsPackage disk folder := by
  unfold packageFolders candidateFolders mayHoldPackage
  simp only [List.mem_filter, Disk.mem_children hinput, Bool.and_eq_true, Bool.not_eq_true',
    bne_iff_ne, ne_eq, List.contains_eq_mem, decide_eq_false_iff_not]
  constructor
  · rintro ⟨⟨⟨name, rfl, hfind⟩, ⟨hfolder, hkept⟩, hapart⟩, hexcluded⟩
    have hunmatched := (excludes_eq_false_iff [name] rfl).mp hexcluded
    refine ⟨⟨name, htree.ne_up hfind, rfl⟩, hfolder, hkept, hapart, ?_⟩
    rw [Path.name_child]
    exact hunmatched
  · rintro ⟨⟨name, hup, rfl⟩, hfolder, hkept, hapart, hunmatched⟩
    rw [Path.name_child] at hunmatched
    refine ⟨⟨⟨name, rfl, ?_⟩, ⟨hfolder, hkept⟩, hapart⟩,
      (excludes_eq_false_iff [name] rfl).mpr hunmatched⟩
    -- a folder that is there is an entry
    obtain ⟨-, place, hplace⟩ := Disk.isFolder_iff.mp hfolder
    cases (hinput.locate_child hup).symm.trans hplace.locate
    rw [hplace.find?]
    simp

/-- The package folders stand in the order of their names, each once. -/
theorem pairwise_lt_packageFolders (htree : disk.IsTree) :
    (settings.packageFolders disk).Pairwise fun first second => first.name < second.name :=
  ((Disk.pairwise_lt_children htree settings.inputFolder).filter _).filter _

/-- The sources of a package are in the order of their names. -/
theorem mem_sources {folder source : Path} {location : Location}
    (hpackage : ∃ name, folder = settings.inputFolder.child name)
    (hfolder : disk.FolderAt folder location) :
    source ∈ settings.sources disk folder ↔ settings.IsSourceIn disk folder source := by
  obtain ⟨package, rfl⟩ := hpackage
  unfold sources isSource
  simp only [List.mem_filter, Disk.mem_children hfolder, Bool.and_eq_true, Bool.not_eq_true',
    beq_iff_eq]
  constructor
  · rintro ⟨⟨name, rfl, hfind⟩, ⟨⟨hfile, hgo⟩, htest⟩, hexcluded⟩
    have hunmatched :=
      (excludes_eq_false_iff [package, name] (List.append_assoc _ _ _)).mp hexcluded
    refine ⟨⟨name, rfl⟩, hfile, hgo, htest, ?_⟩
    rw [Path.name_child, Path.name_child]
    exact hunmatched
  · rintro ⟨⟨name, rfl⟩, hfile, hgo, htest, hunmatched⟩
    rw [Path.name_child, Path.name_child] at hunmatched
    refine ⟨⟨name, rfl, ?_⟩, ⟨⟨hfile, hgo⟩, htest⟩,
      (excludes_eq_false_iff [package, name] (List.append_assoc _ _ _)).mpr hunmatched⟩
    have hup : name ≠ ".." := by
      rintro rfl
      rw [Path.ending, Path.name_child] at hgo
      exact absurd hgo (by decide)
    obtain ⟨place, content, hplace⟩ := Disk.isFile_iff.mp hfile
    cases (hfolder.locate_child hup).symm.trans hplace.locate
    rw [hplace.find?]
    simp

theorem pairwise_lt_sources (htree : disk.IsTree) (folder : Path) :
    (settings.sources disk folder).Pairwise fun first second => first.name < second.name :=
  (Disk.pairwise_lt_children htree folder).filter _

end

end Settings

end StructScript
