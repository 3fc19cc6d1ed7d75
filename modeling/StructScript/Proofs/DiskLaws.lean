import StructScript.Disk

/-! # Laws of file trees

    What an operation on a disk does is said here once, in terms of what stands at
    each place (`find?`):

    * `walk_mono` and `walk_put_file` say that a path leads to the same place as
      long as folders stay folders, or as long as only the content of files changes;
    * `obstacle?` is what bars the way along a path, which depends on the locks and on
      the lengths of names only, and `reach_eq_ok` says that one gets to the place of
      a path if nothing does;
    * `write_eq_edit` and its like say which edit an operation is, `edit_eq_ok` says
      when an edit can be made, and `hindrance?` why it cannot;
    * `SameAt` is the view that a job has of a disk through one path: what a path
      leads to, and what stands there. -/

namespace StructScript

/-- A name is its stem with its ending. -/
theorem Path.splitName_append (name : String) :
    (Path.splitName name).1 ++ (Path.splitName name).2 = name := by
  unfold Path.splitName
  simp only
  split
  · exact String.append_empty
  · next h =>
      rw [Bool.not_eq_true, Bool.or_eq_false_iff] at h
      generalize hreversed : name.toList.reverse = reversed at h ⊢
      have hsplit := List.takeWhile_append_dropWhile (p := (· != '.')) (l := reversed)
      have hpoint := List.head?_dropWhile_not (· != '.') reversed
      cases hrest : reversed.dropWhile (· != '.') with
      | nil =>
          -- without a point nothing is left behind the ending
          rw [hrest, List.append_nil] at hsplit
          rw [hsplit] at h
          simp at h
      | cons point stem =>
          rw [hrest] at hsplit hpoint
          have hdot : point = '.' := by simpa using hpoint
          subst hdot
          generalize reversed.takeWhile (· != '.') = ending at hsplit ⊢
          have hstem : reversed.drop (ending.length + 1) = stem := by
            rw [← hsplit, ← List.drop_drop, List.drop_left]
            rfl
          have hname : name.toList = stem.reverse ++ '.' :: ending.reverse := by
            rw [← List.reverse_reverse name.toList, hreversed, ← hsplit]
            simp
          rw [hstem, ← String.ofList_append, ← hname, String.ofList_toList]

/-- An entry of a folder has the name that it was given. -/
theorem Path.name_child (path : Path) (name : String) : (path.child name).name = name := by
  unfold Path.name Path.child
  simp

/-- Entries are the same if they have the same name in the same folder. -/
theorem Path.child_inj {path otherPath : Path} {name otherName : String} :
    path.child name = otherPath.child otherName ↔ path = otherPath ∧ name = otherName := by
  obtain ⟨slashes, parts⟩ := path
  obtain ⟨otherSlashes, otherParts⟩ := otherPath
  simp only [Path.child, Path.mk.injEq]
  constructor
  · rintro ⟨rfl, hparts⟩
    obtain ⟨rfl, hname⟩ := List.append_inj' hparts rfl
    exact ⟨⟨rfl, rfl⟩, (List.cons.inj hname).1⟩
  · rintro ⟨⟨rfl, rfl⟩, rfl⟩
    exact ⟨rfl, rfl⟩

/-- Names are settled one after the other. -/
theorem Path.settle_append (location : Location) (first second : List String) :
    Path.settle location (first ++ second) = Path.settle (Path.settle location first) second := by
  induction first generalizing location with
  | nil => rfl
  | cons name rest ih => exact ih _

/-- An entry of a folder lies at its name below the folder. -/
theorem Path.resolve_child (here : Location) (path : Path) {name : String} (h : name ≠ "..") :
    (path.child name).resolve here = path.resolve here ++ [name] := by
  unfold Path.resolve Path.child
  rw [Path.settle_append, Path.settle, Path.settle, if_neg h]

/-- No folder is an entry of itself. -/
theorem Path.child_ne (path : Path) (name : String) : path.child name ≠ path := by
  intro h
  have hlength := congrArg (fun other : Path => other.parts.length) h
  simp [Path.child] at hlength

namespace Disk

/-! ## Places -/

theorem lookup_filter_ne {location other : Location} (h : other ≠ location)
    (entries : List (Location × Entry)) :
    (entries.filter fun entry => entry.1 != location).lookup other = entries.lookup other := by
  induction entries with
  | nil => rfl
  | cons entry rest ih =>
      obtain ⟨place, found⟩ := entry
      by_cases hplace : place = location
      · have hgone : (place != location) = false := by simp [hplace]
        have hother : (other == place) = false := by simp [hplace, h]
        rw [List.filter_cons, hgone, List.lookup_cons, hother]
        exact ih
      · have hkept : (place != location) = true := by simp [hplace]
        rw [List.filter_cons, hkept]
        simp only [if_true, List.lookup_cons, ih]

/-- What stands at the other places stays as it is. -/
theorem find?_put_of_ne (disk : Disk) {location other : Location} (entry : Entry)
    (h : other ≠ location) : (disk.put location entry).find? other = disk.find? other := by
  have hother : (other == location) = false := by simp [h]
  unfold find? put
  rw [List.lookup_cons, hother]
  simp only [lookup_filter_ne h]

/-- What is put at a place stands there, unless the place is the top. -/
theorem find?_put_self (disk : Disk) (location : Location) (entry : Entry) :
    (disk.put location entry).find? location
      = if location.isEmpty then some .folder else some entry := by
  unfold find? put
  rw [List.lookup_cons]
  simp

/-- The top is a folder, so a place without a folder is not the top. -/
theorem ne_nil_of_find? {disk : Disk} {location : Location}
    (h : disk.find? location ≠ some .folder) : location ≠ [] := by
  rintro rfl
  exact h rfl

/-! ## Names in a folder -/

/-- The disks that file trees are: one entry at each place, and no entry under the
    name that stands for the folder above. -/
structure IsTree (disk : Disk) : Prop where
  distinct : (disk.entries.map (·.1)).Nodup
  named : ∀ entry ∈ disk.entries, ".." ∉ entry.1
  here : ".." ∉ disk.here

/-- A place has a name in a folder if it is that name below the folder. -/
theorem nameIn?_eq_some {folder location : Location} {name : String} :
    nameIn? folder location = some name ↔ location = folder ++ [name] := by
  unfold nameIn? relativeTo?
  constructor
  · intro h
    split at h
    · next only hbelow =>
        cases h
        split at hbelow
        · next hprefix =>
            obtain ⟨below, rfl⟩ := List.isPrefixOf_iff_prefix.mp hprefix
            rw [List.drop_left] at hbelow
            rw [Option.some.inj hbelow]
        · cases hbelow
    · cases h
  · rintro rfl
    rw [if_pos (List.isPrefixOf_iff_prefix.mpr (List.prefix_append folder [name]))]
    simp

/-- The names in a folder are those of the entries below it. -/
theorem mem_namesIn {disk : Disk} {folder : Location} {name : String} :
    name ∈ disk.namesIn folder ↔ folder ++ [name] ∈ disk.entries.map (·.1) := by
  unfold namesIn
  rw [(List.mergeSort_perm _ _).mem_iff, List.mem_filterMap]
  constructor
  · rintro ⟨entry, hentry, hname⟩
    exact nameIn?_eq_some.mp hname ▸ List.mem_map_of_mem hentry
  · intro h
    obtain ⟨entry, hentry, hplace⟩ := List.mem_map.mp h
    exact ⟨entry, hentry, nameIn?_eq_some.mpr hplace⟩

theorem mem_entries_of_find? {disk : Disk} {location : Location} {content : List UInt8}
    (h : disk.find? location = some (.file content)) : location ∈ disk.entries.map (·.1) := by
  unfold find? at h
  split at h
  · cases h
  · obtain ⟨before, after, hentries, -⟩ := List.lookup_eq_some_iff.mp h
    rw [hentries]
    simp

/-- No name stands twice in a folder. -/
theorem nodup_namesIn {disk : Disk} (h : disk.IsTree) (folder : Location) :
    (disk.namesIn folder).Nodup := by
  have hplaces : disk.entries.Pairwise fun first second => first.1 ≠ second.1 :=
    List.pairwise_map.mp h.distinct
  refine (List.mergeSort_perm _ _).nodup_iff.mpr (hplaces.filterMap _ ?_)
  rintro first second hne name hfirst other hsecond rfl
  exact hne ((nameIn?_eq_some.mp hfirst).trans (nameIn?_eq_some.mp hsecond).symm)

/-- The entries of a folder all have different names. -/
theorem pairwise_children {disk : Disk} (h : disk.IsTree) (path : Path) :
    (disk.children path).Pairwise fun first second => first.name ≠ second.name := by
  unfold children
  split
  · next location _ =>
      refine List.pairwise_map.mpr ((nodup_namesIn h location).imp ?_)
      intro first second hne
      rw [Path.name_child, Path.name_child]
      exact hne
  · exact .nil

/-! ## Ways -/

-- the equations of `walk` are made here once, and not by each of the proofs that open it
attribute [local simp] walk

section

variable {bar? : Location → String → Option Cause}

/-- A way is walked part by part. -/
theorem walk_append (disk : Disk) (location : Location) (first second : List String) :
    disk.walk bar? location (first ++ second)
      = match disk.walk bar? location first with
        | .ok place => disk.walk bar? place second
        | .error cause => .error cause := by
  induction first generalizing location with
  | nil => rfl
  | cons name rest ih =>
      rw [List.cons_append, walk, walk]
      cases disk.find? location with
      | none => rfl
      | some entry =>
          cases entry with
          | file content => rfl
          | folder =>
              cases bar? location name with
              | none => exact ih _
              | some cause => rfl

/-- A way stays open as long as folders stay folders. -/
theorem walk_mono {before after : Disk}
    (h : ∀ location, before.find? location = some .folder → after.find? location = some .folder)
    {location place : Location} {names : List String}
    (hwalk : before.walk bar? location names = .ok place) :
    after.walk bar? location names = .ok place := by
  induction names generalizing location with
  | nil => exact hwalk
  | cons name rest ih =>
      rw [walk] at hwalk ⊢
      cases hfind : before.find? location with
      | none =>
          rw [hfind] at hwalk
          cases hwalk
      | some entry =>
          rw [hfind] at hwalk
          cases entry with
          | file content => cases hwalk
          | folder =>
              rw [h location hfind]
              cases hbar : bar? location name with
              | none =>
                  rw [hbar] at hwalk
                  exact ih hwalk
              | some cause =>
                  rw [hbar] at hwalk
                  cases hwalk

/-- New content of a file opens and closes no way. -/
theorem walk_put_file (disk : Disk) {place : Location} {content : List UInt8}
    (h : disk.find? place = some (.file content)) (after : List UInt8) (location : Location)
    (names : List String) :
    (disk.put place (.file after)).walk bar? location names = disk.walk bar? location names := by
  induction names generalizing location with
  | nil => rfl
  | cons name rest ih =>
      rw [walk, walk]
      by_cases hplace : location = place
      · subst hplace
        have hne : location ≠ [] := ne_nil_of_find? (by rw [h]; simp)
        rw [find?_put_self, if_neg (by simpa using hne), h]
      · rw [find?_put_of_ne disk _ hplace]
        simp only [ih]

/-- A walk sees no more of a disk than what stands at its places. -/
theorem walk_congr {first second : Disk}
    (h : ∀ location, first.find? location = second.find? location) (location : Location)
    (names : List String) :
    first.walk bar? location names = second.walk bar? location names := by
  induction names generalizing location with
  | nil => rfl
  | cons name rest ih =>
      rw [walk, walk, h location]
      simp only [ih]

/-- A walk from a proper place leads to one. -/
theorem up_not_mem_walk {disk : Disk} {location place : Location} {names : List String}
    (h : ".." ∉ location) (hwalk : disk.walk bar? location names = .ok place) : ".." ∉ place := by
  induction names generalizing location with
  | nil =>
      cases hwalk
      exact h
  | cons name rest ih =>
      rw [walk] at hwalk
      split at hwalk
      · cases hwalk
      · cases hwalk
      · split at hwalk
        · cases hwalk
        · refine ih ?_ hwalk
          by_cases hup : name = ".."
          · rw [if_pos hup]
            exact fun hmem => h ((List.dropLast_sublist location).subset hmem)
          · rw [if_neg hup, List.mem_append, List.mem_singleton]
            exact fun hmem => hmem.elim h fun heq => hup heq.symm

/-- A walk leads to the place that the names settle on. -/
theorem settle_of_walk {disk : Disk} {location place : Location} {names : List String}
    (h : disk.walk bar? location names = .ok place) : Path.settle location names = place := by
  induction names generalizing location with
  | nil => exact Except.ok.inj h
  | cons name rest ih =>
      rw [walk] at h
      split at h
      · cases h
      · cases h
      · split at h
        · cases h
        · exact ih h

end

/-- Whether a path leads to a folder at a place. -/
structure FolderAt (disk : Disk) (path : Path) (location : Location) : Prop where
  locate : disk.locate path = .ok location
  find? : disk.find? location = some .folder

/-- The place of a path is the one that it leads to whatever is there. -/
theorem resolve_of_locate {disk : Disk} {path : Path} {place : Location}
    (h : disk.locate path = .ok place) : path.resolve disk.here = place :=
  settle_of_walk h

/-- The way to an entry of a folder is the way to the folder and one step. -/
theorem locate_child_eq (disk : Disk) (path : Path) (name : String) :
    disk.locate (path.child name)
      = match disk.locate path with
        | .ok place => disk.walk (fun _ _ => none) place [name]
        | .error cause => .error cause :=
  walk_append disk _ path.parts [name]

/-- The entry of a folder under a name is right below the folder's place. -/
theorem FolderAt.locate_child {disk : Disk} {path : Path} {location : Location}
    (h : disk.FolderAt path location) {name : String} (hname : name ≠ "..") :
    disk.locate (path.child name) = .ok (location ++ [name]) := by
  rw [locate_child_eq, h.locate]
  simp only [walk, h.find?, if_neg hname]

/-- What can be located in a folder has the folder around it. -/
theorem exists_folderAt_of_locate_child {disk : Disk} {path : Path} {name : String}
    {location : Location} (h : disk.locate (path.child name) = .ok location)
    (hname : name ≠ "..") :
    ∃ folder, disk.FolderAt path folder ∧ location = folder ++ [name] := by
  rw [locate_child_eq] at h
  split at h
  · next folder hfolder =>
      rw [walk] at h
      split at h
      · cases h
      · cases h
      · next hfind =>
          simp only [if_neg hname, walk] at h
          cases h
          exact ⟨folder, ⟨hfolder, hfind⟩, rfl⟩
  · cases h

/-! ## What bars the way -/

/-- What bars the way along names, whatever is there. -/
def barOn? (disk : Disk) (location : Location) : List String → Option Cause
  | [] => none
  | name :: rest =>
      (disk.bar? location name).or
        (disk.barOn? (if name = ".." then location.dropLast else location ++ [name]) rest)

/-- What bars the way along a path, whatever is there. -/
def obstacle? (disk : Disk) (path : Path) : Option Cause :=
  if disk.isTooLong path then some .tooLong else disk.barOn? (disk.origin path) path.parts

/-- Whether nothing bars the way along a path. -/
def Clear (disk : Disk) (path : Path) : Prop :=
  disk.obstacle? path = none

/-- What bars a way depends on the locks alone. -/
theorem barOn?_congr {first second : Disk} (h : first.locks = second.locks) (location : Location)
    (names : List String) : first.barOn? location names = second.barOn? location names := by
  induction names generalizing location with
  | nil => rfl
  | cons name rest ih =>
      have hbar : first.bar? location name = second.bar? location name := by
        unfold bar? mayRead
        rw [h]
      rw [barOn?, barOn?, hbar, ih]

/-- What bars the way depends on the folder in use and on the locks. -/
theorem obstacle?_congr {first second : Disk} (hhere : first.here = second.here)
    (hlocks : first.locks = second.locks) (path : Path) :
    first.obstacle? path = second.obstacle? path := by
  unfold obstacle? isTooLong resolve origin
  rw [hhere, barOn?_congr hlocks]

/-- On a way through folders that are there, one gets to what bars it or to its end. -/
theorem walk_bar {disk : Disk} {location place : Location} {names : List String}
    (h : disk.walk (fun _ _ => none) location names = .ok place) :
    disk.walk disk.bar? location names
      = match disk.barOn? location names with
        | none => .ok place
        | some cause => .error cause := by
  induction names generalizing location with
  | nil => exact h
  | cons name rest ih =>
      rw [walk] at h ⊢
      split at h
      · cases h
      · cases h
      · rw [barOn?]
        cases disk.bar? location name with
        | none => exact ih h
        | some cause => rfl

/-- One who is not barred gets where one gets whom nothing bars. -/
theorem walk_of_bar {disk : Disk} {location place : Location} {names : List String}
    (h : disk.walk disk.bar? location names = .ok place) :
    disk.walk (fun _ _ => none) location names = .ok place := by
  induction names generalizing location with
  | nil => exact h
  | cons name rest ih =>
      rw [walk] at h ⊢
      split at h
      · cases h
      · cases h
      · next hfind =>
          split at h
          · cases h
          · exact ih h

/-- A path whose folders are all there leads to its place, or to what bars the way. -/
theorem reach_of_locate {disk : Disk} {path : Path} {place : Location}
    (h : disk.locate path = .ok place) :
    disk.reach path
      = match disk.obstacle? path with
        | none => .ok place
        | some cause => .error cause := by
  unfold reach obstacle?
  split
  · rfl
  · exact walk_bar h

/-- A place is reached if it is there and nothing bars the way. -/
theorem reach_eq_ok {disk : Disk} {path : Path} {place : Location} :
    disk.reach path = .ok place ↔ disk.locate path = .ok place ∧ disk.Clear path := by
  constructor
  · intro h
    have hlocate : disk.locate path = .ok place := by
      unfold reach at h
      split at h
      · cases h
      · exact walk_of_bar h
    refine ⟨hlocate, ?_⟩
    rw [reach_of_locate hlocate] at h
    unfold Clear
    cases hobstacle : disk.obstacle? path with
    | none => rfl
    | some cause =>
        rw [hobstacle] at h
        cases h
  · rintro ⟨hlocate, hclear⟩
    rw [reach_of_locate hlocate, hclear]

/-- An entry is got if nothing bars the way to it. -/
theorem get?_eq_some {disk : Disk} {path : Path} {entry : Entry} :
    disk.get? path = some entry
      ↔ disk.Clear path ∧ ∃ location, disk.locate path = .ok location
        ∧ disk.find? location = some entry := by
  unfold get?
  constructor
  · intro h
    split at h
    · next location hreach =>
        obtain ⟨hlocate, hclear⟩ := reach_eq_ok.mp hreach
        exact ⟨hclear, location, hlocate, h⟩
    · cases h
  · rintro ⟨hclear, location, hlocate, hfind⟩
    rw [reach_eq_ok.mpr ⟨hlocate, hclear⟩]
    exact hfind

/-- One who may look at everything on the way finds what a path leads to. -/
theorem look_eq_some {disk : Disk} {path : Path} {entry : Entry} :
    disk.look path = .ok (some entry) ↔ path.holdsNull = false ∧ disk.get? path = some entry := by
  unfold look get?
  cases path.holdsNull with
  | true => simp
  | false =>
      cases disk.reach path with
      | ok location => simp
      | error cause =>
          refine iff_of_false ?_ (by simp)
          show (if cause.isAbsence then _ else _) ≠ _
          split <;> simp

/-- A folder is seen if it is there and nothing bars the way. -/
theorem isFolder_iff {disk : Disk} {path : Path} :
    disk.isFolder path = true ↔ disk.Clear path ∧ ∃ location, disk.FolderAt path location := by
  rw [isFolder, beq_iff_eq, get?_eq_some]
  refine and_congr_right fun _ => exists_congr fun location => ?_
  exact ⟨fun h => ⟨h.1, h.2⟩, fun h => ⟨h.locate, h.find?⟩⟩

/-- A folder that one has looked at is there. -/
theorem exists_folderAt_of_look {disk : Disk} {path : Path}
    (h : disk.look path = .ok (some .folder)) : ∃ location, disk.FolderAt path location := by
  obtain ⟨-, location, hlocate, hfind⟩ := get?_eq_some.mp (look_eq_some.mp h).2
  exact ⟨location, hlocate, hfind⟩

/-- Whether a path leads to a file at a place. -/
structure FileAt (disk : Disk) (path : Path) (location : Location) (content : List UInt8) :
    Prop where
  clear : disk.Clear path
  locate : disk.locate path = .ok location
  find? : disk.find? location = some (.file content)

/-- A file is seen if it is at some place with some content. -/
theorem isFile_iff {disk : Disk} {path : Path} :
    disk.isFile path = true ↔ ∃ location content, disk.FileAt path location content := by
  unfold isFile
  constructor
  · intro h
    split at h
    · next content hget =>
        obtain ⟨hclear, location, hlocate, hfind⟩ := get?_eq_some.mp hget
        exact ⟨location, content, hclear, hlocate, hfind⟩
    · cases h
  · rintro ⟨location, content, hclear, hlocate, hfind⟩
    rw [get?_eq_some.mpr ⟨hclear, location, hlocate, hfind⟩]

/-! ## Operations -/

/-- Naming the path in a fault changes no value. -/
theorem onPath_eq_ok {α : Type} {path : Path} {outcome : Except Cause α} {value : α} :
    onPath path outcome = .ok value ↔ outcome = .ok value := by
  cases outcome with
  | ok found =>
      constructor
      · intro h
        cases h
        rfl
      · intro h
        cases h
        rfl
  | error cause =>
      constructor
      · intro h
        cases h
      · intro h
        cases h

/-- What an operation that gets to its place does there. -/
theorem bind_reach_eq_ok {α : Type} {disk : Disk} {path : Path}
    {next : Location → Except Cause α} {value : α} :
    (do next (← disk.reach path)) = .ok value
      ↔ ∃ location, disk.locate path = .ok location ∧ disk.Clear path
        ∧ next location = .ok value := by
  cases hreach : disk.reach path with
  | ok location =>
      obtain ⟨hlocate, hclear⟩ := reach_eq_ok.mp hreach
      constructor
      · intro h
        exact ⟨location, hlocate, hclear, h⟩
      · rintro ⟨_, hplace, -, h⟩
        cases hlocate.symm.trans hplace
        exact h
  | error cause =>
      constructor
      · intro h
        cases h
      · rintro ⟨_, hlocate, hclear, -⟩
        cases hreach.symm.trans (reach_eq_ok.mpr ⟨hlocate, hclear⟩)

/-- A file is read if it is there and not closed. -/
theorem read_eq_ok {disk : Disk} {path : Path} {content : List UInt8} :
    disk.read path = .ok content
      ↔ ∃ location, disk.FileAt path location content ∧ disk.mayRead location = true := by
  unfold read
  rw [onPath_eq_ok, bind_reach_eq_ok]
  constructor
  · rintro ⟨location, hlocate, hclear, h⟩
    split at h
    · cases h
    · next entry hfind =>
        split at h
        · cases h
        · next hread =>
            split at h
            · cases h
            · cases h
              exact ⟨location, ⟨hclear, hlocate, hfind⟩, by simpa using hread⟩
  · rintro ⟨location, ⟨hclear, hlocate, hfind⟩, hread⟩
    refine ⟨location, hlocate, hclear, ?_⟩
    simp only [hfind, hread]
    rfl

/-- A file that is there is read unless it is closed. -/
theorem FileAt.read {disk : Disk} {path : Path} {location : Location} {content : List UInt8}
    (h : disk.FileAt path location content) :
    disk.read path
      = if disk.mayRead location then .ok content else .error ⟨.denied, path.text⟩ := by
  unfold Disk.read
  rw [reach_eq_ok.mpr ⟨h.locate, h.clear⟩]
  simp only [bind, Except.bind, h.find?]
  cases disk.mayRead location <;> rfl

/-- What can be changed can be read. -/
theorem mayRead_of_mayPut {disk : Disk} {location : Location} (h : disk.mayPut location = true) :
    disk.mayRead location = true := by
  unfold mayPut mayWrite at h
  have hfree := Option.isNone_iff_eq_none.mp (Bool.and_eq_true_iff.mp h).1
  unfold mayRead
  rw [hfree]
  rfl

/-- An entry is installed where it can be put. -/
theorem install_eq_ok {disk after : Disk} {location : Location} {entry : Entry} :
    disk.install location entry = .ok after
      ↔ disk.mayPut location = true ∧ disk.put location entry = after := by
  unfold install
  split
  · next hput => simp [hput]
  · next hput => simp [hput]

/-! ## Edits -/

/-- New content for the file at a place. -/
structure Edit where
  location : Location
  content : List UInt8

/-- A disk after an edit. -/
def edited (disk : Disk) (edit : Edit) : Disk :=
  disk.put edit.location (.file edit.content)

/-- A disk after an edit, if there is one. -/
def afterEdit (disk : Disk) : Option Edit → Disk
  | none => disk
  | some edit => disk.edited edit

/-- The content of a file; there is none where there is no file. -/
def contentOf : Option Entry → List UInt8
  | some (.file content) => content
  | _ => []

/-- The edit of the file that a path leads to, which may not be there yet. -/
def edit (disk : Disk) (path : Path) (revise : List UInt8 → List UInt8) : Except Fault Edit :=
  onPath path do
    let location ← disk.reach path
    match disk.find? location with
    | some .folder => .error .isFolder
    | found =>
        if disk.mayPut location then .ok ⟨location, revise (contentOf found)⟩ else .error .denied

/-- A file is edited if its way is clear, its place is no folder and can be changed. -/
theorem edit_eq_ok {disk : Disk} {path : Path} {revise : List UInt8 → List UInt8} {edit : Edit} :
    disk.edit path revise = .ok edit
      ↔ disk.locate path = .ok edit.location ∧ disk.find? edit.location ≠ some .folder
        ∧ edit.content = revise (contentOf (disk.find? edit.location))
        ∧ disk.Clear path ∧ disk.mayPut edit.location = true := by
  obtain ⟨place, content⟩ := edit
  unfold Disk.edit
  rw [onPath_eq_ok, bind_reach_eq_ok]
  constructor
  · rintro ⟨location, hlocate, hclear, h⟩
    split at h
    · cases h
    · next hfolder =>
        split at h
        · next hput =>
            cases h
            exact ⟨hlocate, hfolder, rfl, hclear, hput⟩
        · cases h
  · rintro ⟨hlocate, hfolder, hcontent, hclear, hput⟩
    refine ⟨place, hlocate, hclear, ?_⟩
    split
    · next hfind => exact absurd hfind hfolder
    · rw [if_pos hput]
      exact congrArg (fun after => Except.ok (Edit.mk place after)) hcontent.symm

/-- Why no file can be put at a place, if none can. -/
def refusal? (disk : Disk) (place : Location) : Option Cause :=
  if disk.find? place = some .folder then some .isFolder
  else if disk.mayPut place then none
  else some .denied

/-- Why the file of a path cannot be changed, if it cannot although the folders around
    it are all there. -/
def hindrance? (disk : Disk) (path : Path) : Option Cause :=
  (disk.obstacle? path).or (disk.refusal? (path.resolve disk.here))

/-- What hinders changing a file depends on the folder in use, on the locks, and on what
    is in its place. -/
theorem hindrance?_congr {first second : Disk} (hhere : first.here = second.here)
    (hlocks : first.locks = second.locks) {path : Path}
    (hfind : first.find? (path.resolve first.here) = second.find? (path.resolve first.here)) :
    first.hindrance? path = second.hindrance? path := by
  unfold hindrance? refusal? mayPut mayWrite
  rw [obstacle?_congr hhere hlocks, hfind, hhere, hlocks]

/-- Nothing hinders changing a file if its way is clear, its place is no folder and can be
    changed. -/
theorem hindrance?_eq_none {disk : Disk} {path : Path} :
    disk.hindrance? path = none
      ↔ disk.Clear path ∧ disk.find? (path.resolve disk.here) ≠ some .folder
        ∧ disk.mayPut (path.resolve disk.here) = true := by
  unfold hindrance? refusal? Clear
  rw [Option.or_eq_none_iff]
  refine and_congr_right fun _ => ?_
  constructor
  · intro h
    split at h
    · cases h
    · next hfolder =>
        split at h
        · next hput => exact ⟨hfolder, hput⟩
        · cases h
  · rintro ⟨hfolder, hput⟩
    rw [if_neg hfolder, if_pos hput]

/-- A file is edited unless something hinders it. -/
theorem edit_of_locate {disk : Disk} {path : Path} {place : Location}
    (h : disk.locate path = .ok place) (revise : List UInt8 → List UInt8) :
    disk.edit path revise
      = match disk.hindrance? path with
        | none => .ok ⟨place, revise (contentOf (disk.find? place))⟩
        | some cause => .error ⟨cause, path.text⟩ := by
  unfold Disk.edit hindrance? refusal?
  rw [reach_of_locate h, resolve_of_locate h]
  cases disk.obstacle? path with
  | some cause => rfl
  | none =>
      simp only [bind, Except.bind, Option.none_or]
      by_cases hfolder : disk.find? place = some .folder
      · rw [hfolder]
        rfl
      · simp only [if_neg hfolder]
        cases disk.mayPut place <;> rfl

/-- What hinders changing a file that is there is a lock. -/
theorem FileAt.hindrance? {disk : Disk} {path : Path} {location : Location}
    {content : List UInt8} (h : disk.FileAt path location content) :
    disk.hindrance? path = if disk.mayWrite location then none else some .denied := by
  unfold Disk.hindrance? refusal? mayPut
  rw [show disk.obstacle? path = none from h.clear, resolve_of_locate h.locate, h.find?]
  simp

/-- Writing a file is an edit that forgets the old content. -/
theorem write_eq_edit (disk : Disk) (path : Path) (content : List UInt8) :
    disk.write path content = (disk.edit path fun _ => content).map disk.edited := by
  unfold write Disk.edit install
  cases disk.reach path with
  | error cause => rfl
  | ok location =>
      simp only [bind, Except.bind]
      cases disk.find? location with
      | none => cases disk.mayPut location <;> rfl
      | some entry => cases entry <;> cases disk.mayPut location <;> rfl

/-- A file is written if it can be edited. -/
theorem write_eq_ok {disk after : Disk} {path : Path} {content : List UInt8} :
    disk.write path content = .ok after
      ↔ ∃ edit, disk.edit path (fun _ => content) = .ok edit ∧ disk.edited edit = after := by
  rw [write_eq_edit]
  cases disk.edit path fun _ => content with
  | error fault =>
      refine iff_of_false (fun h => by cases h) ?_
      rintro ⟨_, ⟨⟩, -⟩
  | ok edit =>
      constructor
      · intro h
        cases h
        exact ⟨edit, rfl, rfl⟩
      · rintro ⟨_, ⟨⟩, rfl⟩
        rfl

/-- Appending to a file is an edit that keeps the old content. -/
theorem append_eq_edit (disk : Disk) (path : Path) (content : List UInt8) :
    disk.append path content = (disk.edit path (· ++ content)).map disk.edited := by
  unfold append Disk.edit install
  cases disk.reach path with
  | error cause => rfl
  | ok location =>
      simp only [bind, Except.bind]
      cases disk.find? location with
      | none => cases disk.mayPut location <;> rfl
      | some entry => cases entry <;> cases disk.mayPut location <;> rfl

/-- An edit changes no other place. -/
theorem find?_edited_of_ne (disk : Disk) {edit : Edit} {other : Location}
    (h : other ≠ edit.location) : (disk.edited edit).find? other = disk.find? other :=
  find?_put_of_ne disk _ h

/-- An edit leaves its content in its place. -/
theorem find?_edited_self {disk : Disk} {edit : Edit}
    (h : disk.find? edit.location ≠ some .folder) :
    (disk.edited edit).find? edit.location = some (.file edit.content) := by
  rw [edited, find?_put_self, if_neg (by simpa using ne_nil_of_find? h)]

/-- An edit takes no folder away. -/
theorem find?_edited_folder {disk : Disk} {edit : Edit}
    (h : disk.find? edit.location ≠ some .folder) {location : Location}
    (hfolder : disk.find? location = some .folder) :
    (disk.edited edit).find? location = some .folder := by
  rw [find?_edited_of_ne disk fun heq => h (heq ▸ hfolder)]
  exact hfolder

/-! ## Views -/

/-- Whether a path leads to the same place on two disks, with the same there and the same
    allowed. -/
structure SameAt (path : Path) (first second : Disk) : Prop where
  locks : first.locks = second.locks
  locate : first.locate path = second.locate path
  reach : first.reach path = second.reach path
  find? : ∀ location, first.locate path = .ok location →
    first.find? location = second.find? location

theorem SameAt.refl (path : Path) (disk : Disk) : SameAt path disk disk :=
  ⟨rfl, rfl, rfl, fun _ _ => rfl⟩

/-- Whether an entry can be put depends on the locks and on what stands there. -/
theorem mayPut_congr {first second : Disk} {location : Location}
    (hlocks : first.locks = second.locks) (hfind : first.find? location = second.find? location) :
    first.mayPut location = second.mayPut location := by
  unfold mayPut mayWrite
  rw [hlocks, hfind]

/-- What looks the same on two disks and on the next two looks the same on all. -/
theorem SameAt.trans {path : Path} {first second third : Disk} (h : SameAt path first second)
    (hnext : SameAt path second third) : SameAt path first third where
  locks := h.locks.trans hnext.locks
  locate := h.locate.trans hnext.locate
  reach := h.reach.trans hnext.reach
  find? location hlocation :=
    (h.find? location hlocation).trans (hnext.find? location (h.locate ▸ hlocation))

/-- Disks that look the same through a path have a file there or not. -/
theorem SameAt.isFile {path : Path} {first second : Disk} (h : SameAt path first second) :
    first.isFile path = second.isFile path := by
  unfold Disk.isFile get?
  rw [← h.reach]
  cases hreach : first.reach path with
  | error cause => rfl
  | ok location =>
      simp only
      rw [h.find? location (reach_eq_ok.mp hreach).1]

theorem SameAt.fileAt {path : Path} {first second : Disk} (h : SameAt path first second)
    {location : Location} {content : List UInt8} (hthere : first.FileAt path location content) :
    second.FileAt path location content := by
  have hreach := reach_eq_ok.mpr ⟨hthere.locate, hthere.clear⟩
  rw [h.reach] at hreach
  obtain ⟨hlocate, hclear⟩ := reach_eq_ok.mp hreach
  exact ⟨hclear, hlocate, (h.find? location hthere.locate).symm.trans hthere.find?⟩

theorem SameAt.read {path : Path} {first second : Disk} (h : SameAt path first second) :
    first.read path = second.read path := by
  unfold Disk.read
  rw [← h.reach]
  cases hreach : first.reach path with
  | error cause => rfl
  | ok location =>
      simp only [bind, Except.bind]
      rw [h.find? location (reach_eq_ok.mp hreach).1]
      unfold mayRead
      rw [h.locks]

theorem SameAt.edit {path : Path} {first second : Disk} (h : SameAt path first second)
    (revise : List UInt8 → List UInt8) : first.edit path revise = second.edit path revise := by
  unfold Disk.edit
  rw [← h.reach]
  cases hreach : first.reach path with
  | error cause => rfl
  | ok location =>
      have hfind := h.find? location (reach_eq_ok.mp hreach).1
      simp only [bind, Except.bind]
      rw [mayPut_congr h.locks hfind, hfind]

/-- What hinders a change is seen through the path. -/
theorem SameAt.hindrance?_eq {path : Path} {first second : Disk} (h : SameAt path first second)
    {place : Location} (hplace : first.locate path = .ok place) :
    first.hindrance? path = second.hindrance? path := by
  have hother : second.locate path = .ok place := h.locate ▸ hplace
  have hobstacle : first.obstacle? path = second.obstacle? path := by
    have hreach := h.reach
    rw [reach_of_locate hplace, reach_of_locate hother] at hreach
    cases hfirst : first.obstacle? path <;> cases hsecond : second.obstacle? path <;>
      simp_all
  have hfind := h.find? place hplace
  have hrefusal : first.refusal? place = second.refusal? place := by
    unfold refusal?
    rw [hfind, mayPut_congr h.locks hfind]
  unfold hindrance?
  rw [hobstacle, resolve_of_locate hplace, resolve_of_locate hother, hrefusal]

/-- An edit elsewhere is not seen through a path that leads somewhere. -/
theorem sameAt_edited {disk : Disk} {edit : Edit} (h : disk.find? edit.location ≠ some .folder)
    {path : Path} {place : Location} (hplace : disk.locate path = .ok place)
    (hne : place ≠ edit.location) : SameAt path disk (disk.edited edit) where
  locks := rfl
  locate := by
    rw [hplace]
    exact (walk_mono (fun _ => find?_edited_folder h) hplace).symm
  reach := by
    have hafter : (disk.edited edit).locate path = .ok place :=
      walk_mono (fun _ => find?_edited_folder h) hplace
    rw [reach_of_locate hplace, reach_of_locate hafter,
      obstacle?_congr (show (disk.edited edit).here = disk.here from rfl) rfl]
  find? location hlocation := by
    cases hplace.symm.trans hlocation
    exact (find?_edited_of_ne disk hne).symm

/-- New content of a file is not seen through a path that does not lead there, even
    if it leads nowhere. -/
theorem sameAt_edited_of_file {disk : Disk} {edit : Edit} {content : List UInt8}
    (h : disk.find? edit.location = some (.file content)) {path : Path}
    (hne : ∀ place, disk.locate path = .ok place → place ≠ edit.location) :
    SameAt path disk (disk.edited edit) where
  locks := rfl
  locate := (walk_put_file disk h edit.content _ path.parts).symm
  reach := by
    have hwalk : (disk.edited edit).walk disk.bar? (disk.origin path) path.parts
        = disk.walk disk.bar? (disk.origin path) path.parts :=
      walk_put_file disk h edit.content _ path.parts
    unfold Disk.reach
    rw [← hwalk]
    rfl
  find? location hlocation := (find?_edited_of_ne disk (hne location hlocation)).symm

/-- An edit of an entry lies below the folder of the entry. -/
theorem location_of_edit_child {disk : Disk} {path : Path} {name : String} (hname : name ≠ "..")
    {revise : List UInt8 → List UInt8} {edit : Edit}
    (h : disk.edit (path.child name) revise = .ok edit) :
    ∃ folder, disk.FolderAt path folder ∧ edit.location = folder ++ [name] :=
  exists_folderAt_of_locate_child (edit_eq_ok.mp h).1 hname

/-- Edits under different names are edits of different places. -/
theorem location_ne_of_edit_child {disk : Disk} {path otherPath : Path} {name otherName : String}
    (hname : name ≠ "..") (hotherName : otherName ≠ "..") (hne : name ≠ otherName)
    {revise otherRevise : List UInt8 → List UInt8} {edit otherEdit : Edit}
    (h : disk.edit (path.child name) revise = .ok edit)
    (hother : disk.edit (otherPath.child otherName) otherRevise = .ok otherEdit) :
    edit.location ≠ otherEdit.location := by
  obtain ⟨folder, -, hlocation⟩ := location_of_edit_child hname h
  obtain ⟨otherFolder, -, hotherLocation⟩ := location_of_edit_child hotherName hother
  rw [hlocation, hotherLocation]
  exact fun heq => hne (List.cons.inj (List.append_inj' heq rfl).2).1

/-- An edit of a file is not seen through a path with another last name, if the
    file is there already or the other path leads somewhere. -/
theorem sameAt_child {disk : Disk} {editing seeing : Path} {name other : String}
    (hname : name ≠ "..") (hother : other ≠ "..") (hne : other ≠ name)
    {revise : List UInt8 → List UInt8} {edit : Edit}
    (h : disk.edit (editing.child name) revise = .ok edit)
    (hseen : disk.isFile (editing.child name) = true
      ∨ ∃ place, disk.locate (seeing.child other) = .ok place) :
    SameAt (seeing.child other) disk (disk.edited edit) := by
  obtain ⟨folder, -, hlocation⟩ := location_of_edit_child hname h
  have hapart : ∀ place, disk.locate (seeing.child other) = .ok place → place ≠ edit.location := by
    intro place hplace heq
    obtain ⟨around, -, rfl⟩ := exists_folderAt_of_locate_child hplace hother
    rw [hlocation] at heq
    exact hne (List.cons.inj (List.append_inj' heq rfl).2).1
  obtain ⟨hlocate, hfolder, -⟩ := edit_eq_ok.mp h
  rcases hseen with hfile | ⟨place, hplace⟩
  · obtain ⟨location, content, hthere⟩ := isFile_iff.mp hfile
    cases hlocate.symm.trans hthere.locate
    exact sameAt_edited_of_file hthere.find? hapart
  · exact sameAt_edited hfolder hplace (hapart place hplace)

/-- A file that is edited is there. -/
theorem fileAt_edited {disk : Disk} {path : Path} {revise : List UInt8 → List UInt8} {edit : Edit}
    (h : disk.edit path revise = .ok edit) :
    (disk.edited edit).FileAt path edit.location edit.content := by
  obtain ⟨hlocate, hfolder, -, hclear, -⟩ := edit_eq_ok.mp h
  have hsame : (disk.edited edit).Clear path :=
    (obstacle?_congr (show (disk.edited edit).here = disk.here from rfl) rfl path).trans hclear
  exact ⟨hsame, walk_mono (fun _ => find?_edited_folder hfolder) hlocate,
    find?_edited_self hfolder⟩

/-- A file that is edited can be read. -/
theorem read_edited {disk : Disk} {path : Path} {revise : List UInt8 → List UInt8} {edit : Edit}
    (h : disk.edit path revise = .ok edit) :
    (disk.edited edit).read path = .ok edit.content := by
  have hmay : disk.mayRead edit.location = true :=
    mayRead_of_mayPut (edit_eq_ok.mp h).2.2.2.2
  exact read_eq_ok.mpr ⟨edit.location, fileAt_edited h, hmay⟩

/-- A file that is edited can be edited again. -/
theorem hindrance?_edited {disk : Disk} {path : Path} {revise : List UInt8 → List UInt8}
    {edit : Edit} (h : disk.edit path revise = .ok edit) :
    (disk.edited edit).hindrance? path = none := by
  have hput : disk.mayPut edit.location = true := (edit_eq_ok.mp h).2.2.2.2
  rw [(fileAt_edited h).hindrance?]
  exact if_pos (Bool.and_eq_true_iff.mp hput).1

/-- Two disks with the same folder in use, the same locks and the same at every place. -/
structure Same (first second : Disk) : Prop where
  here : first.here = second.here
  locks : first.locks = second.locks
  find? : ∀ location, first.find? location = second.find? location

namespace Same

theorem refl (disk : Disk) : Same disk disk := ⟨rfl, rfl, fun _ => rfl⟩

theorem trans {first second third : Disk} (h : Same first second) (hnext : Same second third) :
    Same first third :=
  ⟨h.here.trans hnext.here, h.locks.trans hnext.locks,
    fun location => (h.find? location).trans (hnext.find? location)⟩

/-- Disks that are the same look the same through every path. -/
theorem sameAt {first second : Disk} (h : Same first second) (path : Path) :
    SameAt path first second where
  locks := h.locks
  locate := by
    unfold Disk.locate origin
    rw [h.here, walk_congr h.find?]
  reach := by
    have hbar : first.bar? = second.bar? := by
      unfold bar? mayRead
      rw [h.locks]
    unfold Disk.reach isTooLong resolve origin
    rw [h.here, hbar, walk_congr h.find?]
  find? location _ := h.find? location

theorem afterEdit {first second : Disk} (h : Same first second) (edit? : Option Edit) :
    Same (first.afterEdit edit?) (second.afterEdit edit?) := by
  cases edit? with
  | none => exact h
  | some edit =>
      refine ⟨h.here, h.locks, fun location => ?_⟩
      show (first.put _ _).find? location = (second.put _ _).find? location
      by_cases hlocation : location = edit.location
      · rw [hlocation, find?_put_self, find?_put_self]
      · rw [find?_put_of_ne _ _ hlocation, find?_put_of_ne _ _ hlocation, h.find?]

end Same

/-- Edits of different places can be made in either order. -/
theorem same_edited_comm (disk : Disk) {first second : Edit}
    (h : first.location ≠ second.location) :
    Same ((disk.edited first).edited second) ((disk.edited second).edited first) := by
  refine ⟨rfl, rfl, fun location => ?_⟩
  unfold edited
  by_cases hfirst : location = first.location
  · rw [hfirst, find?_put_of_ne _ _ h, find?_put_self, find?_put_self]
  · rw [find?_put_of_ne ((disk.put _ _)) (.file first.content) hfirst]
    by_cases hsecond : location = second.location
    · rw [hsecond, find?_put_self, find?_put_self]
    · rw [find?_put_of_ne _ _ hsecond, find?_put_of_ne _ _ hsecond, find?_put_of_ne _ _ hfirst]

end Disk

end StructScript
