import StructScript.Disk
import StructScript.Journal
import StructScript.Settings
import StructScript.Text.Glob

/-! # Selected folders and files

    Every folder directly in the input folder is a package, and every Go file
    directly in it but a test is a source, unless it is left out by name, by a
    pattern, or because the output goes there. -/

namespace StructScript

/-- The names of folders that never hold packages. -/
def ignoredFolders : List String :=
  [".git", ".hg", ".svn", ".idea", "vendor", "node_modules", "testdata"]

namespace Settings

/-- Whether a pattern of the settings leaves out a path below the input folder. -/
def excludes (settings : Settings) (path : Path) : Bool :=
  let below := path.parts.drop settings.inputFolder.parts.length
  settings.excluded.any fun pattern => Text.matchesPattern pattern (String.intercalate "/" below)

/-- Whether a path is a folder that may hold a package. -/
def mayHoldPackage (settings : Settings) (disk : Disk) (path : Path) : Bool :=
  disk.isFolder path && !ignoredFolders.contains path.name
    && disk.resolve path != disk.resolve settings.outputFolder

/-- The folders that may hold packages, in order. -/
def candidateFolders (settings : Settings) (disk : Disk) : List Path :=
  (disk.children settings.inputFolder).filter (settings.mayHoldPackage disk)

/-- The folders of the packages, in order. -/
def packageFolders (settings : Settings) (disk : Disk) : List Path :=
  (settings.candidateFolders disk).filter fun path => !settings.excludes path

/-- What is recorded while the folders are selected. -/
def folderRecords (settings : Settings) (disk : Disk) : List Record :=
  ((settings.candidateFolders disk).filter settings.excludes).map fun path =>
    { level := .debug, logger := "generator", message := "Excluding folder " ++ path.text }

/-- Whether a path is a source of a package. -/
def isSource (settings : Settings) (disk : Disk) (path : Path) : Bool :=
  disk.isFile path && path.ending == ".go" && !path.name.endsWith "_test.go"
    && !settings.excludes path

/-- The sources in a folder, in order. -/
def sources (settings : Settings) (disk : Disk) (folder : Path) : List Path :=
  (disk.children folder).filter (settings.isSource disk)

end Settings

end StructScript
