import LinkGuard.Cache.Migration
import LinkGuard.Text.Letters

/-!
# Where cache files live

A cache file is named by a path. Missing directories on the way to it are made; a file in the place
of one of them is in the way, and so is anything at the path that is no cache file.
-/

namespace LinkGuard.Cache

/-- A folder with cache files and files of other kinds, all by their paths. -/
structure Folder where
  others : List String := []
  files : List (String × File) := []
  deriving DecidableEq, Repr

/-- One path leads through the other. -/
def leadsThrough (path other : String) : Bool :=
  (other ++ "/").toList.isPrefixOf path.toList

namespace Folder

/-- What opening a path finds. A path where nothing is gives an empty file. -/
def look (folder : Folder) (path : String) : Except Error File :=
  if folder.others.any (leadsThrough path) then .error .directory
  else if folder.others.any fun other => other = path ∨ leadsThrough other path then
    .error .database
  else .ok ((folder.files.lookup path).getD {})

/-- Writes a cache file. -/
def write (folder : Folder) (path : String) (file : File) : Folder :=
  { folder with files := (path, file) :: folder.files.filter fun other => other.1 ≠ path }

/-- Opens the cache file at a path and brings it to the current layout. -/
def openFile (folder : Folder) (path : String) : Folder × Except Error File :=
  match folder.look path with
  | .error error => (folder, .error error)
  | .ok file =>
    match file.migrate with
    | (file, .ok ()) => (folder.write path file, .ok file)
    | (file, .error error) => (folder.write path file, .error error)

end Folder

end LinkGuard.Cache
