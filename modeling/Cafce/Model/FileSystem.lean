import Cafce.Model.Paths

/-! The file system as the program sees it, and symlink-free trees that it can stand on. -/

namespace Cafce

open DirectoryTree

/-- The answers of `glob::glob`, `Path::is_file` and `std::fs::read` during one run. -/
structure FileView where
  glob : String → Except ForeignError (List (Except ForeignError PathBuf))
  isFile : PathBuf → Bool
  read : PathBuf → Except ForeignError (List UInt8)

/-- A symlink-free tree, whose files may be unreadable, and the current directory. -/
structure FileSystem where
  tree : Tree OsString (Except ForeignError (List UInt8))
  currentDir : List OsString
  currentDir_dir : tree.entry currentDir = some .dir

/-- The glob crate over a file system. -/
abbrev GlobCrate :=
  FileSystem → String → Except ForeignError (List (Except ForeignError PathBuf))

/-- A path ending in a separator or in `.` names a directory only. -/
def PathBuf.namesDirectory (path : PathBuf) : Bool :=
  path.parts.getLast? = some [] ∨ path.parts.getLast? = some [0x2E]

namespace FileSystem

/-- Where a path leads. -/
def location (fs : FileSystem) (path : PathBuf) : Option (List OsString) :=
  fs.tree.walk fs.currentDir path.components

/-- The file that a path denotes. -/
def file? (fs : FileSystem) (path : PathBuf) : Option (Except ForeignError (List UInt8)) :=
  if path.namesDirectory then none
  else ((fs.location path).bind fs.tree.entry).bind Entry.content?

/-- `Path::is_file` -/
def isFile (fs : FileSystem) (path : PathBuf) : Bool :=
  (fs.file? path).isSome

/-- `std::fs::read` -/
def read (fs : FileSystem) (path : PathBuf) : Except ForeignError (List UInt8) :=
  (fs.file? path).getD (.error { message := "No such file or directory (os error 2)" })

def view (glob : GlobCrate) (fs : FileSystem) : FileView where
  glob := glob fs
  isFile := fs.isFile
  read := fs.read

/-- Only paths that lead somewhere are files. -/
theorem location_of_isFile {fs : FileSystem} {path : PathBuf} (file : fs.isFile path)
    : ∃ place, fs.location path = some place := by
  rw [isFile, file?] at file
  split at file
  · cases file
  · cases found : fs.location path with
    | none => simp [found] at file
    | some place => exact ⟨place, rfl⟩

/-- A relative path leads from the current directory, with or without a leading `.`. -/
theorem location_of_relative (fs : FileSystem) {path : PathBuf}
    (relative : path.isAbsolute = false)
    : fs.location path = fs.tree.walk fs.currentDir path.inner := by
  have stays : fs.tree.step fs.currentDir .curDir = some fs.currentDir := by
    simp [Tree.step, Tree.isDir, fs.currentDir_dir, Entry.isDir]
  rw [location, PathBuf.components, relative]
  split
  · contradiction
  · split
    · rw [Tree.walk_cons, stays]
      rfl
    · rfl

/-- The current directory is no file. -/
theorem isFile_of_curDir {fs : FileSystem} {path : PathBuf}
    (here : path.components = [.curDir])
    : fs.isFile path = false := by
  have found : fs.location path = some fs.currentDir := by
    simp [location, here, Tree.step, Tree.isDir, fs.currentDir_dir, Entry.isDir]
  rw [isFile, file?, found]
  split
  · rfl
  · simp [fs.currentDir_dir, Entry.content?]

/-- Equal paths of files denote the same file. -/
theorem file?_eq_of_isFile {fs : FileSystem} {left right : PathBuf}
    (same : left.components = right.components) (leftFile : fs.isFile left)
    (rightFile : fs.isFile right)
    : fs.file? left = fs.file? right := by
  have plain {path : PathBuf} (file : fs.isFile path) : path.namesDirectory = false := by
    rw [isFile, file?] at file
    cases directory : path.namesDirectory with
    | false => rfl
    | true => simp [directory] at file
  rw [file?, file?, plain leftFile, plain rightFile, location, location, same]

theorem read_eq_of_isFile {fs : FileSystem} {left right : PathBuf}
    (same : left.components = right.components) (leftFile : fs.isFile left)
    (rightFile : fs.isFile right)
    : fs.read left = fs.read right := by
  rw [read, read, file?_eq_of_isFile same leftFile rightFile]

end FileSystem

end Cafce
