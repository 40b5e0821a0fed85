/-!
# Files

A tree of directories and files as a value. Paths are followed name by name from the root; `.` stays
in a directory and `..` goes up from it.
-/

namespace PushBench

/-- The names along a path from the root. An empty name can only be the last: the path ends in a
slash and means a directory. -/
abbrev Path := List String

namespace Path

/-- The names of a text between slashes. Empty names are dropped, except at the end. -/
def splitNames (text : String) : List String :=
  let names := text.splitOn "/"
  (names.dropLast.filter (· ≠ "")) ++ names.getLast?.toList

/-- The path that a text stands for in a directory. -/
def ofText (directory : Path) (text : String) : Path :=
  if text.startsWith "/" then splitNames text else directory ++ splitNames text

/-- A path without dots: `.` is dropped, and `..` drops the name before it. -/
def collapse (path : Path) : Path :=
  path.foldl
    (fun place name ↦
      if name = "" ∨ name = "." then place
      else if name = ".." then place.dropLast
      else place ++ [name])
    []

/-- A path without empty names and single dots: every name that is left leads somewhere else. -/
def steps (path : Path) : Path :=
  path.filter fun name ↦ name ≠ "" ∧ name ≠ "."

/-- The text of a path from the root. -/
def text (path : Path) : String := "/" ++ String.intercalate "/" path

end Path

/-- What a path leads to. -/
inductive FileEntry where
  | file (content : ByteArray)
  | directory

/-- Why a file could not be read or written. -/
inductive FileError where
  | notFound
  | isDirectory
  | notDirectory
  /-- The file is there, but may not be opened. -/
  | denied
  /-- The content is no text. -/
  | notText
  deriving DecidableEq, Repr

/-- The text of the error. -/
def FileError.message : FileError → String
  | .notFound => "No such file or directory (os error 2)"
  | .isDirectory => "Is a directory (os error 21)"
  | .notDirectory => "Not a directory (os error 20)"
  | .denied => "Permission denied (os error 13)"
  | .notText => "stream did not contain valid UTF-8"

/-- What files answer when they are asked for by their paths: whether a path leads to a regular
file, and the text there. A file that is there may still be impossible to read. -/
structure FileView where
  isFile : Path → Bool
  readText : Path → Except FileError String

/-- All files and directories below the root by their paths. -/
structure FileTree where
  entries : List (Path × FileEntry)

namespace FileTree

/-- The tree of the root alone. -/
def empty : FileTree := ⟨[]⟩

/-- What stands under a path of names. The root is always there. -/
def find? (tree : FileTree) (path : Path) : Option FileEntry :=
  if path.isEmpty then some .directory else tree.entries.lookup path

/-- Puts an entry under a path of names. -/
def set (tree : FileTree) (path : Path) (entry : FileEntry) : FileTree :=
  ⟨(path, entry) :: tree.entries.filter fun other ↦ other.1 ≠ path⟩

/-- Follows a path from a place in the tree, whose names are given, to a place and its entry. -/
def follow (tree : FileTree) : Path → FileEntry → Path → Except FileError (Path × FileEntry)
  | place, entry, [] => .ok (place, entry)
  | _, .file _, _ :: _ => .error .notDirectory
  | place, .directory, name :: rest =>
    if name = "" ∨ name = "." then tree.follow place .directory rest
    else if name = ".." then tree.follow place.dropLast .directory rest
    else
      match tree.find? (place ++ [name]) with
      | some entry => tree.follow (place ++ [name]) entry rest
      | none => .error .notFound

/-- Follows a path from the root. -/
def resolve (tree : FileTree) (path : Path) : Except FileError (Path × FileEntry) :=
  tree.follow [] .directory path

/-- Whether a path leads to a file. -/
def isFile (tree : FileTree) (path : Path) : Bool :=
  match tree.resolve path with
  | .ok (_, .file _) => true
  | _ => false

/-- The bytes of a file. -/
def read (tree : FileTree) (path : Path) : Except FileError ByteArray :=
  match tree.resolve path with
  | .ok (_, .file content) => .ok content
  | .ok (_, .directory) => .error .isDirectory
  | .error error => .error error

/-- The text of a file. -/
def readText (tree : FileTree) (path : Path) : Except FileError String :=
  match tree.read path with
  | .ok content =>
    match String.fromUTF8? content with
    | some text => .ok text
    | none => .error .notText
  | .error error => .error error

/-- The files of a tree as they are asked for by their paths. -/
def view (tree : FileTree) : FileView := ⟨tree.isFile, tree.readText⟩

instance : Coe FileTree FileView := ⟨view⟩

/-- Writes a file in a directory under a name. What the file held before is lost. -/
def writeIn (tree : FileTree) (directory : Path) (name : String) (text : String) :
    Except FileError FileTree :=
  if ["", ".", ".."].contains name then .error .isDirectory
  else
    match tree.find? (directory ++ [name]) with
    | some .directory => .error .isDirectory
    | _ => .ok (tree.set (directory ++ [name]) (.file text.toUTF8))

/-- The directory part of a path and the name of the file in it. A path that ends in a slash names
no file. -/
def splitLast (path : Path) : Path × String :=
  match path.reverse with
  | "" :: _ :: rest => (rest.reverse, "")
  | name :: rest => (rest.reverse, name)
  | [] => ([], "")

/-- Writes a file. Its directory has to be there. -/
def write (tree : FileTree) (path : Path) (text : String) : Except FileError FileTree :=
  let (directory, name) := splitLast path
  match tree.resolve directory with
  | .ok (place, .directory) => tree.writeIn place name text
  | .ok (_, .file _) => .error .notDirectory
  | .error error => .error error

/-- Makes a directory and all directories above it. -/
def makeDirectories (tree : FileTree) (path : Path) : FileTree :=
  (List.range path.length).foldl
    (fun tree count ↦
      let place := Path.collapse (path.take (count + 1))
      match tree.find? place with
      | some _ => tree
      | none => tree.set place .directory)
    tree

/-- Puts a file or a directory under a path, with all directories above it. A path that ends in a
slash means a directory. -/
def plant (tree : FileTree) (path : Path) (content : ByteArray) : FileTree :=
  let tree := tree.makeDirectories path.dropLast
  if path.getLast? = some "" then tree else tree.set (Path.collapse path) (.file content)

end FileTree

end PushBench
