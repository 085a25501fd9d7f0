import ScriptGraph.Table

/-!
# Files and directories

A file tree is what a command sees of a file system: directories and files by path.  A path is a
sequence of names divided by slashes.  It leads on from the working directory, or from the top if it
starts with a slash; `.` names the directory itself and `..` the one above, which at the top is the
top.  Every name but the last has to be a directory.

A slash behind the last name asks for a directory.  So what is read must then be one, and nothing
can be written.
-/

namespace ScriptGraph

/-- Why the system refuses a file operation. -/
inductive FileError where
  | notFound
  | notDirectory
  | isDirectory
  | nameTooLong
  /-- the path has a character that no path may have -/
  | nulInPath
  /-- the bytes of a file are not a text -/
  | notText
  deriving DecidableEq

/-- The text of an error that has a number. -/
def FileError.numbered (text : String) (number : Nat) : String :=
  text ++ " (os error " ++ toString number ++ ")"

def FileError.message : FileError → String
  | .notFound => numbered "No such file or directory" 2
  | .notDirectory => numbered "Not a directory" 20
  | .isDirectory => numbered "Is a directory" 21
  | .nameTooLong => numbered "File name too long" 36
  | .nulInPath => "file name contained an unexpected NUL byte"
  | .notText => "stream did not contain valid UTF-8"

/-- A file. -/
structure File where
  bytes : List UInt8
  executable : Bool := false
  deriving DecidableEq, Inhabited

/-- The file of a text. -/
def File.ofText (text : String) : File :=
  { bytes := text.toUTF8.toList }

/-- The text of a file. -/
def File.text (f : File) : Except FileError String :=
  match String.fromUTF8? ⟨f.bytes.toArray⟩ with
  | some text => .ok text
  | none => .error .notText

/-- What a path names. -/
inductive Entry where
  | directory
  | file (f : File)
  /-- a file that is always empty and forgets what is written to it -/
  | sink
  deriving DecidableEq, Inhabited

/-- Directories and files by path from the top.  The working directory and those above it are there
without an entry. -/
structure FileTree where
  entries : Table Entry := ∅
  workingDirectory : List String := []

namespace FileTree

/-! ### Paths -/

/-- The key of a sequence of names. -/
def key (names : List String) : String :=
  String.intercalate "/" names

/-- The entry of a sequence of names from the top. -/
def entryAt (tree : FileTree) (names : List String) : Option Entry :=
  if names.isPrefixOf tree.workingDirectory then some .directory
  else tree.entries.get? (key names)

/-- The longest name that a file system takes, in bytes. -/
def maxNameBytes : Nat := 255

/-- The longest path that a file system takes, in bytes. -/
def maxPathBytes : Nat := 4095

/-- Go from a directory to what a name in it names. -/
def child (at_ : List String) (name : String) : List String :=
  if name = "." then at_ else if name = ".." then at_.dropLast else at_ ++ [name]

/-- Where a path starts. -/
def start (tree : FileTree) (path : String) : List String :=
  if path.toList.head? = some '/' then [] else tree.workingDirectory

/-- The names in a path.  Several slashes are one. -/
def pathNames (path : String) : List String :=
  ((path.toList.splitOn '/').map String.ofList).filter (· != "")

/-- Go through directories. -/
def descend (tree : FileTree) (at_ : List String) : List String → Except FileError (List String)
  | [] => .ok at_
  | name :: names =>
    if maxNameBytes < name.utf8ByteSize then .error .nameTooLong
    else
      let next := child at_ name
      match tree.entryAt next with
      | none => .error .notFound
      | some .directory => tree.descend next names
      | some _ => .error .notDirectory

/-- The directory in which the last name of a path is looked up. -/
def directoryOf (tree : FileTree) (path : String) : Except FileError (List String) :=
  tree.descend (tree.start path) (pathNames path).dropLast

/-- Where a path leads. -/
structure Target where
  /-- the directory in which the name is looked up -/
  directory : List String
  name : String
  /-- whether a slash follows the name -/
  slash : Bool

/-- The names from the top of what a path leads to. -/
def Target.names (target : Target) : List String :=
  child target.directory target.name

/-- Whether the name is longer than any in a file system. -/
def Target.isTooLong (target : Target) : Bool :=
  maxNameBytes < target.name.utf8ByteSize

/-- Follow a path up to its last name.  A path of slashes alone leads to the top itself. -/
def resolve (tree : FileTree) (path : String) : Except FileError Target :=
  if path.toList.contains '\x00' then .error .nulInPath
  else if path.isEmpty then .error .notFound
  else if maxPathBytes < path.utf8ByteSize then .error .nameTooLong
  else
    match tree.directoryOf path with
    | .error cause => .error cause
    | .ok directory =>
      .ok ⟨directory, (pathNames path).getLastD ".", path.toList.getLast? == some '/'⟩

/-! ### Reading and writing -/

/-- The entry that a path names. -/
def find (tree : FileTree) (path : String) : Except FileError Entry :=
  match tree.resolve path with
  | .error cause => .error cause
  | .ok target =>
    if target.isTooLong then .error .nameTooLong
    else
      match tree.entryAt target.names with
      | none => .error .notFound
      | some .directory => .ok .directory
      | some entry => if target.slash then .error .notDirectory else .ok entry

/-- Whether a path names anything. -/
def contains (tree : FileTree) (path : String) : Bool :=
  (tree.find path).toBool

/-- The file of a path. -/
def fileAt (tree : FileTree) (path : String) : Except FileError File :=
  match tree.find path with
  | .error cause => .error cause
  | .ok .directory => .error .isDirectory
  | .ok (.file f) => .ok f
  | .ok .sink => .ok { bytes := [] }

/-- The text of a file. -/
def read (tree : FileTree) (path : String) : Except FileError String :=
  (tree.fileAt path).bind File.text

/-- Put an entry at a sequence of names from the top. -/
def put (tree : FileTree) (names : List String) (entry : Entry) : FileTree :=
  { tree with entries := tree.entries.set (key names) entry }

/-- Change the file of a path, or make one from an empty file. -/
def modify (tree : FileTree) (path : String) (f : File → File) : Except FileError FileTree :=
  match tree.resolve path with
  | .error cause => .error cause
  | .ok target =>
    if target.slash then .error .isDirectory
    else if target.isTooLong then .error .nameTooLong
    else
      match tree.entryAt target.names with
      | some .directory => .error .isDirectory
      | some .sink => .ok tree
      | some (.file old) => .ok (tree.put target.names (.file (f old)))
      | none => .ok (tree.put target.names (.file (f { bytes := [] })))

/-- Write a text to a file.  A file that is there keeps its rights. -/
def write (tree : FileTree) (path text : String) : Except FileError FileTree :=
  tree.modify path fun f => { f with bytes := text.toUTF8.toList }

/-- Make a file executable. -/
def makeExecutable (tree : FileTree) (path : String) : Except FileError FileTree :=
  tree.modify path fun f => { f with executable := true }

/-! ### Making and comparing trees -/

/-- Put a directory at names that lead on from a directory, with those between. -/
def addBelow (tree : FileTree) (at_ : List String) : List String → FileTree
  | [] => tree
  | name :: names =>
    let next := child at_ name
    let tree := if (tree.entryAt next).isNone then tree.put next .directory else tree
    tree.addBelow next names

/-- Put a directory at a path, with those above it. -/
def addDirectory (tree : FileTree) (path : String) : FileTree :=
  tree.addBelow (tree.start path) (pathNames path)

/-- Put a file at a path, with the directories above it. -/
def addFile (tree : FileTree) (path : String) (f : File) : FileTree :=
  let tree := tree.addBelow (tree.start path) (pathNames path).dropLast
  tree.put ((pathNames path).foldl child (tree.start path)) (.file f)

/-- A path to names from the top: from the working directory if they lie below it. -/
def pathTo (tree : FileTree) (names : List String) : String :=
  if tree.workingDirectory.isPrefixOf names then key (names.drop tree.workingDirectory.length)
  else "/" ++ key names

/-- The files that are in the second tree and not, or otherwise, in the first, by path. -/
def changes (before after : FileTree) : List (String × File) :=
  after.entries.entries.filterMap fun (path, entry) =>
    match entry with
    | .file f =>
      if before.entries.get? path = some entry then none
      else some (after.pathTo (pathNames path), f)
    | _ => none

/-- The directories at the top of every system. -/
def systemDirectories : List String :=
  ["bin", "dev", "etc", "home", "lib", "proc", "root", "run", "sbin", "sys", "tmp", "usr", "var"]

/-- A tree with an empty working directory, and with what every system has. -/
def system : FileTree :=
  let tree : FileTree := { workingDirectory := ["tmp", "work"] }
  (systemDirectories.foldl (fun tree name => tree.put [name] .directory) tree).put
    ["dev", "null"] .sink

end FileTree

end ScriptGraph
