/-
A tree of files in memory, with a working directory.

# One directory

A directory is a list of names with what they stand for. A node that is put
under a name takes the place of the one that has it, so a name that is there
once stays so. One directory by itself is a place for files, where a staged
file is nothing but its bytes and staging cannot fail.

# Names and places

Names are resolved segment by segment: a single dot stays, two dots go up, any
other name must be there, and whatever is gone through must be a directory.
There are no links, so every place has one location, the list of the names
that lead to it. A change is made at a location, and the directories above it
are put together again with it.
-/
import SerialEndpoint.Storage

namespace SerialEndpoint

-- ================================================================ nodes

/-- A file or a directory. -/
inductive Node where
  | file (bytes : List UInt8)
  | directory (entries : List (String × Node))

/-- What a directory holds, by name. -/
abbrev Directory := List (String × Node)

/-- The longest name of a file, in bytes. -/
def longestName : Nat := 255

/-- True of a name that is too long for a file. -/
def isTooLong (name : String) : Bool := longestName < name.utf8ByteSize

namespace Node

/-- True of a directory. -/
def isDirectory : Node → Bool
  | file _ => false
  | directory _ => true

/-- What a node holds; nothing if it is a file. -/
def entries : Node → Directory
  | file _ => []
  | directory entries => entries

end Node

namespace Directory

/-- Puts a node under a name, in place of the one that has it. -/
def put (name : String) (node : Node) : Directory → Directory
  | [] => [(name, node)]
  | entry :: rest =>
    if entry.1 = name then (name, node) :: rest else entry :: put name node rest

/-- Takes a name away. -/
def erase (name : String) (entries : Directory) : Directory :=
  entries.filter fun entry => entry.1 ≠ name

/-- What is at a location below a directory. -/
def find? : List String → Directory → Option Node
  | [], entries => some (.directory entries)
  | name :: path, entries =>
    match entries.lookup name with
    | none => none
    | some node =>
      match path, node with
      | [], node => some node
      | path, .directory inner => find? path inner
      | _, .file _ => none

/-- Changes the directory at a location. Where there is none, nothing
changes. -/
def change (f : Directory → Directory) : List String → Directory → Directory
  | [], entries => f entries
  | name :: path, entries =>
    match entries.lookup name with
    | some (.directory inner) => put name (.directory (change f path inner)) entries
    | _ => entries

end Directory

/-- One directory in memory: a staged file is its bytes, and a name must
not be too long. -/
instance : Folder (EStateM Fault Directory) where
  Staged := List UInt8
  isDirectory name := do
    return ((← get).lookup name).any Node.isDirectory
  stage bytes := pure bytes
  commit bytes name := do
    if isTooLong name then throw Fault.nameTooLong
    modify (Directory.put name (.file bytes))
  discard _ := pure ()
  list := do
    return (← get).map fun entry => (entry.1, !entry.2.isDirectory)
  remove name := modify (Directory.erase name)

-- ================================================================ trees

/-- A tree of files and the location of the working directory. -/
structure FileTree where
  root : Directory := []
  current : List String := []

namespace FileTree

/-- What is at a location. -/
def find? (tree : FileTree) (location : List String) : Option Node :=
  tree.root.find? location

/-- Goes from a location along some segments. -/
def walk (tree : FileTree) (location : List String) : List String → Except Fault (List String)
  | [] => .ok location
  | segment :: rest =>
    match tree.find? location with
    | some (.directory entries) =>
      if segment = "." then tree.walk location rest
      else if segment = ".." then tree.walk location.dropLast rest
      else if isTooLong segment then .error .nameTooLong
      else if (entries.lookup segment).isNone then .error .notFound
      else tree.walk (location ++ [segment]) rest
    | _ => .error .notADirectory

/-- Where a path starts. -/
def start (tree : FileTree) (path : String) : List String :=
  if FilePath.isAbsolute path then [] else tree.current

/-- True of a path that only a directory can have. -/
def endsInSlash (path : String) : Bool := path.toList.getLast? == some '/'

/-- The longest path, in bytes. -/
def longestPath : Nat := 4095

/-- A path that can be resolved at all: it has no zero byte, is not empty
and is not too long. -/
def checkPath (path : String) : Except Fault Unit :=
  if path.toList.contains '\x00' then .error .zeroInName
  else if path = "" then .error .notFound
  else if longestPath < path.utf8ByteSize then .error .nameTooLong
  else .ok ()

/-- What is at a path, and its location. -/
def resolve (tree : FileTree) (path : String) : Except Fault (List String × Node) := do
  checkPath path
  let location ← tree.walk (tree.start path) (FilePath.segments path)
  match tree.find? location with
  | none => .error .notFound
  | some node =>
    if endsInSlash path && !node.isDirectory then .error .notADirectory
    else .ok (location, node)

/-- The bytes of the file at a path. -/
def read (tree : FileTree) (path : String) : Except Fault (List UInt8) := do
  match (← tree.resolve path).2 with
  | .file bytes => .ok bytes
  | .directory _ => .error .isADirectory

/-- The tree with a new directory at a path. -/
def makeDirectory (tree : FileTree) (path : String) : Except Fault FileTree := do
  checkPath path
  let segments := FilePath.segments path
  match segments.getLast? with
  | none => .error .alreadyExists
  | some name =>
    let above ← tree.walk (tree.start path) segments.dropLast
    match tree.find? above with
    | some (.directory entries) =>
      if name = "." ∨ name = ".." then .error .alreadyExists
      else if isTooLong name then .error .nameTooLong
      else if (entries.lookup name).isSome then .error .alreadyExists
      else .ok { tree with
        root := tree.root.change (Directory.put name (.directory [])) above }
    | _ => .error .notADirectory

/-- True of the path of a directory. -/
def isDirectory (tree : FileTree) (path : String) : Bool :=
  match tree.resolve path with
  | .ok (_, node) => node.isDirectory
  | .error _ => false

/-- The location of the directory at a path; the empty path is the working
directory. -/
def folder (tree : FileTree) (path : String) : Except Fault (List String × Directory) :=
  if path = "" then .ok (tree.current, ((tree.find? tree.current).map Node.entries).getD [])
  else do
    match ← tree.resolve path with
    | (location, .directory entries) => .ok (location, entries)
    | _ => .error .notADirectory

/-- The tree with another directory at a location. -/
def withFolder (tree : FileTree) (location : List String) (entries : Directory) : FileTree :=
  { tree with root := tree.root.change (fun _ => entries) location }

/-- Puts files into the directory at a path. -/
def replace (path : String) (files : List Folder.File) (isStale : String → Bool) :
    EStateM Fault FileTree (List String) := fun tree =>
  match tree.folder path with
  | .error fault => .error fault tree
  | .ok (location, entries) =>
    match (Folder.replace path files isStale : EStateM Fault Directory _) entries with
    | .ok places entries => .ok places (tree.withFolder location entries)
    | .error fault entries => .error fault (tree.withFolder location entries)

/-- Why no serial line can be opened at a path: nothing in memory is a
terminal. -/
def lineFault (tree : FileTree) (path : String) : Fault :=
  match tree.resolve path with
  | .error fault => fault
  | .ok (_, .directory _) => .isADirectory
  | .ok (_, .file _) => .notATerminal

end FileTree

instance : Storage (EStateM Fault FileTree) where
  read path := do
    match (← get).read path with
    | .ok bytes => pure bytes
    | .error fault => throw fault
  makeDirectory path := do
    match (← get).makeDirectory path with
    | .ok tree => set tree
    | .error fault => throw fault
  isDirectory path := return (← get).isDirectory path
  replace := FileTree.replace
  openLine path := return (← get).lineFault path

end SerialEndpoint
