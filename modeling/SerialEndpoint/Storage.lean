/-
Storage: what the program asks of the files around it.

The operations are the small ones that a file system gives; what is made
of them stands here once, for real files and for a tree in memory alike.
`Folder.replace` puts a set of files into a directory. It looks at every
name and stages every file before the first one takes its place, so
whatever fails until then leaves the directory as it was.
-/
import SerialEndpoint.Fault
import SerialEndpoint.FilePath
import SerialEndpoint.Text.Utf8

namespace SerialEndpoint

-- ============================================================== folders

/-- A directory whose files are known by their names in it; operations
may meet a fault. -/
class Folder (m : Type → Type) where
  /-- A file that is complete but does not have its name yet. -/
  Staged : Type
  /-- True of the name of a directory. -/
  isDirectory : String → m Bool
  /-- Makes a complete file that has no name yet. -/
  stage : List UInt8 → m Staged
  /-- Gives a staged file its name, in place of the file that has it. -/
  commit : Staged → String → m Unit
  /-- Drops a staged file. -/
  discard : Staged → m Unit
  /-- The names in the directory, and which of them are files. -/
  list : m (List (String × Bool))
  /-- Removes a file. -/
  remove : String → m Unit

namespace Folder

variable {m : Type → Type} [Monad m] [MonadExceptOf Fault m] [Folder m]

/-- A file to be, by its name in a directory. -/
abbrev File := String × List UInt8

/-- The fault of a file whose name in `dir` is taken by a directory. -/
def takenByDirectory (dir name : String) : Fault :=
  ⟨.isADirectory, FilePath.join dir name ++ " is a directory"⟩

/-- Stages files in order. On a fault those staged before it are
dropped. -/
def stageAll (dir : String) : List File → m (List (String × Staged m))
  | [] => pure []
  | (name, bytes) :: rest => do
    if ← isDirectory name then throw (takenByDirectory dir name)
    let staged ← stage bytes
    try
      let others ← stageAll dir rest
      pure ((name, staged) :: others)
    catch fault =>
      discard staged
      throw fault

/-- Gives staged files their names in order. On a fault those without
their names are dropped. -/
def commitAll : List (String × Staged m) → m Unit
  | [] => pure ()
  | (name, staged) :: rest => do
    try commit staged name
    catch fault =>
      discard staged
      rest.forM fun other => discard other.2
      throw fault
    commitAll rest

/-- Removes the stale files of the directory. -/
def removeStale (isStale : String → Bool) : m Unit := do
  for (name, isFile) in (← list) do
    if isFile && isStale name then remove name

/-- Puts files into the directory `dir` and removes the stale files in it.
The places of the files are the result. The empty name is no directory
that can be listed. -/
def replace (dir : String) (files : List File) (isStale : String → Bool) : m (List String) := do
  commitAll (← stageAll dir files)
  if dir = "" then throw Fault.notFound
  removeStale isStale
  pure (files.map fun file => FilePath.join dir file.1)

end Folder

-- ============================================================== storage

/-- Files known by their paths; operations may meet a fault. -/
class Storage (m : Type → Type) where
  /-- The bytes of a file. -/
  read : String → m (List UInt8)
  /-- Makes one directory. -/
  makeDirectory : String → m Unit
  /-- True of the path of a directory. -/
  isDirectory : String → m Bool
  /-- Puts files into a directory, as `Folder.replace` does. -/
  replace : String → List Folder.File → (String → Bool) → m (List String)
  /-- Tries to open a serial line and gives the fault of it. -/
  openLine : String → m Fault

namespace Storage

variable {m : Type → Type} [Monad m] [MonadExceptOf Fault m] [Storage m]

/-- The text of a file. -/
def readText (path : String) : m String := do
  match Utf8.decode? (← read path) with
  | some text => pure text
  | none => throw Fault.notText

/-- Makes one directory, unless there is one. -/
def ensureDirectory (path : String) : m Unit := do
  try makeDirectory path
  catch fault =>
    if !(← isDirectory path) then throw (fault : Fault)

/-- Makes a directory and those above it that are missing. Each path above
is shorter, so the length of the path is fuel enough. -/
def makeDirectories (fuel : Nat) (path : String) : m Unit := do
  match fuel with
  | 0 => throw Fault.notFound
  | fuel + 1 =>
    if path = "" then return
    try ensureDirectory path
    catch fault =>
      match (fault : Fault).kind, FilePath.parent? path with
      | .notFound, some above =>
        makeDirectories fuel above
        ensureDirectory path
      | _, _ => throw fault

/-- A step whose fault is told as a cause of another kind. -/
def reporting {ε α : Type} (cause : Fault → ε) (step : m α) : ExceptT ε m α :=
  ExceptT.mk (tryCatchThe Fault (Except.ok <$> step) fun fault => pure (.error (cause fault)))

end Storage

/-- A result as a step that needs no effect. -/
def settled {m : Type → Type} [Monad m] {ε α : Type} (result : Except ε α) : ExceptT ε m α :=
  ExceptT.mk (pure result)

end SerialEndpoint
