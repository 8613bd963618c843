/-
The program on real files. Everything that it decides is decided in
`Program`; here stand only the effects.
-/
import SerialEndpoint.Program

namespace SerialEndpoint.Main

/-- A step with effects that may meet a fault. -/
abbrev Effect := EIO Fault

/-- A fault of the system in the terms of the program. -/
def systemFault : IO.Error → Fault
  | .noFileOrDirectory .. => .notFound
  | .alreadyExists .. => .alreadyExists
  | .inappropriateType .. => .notADirectory
  | .permissionDenied .. => ⟨.permissionDenied, "Permission denied (os error 13)"⟩
  | error => ⟨.other "Other", toString error⟩

/-- A step on real files. -/
def effect {α : Type} (step : IO α) : Effect α := step.toEIO systemFault

/-- A place in the file system by its path. -/
def placeOf (path : String) : IO.FS.DirEntry := ⟨path, ""⟩

/-- True of the path of a directory. -/
def isDirectory (path : String) : Effect Bool := (placeOf path).root.isDir

/-- A directory by its path. -/
abbrev InFolder := ReaderT String Effect

/-- The path of a name in the directory. -/
def pathOf (name : String) : InFolder String := return FilePath.join (← read) name

/-- A staged file is a file under a name of its own. -/
instance : Folder InFolder where
  Staged := String
  isDirectory name := do
    let path ← pathOf name
    isDirectory path
  stage bytes := do
    let path ← pathOf s!".staged{← effect (IO.rand 0 999999999)}"
    effect (IO.FS.writeBinFile path ⟨bytes.toArray⟩)
    pure path
  commit staged name := do
    let path ← pathOf name
    effect (IO.FS.rename staged path)
  discard staged := tryCatchThe Fault (effect (IO.FS.removeFile staged)) fun _ => pure ()
  list := do
    let dir ← read
    let entries ← effect (placeOf dir).root.readDir
    entries.toList.mapM fun entry => do
      let path ← pathOf entry.fileName
      pure (entry.fileName, !(← isDirectory path))
  remove name := do
    let path ← pathOf name
    effect (IO.FS.removeFile path)

instance : Storage Effect where
  read path := do
    if ← isDirectory path then throw Fault.isADirectory
    let bytes ← effect (IO.FS.readBinFile path)
    pure bytes.toList
  makeDirectory path := effect (IO.FS.createDir path)
  isDirectory := isDirectory
  replace path files isStale := (Folder.replace path files isStale : InFolder _).run path
  openLine path := do
    if ← isDirectory path then return .isADirectory
    let line ← effect (IO.FS.Handle.mk path .readWrite)
    if ← line.isTty then return ⟨.other "Unsupported", "serial lines are not supported"⟩
    return .notATerminal

end SerialEndpoint.Main

open SerialEndpoint in
/-- Runs the program and prints what comes of it. -/
def main (arguments : List String) : IO UInt32 := do
  let step : Main.Effect Outcome := runProgram arguments
  match ← step.toBaseIO with
  | .ok outcome =>
    outcome.printed.forM fun line => IO.println line
    outcome.error.forM fun text => IO.eprintln text
    if outcome.exit = 2 then IO.eprintln "For more information, try '--help'."
    return UInt32.ofNat outcome.exit
  | .error fault =>
    IO.eprintln fault.text
    return 1
