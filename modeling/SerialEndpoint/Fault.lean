/-
Faults that a system reports on its files and streams: a kind to act on,
and the text that messages show.
-/

namespace SerialEndpoint

/-- What went wrong. -/
inductive FaultKind where
  | notFound
  | permissionDenied
  | alreadyExists
  | notADirectory
  | isADirectory
  /-- A name longer than the file system takes. -/
  | nameTooLong
  /-- A name that no file can have. -/
  | invalidName
  /-- The contents are not text. -/
  | invalidText
  /-- The file is no terminal line. -/
  | notATerminal
  | brokenPipe
  | timedOut
  | unexpectedEnd
  /-- The peer took none of the bytes offered to it. -/
  | nothingTaken
  /-- The call was cut short and may be repeated. -/
  | interrupted
  /-- Any other kind, by its name. -/
  | other (name : String)
deriving DecidableEq

/-- A fault with its text. -/
structure Fault where
  kind : FaultKind
  text : String
deriving DecidableEq

namespace Fault

/-- No such file or directory. -/
def notFound : Fault := ⟨.notFound, "No such file or directory (os error 2)"⟩

/-- The file is there already. -/
def alreadyExists : Fault := ⟨.alreadyExists, "File exists (os error 17)"⟩

/-- A directory was needed. -/
def notADirectory : Fault := ⟨.notADirectory, "Not a directory (os error 20)"⟩

/-- A file was needed. -/
def isADirectory : Fault := ⟨.isADirectory, "Is a directory (os error 21)"⟩

/-- The file is no terminal line. -/
def notATerminal : Fault := ⟨.notATerminal, "Inappropriate ioctl for device (os error 25)"⟩

/-- The name is too long. -/
def nameTooLong : Fault := ⟨.nameTooLong, "File name too long (os error 36)"⟩

/-- The name holds a zero byte. -/
def zeroInName : Fault := ⟨.invalidName, "file name contained an unexpected NUL byte"⟩

/-- The contents are not UTF-8. -/
def notText : Fault := ⟨.invalidText, "stream did not contain valid UTF-8"⟩

/-- The peer took no bytes. -/
def nothingTaken : Fault := ⟨.nothingTaken, "write zero"⟩

end Fault

end SerialEndpoint
