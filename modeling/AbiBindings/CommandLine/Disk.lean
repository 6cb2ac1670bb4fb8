/-!
# Command line — what a disk can do

The command needs four operations on files, each given by a path as text. They may fail as the
operating system says; nothing else is assumed of them here.
-/

namespace AbiBindings.CommandLine

/-- An error of the operating system: its number and its words. -/
structure OsError where
  number : Nat
  words : String
  deriving DecidableEq, Repr

namespace OsError

/-- There is nothing under the path. -/
def notFound : OsError := ⟨2, "No such file or directory"⟩

/-- Something is there already. -/
def alreadyThere : OsError := ⟨17, "File exists"⟩

/-- A file stands where a directory is needed. -/
def notDirectory : OsError := ⟨20, "Not a directory"⟩

/-- A directory stands where a file is needed. -/
def isDirectory : OsError := ⟨21, "Is a directory"⟩

/-- A name, or a path as a whole, is longer than the system takes. -/
def nameTooLong : OsError := ⟨36, "File name too long"⟩

/-- An error as a message ends with it. -/
def text (e : OsError) : String := e.words ++ " (os error " ++ toString e.number ++ ")"

end OsError

/-- The operations that the command needs. -/
structure Disk (m : Type → Type) where
  /-- Whether there is anything under the path. -/
  contains : String → m Bool
  /-- The bytes of a file. -/
  readFile : String → m (Except OsError ByteArray)
  /-- Make a directory and those above it, as far as they are missing. -/
  makeDirs : String → m (Except OsError Unit)
  /-- Replace the content of a file, which is made if it is missing. -/
  writeFile : String → String → m (Except OsError Unit)

/-- The path of `name` inside a directory. -/
def joinPath (directory name : String) : String :=
  if directory.endsWith "/" then directory ++ name else directory ++ "/" ++ name

end AbiBindings.CommandLine
