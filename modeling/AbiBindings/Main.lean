import AbiBindings.CommandLine.Run

/-!
# The command

Carries out runs on the disk of the machine, prints what they report and ends with their code.
-/

namespace AbiBindings.CommandLine

/-- The number and the words of a failed operation. -/
def osError (e : IO.Error) : OsError :=
  match e with
  | .alreadyExists _ number words | .inappropriateType _ number words
  | .interrupted _ number words | .invalidArgument _ number words
  | .noFileOrDirectory _ number words | .noSuchThing _ number words
  | .permissionDenied _ number words | .resourceExhausted _ number words =>
    ⟨number.toNat, words⟩
  | .hardwareFault number words | .illegalOperation number words | .otherError number words
  | .protocolError number words | .resourceBusy number words | .resourceVanished number words
  | .timeExpired number words | .unsatisfiedConstraints number words
  | .unsupportedOperation number words =>
    ⟨number.toNat, words⟩
  | .unexpectedEof => ⟨5, "Input/output error"⟩
  | .userError words => ⟨5, words⟩

/-- An operation together with the way in which it may fail. -/
def attempt {α : Type} (action : IO α) : IO (Except OsError α) := do
  try return .ok (← action) catch e => return .error (osError e)

/-- The errors that say that a path leads nowhere: a name is missing, a file stands where a directory
is needed, a name is too long, or links lead in a circle. -/
def leadsNowhere : List Nat := [2, 20, 36, 40]

/-- The disk of the machine. A path that cannot be opened may still lead somewhere. -/
def machineDisk : Disk IO where
  contains path := do
    match ← attempt (IO.FS.Handle.mk path .read) with
    | .ok _ => return true
    | .error e => return !leadsNowhere.contains e.number
  readFile path := attempt (IO.FS.readBinFile path)
  makeDirs path := attempt (IO.FS.createDirAll path)
  writeFile path content := attempt (IO.FS.writeFile path content)

end AbiBindings.CommandLine

def main (args : List String) : IO UInt32 := do
  let outcome ← AbiBindings.CommandLine.execute AbiBindings.CommandLine.machineDisk args
  IO.print outcome.output
  IO.eprint outcome.errors
  if outcome.code = 2 then IO.eprint AbiBindings.CommandLine.usage
  return outcome.code
