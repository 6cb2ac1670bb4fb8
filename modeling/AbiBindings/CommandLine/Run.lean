import AbiBindings.Bindings.Generate
import AbiBindings.CommandLine.Disk
import AbiBindings.CommandLine.Options
import AbiBindings.Json.Printer
import AbiBindings.Manifest.Validation

/-!
# Command line — runs

A run loads a manifest and then either reports on it or generates bindings and writes them.
Everything is generated before the first file is touched.

* `run` — the report of a run with given options;
* `perform` — what such a run leaves behind;
* `execute` — a run as the arguments say.
-/

namespace AbiBindings.CommandLine

open Bindings (GenerateError Generated)
open Manifest (LoadError)

/-! ## Errors -/

/-- Why a run failed. -/
inductive RunError where
  | inputMissing (path : String)
  | unreadable (path : String) (error : OsError)
  | rejected (error : LoadError)
  | notGenerated (error : GenerateError)
  | noDirectory (path : String) (error : OsError)
  | notWritten (path : String) (error : OsError)

/-- The words for a rejected manifest. What is wrong with a text that is not JSON is said once more,
as the cause. -/
def rejection (e : LoadError) : String :=
  match e with
  | .notJson cause => e.message ++ ": " ++ cause.message
  | .schema _ | .dangling _ => e.message

/-- The words for an error. -/
def RunError.message : RunError → String
  | .inputMissing path => "Input file not found: " ++ path
  | .unreadable path error => "Failed to read " ++ path ++ ": " ++ error.text
  | .rejected error => "Validation failed: " ++ rejection error
  | .notGenerated error => "Generation failed: " ++ error.message
  | .noDirectory path error => "Failed to create output directory " ++ path ++ ": " ++ error.text
  | .notWritten path error => "Failed to write " ++ path ++ ": " ++ error.text

/-! ## Reports -/

/-- A count in JSON. -/
def countJson (n : Nat) : Json := .number (.unsigned (UInt64.ofNat n))

/-- The number of declarations in JSON. -/
def summaryJson (manifest : Manifest) : Json := .object [
  ("methods", countJson manifest.summary.methods),
  ("events", countJson manifest.summary.events),
  ("types", countJson manifest.summary.types)]

/-- The report on a valid manifest. -/
def validReport (json : Bool) (manifest : Manifest) : String :=
  if json then
    (Json.object [
      ("valid", .bool true),
      ("summary", summaryJson manifest),
      ("hash", .string manifest.fingerprint.hex)]).pretty ++ "\n"
  else "✅ Manifest is valid: " ++ manifest.summary.text ++ "\n"

/-- The report on bindings that have been written. -/
def writtenReport (json : Bool) (manifest : Manifest) (paths : List String) : String :=
  if json then
    (Json.object [
      ("summary", summaryJson manifest),
      ("hash", .string manifest.fingerprint.hex),
      ("files", .array (paths.map .string))]).pretty ++ "\n"
  else
    "✅ Generated bindings: " ++ manifest.summary.text ++ "\n"
      ++ String.join (paths.map fun path => "   " ++ path ++ "\n")

/-! ## Steps of a run -/

section Run

variable {m : Type → Type} [Monad m] (disk : Disk m)

/-- Load the manifest from a file. -/
def loadManifest (path : String) : ExceptT RunError m Manifest := do
  unless ← disk.contains path do throw (.inputMissing path)
  match ← disk.readFile path with
  | .error e => throw (.unreadable path e)
  | .ok bytes =>
    match Manifest.parse bytes with
    | .error e => throw (.rejected e)
    | .ok manifest => return manifest

/-- Write files into a directory, in order, up to the first that fails; the paths written. -/
def writeFiles (directory : String) : List (String × String) → ExceptT RunError m (List String)
  | [] => return []
  | (name, content) :: rest => do
    let path := joinPath directory name
    match ← disk.writeFile path content with
    | .error e => throw (.notWritten path e)
    | .ok () => return path :: (← writeFiles directory rest)

/-- Generate bindings and write them; the paths written. -/
def writeBindings (options : Options) (manifest : Manifest) :
    ExceptT RunError m (List String) := do
  match Bindings.generate manifest options.clientName options.style with
  | .error e => throw (.notGenerated e)
  | .ok generated =>
    match ← disk.makeDirs options.output with
    | .error e => throw (.noDirectory options.output e)
    | .ok () => writeFiles disk options.output generated.files

/-- A run with given options; the report. -/
def run (options : Options) : ExceptT RunError m String := do
  let manifest ← loadManifest disk options.input
  if options.validate then return validReport options.json manifest
  let paths ← writeBindings disk options manifest
  return writtenReport options.json manifest paths

end Run

/-! ## Outcomes -/

/-- What a run leaves behind, the disk apart. -/
structure Outcome where
  code : UInt32
  output : String
  errors : String

/-- What a run comes to. -/
def Outcome.ofResult : Except RunError String → Outcome
  | .ok report => ⟨0, report, ""⟩
  | .error e => ⟨1, "", "❌ " ++ e.message ++ "\n"⟩

/-- A run with given options, to its end. -/
def perform {m : Type → Type} [Monad m] (disk : Disk m) (options : Options) : m Outcome :=
  return .ofResult (← (run disk options).run)

/-- A run as the arguments say. -/
def execute {m : Type → Type} [Monad m] (disk : Disk m) (args : List String) : m Outcome :=
  match Invocation.ofArgs args with
  | .help => return ⟨0, usage, ""⟩
  | .misuse => return ⟨2, "", ""⟩
  | .run options => perform disk options

end AbiBindings.CommandLine
