import AbiBindings.Bindings.Style

/-!
# Command line — options

What the command is told to do. Every option is given at most once, in its long form or, for some,
by a letter. Letters may be joined behind one dash, and the last of them takes what follows as its
value. A value also stands behind `=` or is the next argument, unless that looks like an option.

* `readArgs` — the options in the order in which they are given;
* `Invocation.ofArgs` — what they come to.
-/

namespace AbiBindings.CommandLine

open Bindings (Style)

/-! ## Options -/

/-- What the command is told to do. -/
structure Options where
  /-- Only check the manifest. -/
  validate : Bool := false
  /-- The file that holds the manifest. -/
  input : String := "abi.json"
  /-- The directory that the modules go into. -/
  output : String := "src"
  /-- The name of the client class. -/
  clientName : String := "Client"
  style : Style := .positional
  /-- Report in JSON. -/
  json : Bool := false
  verbose : Bool := false

/-- The options by name. -/
inductive OptionName where
  | validate
  | input
  | output
  | clientName
  | style
  | json
  | verbose
  deriving DecidableEq, Repr

/-- Whether an option has a value. -/
def OptionName.takesValue : OptionName → Bool
  | .input | .output | .clientName | .style => true
  | .validate | .json | .verbose => false

/-- The option with this long form. -/
def OptionName.ofLong? : String → Option OptionName
  | "validate" => some .validate
  | "input" => some .input
  | "output" => some .output
  | "client-name" => some .clientName
  | "style" => some .style
  | "json" => some .json
  | "verbose" => some .verbose
  | _ => none

/-- The option with this letter. -/
def OptionName.ofLetter? : Char → Option OptionName
  | 'i' => some .input
  | 'o' => some .output
  | 'v' => some .verbose
  | _ => none

/-- The style called `name`. -/
def styleOfName? : String → Option Style
  | "positional" => some .positional
  | "namespaced" => some .namespaced
  | _ => none

/-- The options with one of them given, unless its value makes no sense. A path is never empty. -/
def Options.give? (options : Options) (name : OptionName) (value : String) : Option Options :=
  match name with
  | .validate => some { options with validate := true }
  | .json => some { options with json := true }
  | .verbose => some { options with verbose := true }
  | .clientName => some { options with clientName := value }
  | .input => if value.isEmpty then none else some { options with input := value }
  | .output => if value.isEmpty then none else some { options with output := value }
  | .style => (styleOfName? value).map fun style => { options with style }

/-! ## Arguments -/

/-- What an argument gives. -/
inductive Given where
  | option (name : OptionName) (value : String)
  | help
  | misuse
  deriving DecidableEq, Repr

/-- What one argument gives by itself, and the option that it leaves without its value. -/
structure Argument where
  given : List Given
  pending? : Option OptionName := none

/-- An argument that makes no sense. -/
def Argument.misuse : Argument := ⟨[.misuse], none⟩

/-- Read the letters behind a dash. -/
def readLetters : List Char → Argument
  | [] => ⟨[], none⟩
  | 'h' :: _ => ⟨[.help], none⟩
  | letter :: rest =>
    match OptionName.ofLetter? letter with
    | none => .misuse
    | some name =>
      if name.takesValue then
        match rest with
        | [] => ⟨[], some name⟩
        | '=' :: value => ⟨[.option name (String.ofList value)], none⟩
        | value => ⟨[.option name (String.ofList value)], none⟩
      else
        let others := readLetters rest
        ⟨.option name "" :: others.given, others.pending?⟩

/-- Read what stands behind two dashes. -/
def readLong (body : List Char) : Argument :=
  let long := String.ofList (body.takeWhile (· != '='))
  let value? := match body.dropWhile (· != '=') with
    | _ :: value => some (String.ofList value)
    | [] => none
  if long = "help" then if value?.isSome then .misuse else ⟨[.help], none⟩
  else
    match OptionName.ofLong? long, value? with
    | none, _ => .misuse
    | some name, some value => if name.takesValue then ⟨[.option name value], none⟩ else .misuse
    | some name, none => if name.takesValue then ⟨[], some name⟩ else ⟨[.option name ""], none⟩

/-- Read an argument that does not serve as a value. -/
def readArgument (argument : String) : Argument :=
  match argument.toList with
  | '-' :: '-' :: body => readLong body
  | '-' :: letter :: rest => readLetters (letter :: rest)
  | _ => .misuse

/-- Whether an argument can serve as the value of the option before it. -/
def isValue (argument : String) : Bool :=
  match argument.toList with
  | '-' :: _ :: _ => false
  | _ => true

/-- Read all arguments. Nothing may stand behind two dashes alone. -/
def readArgs : List String → List Given
  | [] => []
  | argument :: rest =>
    if argument = "--" then if rest.isEmpty then [] else [.misuse]
    else
      let ⟨given, pending?⟩ := readArgument argument
      given ++
        match pending?, rest with
        | none, rest => readArgs rest
        | some _, [] => [.misuse]
        | some name, value :: rest =>
          if isValue value then .option name value :: readArgs rest else [.misuse]

/-! ## Invocations -/

/-- What the arguments come to. -/
inductive Invocation where
  | run (options : Options)
  | help
  | misuse

/-- Take the options one after the other; `seen` are those that have been given. -/
def collect (options : Options) (seen : List OptionName) : List Given → Invocation
  | [] => .run options
  | .help :: _ => .help
  | .misuse :: _ => .misuse
  | .option name value :: rest =>
    if seen.contains name then .misuse
    else
      match options.give? name value with
      | some options => collect options (name :: seen) rest
      | none => .misuse

/-- What the arguments come to. -/
def Invocation.ofArgs (args : List String) : Invocation := collect {} [] (readArgs args)

/-- How the command is used. -/
def usage : String := "\n".intercalate [
  "Generate typed TypeScript clients from wasm-abi/1 manifests",
  "",
  "Usage: abi-codegen [OPTIONS]",
  "",
  "Options:",
  "      --validate                   Only validate the manifest and print a summary",
  "  -i, --input <INPUT>              Path to the manifest [default: abi.json]",
  "  -o, --output <OUTPUT>            Directory to write types.ts and client.ts into [default: src]",
  "      --client-name <CLIENT_NAME>  Name of the generated client class [default: Client]",
  "      --style <STYLE>              How client methods take their arguments "
    ++ "[default: positional] [possible values: positional, namespaced]",
  "      --json                       Print a machine-readable summary instead of the human one",
  "  -v, --verbose                    Log pipeline steps to stderr",
  "  -h, --help                       Print help",
  ""]

end AbiBindings.CommandLine
