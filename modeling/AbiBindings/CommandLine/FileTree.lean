import AbiBindings.CommandLine.Disk

/-!
# Command line — files in memory

A `FileTree` is a disk as a value: which directories and files there are, with the directory from
which relative paths start. Its operations follow the rules of the operating system for `.` and
`..`, for files in the place of directories, and for slashes at the end.

* `FileTree.resolve` — the place that a path leads to;
* `FileTree.disk` — the operations that the command needs.
-/

namespace AbiBindings.CommandLine

/-! ## Paths -/

/-- A place: the names of the directories on the way from the root, and its own name. -/
abbrev Place := List String

/-- A path as it is spelled. -/
structure Path where
  absolute : Bool
  parts : List String
  /-- Whether a slash at the end asks for a directory. -/
  slashed : Bool
  deriving DecidableEq, Repr

/-- The parts of a path between slashes; `part` is the one being read, last character first. -/
def partsFrom (part : List Char) : List Char → List String
  | [] => if part.isEmpty then [] else [String.ofList part.reverse]
  | '/' :: rest =>
    if part.isEmpty then partsFrom [] rest else String.ofList part.reverse :: partsFrom [] rest
  | c :: rest => partsFrom (c :: part) rest

/-- The path that a text spells. -/
def Path.ofText (text : String) : Path where
  absolute := text.toList.head? == some '/'
  parts := partsFrom [] text.toList
  slashed := text.toList.getLast? == some '/'

/-- The parts without those that stay in place; a single one in front is kept. -/
def Path.steps (path : Path) : List String :=
  match path.parts with
  | first :: rest => first :: rest.filter (· != ".")
  | [] => []

/-- The path itself and the paths above it, from the longest to the shortest. -/
def Path.ancestors (path : Path) : List Path :=
  let steps := path.steps
  path :: ((List.range steps.length).tail.reverse.map fun count =>
    ⟨path.absolute, steps.take count, false⟩)

/-! ## Trees -/

/-- What there can be at a place. -/
inductive Entry where
  | directory
  | file (content : ByteArray)

/-- Directories and files, with the place from which relative paths start. -/
structure FileTree where
  entries : List (Place × Entry)
  here : Place

namespace FileTree

/-- What there is at a place. The root is always a directory. -/
def entry? (tree : FileTree) (place : Place) : Option Entry :=
  if place.isEmpty then some .directory else tree.entries.lookup place

/-- Whether there is a directory at a place. -/
def isDirectory (tree : FileTree) (place : Place) : Bool :=
  match tree.entry? place with
  | some .directory => true
  | _ => false

/-- The tree with an entry at a place, which replaces what was there. -/
def set (tree : FileTree) (place : Place) (entry : Entry) : FileTree :=
  { tree with entries := (place, entry) :: tree.entries.filter (·.1 != place) }

/-- The longest name, in bytes. -/
def longestName : Nat := 255

/-- The place one step away from the directory `place`. -/
def step (tree : FileTree) (place : Place) (name : String) : Except OsError Place :=
  if !tree.isDirectory place then .error .notDirectory
  else if name = "." then .ok place
  else if name = ".." then .ok place.dropLast
  else if longestName < name.utf8ByteSize then .error .nameTooLong
  else .ok (place ++ [name])

/-- Walk from `place` through `names`, at each of which there must be something. -/
def walk (tree : FileTree) (place : Place) : List String → Except OsError Place
  | [] => .ok place
  | name :: rest => do
    let next ← tree.step place name
    if (tree.entry? next).isNone then throw .notFound
    tree.walk next rest

/-- Where a path starts. -/
def start (tree : FileTree) (path : Path) : Place := if path.absolute then [] else tree.here

/-- The place that a path leads to, where there need not be anything. -/
def resolve (tree : FileTree) (path : Path) : Except OsError Place :=
  match path.parts.getLast? with
  | none => .ok (tree.start path)
  | some name => do
    let parent ← tree.walk (tree.start path) path.parts.dropLast
    tree.step parent name

/-- What there is under a path. -/
def find (tree : FileTree) (path : Path) : Except OsError Entry := do
  let place ← tree.resolve path
  match tree.entry? place with
  | none => throw .notFound
  | some (.file content) => if path.slashed then throw .notDirectory else return .file content
  | some .directory => return .directory

/-- The bytes of a file. -/
def read (tree : FileTree) (path : Path) : Except OsError ByteArray := do
  match ← tree.find path with
  | .file content => return content
  | .directory => throw .isDirectory

/-- The tree with a file under a path. -/
def write (tree : FileTree) (path : Path) (content : ByteArray) : Except OsError FileTree := do
  let place ← tree.resolve path
  if tree.isDirectory place || path.slashed then throw .isDirectory
  return tree.set place (.file content)

/-- The tree with a new directory under a path. -/
def makeDir (tree : FileTree) (path : Path) : Except OsError FileTree := do
  let place ← tree.resolve path
  if (tree.entry? place).isSome then throw .alreadyThere
  return tree.set place .directory

/-- Make a directory, given by its path and the paths above it. If the one above is missing, that is
made first; a directory that is there already will do. -/
def makeDirs (tree : FileTree) : List Path → Except OsError Unit × FileTree
  | [] => (.ok (), tree)
  | path :: above =>
    let settle (tree : FileTree) (e : OsError) : Except OsError Unit × FileTree :=
      match tree.find path with
      | .ok .directory => (.ok (), tree)
      | _ => (.error e, tree)
    match tree.makeDir path with
    | .ok tree => (.ok (), tree)
    | .error e =>
      -- only a missing parent is worth a second try
      if e = .notFound then
        match tree.makeDirs above with
        | (.error e, tree) => (.error e, tree)
        | (.ok (), tree) =>
          match tree.makeDir path with
          | .ok tree => (.ok (), tree)
          | .error e => settle tree e
      else settle tree e

/-- The longest path as it is spelled, in bytes. -/
def longestPath : Nat := 4095

/-- The path that a text spells, unless it is too long. Nothing else about it is looked at then. -/
def pathOfText (text : String) : Except OsError Path :=
  if longestPath < text.utf8ByteSize then .error .nameTooLong else .ok (.ofText text)

/-- The operations that the command needs. The paths above a directory are shorter than its own, so
one check is enough for them all. -/
def disk : Disk (StateM FileTree) where
  contains text := do return (pathOfText text >>= (← get).find).toOption.isSome
  readFile text := do return pathOfText text >>= (← get).read
  makeDirs text := modifyGet fun tree =>
    match pathOfText text with
    | .ok path => tree.makeDirs path.ancestors
    | .error e => (.error e, tree)
  writeFile text content := modifyGet fun tree =>
    match pathOfText text >>= (tree.write · content.toUTF8) with
    | .ok tree => (.ok (), tree)
    | .error e => (.error e, tree)

end FileTree

end AbiBindings.CommandLine
