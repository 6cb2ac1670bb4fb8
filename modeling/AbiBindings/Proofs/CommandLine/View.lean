import AbiBindings.CommandLine.FileTree

/-!
# Command line — disks that behave

A disk is four operations that may do anything. What is known of one that behaves is stated against a view
of its states: which places there are, what each of them holds, and which place a path leads to. Two paths
may lead to one place, as links make them do, and any operation may fail at any time.

* `View` — what can be seen of a state;
* `View.Replaces`, `View.AddsDirectories` — the two ways in which a state may change;
* `View.Apart` — different names in a directory are different places;
* `Disk.Lawful` — looking changes nothing, a file is replaced as a whole or not at all, and directories are
  made only where a path needs them.
-/

namespace AbiBindings.CommandLine

/-- A name of its own: without slashes, and no step that stays in place or goes up. -/
def IsName (name : String) : Prop :=
  partsFrom [] name.toList = [name] ∧ name ≠ "." ∧ name ≠ ".."

instance (name : String) : Decidable (IsName name) := inferInstanceAs (Decidable (_ ∧ _ ∧ _))

/-- What can be seen of the states of a disk: places, each with an identity in `ι`. -/
structure View (σ ι : Type) where
  /-- What there is at a place. -/
  entry? : σ → ι → Option Entry
  /-- The place that a path leads to, where there need not be anything. -/
  locate? : σ → Path → Option ι

namespace View

variable {σ ι : Type} (view : View σ ι)

/-- The place under `path` now holds `content`; nothing else has changed, nor where any path leads. -/
def Replaces (path : Path) (content : ByteArray) (before after : σ) : Prop :=
  (∃ place, view.locate? after path = some place ∧ view.entry? after place = some (.file content) ∧
    ∀ other, other ≠ place → view.entry? after other = view.entry? before other) ∧
  ∀ other, view.locate? after other = view.locate? before other

/-- Nothing has changed at a place, or a directory is new there and one of `paths` leads to it. -/
def AddsDirectories (paths : List Path) (before after : σ) : Prop :=
  ∀ place, view.entry? after place = view.entry? before place ∨
    (view.entry? before place = none ∧ view.entry? after place = some .directory ∧
      ∃ path ∈ paths, view.locate? after path = some place)

/-- Different names in a directory lead to different places, as they do where there are no links. -/
def Apart : Prop :=
  ∀ s directory a b, IsName a → IsName b → a ≠ b → ∀ place,
    view.locate? s (.ofText (joinPath directory a)) = some place →
      view.locate? s (.ofText (joinPath directory b)) ≠ some place

theorem addsDirectories_refl (paths : List Path) (s : σ) : view.AddsDirectories paths s s :=
  fun _ => .inl rfl

end View

/-- A disk that behaves, as far as `view` shows its states. -/
structure Disk.Lawful {σ ι : Type} (disk : Disk (StateM σ)) (view : View σ ι) : Prop where
  contains_keeps : ∀ path s, ((disk.contains path).run s).2 = s
  readFile_keeps : ∀ path s, ((disk.readFile path).run s).2 = s
  /-- A directory that cannot be made may leave some of those above it. -/
  makeDirs_adds : ∀ path s,
    view.AddsDirectories (Path.ofText path).ancestors s ((disk.makeDirs path).run s).2
  writeFile_replaces : ∀ path content s t, (disk.writeFile path content).run s = (.ok (), t) →
    view.Replaces (.ofText path) content.toUTF8 s t
  writeFile_fails : ∀ path content e s t, (disk.writeFile path content).run s = (.error e, t) → t = s

end AbiBindings.CommandLine
