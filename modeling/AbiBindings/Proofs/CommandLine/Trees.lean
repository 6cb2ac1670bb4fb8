import AbiBindings.Proofs.CommandLine.View
import AbiBindings.Proofs.Success
import Mathlib.Tactic.Common

/-!
# Command line — a tree of files is a lawful disk

Where a path leads depends on the directories alone. So a file written in the place of a file, or where
there was nothing, does not change where any path leads, and new directories do not lead astray the paths
that led somewhere.

* `FileTree.view` — what can be seen of a tree;
* `FileTree.SameDirectories` — trees with the same directories have the same ways;
* `FileTree.Keeps`, `FileTree.Grows` — ways stay as they are in trees with more directories;
* `FileTree.disk_lawful` — the operations on a tree are those of a lawful disk;
* `FileTree.view_apart` — different names in a directory are different places.
-/

namespace AbiBindings.CommandLine.FileTree

/-- What can be seen of a tree of files. -/
def view : View FileTree Place where
  entry? := entry?
  locate? tree path := (tree.resolve path).toOption

theorem locate?_eq_some {tree : FileTree} {path : Path} {place : Place} :
    view.locate? tree path = some place ↔ tree.resolve path = .ok place := by
  cases hResolve : tree.resolve path <;> simp [view, hResolve, Except.toOption]

/-! ## Entries -/

section Entries

variable {tree : FileTree} {place : Place} {entry : Entry}

@[simp] theorem entry?_root : tree.entry? [] = some .directory := rfl

theorem isDirectory_iff : tree.isDirectory place = true ↔ tree.entry? place = some .directory := by
  rw [isDirectory]
  split <;> simp_all

theorem ne_nil_of_isDirectory_eq_false (h : tree.isDirectory place = false) : place ≠ [] := by
  rintro rfl
  simp [isDirectory] at h

/-- Setting an entry sets this one and no other. -/
theorem entry?_set (hPlace : place ≠ []) (other : Place) :
    entry? (tree.set place entry) other = if other = place then some entry else tree.entry? other := by
  by_cases hOther : other = place
  · subst hOther
    simp [set, entry?, hPlace]
  · rw [if_neg hOther, entry?, entry?, set, List.lookup_cons, beq_false_of_ne hOther,
      lookup_filter_ne place other hOther]

end Entries

/-! ## Where paths lead -/

section Walks

variable {tree : FileTree} {place : Place}

/-- A walk goes one step, must find something there, and goes on. -/
theorem walk_cons (name : String) (rest : List String) :
    tree.walk place (name :: rest) = tree.step place name >>= fun next =>
      if (tree.entry? next).isNone then .error .notFound else tree.walk next rest := by
  rw [walk]
  rfl

/-- The end of a walk through `names` and then one step to `name`. -/
def reach (tree : FileTree) (place : Place) (names : List String) (name : String) : Except OsError Place :=
  tree.walk place names >>= (tree.step · name)

theorem step_of_isDirectory_eq_false (h : tree.isDirectory place = false) (name : String) :
    tree.step place name = .error .notDirectory := by
  simp [step, h]

/-- There is no way on from what is not a directory. -/
theorem reach_of_isDirectory_eq_false (h : tree.isDirectory place = false) (names : List String)
    (name : String) : (tree.reach place names name).toOption = none := by
  cases names with
  | nil =>
    change (tree.step place name).toOption = none
    rw [step_of_isDirectory_eq_false h]
    rfl
  | cons first rest =>
    rw [reach, walk_cons, step_of_isDirectory_eq_false h]
    rfl

/-- A path with a last part leads to the end of a walk. -/
theorem resolve_eq_reach {path : Path} {names : List String} {name : String}
    (h : path.parts = names ++ [name]) :
    tree.resolve path = tree.reach (tree.start path) names name := by
  simp [resolve, reach, h]

/-- The first step of a walk comes first when there is a last one too. -/
theorem reach_cons (first : String) (rest : List String) (name : String) :
    tree.reach place (first :: rest) name = tree.step place first >>= fun next =>
      if (tree.entry? next).isNone then .error .notFound else tree.reach next rest name := by
  rw [reach, walk_cons, bind_assoc]
  congr 1
  funext next
  cases (tree.entry? next).isNone <;> rfl

end Walks

/-! ## Trees with the same directories -/

/-- `after` has the directories of `before`, and something wherever `before` has. -/
structure SameDirectories (before after : FileTree) : Prop where
  here_eq : after.here = before.here
  isDirectory_eq : ∀ place, after.isDirectory place = before.isDirectory place
  isSome_entry? : ∀ place, (before.entry? place).isSome → (after.entry? place).isSome

section SameDirectories

variable {before after : FileTree}

/-- One step looks at directories alone. -/
theorem SameDirectories.step_eq (h : SameDirectories before after) (place : Place) (name : String) :
    after.step place name = before.step place name := by
  rw [step, step, h.isDirectory_eq]

/-- A walk may stop at a place where there is something now, but then just one step later. -/
theorem SameDirectories.reach_eq (h : SameDirectories before after) (place : Place) (names : List String)
    (name : String) :
    (after.reach place names name).toOption = (before.reach place names name).toOption := by
  -- along the names, from the place that the walk has come to
  induction names generalizing place with
  | nil =>
    change (after.step place name).toOption = (before.step place name).toOption
    rw [h.step_eq]
  | cons first rest ih =>
    rw [reach_cons, reach_cons, h.step_eq]
    -- the same step is taken in both trees, and may fail in both
    cases before.step place first with
    | error e => rfl
    | ok next =>
      cases hEntry : before.entry? next with
      -- there was something, so there is something now, and both walks go on
      | some entry =>
        have hIsSome : (after.entry? next).isSome := h.isSome_entry? next (by simp [hEntry])
        simpa [bind, Except.bind, hEntry, Option.isNone_eq_false_iff.mpr hIsSome] using ih next
      | none =>
        -- the walk used to end here; if there is something now, it is a file and leads nowhere
        have hDirectory : after.isDirectory next = false := by
          rw [h.isDirectory_eq, isDirectory, hEntry]
        have hReach := reach_of_isDirectory_eq_false hDirectory rest name
        have hGone : (if (before.entry? next).isNone then .error .notFound
            else before.reach next rest name) = .error OsError.notFound := by
          rw [hEntry]
          rfl
        change (if (after.entry? next).isNone then .error .notFound
          else after.reach next rest name).toOption = (if (before.entry? next).isNone then
            .error .notFound else before.reach next rest name).toOption
        rw [hGone]
        split
        · rfl
        · exact hReach

/-- The same directories, the same ways. -/
theorem SameDirectories.locate?_eq (h : SameDirectories before after) (path : Path) :
    view.locate? after path = view.locate? before path := by
  change (after.resolve path).toOption = (before.resolve path).toOption
  have hStart : after.start path = before.start path := by rw [start, start, h.here_eq]
  -- a path without parts stays where it starts
  rcases List.eq_nil_or_concat' path.parts with hParts | ⟨names, name, hParts⟩
  · simp [resolve, hParts, hStart]
  · rw [resolve_eq_reach hParts, resolve_eq_reach hParts, hStart, h.reach_eq]

/-- A file that is set in the place of no directory leaves the directories as they are. -/
theorem sameDirectories_set {place : Place} (h : before.isDirectory place = false) (content : ByteArray) :
    SameDirectories before (before.set place (.file content)) where
  here_eq := rfl
  isDirectory_eq other := by
    -- there is no directory at the place, neither before nor behind
    by_cases hOther : other = place
    · rw [hOther, h, isDirectory, entry?_set (ne_nil_of_isDirectory_eq_false h), if_pos rfl]
    · rw [isDirectory, isDirectory, entry?_set (ne_nil_of_isDirectory_eq_false h), if_neg hOther]
  isSome_entry? other hIsSome := by
    rw [entry?_set (ne_nil_of_isDirectory_eq_false h)]
    split
    · rfl
    · exact hIsSome

/-- A file is written where the path leads, unless there is a directory or the path ends in a slash. -/
theorem write_eq_ok {path : Path} {content : ByteArray} :
    before.write path content = .ok after ↔ ∃ place, before.resolve path = .ok place ∧
      before.isDirectory place = false ∧ path.slashed = false ∧
      after = before.set place (.file content) := by
  rw [write, bind_eq_ok]
  refine exists_congr fun place => and_congr_right fun _ => ?_
  cases before.isDirectory place <;> cases path.slashed <;>
    simp [throw, throwThe, MonadExceptOf.throw, bind, Except.bind, pure, Except.pure, eq_comm]

/-- A file that is written replaces what was at its place, and nothing else. -/
theorem write_replaces {path : Path} {content : ByteArray} (h : before.write path content = .ok after) :
    view.Replaces path content before after := by
  obtain ⟨place, hPlace, hDirectory, -, rfl⟩ := write_eq_ok.mp h
  have hSame := sameDirectories_set hDirectory content
  have hEntry : ∀ other, entry? (before.set place (.file content)) other =
      if other = place then some (.file content) else before.entry? other :=
    entry?_set (ne_nil_of_isDirectory_eq_false hDirectory)
  -- where the path leads, what is there, and that no other place has changed
  refine ⟨⟨place, ?_, ?_, ?_⟩, hSame.locate?_eq⟩
  · rw [hSame.locate?_eq]
    exact locate?_eq_some.mpr hPlace
  · exact (hEntry place).trans (if_pos rfl)
  · intro other hOther
    exact (hEntry other).trans (if_neg hOther)

end SameDirectories

/-! ## Trees with more directories -/

/-- Whatever there is in `before` is in `after`. -/
structure Keeps (before after : FileTree) : Prop where
  here_eq : after.here = before.here
  entry?_eq : ∀ place entry, before.entry? place = some entry → after.entry? place = some entry

section Keeps

variable {before after : FileTree}

/-- A step that can be taken stays the same. -/
theorem Keeps.step_eq_ok (h : Keeps before after) {place next : Place} {name : String}
    (hStep : before.step place name = .ok next) : after.step place name = .ok next := by
  cases hDirectory : before.isDirectory place with
  | false =>
    -- no step could have been taken
    rw [step_of_isDirectory_eq_false hDirectory] at hStep
    cases hStep
  | true =>
    have hAfter : after.isDirectory place = true :=
      isDirectory_iff.mpr (h.entry?_eq place _ (isDirectory_iff.mp hDirectory))
    rw [← hStep, step, step, hDirectory, hAfter]

/-- A walk that comes to its end still does. -/
theorem Keeps.reach_eq_ok (h : Keeps before after) {place last : Place} {names : List String}
    {name : String} (hReach : before.reach place names name = .ok last) :
    after.reach place names name = .ok last := by
  induction names generalizing place with
  | nil => exact h.step_eq_ok hReach
  | cons first rest ih =>
    rw [reach_cons, bind_eq_ok] at hReach ⊢
    obtain ⟨next, hStep, hRest⟩ := hReach
    -- what the walk has passed through is still there
    refine ⟨next, h.step_eq_ok hStep, ?_⟩
    cases hEntry : before.entry? next with
    | none => simp [hEntry] at hRest
    | some entry =>
      simp only [hEntry, Option.isNone_some, Bool.false_eq_true, if_false] at hRest
      simpa only [h.entry?_eq next entry hEntry, Option.isNone_some, Bool.false_eq_true, if_false]
        using ih hRest

/-- A path that leads somewhere still leads there. -/
theorem Keeps.resolve_eq_ok (h : Keeps before after) {path : Path} {place : Place}
    (hResolved : before.resolve path = .ok place) : after.resolve path = .ok place := by
  have hStart : after.start path = before.start path := by rw [start, start, h.here_eq]
  rcases List.eq_nil_or_concat' path.parts with hParts | ⟨names, name, hParts⟩
  · rw [resolve, hParts] at hResolved ⊢
    exact hStart ▸ hResolved
  · rw [resolve_eq_reach hParts] at hResolved ⊢
    exact hStart ▸ h.reach_eq_ok hResolved

end Keeps

/-- In `after` there are new directories, to each of which one of `paths` leads, and nothing else is new. -/
structure Grows (paths : List Path) (before after : FileTree) : Prop where
  here_eq : after.here = before.here
  adds : view.AddsDirectories paths before after

section Grows

variable {paths above : List Path} {path : Path} {before middle after : FileTree}

theorem grows_refl (paths : List Path) (tree : FileTree) : Grows paths tree tree :=
  ⟨rfl, view.addsDirectories_refl paths tree⟩

/-- Growth by some of the paths is growth by all of them. -/
theorem Grows.mono (h : Grows above before after) (hPaths : above ⊆ paths) : Grows paths before after where
  here_eq := h.here_eq
  adds place := by
    obtain hSame | ⟨hNone, hNew, path, hPath, hLocated⟩ := h.adds place
    · exact .inl hSame
    · exact .inr ⟨hNone, hNew, path, hPaths hPath, hLocated⟩

/-- Nothing that there was is lost. -/
theorem Grows.keeps (h : Grows paths before after) : Keeps before after where
  here_eq := h.here_eq
  entry?_eq place entry hEntry := by
    obtain hSame | ⟨hNone, -⟩ := h.adds place
    · exact hSame.trans hEntry
    · cases hEntry.symm.trans hNone

/-- Growth upon growth is growth. -/
theorem Grows.trans (hFirst : Grows paths before middle) (hThen : Grows paths middle after) :
    Grows paths before after where
  here_eq := hThen.here_eq.trans hFirst.here_eq
  adds place := by
    obtain hSame | ⟨hNone, hNew, path, hPath, hLocated⟩ := hFirst.adds place
    · obtain hLater | ⟨hNone, hLater⟩ := hThen.adds place
      -- nothing new at first, so it is new now or not at all
      · exact .inl (hLater.trans hSame)
      · exact .inr ⟨hSame.symm.trans hNone, hLater⟩
    -- new at first, so it is still there, and the path that led to it still does
    · have hLater := hThen.keeps.resolve_eq_ok (locate?_eq_some.mp hLocated)
      exact .inr ⟨hNone, hThen.keeps.entry?_eq place _ hNew, path, hPath, locate?_eq_some.mpr hLater⟩

/-- A directory is made where the path leads, if there is nothing yet. -/
theorem makeDir_eq_ok : before.makeDir path = .ok after ↔ ∃ place, before.resolve path = .ok place ∧
    before.entry? place = none ∧ after = before.set place .directory := by
  rw [makeDir, bind_eq_ok]
  refine exists_congr fun place => and_congr_right fun _ => ?_
  cases before.entry? place <;>
    simp [throw, throwThe, MonadExceptOf.throw, bind, Except.bind, pure, Except.pure, eq_comm]

/-- A directory that is made is growth by its path. -/
theorem grows_makeDir (h : before.makeDir path = .ok after) (hPath : path ∈ paths) :
    Grows paths before after := by
  obtain ⟨place, hPlace, hNone, rfl⟩ := makeDir_eq_ok.mp h
  have hRoot : place ≠ [] := by
    rintro rfl
    cases hNone
  -- what was there before is not at the new place, so it is still there
  have hKeeps : Keeps before (before.set place .directory) := by
    refine ⟨rfl, fun other entry hEntry => ?_⟩
    rw [entry?_set hRoot, if_neg, hEntry]
    rintro rfl
    cases hEntry.symm.trans hNone
  refine ⟨rfl, fun other => ?_⟩
  by_cases hOther : other = place
  · subst hOther
    exact .inr ⟨hNone, (entry?_set hRoot other).trans (if_pos rfl), path, hPath,
      locate?_eq_some.mpr (hKeeps.resolve_eq_ok hPlace)⟩
  · exact .inl ((entry?_set hRoot other).trans (if_neg hOther))

/-- By induction on the paths above: each directory is made in a tree that has grown by those above it. -/
theorem grows_makeDirs (paths : List Path) (tree : FileTree) : Grows paths tree (tree.makeDirs paths).2 := by
  induction paths generalizing tree with
  | nil => exact grows_refl [] tree
  | cons path above ih =>
    -- what is done above the path is growth by the paths above, and so by all of them
    have hAbove := (ih tree).mono (List.subset_cons_self path above)
    rw [makeDirs]
    cases hMade : tree.makeDir path with
    | ok made => exact grows_makeDir hMade List.mem_cons_self
    | error e =>
      simp only
      split
      -- the directories above are made first, and then it is tried again
      · cases hMades : tree.makeDirs above with
        | mk result grown =>
          rw [hMades] at hAbove
          cases result with
          | error e => exact hAbove
          | ok _ =>
            cases hAgain : grown.makeDir path with
            | ok made =>
              simp only [hAgain]
              exact hAbove.trans (grows_makeDir hAgain List.mem_cons_self)
            | error e =>
              simp only [hAgain]
              split <;> exact hAbove
      -- the failure is not that something above is missing, so nothing is made
      · split <;> exact grows_refl _ tree

end Grows

/-! ## The operations -/

theorem pathOfText_eq_ok {text : String} {path : Path} (h : pathOfText text = .ok path) :
    path = .ofText text := by
  rw [pathOfText] at h
  split at h <;> simp_all

theorem run_makeDirs (text : String) (tree : FileTree) : (disk.makeDirs text).run tree =
    match pathOfText text with
    | .ok path => tree.makeDirs path.ancestors
    | .error e => (.error e, tree) := rfl

theorem run_writeFile (text content : String) (tree : FileTree) : (disk.writeFile text content).run tree =
    match pathOfText text >>= (tree.write · content.toUTF8) with
    | .ok tree => (.ok (), tree)
    | .error e => (.error e, tree) := rfl

/-- The operations on a tree are those of a disk that behaves. -/
theorem disk_lawful : disk.Lawful view where
  contains_keeps _ _ := rfl
  readFile_keeps _ _ := rfl
  makeDirs_adds text tree := by
    rw [run_makeDirs]
    cases hPath : pathOfText text with
    | error e => exact view.addsDirectories_refl _ tree
    | ok path =>
      rw [pathOfText_eq_ok hPath]
      exact (grows_makeDirs _ tree).adds
  -- either the write has failed or it has replaced what was there
  writeFile_replaces text content tree written hWritten := by
    rw [run_writeFile] at hWritten
    cases hWrite : pathOfText text >>= (tree.write · content.toUTF8) with
    | error e =>
      rw [hWrite] at hWritten
      cases hWritten
    | ok made =>
      rw [hWrite] at hWritten
      cases hWritten
      obtain ⟨path, hPath, hMade⟩ := bind_eq_ok.mp hWrite
      exact pathOfText_eq_ok hPath ▸ write_replaces hMade
  writeFile_fails text content e tree left hFailed := by
    rw [run_writeFile] at hFailed
    split at hFailed <;> cases hFailed
    rfl

/-! ## Different names -/

/-- A slash ends the part before it, so the parts are those before and those behind. -/
theorem partsFrom_append_slash (part before after : List Char) :
    partsFrom part (before ++ '/' :: after) = partsFrom part before ++ partsFrom [] after := by
  induction before generalizing part with
  | nil => cases part <;> simp [partsFrom]
  | cons c before ih =>
    by_cases hSlash : c = '/'
    · subst hSlash
      cases part <;> simp [partsFrom, ih]
    · simp [partsFrom, ih]

/-- The name stands behind a slash, and what is in front of it depends on the directory alone. -/
theorem exists_toList_joinPath (directory : String) :
    ∃ front, ∀ name, (joinPath directory name).toList = front ++ '/' :: name.toList := by
  -- a slash at the end is kept, and otherwise one is put there
  by_cases hSlash : directory.endsWith "/"
  · obtain ⟨front, hFront⟩ : "/".toList <:+ directory.toList := by
      rw [String.endsWith, String.Slice.endsWith_string_iff] at hSlash
      simpa using hSlash
    refine ⟨front, fun name => ?_⟩
    rw [joinPath, if_pos hSlash, String.toList_append, ← hFront, List.append_assoc]
    rfl
  · refine ⟨directory.toList, fun name => ?_⟩
    rw [joinPath, if_neg hSlash, String.toList_append, String.toList_append, List.append_assoc]
    rfl

/-- A step to a name of its own goes down, and nowhere else. -/
theorem step_name_eq_ok {tree : FileTree} {parent place : Place} {name : String} (hName : IsName name)
    (h : tree.step parent name = .ok place) : place = parent ++ [name] := by
  obtain ⟨-, hStay, hUp⟩ := hName
  -- neither a step that stays nor one that goes up
  rw [step, if_neg hStay, if_neg hUp] at h
  split at h
  · cases h
  · split at h <;> cases h
    rfl

/-- Different names in a directory lead to different places. -/
theorem view_apart : view.Apart := by
  intro tree directory a b ha hb hNe place hPlace hOther
  obtain ⟨front, hFront⟩ := exists_toList_joinPath directory
  -- both paths are the steps of `front` and then the name
  have hParts : ∀ {name}, IsName name →
      (Path.ofText (joinPath directory name)).parts = partsFrom [] front ++ [name] := by
    intro name hName
    rw [← hName.1, ← partsFrom_append_slash, ← hFront]
    rfl
  have hStart : tree.start (.ofText (joinPath directory a)) = tree.start (.ofText (joinPath directory b)) := by
    simp only [start, Path.ofText, hFront]
    cases front <;> rfl
  rw [locate?_eq_some, resolve_eq_reach (hParts ha), hStart, reach, bind_eq_ok] at hPlace
  rw [locate?_eq_some, resolve_eq_reach (hParts hb), reach, bind_eq_ok] at hOther
  obtain ⟨parent, hParent, hStep⟩ := hPlace
  obtain ⟨parent', hParent', hStep'⟩ := hOther
  -- the same walk leads to one parent, so the places differ by the names alone
  cases hParent.symm.trans hParent'
  have hSame := (step_name_eq_ok ha hStep).symm.trans (step_name_eq_ok hb hStep')
  exact hNe (by simpa using hSame)

end AbiBindings.CommandLine.FileTree
