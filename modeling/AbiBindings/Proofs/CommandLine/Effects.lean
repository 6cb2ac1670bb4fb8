import AbiBindings.CommandLine.Run
import AbiBindings.Proofs.CommandLine.Trees

/-!
# Command line — what a run does to the disk

A run changes nothing before everything is generated. Then it makes directories and writes files in order
until one of them fails, and its code says whether all have been written.

* `Loads` — there is a manifest in a file;
* `Writes`, `RefusesNext` — files that have been written in order, and the one that could not be;
* `exists_run_loadManifest`, `exists_run_writeFiles` — what loading and writing come to;
* `Leaves`, `Effects` — what a run leaves behind;
* `execute_effects` — every run on every lawful disk.
-/

namespace AbiBindings.CommandLine

section Runs

variable {σ ι α β : Type} {disk : Disk (StateM σ)} {view : View σ ι}

/-! ## One step after the other -/

/-- A step that fails ends the run in the state that it has left. -/
theorem run_bind (x : ExceptT RunError (StateM σ) α) (f : α → ExceptT RunError (StateM σ) β) (s : σ) :
    (x >>= f).run.run s =
      match x.run.run s with
      | (.ok a, t) => (f a).run.run t
      | (.error e, t) => (.error e, t) := by
  change (match x.run.run s with | (r, t) => (ExceptT.bindCont f r).run t) = _
  obtain ⟨r, t⟩ := x.run.run s
  cases r <;> rfl

/-- What only acts on the disk does not end a run by itself. -/
theorem run_lift_bind (x : StateM σ α) (f : α → ExceptT RunError (StateM σ) β) (s : σ) :
    ((liftM x : ExceptT RunError (StateM σ) α) >>= f).run.run s = (f (x.run s).1).run.run (x.run s).2 :=
  rfl

/-! ## Loading -/

/-- There is a file at `path`, it can be read, and what it holds is accepted as `manifest`. -/
def Loads (disk : Disk (StateM σ)) (s : σ) (path : String) (manifest : Manifest) : Prop :=
  ((disk.contains path).run s).1 = true ∧
    ∃ bytes, ((disk.readFile path).run s).1 = .ok bytes ∧ Manifest.parse bytes = .ok manifest

/-- Loading changes nothing, and gives back the manifest if there is one. -/
theorem exists_run_loadManifest (hDisk : disk.Lawful view) (path : String) (s : σ) :
    ∃ result, (loadManifest disk path).run.run s = (result, s) ∧
      ∀ manifest, result = .ok manifest ↔ Loads disk s path manifest := by
  rw [loadManifest, run_lift_bind, hDisk.contains_keeps]
  -- no file, no bytes, no manifest, or success
  unfold Loads
  cases ((disk.contains path).run s).1 with
  | false => exact ⟨.error (.inputMissing path), rfl, by simp⟩
  | true =>
    simp only [if_true, true_and]
    rw [run_lift_bind, hDisk.readFile_keeps]
    cases ((disk.readFile path).run s).1 with
    | error e => exact ⟨.error (.unreadable path e), rfl, by simp⟩
    | ok bytes =>
      cases hParse : Manifest.parse bytes with
      | error e => exact ⟨.error (.rejected e), by simp only [hParse]; rfl, by simp [hParse]⟩
      | ok manifest => exact ⟨.ok manifest, by simp only [hParse]; rfl, by simp [hParse]⟩

/-! ## Writing -/

/-- The path of a file in a directory. -/
def fileAt (directory : String) (file : String × String) : Path := .ofText (joinPath directory file.1)

/-- The disk takes each of `files` in turn. -/
inductive Writes (disk : Disk (StateM σ)) (directory : String) : List (String × String) → σ → σ → Prop where
  | nil (s : σ) : Writes disk directory [] s s
  | cons {name content : String} {rest : List (String × String)} {s t u : σ}
      (hFile : (disk.writeFile (joinPath directory name) content).run s = (.ok (), t))
      (hRest : Writes disk directory rest t u) : Writes disk directory ((name, content) :: rest) s u

/-- The disk does not take the next of `files` after those that are written. -/
def RefusesNext (disk : Disk (StateM σ)) (directory : String) (files written : List (String × String))
    (s : σ) : Prop :=
  ∃ file rest e, files = written ++ file :: rest ∧
    ((disk.writeFile (joinPath directory file.1) file.2).run s).1 = .error e

/-- Files are written in order, and all of them unless one is refused. -/
theorem exists_run_writeFiles (hDisk : disk.Lawful view) (directory : String)
    (files : List (String × String)) (s : σ) :
    ∃ result written t, (writeFiles disk directory files).run.run s = (result, t) ∧
      Writes disk directory written s t ∧ written <+: files ∧
      ((∃ paths, result = .ok paths) ↔ written = files) ∧
      (written ≠ files → RefusesNext disk directory files written t) := by
  -- on the files, from any state: the first that fails leaves the state as the ones before it did
  induction files generalizing s with
  | nil => exact ⟨.ok [], [], s, rfl, .nil s, List.nil_prefix, by simp, fun hPart => absurd rfl hPart⟩
  | cons file rest ih =>
    obtain ⟨name, content⟩ := file
    rw [writeFiles, run_lift_bind]
    rcases hFile : (disk.writeFile (joinPath directory name) content).run s with ⟨result, t⟩
    cases result with
    | error e =>
      cases hDisk.writeFile_fails _ _ _ _ _ hFile
      have hRefused : RefusesNext disk directory ((name, content) :: rest) [] s :=
        ⟨_, rest, e, rfl, congrArg Prod.fst hFile⟩
      exact ⟨_, [], s, rfl, .nil s, List.nil_prefix, by simp, fun _ => hRefused⟩
    | ok _ =>
      obtain ⟨result, written, u, hRest, hWrites, hPrefix, hAll, hRefused⟩ := ih t
      refine ⟨(joinPath directory name :: ·) <$> result, (name, content) :: written, u, ?_, .cons hFile hWrites,
        List.prefix_cons_inj _ |>.mpr hPrefix, ?_, fun hPart => ?_⟩
      · simp only
        rw [run_bind, hRest]
        cases result <;> rfl
      · rw [List.cons.injEq, ← hAll]
        cases result <;> simp
      · obtain ⟨next, later, e, hFiles, hError⟩ := hRefused fun hWritten => hPart (hWritten ▸ rfl)
        exact ⟨next, later, e, congrArg _ hFiles, hError⟩

/-- Writing files moves no path: every path leads where it led before. -/
theorem Writes.locate?_eq (hDisk : disk.Lawful view) {directory : String} {files : List (String × String)}
    {s t : σ} (h : Writes disk directory files s t) (path : Path) :
    view.locate? t path = view.locate? s path := by
  induction h with
  | nil s => rfl
  | cons hFile _ ih => exact ih.trans ((hDisk.writeFile_replaces _ _ _ _ hFile).2 path)

/-- Only the places under the paths of the files have changed. -/
theorem Writes.frame (hDisk : disk.Lawful view) {directory : String} {files : List (String × String)}
    {s t : σ} (h : Writes disk directory files s t) (place : ι) :
    view.entry? t place = view.entry? s place ∨
      ∃ file ∈ files, view.locate? t (fileAt directory file) = some place := by
  induction h with
  | nil s => exact .inl rfl
  | @cons name content rest s t u hFile hRest ih =>
    obtain ⟨⟨written, hLocated, -, hOthers⟩, -⟩ := hDisk.writeFile_replaces _ _ _ _ hFile
    -- the place of the first file is still its place in the end, since writing moves no path
    by_cases hPlace : place = written
    · refine .inr ⟨(name, content), List.mem_cons_self, ?_⟩
      rw [hRest.locate?_eq hDisk, hPlace]
      exact hLocated
    · obtain hSame | ⟨file, hMem, hFileAt⟩ := ih
      · exact .inl (hSame.trans (hOthers place hPlace))
      · exact .inr ⟨file, List.mem_cons_of_mem _ hMem, hFileAt⟩

/-- Each file holds its text in the end, if no later one goes to the same place. -/
theorem Writes.holds (hDisk : disk.Lawful view) {directory : String}
    {earlier later : List (String × String)} {file : String × String} {s t : σ}
    (h : Writes disk directory (earlier ++ file :: later) s t) :
    ∃ place, view.locate? t (fileAt directory file) = some place ∧
      ((∀ other ∈ later, view.locate? t (fileAt directory other) ≠ some place) →
        view.entry? t place = some (.file file.2.toUTF8)) := by
  -- the files before do not matter, and those behind leave the place alone
  induction earlier generalizing s with
  | cons first earlier ih =>
    cases h with
    | cons _ hRest => exact ih hRest
  | nil =>
    cases h with
    | cons hFile hRest =>
      obtain ⟨⟨place, hLocated, hEntry, -⟩, -⟩ := hDisk.writeFile_replaces _ _ _ _ hFile
      refine ⟨place, (hRest.locate?_eq hDisk _).trans hLocated, fun hApart => ?_⟩
      obtain hSame | ⟨other, hOther, hPlace⟩ := hRest.frame hDisk place
      · exact hSame.trans hEntry
      · exact absurd hPlace (hApart other hOther)

/-! ## The two modules -/

theorem names_files (bindings : Bindings.Generated) :
    bindings.files.map Prod.fst = [Bindings.typesFile, Bindings.clientFile] := rfl

/-- The files have plain names, with which no path goes up or further down. -/
theorem isName_of_mem_files {bindings : Bindings.Generated} {file : String × String}
    (h : file ∈ bindings.files) : IsName file.1 := by
  have hName : file.1 ∈ [Bindings.typesFile, Bindings.clientFile] :=
    names_files bindings ▸ List.mem_map_of_mem h
  have hNames : ∀ name ∈ [Bindings.typesFile, Bindings.clientFile], IsName name := by decide
  exact hNames file.1 hName

/-- The modules go by different names, so without links no later one takes the place of an earlier one. -/
theorem Writes.holds_of_apart (hDisk : disk.Lawful view) (hApart : view.Apart) {directory : String}
    {bindings : Bindings.Generated} {written : List (String × String)} {s t : σ}
    (h : Writes disk directory written s t) (hOrder : written <+: bindings.files) :
    ∀ file ∈ written, ∃ place, view.locate? t (fileAt directory file) = some place ∧
      view.entry? t place = some (.file file.2.toUTF8) := by
  have hNames : (bindings.files.map Prod.fst).Nodup := by
    rw [names_files]
    decide
  intro file hFile
  obtain ⟨earlier, later, rfl⟩ := List.append_of_mem hFile
  obtain ⟨place, hLocated, hHolds⟩ := h.holds hDisk
  refine ⟨place, hLocated, hHolds fun other hOther => ?_⟩
  have hMem : other ∈ bindings.files := hOrder.subset (by simp [hOther])
  have hLater := (hOrder.sublist.map Prod.fst).nodup hNames
  -- the names are in the order of the modules, so a later file has another name
  rw [List.map_append, List.map_cons] at hLater
  have hNotMem := (List.nodup_cons.mp (List.nodup_append.mp hLater).2.1).1
  have hNe : file.1 ≠ other.1 := fun hSame => hNotMem (hSame ▸ List.mem_map_of_mem hOther)
  exact hApart t directory file.1 other.1 (isName_of_mem_files (hOrder.subset hFile))
    (isName_of_mem_files hMem) hNe place hLocated

/-! ## What is left -/

/-- What is left of writing `bindings` into a directory if it comes as far as `written`. -/
structure Leaves (disk : Disk (StateM σ)) (view : View σ ι) (directory : String)
    (bindings : Bindings.Generated) (written : List (String × String)) (before after : σ) : Prop where
  inOrder : written <+: bindings.files
  /-- The directories are made, as far as they can be, and then the files are written one by one. -/
  steps : Writes disk directory written ((disk.makeDirs directory).run before).2 after
  /-- Nothing keeps a file from being written but the disk. -/
  refused : written ≠ bindings.files →
    (∃ e, ((disk.makeDirs directory).run before).1 = .error e) ∨
      RefusesNext disk directory bindings.files written after
  /-- Any place holds what it held, or a new directory on the path, or it is that of a file written. -/
  frame : ∀ place, view.entry? after place = view.entry? before place ∨
    (view.entry? before place = none ∧ view.entry? after place = some .directory ∧
      ∃ path ∈ (Path.ofText directory).ancestors, view.locate? after path = some place) ∨
    ∃ file ∈ written, view.locate? after (fileAt directory file) = some place
  /-- Each file written holds its text. -/
  holds : view.Apart → ∀ file ∈ written, ∃ place,
    view.locate? after (fileAt directory file) = some place ∧
      view.entry? after place = some (.file file.2.toUTF8)
  /-- Where there are links, one does if no later one is the same file by another name. -/
  linked : ∀ earlier file later, written = earlier ++ file :: later →
    ∃ place, view.locate? after (fileAt directory file) = some place ∧
      ((∀ other ∈ later, view.locate? after (fileAt directory other) ≠ some place) →
        view.entry? after place = some (.file file.2.toUTF8))

/-- How far writing has come determines what is left. -/
theorem Writes.leaves (hDisk : disk.Lawful view) {directory : String} {bindings : Bindings.Generated}
    {written : List (String × String)} {before after : σ}
    (hWrites : Writes disk directory written ((disk.makeDirs directory).run before).2 after)
    (hOrder : written <+: bindings.files)
    (hRefused : written ≠ bindings.files → (∃ e, ((disk.makeDirs directory).run before).1 = .error e) ∨
      RefusesNext disk directory bindings.files written after) :
    Leaves disk view directory bindings written before after where
  inOrder := hOrder
  steps := hWrites
  refused := hRefused
  -- writing changes places of files alone, so anything else is as making the directories has left it
  frame place := by
    obtain hSame | hFile := hWrites.frame hDisk place
    · obtain hOld | ⟨hNone, hNew, path, hPath, hLocated⟩ := hDisk.makeDirs_adds directory before place
      · exact .inl (hSame.trans hOld)
      · exact .inr (.inl ⟨hNone, hSame.trans hNew, path, hPath, (hWrites.locate?_eq hDisk path).trans hLocated⟩)
    · exact .inr (.inr hFile)
  holds hApart := hWrites.holds_of_apart hDisk hApart hOrder
  linked _ _ _ hWritten := (hWritten ▸ hWrites).holds hDisk

/-- Writing the bindings comes as far as the disk allows, and succeeds if that is all of them. -/
theorem exists_run_writeBindings (hDisk : disk.Lawful view) {options : Options} {manifest : Manifest}
    {bindings : Bindings.Generated} (s : σ)
    (hBindings : Bindings.generate manifest options.clientName options.style = .ok bindings) :
    ∃ result written t, (writeBindings disk options manifest).run.run s = (result, t) ∧
      Leaves disk view options.output bindings written s t ∧
      ((∃ paths, result = .ok paths) ↔ written = bindings.files) := by
  rw [writeBindings, hBindings]
  simp only
  rw [run_lift_bind]
  cases hMade : ((disk.makeDirs options.output).run s).1 with
  | error e =>
    -- directories above the one that could not be made may be there now, but no file is written
    refine ⟨_, [], _, rfl, (Writes.nil _).leaves hDisk List.nil_prefix fun _ => .inl ⟨e, hMade⟩, ?_⟩
    simp [Bindings.Generated.files]
  | ok _ =>
    obtain ⟨result, written, t, hRun, hWrites, hOrder, hAll, hRefused⟩ :=
      exists_run_writeFiles hDisk options.output bindings.files ((disk.makeDirs options.output).run s).2
    exact ⟨result, written, t, hRun, hWrites.leaves hDisk hOrder fun hPart => .inr (hRefused hPart), hAll⟩

/-! ## What a run does -/

/-- What a run with `options` does from the state `before` on: it reports `outcome` and leaves `after`. -/
structure Effects (disk : Disk (StateM σ)) (view : View σ ι) (options : Options) (before : σ)
    (outcome : Outcome) (after : σ) : Prop where
  /-- Checking changes nothing, and the code says whether there is a manifest. -/
  checked : options.validate = true → after = before ∧
    (outcome.code = 0 ↔ ∃ manifest, Loads disk before options.input manifest)
  /-- Without a manifest nothing is changed, and all that is reported is what checking reports. -/
  notLoaded : (¬ ∃ manifest, Loads disk before options.input manifest) →
    outcome.code = 1 ∧ after = before ∧
      ((perform disk { options with validate := true }).run before).1 = outcome
  /-- Without bindings nothing is changed. -/
  notGenerated : options.validate = false → ∀ manifest, Loads disk before options.input manifest →
    ∀ e, Bindings.generate manifest options.clientName options.style = .error e →
      outcome.code = 1 ∧ after = before
  /-- Bindings are written as far as possible, and the code says whether all are. -/
  generated : options.validate = false → ∀ manifest, Loads disk before options.input manifest →
    ∀ bindings, Bindings.generate manifest options.clientName options.style = .ok bindings →
      ∃ written, Leaves disk view options.output bindings written before after ∧
        outcome.code = if written = bindings.files then 0 else 1

/-- What is reported comes from the result of the run alone. -/
theorem run_perform (options : Options) (s : σ) : (perform disk options).run s =
    (.ofResult ((run disk options).run.run s).1, ((run disk options).run.run s).2) := rfl

/-- What is not loaded ends the run. -/
theorem run_of_load_eq_error {options : Options} {e : RunError} {s : σ}
    (h : (loadManifest disk options.input).run.run s = (.error e, s)) :
    (run disk options).run.run s = (.error e, s) := by
  rw [run, run_bind, h]

/-- With a manifest, checking ends with a report on it, and otherwise the bindings are written. -/
theorem run_of_load_eq_ok {options : Options} {manifest : Manifest} {s : σ}
    (h : (loadManifest disk options.input).run.run s = (.ok manifest, s)) :
    (run disk options).run.run s = if options.validate then (.ok (validReport options.json manifest), s)
      else
        match (writeBindings disk options manifest).run.run s with
        | (.ok paths, t) => (.ok (writtenReport options.json manifest paths), t)
        | (.error e, t) => (.error e, t) := by
  rw [run, run_bind, h]
  simp only
  -- with the option to validate nothing is written
  split
  · rfl
  · rw [run_bind]
    rcases (writeBindings disk options manifest).run.run s with ⟨_ | _, _⟩ <;> rfl

/-- Without a manifest there is nothing to choose between checking and writing: both fail alike. -/
theorem effects_of_load_eq_error {options : Options} {e : RunError} {s : σ}
    (hLoad : (loadManifest disk options.input).run.run s = (.error e, s))
    (hNone : ∀ manifest, ¬ Loads disk s options.input manifest) :
    Effects disk view options s ((perform disk options).run s).1 ((perform disk options).run s).2 := by
  -- the same failure is reported when the manifest is only validated
  have hChecking : (run disk { options with validate := true }).run.run s = (.error e, s) :=
    run_of_load_eq_error hLoad
  rw [run_perform, run_of_load_eq_error hLoad]
  exact {
    checked _ := ⟨rfl, by simp [Outcome.ofResult, hNone]⟩
    notLoaded _ := ⟨rfl, rfl, by rw [run_perform, hChecking]⟩
    notGenerated _ manifest hLoads := absurd hLoads (hNone manifest)
    generated _ manifest hLoads := absurd hLoads (hNone manifest) }

/-- With a manifest, the case is settled by whether only to check, and then by whether bindings are
generated. -/
theorem effects_of_load_eq_ok (hDisk : disk.Lawful view) {options : Options} {manifest : Manifest} {s : σ}
    (hLoad : (loadManifest disk options.input).run.run s = (.ok manifest, s))
    (hOne : ∀ other, Loads disk s options.input other ↔ other = manifest) :
    Effects disk view options s ((perform disk options).run s).1 ((perform disk options).run s).2 := by
  have hLoads : ∃ other, Loads disk s options.input other := ⟨manifest, (hOne manifest).mpr rfl⟩
  rw [run_perform, run_of_load_eq_ok hLoad]
  cases hValidate : options.validate with
  | true =>
    exact {
      checked _ := ⟨rfl, iff_of_true rfl hLoads⟩
      notLoaded hNone := absurd hLoads hNone
      notGenerated := by simp [hValidate]
      generated := by simp [hValidate] }
  | false =>
    simp only [Bool.false_eq_true, if_false]
    -- there is one manifest to speak of, the one that has been loaded
    refine ⟨by simp [hValidate], fun hNone => absurd hLoads hNone, fun _ other hOther e hFailed => ?_,
      fun _ other hOther bindings hBindings => ?_⟩
    · cases (hOne other).mp hOther
      rw [writeBindings, hFailed]
      exact ⟨rfl, rfl⟩
    · cases (hOne other).mp hOther
      obtain ⟨result, written, t, hRun, hLeaves, hAll⟩ := exists_run_writeBindings hDisk s hBindings
      rw [hRun]
      cases result with
      | error e =>
        have hPart : written ≠ bindings.files := fun hWritten => by simpa using hAll.mpr hWritten
        exact ⟨written, hLeaves, (if_neg hPart).symm⟩
      | ok paths => exact ⟨written, hLeaves, (if_pos (hAll.mp ⟨paths, rfl⟩)).symm⟩

/-- Options in hand, the effects follow from how loading has ended. -/
theorem perform_effects (hDisk : disk.Lawful view) (options : Options) (s : σ) :
    Effects disk view options s ((perform disk options).run s).1 ((perform disk options).run s).2 := by
  obtain ⟨loaded, hLoad, hLoads⟩ := exists_run_loadManifest hDisk options.input s
  cases loaded with
  | error e => exact effects_of_load_eq_error hLoad fun manifest => by simp [← hLoads]
  | ok manifest => exact effects_of_load_eq_ok hDisk hLoad fun other => by simp [← hLoads, eq_comm]

end Runs

/-- A tree with a directory in the place of the second module. -/
def blockedTree : FileTree where
  entries := [
    (["abi.json"], .file
      "\x7b\"schema_version\":\"wasm-abi/1\",\"types\":\x7b\x7d,\"methods\":[],\"events\":[]\x7d".toUTF8),
    (["out", "client.ts"], .directory),
    (["out"], .directory)]
  here := []

end AbiBindings.CommandLine
