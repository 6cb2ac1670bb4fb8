import AbiBindings.Proofs.TypeScript.MethodReading

/-!
# TypeScript — reading modules back

The names that a module binds are those of its imports and of its declarations, as far as these do not
stand inside of others. Both are read back from the lines of code of a module.

* `topLines` — the lines that stand outside of all braces; `Inner` lines do not;
* `moduleImports`, `boundNames` — what is imported, and all names that are bound;
* `readImport_text`, `Declares` — what is read from an import, and from a declaration.
-/

namespace AbiBindings.TypeScript

/-! ## Lines outside of braces -/

/-- Whether a brace is opened at the end of a line. -/
def opens (line : String) : Bool := line.toList.getLast? == some '{'

/-- The lines that stand outside of all braces, where as many are open as given. -/
def topLines : Nat → List String → List String
  | _, [] => []
  | 0, line :: rest => line :: topLines (if opens line then 1 else 0) rest
  | depth + 1, line :: rest =>
    topLines (if line = "\x7d" then depth else if opens line then depth + 2 else depth + 1) rest

/-- Lines that open no brace but those that they close. -/
def Inner (lines : List String) : Prop :=
  ∀ depth rest, topLines (depth + 1) (lines ++ rest) = topLines (depth + 1) rest

section Inner

variable {lines others : List String} {line header text : String}

theorem inner_nil : Inner [] := fun _ _ => rfl

theorem Inner.append (h : Inner lines) (hOthers : Inner others) : Inner (lines ++ others) := by
  intro depth rest
  rw [List.append_assoc, h, hOthers]

/-- Text before a text that is there changes nothing at the end of a line. -/
theorem getLast?_append {fixed : String} {last : Char} (hFixed : fixed.toList.getLast? = some last)
    (text : String) : (text ++ fixed).toList.getLast? = some last := by
  rw [String.toList_append, List.getLast?_append, hFixed]
  rfl

theorem opens_header (header : String) : opens (header ++ " \x7b") = true :=
  beq_iff_eq.mpr (getLast?_append rfl header)

theorem opens_eq_false {last : Char} (hLast : line.toList.getLast? = some last) (h : last ≠ '{') :
    opens line = false := by
  rw [opens, hLast, beq_eq_false_iff_ne]
  exact fun hEq => h (Option.some.inj hEq)

/-- A line that has nothing to do with braces around it. -/
theorem inner_line (hOpens : opens line = false) (hBrace : line ≠ "\x7d") : Inner [line] := by
  intro depth rest
  rw [List.singleton_append, topLines, if_neg hBrace, hOpens, if_neg Bool.false_ne_true]

/-- A line that does not end in a brace. -/
theorem inner_last {last : Char} (hLast : line.toList.getLast? = some last) (hOpen : last ≠ '{')
    (hClose : last ≠ '}') : Inner [line] := by
  refine inner_line (opens_eq_false hLast hOpen) ?_
  rintro rfl
  exact hClose (Option.some.inj hLast).symm

/-- A line that opens a brace is no closing one. -/
theorem opens_ne_brace (h : opens header = true) : header ≠ "\x7d" := by
  rintro rfl
  exact absurd h (by decide)

/-- Lines inside of braces. -/
theorem Inner.block (hOpens : opens header = true) (h : Inner lines) :
    Inner (header :: (lines ++ ["\x7d"])) := by
  intro depth rest
  -- the header opens a brace, the lines are inner, and the last line closes it
  rw [List.cons_append, topLines, if_neg (opens_ne_brace hOpens), if_pos hOpens, List.append_assoc,
    h (depth + 1)]
  rfl

/-- Of a block outside of braces, its first line stands outside of braces. -/
theorem Inner.topLines_block (hOpens : opens header = true) (h : Inner lines) (rest : List String) :
    topLines 0 (header :: (lines ++ ["\x7d"] ++ rest)) = header :: topLines 0 rest := by
  rw [topLines, if_pos hOpens, List.append_assoc, h 0]
  rfl

theorem topLines_line (hOpens : opens line = false) (rest : List String) :
    topLines 0 (line :: rest) = line :: topLines 0 rest := by
  rw [topLines, hOpens, if_neg Bool.false_ne_true]

/-- Lines that open no brace are outside of braces all of them. -/
theorem topLines_lines (h : ∀ line ∈ lines, opens line = false) (rest : List String) :
    topLines 0 (lines ++ rest) = lines ++ topLines 0 rest := by
  induction lines with
  | nil => rfl
  | cons line lines ih =>
    obtain ⟨hFirst, hOthers⟩ := List.forall_mem_cons.mp h
    rw [List.cons_append, topLines_line hFirst, ih hOthers, List.cons_append]

end Inner

/-! ## Imports and declarations -/

/-- Read where declarations come from: the one module there is beside this one. -/
def readOrigin : Reader Unit := do
  expect " from "
  let origin ← readLiteral
  if origin = typesModule then expect ";" else failure

/-- Read a line that brings declarations into a module or passes them on. -/
def readImport : Reader Import := do
  if ← accept "import type \x7b " then
    let names ← readList ", " readIdentifier
    expect " \x7d"
    readOrigin
    return .types names
  else if ← accept "import * as " then
    let name ← readIdentifier
    readOrigin
    return .wildcard name
  else
    expect "export *"
    readOrigin
    return .passOn

/-- Whether a line is there for an import. -/
def isImport (line : String) : Bool :=
  "import ".toList.isPrefixOf line.toList || "export *".toList.isPrefixOf line.toList

/-- The imports of a module. -/
def moduleImports (lines : List String) : Option (List Import) :=
  ((topLines 0 lines).filter isImport).mapM (readWhole readImport)

/-- The names that an import binds. What is passed on is not bound. -/
def Import.bound : Import → List String
  | .passOn => []
  | .wildcard name => [name]
  | .types names => names

/-- The words that begin a declaration. -/
def declarationWords : List String :=
  ["interface ", "type ", "class ", "function ", "const ", "let ", "var ", "enum ", "namespace "]

/-- Take one of several texts if it is there. -/
def acceptAny : List String → Reader Bool
  | [] => return false
  | fixed :: rest => do if ← accept fixed then return true else acceptAny rest

/-- Read the name that a line declares, if it declares one. -/
def readDeclared : Reader (List String) := do
  if ← acceptAny declarationWords then return [← readIdentifier] else return []

/-- Read the name that a line declares, for the module alone or for others too. -/
def readDeclaration : Reader (List String) := do
  let _ ← accept "export "
  readDeclared

/-- The names that a line declares. -/
def declaredIn (line : String) : Option (List String) :=
  (readDeclaration line.toList).map (·.1)

/-- The names that a module binds: those of its imports, then those of its declarations. -/
def boundNames (lines : List String) : Option (List String) := do
  let imports ← moduleImports lines
  let declared ← ((topLines 0 lines).filter (!isImport ·)).mapM declaredIn
  return imports.flatMap Import.bound ++ declared.flatten

/-! ### What is read from imports -/

section Imports

/-- An import whose names can be told from what is around them. -/
def Import.Readable : Import → Prop
  | .passOn => True
  | .wildcard name => isIdentifier name = true
  | .types names => names ≠ [] ∧ ∀ name ∈ names, isIdentifier name = true

variable {imported : Import}

/-- Where declarations come from is read up to the end of the line. -/
theorem readOrigin_append (rest : List Char) :
    readOrigin (" from ".toList ++ ((stringLiteral typesModule).toList ++ (";".toList ++ rest)))
      = some ((), rest) := by
  rw [readOrigin, Reader.bind_eq (expect_append " from " _), Reader.bind_eq (readLiteral_append _ _),
    if_pos rfl, expect_append]

/-- Of two texts that begin with different characters, none begins with the other. -/
theorem not_prefix_of_head {a b : String} {c d : Char} (ha : a.toList.head? = some c)
    (hb : b.toList.head? = some d) (h : c ≠ d) (more : List Char) : ¬ a.toList <+: b.toList ++ more := by
  rintro ⟨behind, hBehind⟩
  have hHead := congrArg List.head? hBehind
  rw [List.head?_append, ha, List.head?_append, hb] at hHead
  exact h (Option.some.inj hHead)

/-- Words for imports that begin alike differ behind the first word. -/
theorem not_prefix_importType (more : List Char) :
    ¬ "import type \x7b ".toList <+: "import * as ".toList ++ more := by
  -- behind "import " the one goes on with a letter, the other with a star
  have hFirst : "import type \x7b ".toList = "import ".toList ++ "type \x7b ".toList := rfl
  have hSecond : "import * as ".toList = "import ".toList ++ "* as ".toList := rfl
  rw [hFirst, hSecond, List.append_assoc, List.prefix_append_right_inj]
  exact not_prefix_of_head rfl rfl (by decide) more

/-- **Imports.** An import is read as it was written. -/
theorem readImport_text (h : imported.Readable) : readWhole readImport imported.text = some imported := by
  -- of the three words an import begins with, the others are tried before it
  apply readWhole_eq
  -- in each case the text is split into its tokens, which are then read one by one
  cases imported with
  | passOn =>
    have hText : Import.passOn.text.toList = "export *".toList ++ (" from ".toList
        ++ ((stringLiteral typesModule).toList ++ (";".toList ++ []))) := by
      have hOpen : "export * from ".toList = "export *".toList ++ " from ".toList := rfl
      unfold Import.text
      simp only [String.toList_append, List.append_assoc, List.append_nil, hOpen]
    rw [hText, readImport,
      Reader.bind_eq (accept_eq_false (not_prefix_of_head rfl rfl (by decide) _)),
      if_neg Bool.false_ne_true,
      Reader.bind_eq (accept_eq_false (not_prefix_of_head rfl rfl (by decide) _)),
      if_neg Bool.false_ne_true, Reader.bind_eq (expect_append "export *" _),
      Reader.bind_eq (readOrigin_append [])]
    rfl
  | wildcard name =>
    have hText : (Import.wildcard name).text.toList = "import * as ".toList ++ (name.toList
        ++ (" from ".toList ++ ((stringLiteral typesModule).toList ++ (";".toList ++ [])))) := by
      unfold Import.text
      simp only [String.toList_append, List.append_assoc, List.append_nil]
    rw [hText, readImport, Reader.bind_eq (accept_eq_false (not_prefix_importType _)),
      if_neg Bool.false_ne_true, Reader.bind_eq (accept_append "import * as " _), if_pos rfl,
      Reader.bind_eq (readIdentifier_append h (stops_text rfl rfl _)),
      Reader.bind_eq (readOrigin_append [])]
    rfl
  | types names =>
    obtain ⟨hSome, hNames⟩ := h
    have hItems : List.Forall₂ (ReadAs readIdentifier (Stops isIdentPart)) names names := by
      rw [List.forall₂_same]
      exact fun name hName _ hRest => readIdentifier_append (hNames name hName) hRest
    have hClose : " \x7d from ".toList = " \x7d".toList ++ " from ".toList := rfl
    have hText : (Import.types names).text.toList = "import type \x7b ".toList
        ++ ((", ".intercalate names).toList ++ (" \x7d".toList ++ (" from ".toList
          ++ ((stringLiteral typesModule).toList ++ (";".toList ++ []))))) := by
      unfold Import.text
      simp only [String.toList_append, List.append_assoc, List.append_nil, hClose]
    -- what is behind the names is a brace and no comma, so the list ends there
    have hList := fun more => @readList_append _ ", " _ _ _ _ (" \x7d".toList ++ more) hItems hSome
      (by decide) (fun _ => stops_text rfl rfl _) (stops_text rfl rfl _)
      (not_prefix_of_head rfl rfl (by decide) _)
    rw [hText, readImport, Reader.bind_eq (accept_append "import type \x7b " _), if_pos rfl,
      Reader.bind_eq (hList _), Reader.bind_eq (expect_append " \x7d" _),
      Reader.bind_eq (readOrigin_append [])]
    rfl

/-- The line of an import looks like one. -/
theorem isImport_text (imported : Import) : isImport imported.text = true := by
  rw [isImport, Bool.or_eq_true, List.isPrefixOf_iff_prefix, List.isPrefixOf_iff_prefix]
  unfold Import.text
  cases imported with
  | passOn =>
    refine Or.inr ⟨" from ".toList ++ ((stringLiteral typesModule).toList ++ ";".toList), ?_⟩
    simp only [String.toList_append, List.append_assoc]
    rfl
  | wildcard name =>
    refine Or.inl ⟨"* as ".toList ++ (name.toList ++ (" from ".toList
      ++ ((stringLiteral typesModule).toList ++ ";".toList))), ?_⟩
    simp only [String.toList_append, List.append_assoc]
    rfl
  | types names =>
    refine Or.inl ⟨"type \x7b ".toList ++ ((", ".intercalate names).toList ++ (" \x7d from ".toList
      ++ ((stringLiteral typesModule).toList ++ ";".toList))), ?_⟩
    simp only [String.toList_append, List.append_assoc]
    rfl

/-- It opens no brace: it ends in a semicolon. -/
theorem opens_importText (imported : Import) : opens imported.text = false := by
  cases imported <;> exact opens_eq_false (getLast?_append rfl _) (by decide)

/-- It is a line of code, with identifiers for names and a literal for the module. -/
theorem codeLine_importText (h : imported.Readable) : CodeLine imported.text := by
  have hOrigin : Verbatim (stringLiteral typesModule) := verbatim_stringLiteral typesModule
  cases imported with
  | passOn =>
    have hOpen : CodeLine "export * from " := codeLine_literal (by decide) rfl
    exact (hOpen.append hOrigin).append (verbatim_literal rfl)
  | wildcard name =>
    have hOpen : CodeLine "import * as " := codeLine_literal (by decide) rfl
    have hName := (hOpen.append (verbatim_of_isIdentifier h)).append (verbatim_literal rfl : Verbatim " from ")
    exact (hName.append hOrigin).append (verbatim_literal rfl)
  | types names =>
    have hOpen : CodeLine "import type \x7b " := codeLine_literal (by decide) rfl
    have hNames : Verbatim (", ".intercalate names) :=
      verbatim_intercalate (verbatim_literal rfl) fun name hName => verbatim_of_isIdentifier (h.2 name hName)
    have hClose := (hOpen.append hNames).append (verbatim_literal rfl : Verbatim " \x7d from ")
    exact (hClose.append hOrigin).append (verbatim_literal rfl)

/-- It starts no method. -/
theorem startsMethod_importText (imported : Import) : startsMethod imported.text = false := by
  unfold Import.text
  cases imported <;>
    · simp only [String.append_assoc]
      exact startsMethod_eq_false rfl (by decide) _

end Imports

/-! ### What is read from declarations -/

section Declarations

variable {before after words names : List String} {word name line : String} {text rest : List Char}

/-- A word is found among others if none of those before it is there instead. -/
theorem acceptAny_append (hBefore : ∀ other ∈ before, ¬ other.toList <+: word.toList ++ rest) :
    acceptAny (before ++ word :: after) (word.toList ++ rest) = some (true, rest) := by
  induction before with
  | nil =>
    rw [List.nil_append, acceptAny, Reader.bind_eq (accept_append word rest), if_pos rfl]
    rfl
  | cons other before ih =>
    obtain ⟨hFirst, hOthers⟩ := List.forall_mem_cons.mp hBefore
    rw [List.cons_append, acceptAny, Reader.bind_eq (accept_eq_false hFirst), if_neg Bool.false_ne_true,
      ih hOthers]

/-- No word is found if none is there. -/
theorem acceptAny_eq_false (h : ∀ word ∈ words, ¬ word.toList <+: text) :
    acceptAny words text = some (false, text) := by
  induction words with
  | nil => rfl
  | cons word words ih =>
    obtain ⟨hFirst, hOthers⟩ := List.forall_mem_cons.mp h
    rw [acceptAny, Reader.bind_eq (accept_eq_false hFirst), if_neg Bool.false_ne_true, ih hOthers]

/-- A line that is no import and declares these names. -/
structure Declares (line : String) (names : List String) : Prop where
  notImport : isImport line = false
  names : declaredIn line = some names

/-- The name behind a word that begins a declaration is read up to what ends it. -/
theorem readDeclared_append (hWords : declarationWords = before ++ word :: after)
    (hBefore : ∀ other ∈ before, ¬ other.toList <+: word.toList ++ (name.toList ++ rest))
    (hName : isIdentifier name = true) (hRest : Stops isIdentPart rest) :
    readDeclared (word.toList ++ (name.toList ++ rest)) = some ([name], rest) := by
  rw [readDeclared, hWords, Reader.bind_eq (acceptAny_append hBefore), if_pos rfl,
    Reader.bind_eq (readIdentifier_append hName hRest)]
  rfl

/-- A declaration that is passed on. -/
theorem declares_export {behind : String} (hWords : declarationWords = before ++ word :: after)
    (hBefore : ∀ other ∈ before, ∀ more, ¬ other.toList <+: word.toList ++ more)
    (hStar : ∀ more, ¬ "*".toList <+: word.toList ++ more) (hName : isIdentifier name = true)
    (hBehind : Stops isIdentPart behind.toList) : Declares ("export " ++ word ++ name ++ behind) [name] := by
  have hText : ("export " ++ word ++ name ++ behind).toList
      = "export ".toList ++ (word.toList ++ (name.toList ++ behind.toList)) := by
    simp only [String.toList_append, List.append_assoc]
  constructor
  -- a declaration has a word where an import that is passed on has a star
  · have hExport : "export *".toList = "export ".toList ++ "*".toList := rfl
    rw [isImport, Bool.or_eq_false_iff, Bool.eq_false_iff, Bool.eq_false_iff, ne_eq, ne_eq,
      List.isPrefixOf_iff_prefix, List.isPrefixOf_iff_prefix, hText, hExport,
      List.prefix_append_right_inj]
    exact ⟨not_prefix_of_head rfl rfl (by decide) _, hStar _⟩
  -- behind `export` there is the word, and behind that the name
  · rw [declaredIn, hText, readDeclaration, Reader.bind_eq (accept_append "export " _),
      readDeclared_append hWords (fun other hOther => hBefore other hOther _) hName hBehind]
    rfl

/-- A line that begins with something other than a letter. -/
theorem declares_nothing (h : Stops Char.isAlpha line.toList) : Declares line [] := by
  -- all words that begin an import or a declaration begin with a letter
  have hWord : ∀ word : String, (∃ c, word.toList.head? = some c ∧ c.isAlpha = true) →
      ¬ word.toList <+: line.toList := by
    rintro word ⟨c, hHead, hAlpha⟩
    obtain ⟨others, hChars⟩ := List.head?_eq_some_iff.mp hHead
    exact not_prefix_of_stops hChars hAlpha h
  have hWords : ∀ word ∈ declarationWords, ¬ word.toList <+: line.toList := by
    intro word hMem
    refine hWord word ?_
    revert word
    simp only [declarationWords, List.forall_mem_cons, List.not_mem_nil, IsEmpty.forall_iff, implies_true,
      and_true]
    exact ⟨⟨_, rfl, rfl⟩, ⟨_, rfl, rfl⟩, ⟨_, rfl, rfl⟩, ⟨_, rfl, rfl⟩, ⟨_, rfl, rfl⟩, ⟨_, rfl, rfl⟩,
      ⟨_, rfl, rfl⟩, ⟨_, rfl, rfl⟩, ⟨_, rfl, rfl⟩⟩
  constructor
  · rw [isImport, Bool.or_eq_false_iff, Bool.eq_false_iff, Bool.eq_false_iff, ne_eq, ne_eq,
      List.isPrefixOf_iff_prefix, List.isPrefixOf_iff_prefix]
    exact ⟨hWord _ ⟨_, rfl, rfl⟩, hWord _ ⟨_, rfl, rfl⟩⟩
  · rw [declaredIn, readDeclaration, Reader.bind_eq (accept_eq_false (hWord _ ⟨_, rfl, rfl⟩)),
      readDeclared, Reader.bind_eq (acceptAny_eq_false hWords), if_neg Bool.false_ne_true]
    rfl

theorem Declares.export_interface (hName : isIdentifier name = true) {behind : String}
    (hBehind : Stops isIdentPart behind.toList) :
    Declares ("export interface " ++ name ++ behind) [name] := by
  have hWords : declarationWords = [] ++ "interface " :: _ := rfl
  exact declares_export hWords (by simp) (not_prefix_of_head rfl rfl (by decide)) hName hBehind

theorem Declares.export_type (hName : isIdentifier name = true) {behind : String}
    (hBehind : Stops isIdentPart behind.toList) : Declares ("export type " ++ name ++ behind) [name] := by
  have hWords : declarationWords = ["interface "] ++ "type " :: _ := rfl
  refine declares_export hWords (List.forall_mem_singleton.mpr ?_)
    (not_prefix_of_head rfl rfl (by decide)) hName hBehind
  exact not_prefix_of_head rfl rfl (by decide)

theorem Declares.export_class (hName : isIdentifier name = true) {behind : String}
    (hBehind : Stops isIdentPart behind.toList) : Declares ("export class " ++ name ++ behind) [name] := by
  have hWords : declarationWords = ["interface ", "type "] ++ "class " :: _ := rfl
  refine declares_export hWords (List.forall_mem_cons.mpr ⟨?_, List.forall_mem_singleton.mpr ?_⟩)
    (not_prefix_of_head rfl rfl (by decide)) hName hBehind
  · exact not_prefix_of_head rfl rfl (by decide)
  · exact not_prefix_of_head rfl rfl (by decide)

end Declarations

end AbiBindings.TypeScript
