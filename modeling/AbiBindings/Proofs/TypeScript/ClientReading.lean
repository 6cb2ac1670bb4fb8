import AbiBindings.Proofs.Success
import AbiBindings.Proofs.TypeScript.ModuleReading

/-!
# TypeScript — reading clients back

A client module is its imports, a description of the function that performs calls, and the class. The
parts in the middle are always the same; what is read from them is worked out once.

* `Enclosed`, `Outlined` — fixed steps with the lines of code that they come to;
* `ClientModule.Readable.exists_lines` — the lines of code of a client module;
* `Reads.moduleImports`, `Reads.boundNames` — what it imports, and what it binds.
-/

namespace AbiBindings.TypeScript

open Layout (Step)

/-! ## Fixed parts of modules -/

/-- Steps that come to lines of code among which no method begins, with braces that match. -/
structure Enclosed (steps : List Step) (lines : List String) : Prop where
  shows : Shows steps lines
  noMethod : ∀ line ∈ lines, startsMethod line = false
  inner : Inner lines

/-- The same outside of braces, where some of the lines stand outside of all braces. -/
structure Outlined (steps : List Step) (lines tops : List String) : Prop where
  shows : Shows steps lines
  noMethod : ∀ line ∈ lines, startsMethod line = false
  topLines : ∀ rest, topLines 0 (lines ++ rest) = tops ++ topLines 0 rest

/-- Whether a fixed line is a line of code, with no method that begins and no brace at its end. -/
def isPlain (chars : List Char) : Bool :=
  verbatim .code chars && chars.head?.any (fun c => c != ' ' && c != 'a') && chars != ['}']
    && chars.getLast? != some '{'

section Fixed

variable {step : Step} {steps others : List Step} {lines more tops moreTops : List String} {chars : List Char}

theorem codeLine_plain (h : isPlain chars = true) : CodeLine (String.ofList chars) := by
  simp only [isPlain, Bool.and_eq_true, Option.any_eq_true] at h
  obtain ⟨⟨⟨hVerbatim, first, hFirst, hBlank, -⟩, -⟩, -⟩ := h
  refine ⟨verbatim_literal hVerbatim, first, ?_, bne_iff_ne.mp hBlank⟩
  rw [String.toList_ofList, hFirst]

/-- The first line of a block in which no method begins. -/
structure Heads (header : String) : Prop where
  codeLine : CodeLine header
  noMethod : ∀ more, startsMethod (header ++ more) = false

theorem heads_plain (h : isPlain chars = true) : Heads (String.ofList chars) := by
  refine ⟨codeLine_plain h, ?_⟩
  simp only [isPlain, Bool.and_eq_true, Option.any_eq_true] at h
  obtain ⟨⟨⟨-, first, hFirst, -, hMethod⟩, -⟩, -⟩ := h
  obtain ⟨others, hChars⟩ := List.head?_eq_some_iff.mp hFirst
  exact startsMethod_eq_false (by rw [String.toList_ofList, hChars]) (bne_iff_ne.mp hMethod)

/-- What is behind the beginning of a header does not matter, as long as it is verbatim. -/
theorem Heads.append {header text : String} (h : Heads header) (hText : Verbatim text) :
    Heads (header ++ text) where
  codeLine := h.codeLine.append hText
  noMethod more := by
    rw [String.append_assoc]
    exact h.noMethod _

/-- A plain line does not end in a brace, so it opens none. -/
theorem opens_plain (h : isPlain chars = true) : opens (String.ofList chars) = false := by
  rw [isPlain, Bool.and_eq_true] at h
  rw [opens, String.toList_ofList, beq_eq_false_iff_ne]
  exact bne_iff_ne.mp h.2

theorem plain_ne_brace (h : isPlain chars = true) : String.ofList chars ≠ "\x7d" := by
  simp only [isPlain, Bool.and_eq_true, bne_iff_ne] at h
  intro hEq
  have hChars := congrArg String.toList hEq
  rw [String.toList_ofList] at hChars
  exact h.1.2 hChars

/-- A fixed line inside of braces. -/
theorem enclosed_line (h : isPlain chars = true) :
    Enclosed [.line (String.ofList chars)] [String.ofList chars] where
  shows := shows_singleton (showsStep_line (codeLine_plain h))
  noMethod := by
    have hLine := (heads_plain h).noMethod ""
    rw [String.append_empty] at hLine
    exact List.forall_mem_singleton.mpr hLine
  inner := inner_line (opens_plain h) (plain_ne_brace h)

theorem Enclosed.cons (h : Enclosed [step] lines) (hOthers : Enclosed others more) :
    Enclosed (step :: others) (lines ++ more) :=
  ⟨h.shows.append hOthers.shows, List.forall_mem_append.mpr ⟨h.noMethod, hOthers.noMethod⟩,
    h.inner.append hOthers.inner⟩

theorem enclosed_blank : Enclosed [.blank] [] :=
  ⟨shows_singleton showsStep_blank, by simp, inner_nil⟩

/-- The lines of a block of enclosed steps. -/
theorem Enclosed.noMethod_block {header : String} (hHeader : Heads header) (h : Enclosed steps lines) :
    ∀ line ∈ (header ++ " \x7b") :: (lines ++ ["\x7d"]), startsMethod line = false := by
  refine List.forall_mem_cons.mpr ⟨hHeader.noMethod _, List.forall_mem_append.mpr ⟨h.noMethod, ?_⟩⟩
  exact List.forall_mem_singleton.mpr rfl

theorem Enclosed.block {header : String} (hHeader : Heads header) (h : Enclosed steps lines) :
    Enclosed [.block header steps] ((header ++ " \x7b") :: (lines ++ ["\x7d"])) :=
  ⟨shows_singleton (showsStep_block hHeader.codeLine h.shows), h.noMethod_block hHeader,
    h.inner.block (opens_header _)⟩

theorem Enclosed.nested (h : Enclosed steps lines) : Enclosed [.nested steps] lines :=
  ⟨shows_singleton (showsStep_nested h.shows), h.noMethod, h.inner⟩

/-- Outside of braces, the first line of a block is seen and nothing else of it. -/
theorem Enclosed.outlined_block {header : String} (hHeader : Heads header) (h : Enclosed steps lines) :
    Outlined [.block header steps] ((header ++ " \x7b") :: (lines ++ ["\x7d"])) [header ++ " \x7b"] where
  shows := shows_singleton (showsStep_block hHeader.codeLine h.shows)
  noMethod := h.noMethod_block hHeader
  topLines rest := h.inner.topLines_block (opens_header _) rest

/-- Outside of braces, parts are read one after the other. -/
theorem Outlined.append (h : Outlined steps lines tops) (hOthers : Outlined others more moreTops) :
    Outlined (steps ++ others) (lines ++ more) (tops ++ moreTops) where
  shows := h.shows.append hOthers.shows
  noMethod := List.forall_mem_append.mpr ⟨h.noMethod, hOthers.noMethod⟩
  topLines rest := by rw [List.append_assoc, h.topLines, hOthers.topLines, List.append_assoc]

theorem Outlined.cons (h : Outlined [step] lines tops) (hOthers : Outlined others more moreTops) :
    Outlined (step :: others) (lines ++ more) (tops ++ moreTops) :=
  Outlined.append h hOthers

/-- Outside of braces, a fixed line is seen. -/
theorem outlined_line (h : isPlain chars = true) :
    Outlined [.line (String.ofList chars)] [String.ofList chars] [String.ofList chars] where
  shows := (enclosed_line h).shows
  noMethod := (enclosed_line h).noMethod
  topLines rest := topLines_line (opens_plain h) rest

theorem Outlined.nested (h : Outlined steps lines tops) : Outlined [.nested steps] lines tops :=
  ⟨shows_singleton (showsStep_nested h.shows), h.noMethod, h.topLines⟩

theorem outlined_blank : Outlined [.blank] [] [] :=
  ⟨shows_singleton showsStep_blank, by simp, fun _ => rfl⟩

/-- A line that is a comment. -/
theorem outlined_comment {inner : List Char} (h : endsComment .blockComment inner = true) :
    Outlined [.line (String.ofList ('/' :: '*' :: inner))] [] [] := by
  -- the line is there in the text, as a comment, but it comes to no line of code
  have hSome : String.ofList ('/' :: '*' :: inner) ≠ "" := by
    intro hEmpty
    have hChars := congrArg String.toList hEmpty
    rw [String.toList_ofList] at hChars
    exact absurd hChars (List.cons_ne_nil _ _)
  exact ⟨shows_singleton (showsStep_comment (comment_literal h) hSome), by simp, fun _ => rfl⟩

/-- What stands outside of braces where the function that performs calls is described. -/
def transportTops : List String := [
  "export interface AbiCallFailure" ++ " \x7b",
  "export type AbiCallResult =",
  "| \x7b ok: true; value: unknown \x7d",
  "| \x7b ok: false; error: AbiCallFailure \x7d;",
  "export type AbiCall = (method: string, args: unknown[]) => Promise<AbiCallResult>;",
  "export class AbiMethodError<E extends \x7b code: string \x7d> extends Error" ++ " \x7b"]

/-- The lines of code of the fixed description, whatever they are: outside of braces one sees these. -/
theorem exists_outlined_transport : ∃ lines, Outlined transportSteps lines transportTops := by
  -- what is inside of braces first, then the parts that stand outside
  have hFailure : Enclosed [
      .line "code?: string;",
      .line "message: string;",
      .line "payload?: unknown;"] _ :=
    .cons (enclosed_line rfl) (.cons (enclosed_line rfl) (enclosed_line rfl))
  have hArms : Outlined [
      .line "| \x7b ok: true; value: unknown \x7d",
      .line "| \x7b ok: false; error: AbiCallFailure \x7d;"] _ _ :=
    .cons (outlined_line rfl) (outlined_line rfl)
  -- the class has one block inside of another
  have hConstructor : Enclosed [
      .line "super(message);",
      .line "this.name = \"AbiMethodError\";",
      .line "this.method = method;",
      .line "this.error = error;"] _ :=
    .cons (enclosed_line rfl) (.cons (enclosed_line rfl) (.cons (enclosed_line rfl) (enclosed_line rfl)))
  have hClass : Enclosed [
      .line "readonly method: string;",
      .line "readonly error: E;",
      .blank,
      .block "constructor(method: string, error: E, message: string)" _] _ :=
    .cons (enclosed_line rfl) (.cons (enclosed_line rfl) (.cons enclosed_blank (hConstructor.block (heads_plain rfl))))
  have hResult : Outlined [.line "export type AbiCallResult =", .nested _, .blank] _ _ :=
    .cons (outlined_line rfl) (.cons hArms.nested outlined_blank)
  have hCall : Outlined [
      .line "/** Transport primitive: invoke `method` with positional `args`. */",
      .line "export type AbiCall = (method: string, args: unknown[]) => Promise<AbiCallResult>;",
      .blank] _ _ :=
    .cons (outlined_comment rfl) (.cons (outlined_line rfl) outlined_blank)
  have hError : Outlined [
      .line "/** Thrown when a method fails with one of its declared error codes. */",
      .block "export class AbiMethodError<E extends \x7b code: string \x7d> extends Error" _] _ _ :=
    .cons (outlined_comment rfl) (hClass.outlined_block (heads_plain rfl))
  have hCallFailure : Outlined [
      .line "/** A failed call as reported by the transport. */",
      .block "export interface AbiCallFailure" _,
      .blank] _ _ :=
    .cons (outlined_comment rfl) (.cons (hFailure.outlined_block (heads_plain rfl)) outlined_blank)
  exact ⟨_, ((hCallFailure.append hResult).append hCall).append hError⟩

/-- The function that makes exceptions, as it stands outside of braces. -/
def failureHelperTop : String :=
  "function methodError<E extends \x7b code: string \x7d>(method: string, "
      ++ "failure: AbiCallFailure): AbiMethodError<E>" ++ " \x7b"

/-- The helper is one block, of which one sees the header. -/
theorem exists_outlined_failureHelper :
    ∃ lines, Outlined failureHelperSteps lines [failureHelperTop] := by
  -- the header is written in two parts, the second of which is verbatim but not plain by itself
  have hHeader : Heads ("function methodError<E extends \x7b code: string \x7d>(method: string, "
      ++ "failure: AbiCallFailure): AbiMethodError<E>") :=
    (heads_plain rfl).append (verbatim_literal rfl)
  have hPayload : Enclosed [
      .line "? \x7b code: failure.code \x7d",
      .line ": \x7b code: failure.code, payload: failure.payload \x7d) as unknown as E;"] _ :=
    .cons (enclosed_line rfl) (enclosed_line rfl)
  have hBody : Enclosed [
      .line "const error = (failure.payload === undefined",
      .nested _,
      .line "return new AbiMethodError<E>(method, error, failure.message);"] _ :=
    .cons (enclosed_line rfl) (.cons hPayload.nested (enclosed_line rfl))
  exact ⟨_, hBody.outlined_block hHeader⟩

end Fixed

/-! ### What fixed parts declare -/

/-- The names that the description of the function that performs calls declares, line by line. -/
def transportNames : List (List String) :=
  [["AbiCallFailure"], ["AbiCallResult"], [], [], ["AbiCall"], ["AbiMethodError"]]

/-- Line by line, these declare the names. -/
theorem declares_transportTops : List.Forall₂ Declares transportTops transportNames := by
  -- each line is split behind the name that it declares
  have hFailure : "export interface AbiCallFailure" = "export interface " ++ "AbiCallFailure" := by simp
  have hResult : "export type AbiCallResult =" = "export type " ++ "AbiCallResult" ++ " =" := by simp
  have hCall : "export type AbiCall = (method: string, args: unknown[]) => Promise<AbiCallResult>;"
      = "export type " ++ "AbiCall"
        ++ " = (method: string, args: unknown[]) => Promise<AbiCallResult>;" := by simp
  have hError : "export class AbiMethodError<E extends \x7b code: string \x7d> extends Error" ++ " \x7b"
      = "export class " ++ "AbiMethodError"
        ++ "<E extends \x7b code: string \x7d> extends Error \x7b" := by simp
  rw [transportTops, hFailure, hResult, hCall, hError]
  exact .cons (.export_interface rfl (stops_fixed rfl rfl))
    (.cons (.export_type rfl (stops_fixed rfl rfl))
      (.cons (declares_nothing (stops_fixed rfl rfl))
        (.cons (declares_nothing (stops_fixed rfl rfl))
          (.cons (.export_type rfl (stops_fixed rfl rfl))
            (.cons (.export_class rfl (stops_fixed rfl rfl)) .nil)))))

/-- The function that makes exceptions is not passed on. -/
theorem declares_failureHelperTop : Declares failureHelperTop ["methodError"] := by
  -- the name goes up to the bracket of the type parameter
  have hOpen : "function methodError<E extends \x7b code: string \x7d>(method: string, "
      = "function " ++ "methodError" ++ "<E extends \x7b code: string \x7d>(method: string, " := by simp
  have hText : failureHelperTop.toList = "function ".toList ++ ("methodError".toList
      ++ ("<E extends \x7b code: string \x7d>(method: string, ".toList
        ++ ("failure: AbiCallFailure): AbiMethodError<E>".toList ++ " \x7b".toList))) := by
    unfold failureHelperTop
    rw [hOpen]
    simp only [String.toList_append, List.append_assoc]
  -- `function` is the last of the words, so the others are tried before it and do not fit
  have hWords : declarationWords = ["interface ", "type ", "class "] ++ "function " :: _ := rfl
  have hBefore : ∀ other ∈ ["interface ", "type ", "class "], ∀ more,
      ¬ other.toList <+: "function ".toList ++ more := by
    simp only [List.forall_mem_cons, List.not_mem_nil, IsEmpty.forall_iff, implies_true, and_true]
    exact ⟨not_prefix_of_head rfl rfl (by decide), not_prefix_of_head rfl rfl (by decide),
      not_prefix_of_head rfl rfl (by decide)⟩
  -- it is no import, and it is not passed on
  constructor
  · rw [isImport, Bool.or_eq_false_iff, Bool.eq_false_iff, Bool.eq_false_iff, ne_eq, ne_eq,
      List.isPrefixOf_iff_prefix, List.isPrefixOf_iff_prefix, hText]
    exact ⟨not_prefix_of_head rfl rfl (by decide) _, not_prefix_of_head rfl rfl (by decide) _⟩
  · rw [declaredIn, hText, readDeclaration,
      Reader.bind_eq (accept_eq_false (not_prefix_of_head rfl rfl (by decide) _)),
      readDeclared_append hWords (fun other hOther => hBefore other hOther _) rfl (stops_text rfl rfl _)]
    rfl

/-! ## Client modules -/

namespace ClientMethod

variable (method : ClientMethod)

/-- The line that throws opens and closes no braces that a reader of lines could see. -/
theorem inner_throwLine : Inner [method.throwLine] := by
  rw [throwLine]
  -- both lines end in a semicolon
  split
  · exact inner_last rfl (by decide) (by decide)
  · exact inner_last (getLast?_append rfl _) (by decide) (by decide)

/-- Nor does the line that returns, if there is one. -/
theorem inner_returnLines : Inner method.returnLines := by
  rw [returnLines]
  split
  · exact inner_last (getLast?_append rfl _) (by decide) (by decide)
  · exact inner_nil

/-- The lines of a method stand inside of braces. -/
theorem inner_lines : Inner method.lines := by
  -- the call ends in a semicolon too, and the check of the response is a block
  have hCall : Inner [method.callLine] := by
    unfold callLine
    exact inner_last (getLast?_append rfl _) (by decide) (by decide)
  have hCheck : Inner ["if (!response.ok) \x7b", method.throwLine, "\x7d"] :=
    method.inner_throwLine.block (by decide)
  exact ((hCall.append hCheck).append method.inner_returnLines).block (opens_header method.header)

end ClientMethod

/-- A client module whose parts can be told from what is around them. -/
structure ClientModule.Readable (client : ClientModule) : Prop where
  imports : ∀ imported ∈ client.imports, imported.Readable
  className : isIdentifier client.className = true
  methods : ∀ method ∈ client.methods, method.Readable

namespace ClientModule

variable {client : ClientModule}

/-- What of a client module stands outside of braces behind its imports. -/
def tops (client : ClientModule) : List String :=
  transportTops ++ (if client.hasFailures then [failureHelperTop] else [])
    ++ ["export class " ++ client.className ++ " \x7b"]

/-- The names that a client module declares, line by line. -/
def declared (client : ClientModule) : List (List String) :=
  transportNames ++ (if client.hasFailures then [["methodError"]] else []) ++ [[client.className]]

/-- Each line outside of braces declares the names that are given for it. -/
theorem Readable.declares (h : client.Readable) : List.Forall₂ Declares client.tops client.declared := by
  have hHelper : List.Forall₂ Declares (if client.hasFailures then [failureHelperTop] else [])
      (if client.hasFailures then [["methodError"]] else []) := by
    split
    · exact .cons declares_failureHelperTop .nil
    · exact .nil
  have hClass : Declares ("export class " ++ client.className ++ " \x7b") [client.className] :=
    Declares.export_class h.className (stops_fixed rfl rfl)
  exact List.rel_append (List.rel_append declares_transportTops hHelper) (.cons hClass .nil)

/-- What is read from the lines of code of a client module. -/
structure Reads (client : ClientModule) (lines : List String) : Prop where
  methods : readMethods lines = some (client.methods.map ClientMethod.source)
  topLines : TypeScript.topLines 0 lines = client.imports.map Import.text ++ client.tops

/-- What stands in the class before its methods. -/
def classHead : List Step := [
  .line "readonly #call: AbiCall;",
  .blank,
  .block "constructor(call: AbiCall)" [.line "this.#call = call;"]]

/-- What stands before the methods of a class is enclosed. -/
theorem exists_enclosed_classHead : ∃ lines, Enclosed classHead lines := by
  have hConstructor : Enclosed [.line "this.#call = call;"] _ := enclosed_line rfl
  exact ⟨_, .cons (enclosed_line rfl) (.cons enclosed_blank (hConstructor.block (heads_plain rfl)))⟩

/-- The helper, if there are failures to be thrown. -/
theorem exists_helper (client : ClientModule) :
    ∃ lines, Outlined (if client.hasFailures then .blank :: failureHelperSteps else []) lines
      (if client.hasFailures then [failureHelperTop] else []) := by
  obtain ⟨lines, hLines⟩ := exists_outlined_failureHelper
  split
  · exact ⟨lines, outlined_blank.append hLines⟩
  · exact ⟨[], shows_nil, by simp, fun _ => rfl⟩

/-- The lines of all methods stand inside of braces. -/
theorem inner_methods (methods : List ClientMethod) : Inner (methods.flatMap ClientMethod.lines) := by
  induction methods with
  | nil => exact inner_nil
  | cons method methods ih =>
    rw [List.flatMap_cons]
    exact method.inner_lines.append ih

/-- What stands before the class: the imports, the description of the function that performs calls, and the
helper if there is one. -/
def support (client : ClientModule) : List Step :=
  .blank :: client.imports.map (.line ·.text)
    ++ .blank :: transportSteps
    ++ (if client.hasFailures then .blank :: failureHelperSteps else [])

/-- What stands before the class, seen from outside of braces. -/
theorem Readable.exists_support (h : client.Readable) :
    ∃ lines, Outlined client.support lines (client.imports.map Import.text ++ transportTops
      ++ if client.hasFailures then [failureHelperTop] else []) := by
  obtain ⟨transportLines, hTransport⟩ := exists_outlined_transport
  obtain ⟨helperLines, hHelper⟩ := client.exists_helper
  -- imports are lines of code that open no braces
  have hImports : Outlined (client.imports.map (.line ·.text)) (client.imports.map Import.text)
      (client.imports.map Import.text) := by
    have hLines := shows_lines (List.forall_mem_map.mpr fun imported hImported =>
      codeLine_importText (h.imports imported hImported))
    rw [List.map_map] at hLines
    refine ⟨hLines, List.forall_mem_map.mpr fun imported _ => startsMethod_importText imported, fun rest => ?_⟩
    exact topLines_lines (List.forall_mem_map.mpr fun imported _ => opens_importText imported) rest
  exact ⟨_, ((outlined_blank.cons hImports).append (outlined_blank.cons hTransport)).append hHelper⟩

/-- The header of the class is code, and no method. -/
theorem Readable.heads_class (h : client.Readable) : Heads ("export class " ++ client.className) :=
  (heads_plain rfl).append (verbatim_of_isIdentifier h.className)

/-- No method begins before those of the class. -/
theorem Readable.noMethod_opening (h : client.Readable) {supportLines headLines tops : List String}
    (hSupport : Outlined client.support supportLines tops) (hHead : Enclosed classHead headLines) :
    ∀ line ∈ supportLines ++ ["export class " ++ client.className ++ " \x7b"] ++ headLines,
      startsMethod line = false := by
  simp only [List.forall_mem_append, List.forall_mem_singleton]
  exact ⟨⟨hSupport.noMethod, h.heads_class.noMethod _⟩, hHead.noMethod⟩

/-- **Client modules.** In whatever layout, the methods, the imports and the declarations of a client
module are read from its lines of code as they were written. -/
theorem Readable.exists_lines (h : client.Readable) :
    ∃ lines, Shows client.steps lines ∧ client.Reads lines := by
  obtain ⟨supportLines, hSupport⟩ := h.exists_support
  obtain ⟨headLines, hHead⟩ := exists_enclosed_classHead
  have hMethods : Shows (client.methods.flatMap fun method => .blank :: method.steps)
      (client.methods.flatMap ClientMethod.lines) :=
    shows_flatMap fun method hMethod => Shows.cons showsStep_blank (h.methods method hMethod).shows
  have hModule := hSupport.shows.append (Shows.cons showsStep_blank
    (shows_singleton (showsStep_block h.heads_class.codeLine (hHead.shows.append hMethods))))
  refine ⟨supportLines ++ ("export class " ++ client.className ++ " \x7b")
      :: (headLines ++ client.methods.flatMap ClientMethod.lines ++ ["\x7d"]), hModule, ?_, ?_⟩
  -- the methods are read, and nothing before or behind them is taken for one
  · have hLast : readMethods ["\x7d"] = some [] := rfl
    have hRead := readMethods_of_forall (h.noMethod_opening hSupport hHead)
      (client.methods.flatMap ClientMethod.lines ++ ["\x7d"])
    rw [readMethods_append h.methods, hLast, Option.map_some, List.append_nil] at hRead
    simp only [List.append_assoc, List.singleton_append] at hRead ⊢
    exact hRead
  -- of the class, only its first line stands outside of braces
  · have hInner := hHead.inner.append (inner_methods client.methods)
    have hEnd := hInner.topLines_block (opens_header ("export class " ++ client.className)) []
    rw [List.append_nil] at hEnd
    rw [hSupport.topLines, hEnd, tops]
    simp only [List.append_assoc]
    rfl

/-! ### What a client module binds -/

/-- What is declared is not imported. -/
theorem Readable.notImport_tops (h : client.Readable) : ∀ line ∈ client.tops, isImport line = false := by
  have hDeclares := h.declares
  generalize client.tops = lines, client.declared = names at hDeclares
  induction hDeclares with
  | nil => simp
  | cons hFirst _ ih => exact List.forall_mem_cons.mpr ⟨hFirst.notImport, ih⟩

/-- **Imports** are read back from the lines outside of braces: they are kept, and nothing else is. -/
theorem Reads.moduleImports {lines : List String} (hReads : client.Reads lines) (h : client.Readable) :
    moduleImports lines = some client.imports := by
  have hImports : (client.imports.map Import.text).filter isImport = client.imports.map Import.text :=
    List.filter_eq_self.mpr (List.forall_mem_map.mpr fun imported _ => isImport_text imported)
  -- no line of the module behind the imports is taken for one
  have hTops : client.tops.filter isImport = [] := by
    rw [List.filter_eq_nil_iff]
    intro line hLine
    rw [h.notImport_tops line hLine]
    exact Bool.false_ne_true
  rw [TypeScript.moduleImports, hReads.topLines, List.filter_append, hImports, hTops, List.append_nil,
    mapM_eq_some_iff, List.forall₂_map_left_iff, List.forall₂_same]
  exact fun imported hImported => readImport_text (h.imports imported hImported)

/-- **Bound names** are those of the imports and those that the other lines declare. -/
theorem Reads.boundNames {lines : List String} (hReads : client.Reads lines) (h : client.Readable) :
    boundNames lines = some (client.imports.flatMap Import.bound ++ client.declared.flatten) := by
  have hImports : (client.imports.map Import.text).filter (!isImport ·) = [] := by
    rw [List.filter_eq_nil_iff, List.forall_mem_map]
    intro imported _
    rw [isImport_text]
    exact Bool.false_ne_true
  have hTops : client.tops.filter (!isImport ·) = client.tops := by
    rw [List.filter_eq_self]
    intro line hLine
    rw [h.notImport_tops line hLine]
    rfl
  -- what is left is read line by line
  have hDeclared : client.tops.mapM declaredIn = some client.declared :=
    mapM_eq_some_iff.mpr (h.declares.imp fun _ _ hDeclares => hDeclares.names)
  rw [TypeScript.boundNames, hReads.moduleImports h, hReads.topLines, List.filter_append, hImports, hTops,
    List.nil_append, hDeclared]
  rfl

end ClientModule

end AbiBindings.TypeScript
