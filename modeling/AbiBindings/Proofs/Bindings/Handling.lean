import AbiBindings.Proofs.Bindings.Ambiguity
import AbiBindings.Proofs.TypeScript.ClientParts

/-!
# Bindings — how methods fail and what they return

Whether a method declares errors is asked in several places: for its documentation, for the line that throws,
for the union in the module of types, for the imports of the client, and for the function that makes
exceptions. Whether it returns a value is asked for its first line and for its last one. All of these are
read from the two modules, and give the same answer.

* `Style.docLines`, `clientMethod_doc` — the documentation of a method, with a line for each error;
* `HandlesFailure`, `HandlesValue`, `Style.handles` — what a method does with a response;
* `filter_blocks` — what the module of types declares under a name;
* `Documents`, `clientText_parts` — the text of a client, method by method;
* `generate_handling` — documentation, exceptions and values in both modules.
-/

namespace AbiBindings.TypeScript

/-- The name that a block declares. -/
def Block.name : Block → String
  | .interface name _ | .union name _ | .alternatives name _ => name

/-- A reference to something that imports bring into a module: under its own name, or inside a namespace. -/
def Reached (imports : List Import) (ref : Reference) : Prop :=
  match ref.space? with
  | none => ∃ listed, .types listed ∈ imports ∧ ref.name ∈ listed
  | some space => .wildcard space ∈ imports

end AbiBindings.TypeScript

namespace AbiBindings.Bindings

open Layout (docText)
open Manifest (ErrorCase Method)
open TypeScript (Block Builtin ClientMethod Failure MethodSource Reached Reference boundNames codeLines
  moduleImports readBlock readMethods safeIdent)

/-! ## Documentation -/

namespace Style

/-- The line on an error: its code, and its payload as it is written in a client of this style. -/
def errorLine (style : Style) (error : ErrorCase) : String :=
  "@throws \x7bAbiMethodError\x7d `" ++ error.code ++ "`"
    ++ error.payload?.elim "" fun type => " with payload `" ++ (writtenType style.space? type).text ++ "`"

/-- The lines on failures: one for each error, or one that says that there are none. -/
def errorLines (style : Style) (method : Method) : List String :=
  if method.errors = [] then ["@throws \x7bError\x7d when the call fails; no error codes are declared."]
  else method.errors.map style.errorLine

/-- What the documentation of a method says, line by line. -/
def docLines (style : Style) (method : Method) : List String :=
  ("Calls the `" ++ method.name ++ "` ABI method.") :: "" :: style.errorLines method

end Style

section Methods

variable {style : Style} {scope : Scope} {method : Method}

/-- What is said of an error is its code, and the expression for its payload. -/
theorem failure_eq {error : ErrorCase} {written : Failure} (h : failure scope error = .ok written) :
    written = ⟨error.code, error.payload?.map (writtenType scope.space?)⟩ := by
  obtain ⟨payload?, hPayload, h⟩ := bind_eq_ok.mp h
  obtain rfl := pure_eq_ok.mp h
  rw [Scope.payload_eq hPayload]

/-- A method that is generated is documented under its name with what it declares. -/
theorem clientMethod_doc (hSpace : scope.space? = style.space?) {written : ClientMethod}
    (h : clientMethod style scope method = .ok written) :
    written.doc = style.docLines method ∧ written.binding = style.bindingName method := by
  obtain ⟨signature, -, h⟩ := bind_eq_ok.mp h
  obtain ⟨result?, -, h⟩ := bind_eq_ok.mp h
  obtain ⟨failures, hFailures, h⟩ := bind_eq_ok.mp h
  obtain rfl := pure_eq_ok.mp h
  obtain rfl := eq_map_of_mapM_eq_ok hFailures fun _ _ hWritten => failure_eq hWritten
  have hLine : ∀ error : ErrorCase,
      ClientMethod.failureDoc ⟨error.code, error.payload?.map (writtenType scope.space?)⟩ = style.errorLine error := by
    intro error
    unfold ClientMethod.failureDoc Style.errorLine
    rw [hSpace]
    -- the two texts differ in how they ask for a payload
    refine congrArg _ ?_
    cases error.payload? <;> rfl
  refine ⟨?_, rfl⟩
  -- the two lines in front are the same whatever is declared
  rw [ClientMethod.doc, Style.docLines, Style.errorLines, List.map_map, List.isEmpty_map]
  simp only [List.isEmpty_iff, Function.comp_def, hLine, List.cons_append, List.nil_append]

/-- The payload is written as the client sees it. -/
example : Style.namespaced.errorLines
      ⟨"pay", [], none, false, some [⟨"late", none⟩, ⟨"lost", some (.list (.named "Bill"))⟩]⟩
    = ["@throws \x7bAbiMethodError\x7d `late`",
      "@throws \x7bAbiMethodError\x7d `lost` with payload `types.Bill[]`"] := by decide

end Methods

/-! ## Failures and values -/

/-- What becomes of a failed response: an exception with the message alone if the method declares no errors,
and otherwise one for the union of its errors, which the module of types declares once, arm by arm in
the order of the errors, and which the client refers to through its imports. -/
structure HandlesFailure (style : Style) (imports : List TypeScript.Import) (blocks : List Block)
    (method : Method) (source : MethodSource) : Prop where
  message : source.raised = .message ↔ method.errors = []
  declared : method.errors ≠ [] →
    source.raised = .declared (.word (Reference.text ⟨style.space?, errorName method⟩)) method.name
  union : method.errors ≠ [] → blocks.filter (·.name = errorName method)
    = [.union (errorName method) (method.errors.map errorShapes)]
  imported : method.errors ≠ [] → Reached imports ⟨style.space?, errorName method⟩

/-- What becomes of the value of a response: it is returned if the method returns anything but a `unit`, with
`null` for no value if the method may return none, and as a value of the type that is promised. -/
structure HandlesValue (style : Style) (method : Method) (source : MethodSource) : Prop where
  returns : source.returned?.isSome = true ↔ ∃ type, method.returns? = some type ∧ type.isUnit = false
  coalesced : ∀ returned ∈ source.returned?, returned.coalesced = method.returnsNullable
  cast : ∀ returned ∈ source.returned?, returned.type = source.promised
  promised : ∀ type, method.valueReturn? = some type →
    source.promised = ⟨style.shape type, method.returnsNullable⟩
  void : source.returned? = none → source.promised = ⟨.word Builtin.void.text, false⟩

/-- A method that goes under the name that the style gives it, calls what was declared, and does with the
response what was declared. -/
structure Handles (style : Style) (imports : List TypeScript.Import) (blocks : List Block) (method : Method)
    (source : MethodSource) : Prop where
  binding : source.binding = style.bindingName method
  callee : source.callee = method.name
  failure : HandlesFailure style imports blocks method source
  value : HandlesValue style method source

/-- **Values.** What a style makes of a method handles its value as it is declared. -/
theorem Style.handlesValue (style : Style) (method : Method) :
    HandlesValue style method (style.source method) := by
  have hReturned : (style.source method).returned?
      = method.valueReturn?.map fun type =>
        ⟨method.returnsNullable, ⟨style.shape type, method.returnsNullable⟩⟩ := by
    rw [Style.source, Style.returned?, Option.map_map]
    rfl
  have hPromised : (style.source method).promised
      = (method.valueReturn?.map fun type => ⟨style.shape type, method.returnsNullable⟩).getD
        ⟨.word Builtin.void.text, false⟩ := rfl
  constructor
  · rw [hReturned, Option.isSome_map, Method.valueReturn?, Option.isSome_filter, Option.any_eq_true]
    simp only [Bool.not_eq_true']
  · intro returned hMem
    rw [hReturned] at hMem
    obtain ⟨type, -, rfl⟩ := Option.map_eq_some_iff.mp hMem
    rfl
  -- the type that is promised is made of the same value
  · intro returned hMem
    rw [hReturned] at hMem
    obtain ⟨type, hType, rfl⟩ := Option.map_eq_some_iff.mp hMem
    rw [hPromised, hType]
    rfl
  · intro type hType
    rw [hPromised, hType]
    rfl
  · intro hNone
    rw [hReturned, Option.map_eq_none_iff] at hNone
    rw [hPromised, hNone]
    rfl

/-! ## The union of the errors -/

section Union

variable {manifest : Manifest} {method : Method}

theorem name_unionBlock (name : String) (arms : List (List TypeScript.Shape)) :
    (unionBlock name arms).name = name := by
  rw [unionBlock]
  split <;> rfl

/-- The block of what is declared has the name that is claimed for it. -/
theorem Declared.name_block (entry : Declared) : entry.block.name = entry.claim.name := by
  cases entry with
  | entry name definition =>
    cases definition with
    | record | bytes => rfl
    | variant variants => exact name_unionBlock _ _
  | codes | payload => rfl
  | failures | anyEvent => exact name_unionBlock _ _

/-- If images differ, the elements with the image of a given one are that element. -/
theorem filter_eq_singleton {α β : Type} [DecidableEq β] {f : α → β} {as : List α} {a : α}
    (hNodup : (as.map f).Nodup) (ha : a ∈ as) : as.filter (f · = f a) = [a] := by
  obtain ⟨before, after, rfl⟩ := List.append_of_mem ha
  rw [List.map_append, List.map_cons, List.nodup_middle, List.nodup_cons, ← List.map_append] at hNodup
  -- no other element has the same image
  have hOther : ∀ other ∈ before ++ after, ¬ f other = f a := fun other hMem hEq =>
    hNodup.1 (hEq ▸ List.mem_map_of_mem hMem)
  obtain ⟨hBefore, hAfter⟩ := List.forall_mem_append.mp hOther
  rw [List.filter_append, List.filter_cons_of_pos (by simp), List.filter_eq_nil_iff.mpr (by simpa using hBefore),
    List.filter_eq_nil_iff.mpr (by simpa using hAfter)]
  rfl

/-- Under the name of something that is declared there is its block, and no other. -/
theorem filter_blocks (hNodup : ((typeClaims manifest).map Claim.name).Nodup) {entry : Declared}
    (hEntry : entry ∈ declared manifest) :
    ((declared manifest).map Declared.block).filter (·.name = entry.claim.name) = [entry.block] := by
  have hNames : ((declared manifest).map Declared.block).map Block.name
      = (typeClaims manifest).map Claim.name := by
    rw [← claim_declared, List.map_map, List.map_map]
    exact List.map_congr_left fun entry _ => entry.name_block
  rw [← hNames] at hNodup
  have hFilter := filter_eq_singleton hNodup (List.mem_map_of_mem hEntry)
  rw [entry.name_block] at hFilter
  exact hFilter

/-- A method that declares errors has a union of them among what is declared. -/
theorem failures_mem_declared (hMethod : method ∈ manifest.methods) (hErrors : method.errors ≠ []) :
    Declared.failures method.name method.errors ∈ declared manifest := by
  have hMem : Declared.failures method.name method.errors ∈ declaredErrors method := by
    rw [declaredErrors, if_neg (List.isEmpty_iff.not.mpr hErrors)]
    exact List.mem_cons_of_mem _ (List.mem_singleton_self _)
  rw [declared]
  refine List.mem_append_left _ (List.mem_append_left _ (List.mem_append_right _ ?_))
  exact List.mem_flatMap.mpr ⟨method, hMethod, hMem⟩

/-- What a client throws is among its imports. -/
theorem reached_errorName (style : Style) (hMethod : method ∈ manifest.methods) (hErrors : method.errors ≠ []) :
    Reached (style.imports manifest) ⟨style.space?, errorName method⟩ := by
  cases style with
  | positional =>
    have hNames : errorName method ∈ methodNames method := by
      rw [methodNames, if_neg (List.isEmpty_iff.not.mpr hErrors)]
      exact List.mem_append_right _ (List.mem_singleton_self _)
    have hListed : errorName method ∈ Style.positional.listed manifest :=
      mem_namesUsed.mpr (List.mem_flatMap.mpr ⟨method, hMethod, hNames⟩)
    exact exists_listed hListed
  | namespaced => exact List.mem_cons_self

/-- **Methods.** What a style makes of a method handles failures and values as they are declared. -/
theorem Style.handles (style : Style) (hNodup : ((typeClaims manifest).map Claim.name).Nodup)
    (hMethod : method ∈ manifest.methods) :
    Handles style (style.imports manifest) ((declared manifest).map Declared.block) method
      (style.source method) := by
  refine ⟨rfl, rfl, ⟨?_, fun hErrors => ?_, fun hErrors => ?_, reached_errorName style hMethod⟩,
    style.handlesValue method⟩
  -- four things are asked of failures: when there is only the message, what else is thrown, the union, the
  -- import
  · show style.raised method = _ ↔ _
    rw [Style.raised]
    split
    -- the message alone, or an exception for the union
    next hNone => exact iff_of_true rfl (List.isEmpty_iff.mp hNone)
    next hSome => exact iff_of_false (by simp) fun hNone => hSome (List.isEmpty_iff.mpr hNone)
  · exact if_neg (List.isEmpty_iff.not.mpr hErrors)
  · have hBlock : (Declared.failures method.name method.errors).block
        = .union (errorName method) (method.errors.map errorShapes) :=
      if_neg fun hNone => hErrors (List.map_eq_nil_iff.mp (List.isEmpty_iff.mp hNone))
    have hFilter := filter_blocks hNodup (failures_mem_declared hMethod hErrors)
    rw [hBlock] at hFilter
    exact hFilter

end Union

/-! ## The function that makes exceptions -/

/-- **The helper.** The function that makes exceptions is bound in the module of the client exactly if some
method declares errors. -/
theorem methodError_mem_bound {manifest : Manifest} (hValid : manifest.Valid) {clientName : String}
    {style : Style} (hClaims : ((clientClaims manifest clientName style).map Claim.name).Nodup) :
    "methodError" ∈ (style.imports manifest).flatMap TypeScript.Import.bound ++ declaredNames manifest clientName ↔
      ∃ method ∈ manifest.methods, method.errors ≠ [] := by
  have hAny : manifest.methods.any (!·.errors.isEmpty) = true ↔ ∃ method ∈ manifest.methods, method.errors ≠ [] := by
    simp
  -- neither an import nor the class has this name, because it is claimed for the support code
  have hDistinct := (moduleHygiene hValid hClaims).distinct
  have hSupport : supportNames = ["AbiCallFailure", "AbiCallResult", "AbiCall", "AbiMethodError"]
      ++ ["methodError"] := rfl
  rw [moduleNames, List.nodup_append, List.nodup_append] at hDistinct
  obtain ⟨⟨-, -, hImports⟩, -, hClass⟩ := hDistinct
  have hHelper : "methodError" ∈ supportNames := by decide
  have hNotImport : "methodError" ∉ (style.imports manifest).flatMap TypeScript.Import.bound :=
    fun hMem => hImports _ hMem _ hHelper rfl
  have hNotClass : "methodError" ≠ safeIdent clientName :=
    hClass _ (List.mem_append_right _ hHelper) _ (List.mem_singleton_self _)
  rw [← hAny, List.mem_append, or_iff_right hNotImport, declaredNames]
  cases manifest.methods.any (!·.errors.isEmpty) with
  | true => simp
  | false => simp [hNotClass]

/-! ## The text of a client -/

/-- The documentation of a method stands in front of its name. -/
def Documents (style : Style) (method : Method) (part : String) : Prop :=
  ∃ more, part = "\n" ++ docText 2 1 (style.docLines method)
    ++ ("  async " ++ style.bindingName method ++ "(" ++ more)

/-- The methods of a client are written one by one, each for the method in its place. -/
theorem forall₂_methods {manifest : Manifest} {clientName : String} {style : Style} {client : TypeScript.ClientModule}
    (h : clientModule manifest clientName style = .ok client) :
    List.Forall₂ (fun method written => clientMethod style (style.scope manifest) method = .ok written)
      manifest.methods client.methods := by
  obtain ⟨-, -, h⟩ := bind_eq_ok.mp h
  obtain ⟨-, -, h⟩ := bind_eq_ok.mp h
  obtain ⟨methods, hMethods, h⟩ := bind_eq_ok.mp h
  obtain rfl := pure_eq_ok.mp h
  exact mapM_eq_ok_iff.mp hMethods

/-- The text of a client is what stands before its methods, a part for each of them in order, and a brace. A
part is read as the method, and begins with its documentation. -/
theorem clientText_parts {manifest : Manifest} {clientName : String} {style : Style} {text : String}
    (h : clientText manifest clientName style = .ok text) :
    ∃ opening parts, text = opening ++ String.join parts ++ "\x7d\n" ∧
      readMethods (codeLines opening) = some [] ∧
      List.Forall₂ (fun source part => readMethods (codeLines part) = some [source])
        (manifest.methods.map style.source) parts ∧
      List.Forall₂ (Documents style) manifest.methods parts := by
  obtain ⟨client, hModule, h⟩ := bind_eq_ok.mp h
  obtain rfl := pure_eq_ok.mp h
  obtain ⟨hReadable, -, hSources, -⟩ := clientModule_source hModule
  -- the header, the support and the class are linewise, so the text is that of the steps in a row
  have hLinewise := linewise_moduleSteps manifest
    (TypeScript.ClientModule.closedSteps (clientModule_closed hModule))
  refine ⟨Layout.stepsText 2 0 (headerSteps manifest) ++ client.opening 2,
    client.methods.map (ClientMethod.part 2), ?_,
    hReadable.readMethods_opening (shows_headerSteps manifest) 2, ?_, ?_⟩
  · rw [moduleText, Layout.render_eq hLinewise, Layout.stepsText_append, client.stepsText_steps,
      lineText_top 2 (by decide)]
    simp only [String.append_assoc]
    rfl
  -- each source is read back from its own part
  · rw [← hSources, List.forall₂_map_left_iff, List.forall₂_map_right_iff, List.forall₂_same]
    exact fun method hMethod => (hReadable.methods method hMethod).readMethods_part 2
  · rw [List.forall₂_map_right_iff]
    refine (forall₂_methods hModule).imp fun method written hWritten => ?_
    obtain ⟨hDoc, hBinding⟩ := clientMethod_doc (style.space?_scope manifest) hWritten
    obtain ⟨more, hPart⟩ := written.exists_part_eq 2
    -- one level deep, the header of a method begins behind two blanks
    have hMargin : Layout.marginText 2 1 ++ "async " = "  async " := rfl
    rw [hDoc, hBinding, hMargin] at hPart
    exact ⟨more, hPart⟩

/-! ## Both modules -/

/-- **Handling.** In the bindings for a manifest that was read there is one asynchronous method for each method
of the manifest, in the same order. Its documentation has a line for each error that is declared, in order, with
the code and the payload, or one line that there are none. A failed response becomes an exception for the union
of exactly these errors, under the name that was declared for the method, or an exception with the message
alone. A value is returned if one is declared, as the type that is promised. The function that makes exceptions
is there if some method declares errors. -/
theorem generate_handling {document : Json} {manifest : Manifest}
    (hRead : Manifest.ofJson document = .ok manifest) {clientName : String} {style : Style}
    {generated : Generated} (h : generate manifest clientName style = .ok generated) :
    ∃ blocks sources imports bound,
      ((Layout.sections generated.types).tail.mapM readBlock = some blocks ∧
        readMethods (codeLines generated.client) = some sources ∧
        moduleImports (codeLines generated.client) = some imports ∧
        boundNames (codeLines generated.client) = some bound) ∧
      List.Forall₂ (Handles style imports blocks) manifest.methods sources ∧
      ("methodError" ∈ bound ↔ ∃ method ∈ manifest.methods, method.errors ≠ []) ∧
      ∃ opening parts, generated.client = opening ++ String.join parts ++ "\x7d\n" ∧
        readMethods (codeLines opening) = some [] ∧
        List.Forall₂ (fun source part => readMethods (codeLines part) = some [source]) sources parts ∧
        List.Forall₂ (Documents style) manifest.methods parts := by
  have hValid := Manifest.valid_of_ofJson hRead
  obtain ⟨hClaims, -, -⟩ := (exists_generate_eq_ok hValid).mp ⟨generated, h⟩
  obtain ⟨hTypes, hClient⟩ := generate_eq_ok.mp h
  have hLines := clientText_lines hClient
  refine ⟨(declared manifest).map Declared.block, manifest.methods.map style.source, _, _,
    ⟨(typesText_lines hTypes).mapM_readBlock, hLines.methods, hLines.imports, hLines.names⟩, ?_,
    methodError_mem_bound hValid hClaims, clientText_parts hClient⟩
  rw [List.forall₂_map_right_iff, List.forall₂_same]
  exact fun method hMethod => style.handles (nodup_typeClaims hClaims) hMethod

/-- A document with a method that fails in two ways and may return nothing, and one that neither declares
errors nor returns anything. -/
def transferDocument : Json := .object [
  ("schema_version", .string "wasm-abi/1"),
  ("types", .object [("Account", .object [("kind", .string "record"), ("fields", .array [])])]),
  ("methods", .array [
    .object [("name", .string "transfer"),
      ("returns", .object [("$ref", .string "Account")]), ("returns_nullable", .bool true),
      ("errors", .array [
        .object [("code", .string "too */ late")],
        .object [("code", .string "unknown"), ("payload", .object [("$ref", .string "Account")])]])],
    .object [("name", .string "audit"), ("returns", .object [("kind", .string "unit")])]]),
  ("events", .array [])]

/-- The manifest that is read from it. -/
def transferManifest : Manifest where
  types := [("Account", .record [])]
  methods := [
    ⟨"transfer", [], some (.named "Account"), true,
      some [⟨"too */ late", none⟩, ⟨"unknown", some (.named "Account")⟩]⟩,
    ⟨"audit", [], some (.primitive .unit), false, none⟩]
  events := []

/-- The first method throws for two errors and may return nothing; the second does neither, and is listed
all the same. -/
theorem transferManifest_handling :
    Manifest.ofJson transferDocument = .ok transferManifest ∧
      ∃ generated blocks sources imports bound,
        generate transferManifest "Bank" .namespaced = .ok generated ∧
        (Layout.sections generated.types).tail.mapM readBlock = some blocks ∧
        readMethods (codeLines generated.client) = some sources ∧
        List.Forall₂ (Handles .namespaced imports blocks) transferManifest.methods sources ∧
        boundNames (codeLines generated.client) = some bound ∧ "methodError" ∈ bound ∧
        ∃ parts, List.Forall₂ (Documents .namespaced) transferManifest.methods parts := by
  have hRead : Manifest.ofJson transferDocument = .ok transferManifest := rfl
  have hGenerated : ∃ generated, generate transferManifest "Bank" .namespaced = .ok generated := ⟨_, rfl⟩
  obtain ⟨generated, h⟩ := hGenerated
  obtain ⟨blocks, sources, imports, bound, ⟨hBlocks, hSources, -, hBound⟩, hHandles, hHelper,
    opening, parts, -, -, -, hParts⟩ := generate_handling hRead h
  exact ⟨hRead, generated, blocks, sources, imports, bound, h, hBlocks, hSources, hHandles, hBound,
    hHelper.mpr ⟨_, List.mem_cons_self, by decide⟩, parts, hParts⟩

end AbiBindings.Bindings
