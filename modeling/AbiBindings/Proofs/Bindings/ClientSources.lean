import AbiBindings.Proofs.Bindings.Containment
import AbiBindings.Proofs.Bindings.Rendering
import AbiBindings.Proofs.TypeScript.ClientReading

/-!
# Bindings — what is in the text of a client

The text of a client is read with nothing but the rules of TypeScript. What is read from it is what the
manifest and the style call for, method by method and name by name.

* `Style.source` — what a style makes of a method: names, types, arguments, what is thrown and returned;
* `clientMethod_source` — a method that is generated is written for this source;
* `ClientLines`, `clientText_lines` — what is read from the lines of code of a client.
-/

namespace AbiBindings.Bindings

open Manifest (TypeRef Field Method)
open TypeScript (Annotated Argument Builtin ClientMethod ClientModule Import MethodSource Parameter Raised
  Reference Result Shape Signature Slot bindable_safeIdent boundNames codeLines isIdentifier moduleImports
  readMethods safeIdent)

/-! ## Sources of methods -/

namespace Style

/-- The namespace through which a client of this style sees the type declarations. -/
def space? : Style → Option String
  | .positional => none
  | .namespaced => some typesNamespace

theorem space?_scope (style : Style) (manifest : Manifest) : (style.scope manifest).space? = style.space? := by
  cases style <;> rfl

/-- That namespace is an identifier. -/
theorem namespace_space? (style : Style) : Namespace style.space? := by
  cases style with
  | positional => exact fun _ hSpace => absurd hSpace (by simp [space?])
  | namespaced =>
    intro space hSpace
    obtain rfl := Option.some.inj hSpace
    rfl

/-- The shape of a type. -/
def shape (style : Style) (type : TypeRef) : Shape := (writtenType style.space? type).shape

/-- The place for a field. -/
def slot (style : Style) (field : Field) : Slot := ⟨field.name, style.shape field.type, field.nullable⟩

/-- What a method takes: a parameter for each, or one with a member for each. -/
def formals (style : Style) (method : Method) : List Slot :=
  match style with
  | .positional => method.params.map fun param =>
    ⟨paramIdent param.name, style.shape param.type, param.nullable⟩
  | .namespaced =>
    if method.params.isEmpty then []
    else [⟨paramsObject, .object (method.params.map style.slot), false⟩]

/-- What a method passes on. -/
def arguments (style : Style) (method : Method) : List Argument :=
  match style with
  | .positional => method.params.map (.parameter <| paramIdent ·.name)
  | .namespaced => method.params.map (.property paramsObject ·.name)

/-- The type of the value that a method returns, if it returns one. -/
def returned? (style : Style) (method : Method) : Option Annotated :=
  method.valueReturn?.map fun type => ⟨style.shape type, method.returnsNullable⟩

/-- What a method throws. -/
def raised (style : Style) (method : Method) : Raised :=
  if method.errors.isEmpty then .message
  else .declared (.word (Reference.text ⟨style.space?, errorName method⟩)) method.name

/-- What a style makes of a method. -/
def source (style : Style) (method : Method) : MethodSource where
  binding := style.bindingName method
  formals := style.formals method
  promised := (style.returned? method).getD ⟨.word Builtin.void.text, false⟩
  callee := method.name
  arguments := style.arguments method
  raised := style.raised method
  returned? := (style.returned? method).map fun annotated => ⟨annotated.nullable, annotated⟩

/-- A positional method takes parameters with the names that are checked. -/
theorem names_formals (method : Method) :
    (Style.positional.formals method).map (·.name) = Style.positional.parameterNames method := by
  simp only [formals, parameterNames, List.map_map, Function.comp_def]

end Style

/-! ## Methods -/

section Methods

variable {style : Style} {scope : Scope} {method : Method}

/-- A parameter is written under the identifier for its name, with the expression for its type. -/
theorem parameter_eq {field : Field} {written : Parameter} (h : parameter scope field = .ok written) :
    written = ⟨paramIdent field.name, writtenType scope.space? field.type, field.nullable⟩ := by
  obtain ⟨expr, hType, hWritten⟩ := bind_eq_ok.mp h
  obtain rfl := pure_eq_ok.mp hWritten
  rw [Scope.type_eq hType]

/-- As slots, the members for fields keep the names of the fields, also those that are no identifiers. -/
theorem memberSlots_writtenMembers (space? : Option String) (fields : List Field) :
    TypeScript.memberSlots (writtenMembers space? fields)
      = fields.map fun field => ⟨field.name, (writtenType space? field.type).shape, field.nullable⟩ := by
  induction fields with
  | nil => rfl
  | cons field rest ih =>
    rw [writtenMembers, TypeScript.memberSlots, ih, List.map_cons, slot_writtenMember]

/-- What a signature is written for. -/
structure SignatureSource (style : Style) (method : Method) (signature : Signature) : Prop where
  members : ∀ name, signature.parameters ≠ .bundled name []
  readable : ∀ parameter ∈ signature.parameters.written, parameter.Readable
  named : ∀ argument ∈ signature.arguments, argument.Named
  formals : signature.parameters.written.map Parameter.slot = style.formals method
  arguments : signature.arguments = style.arguments method

/-- Either signature takes and passes on what its style says, and can be read back. -/
theorem signature_source (hSpace : scope.space? = style.space?) {signature : Signature}
    (h : style.signature scope method = .ok signature) : SignatureSource style method signature := by
  have hNamespace := style.namespace_space?
  cases style with
  | positional =>
    obtain ⟨parameters, hParameters, h⟩ := bind_eq_ok.mp h
    obtain ⟨-, -, h⟩ := bind_eq_ok.mp h
    obtain rfl := pure_eq_ok.mp h
    -- checking that the parameters differ has no part in what is written
    obtain rfl := eq_map_of_mapM_eq_ok hParameters fun _ _ hWritten => parameter_eq hWritten
    rw [hSpace]
    -- a parameter for each field, with the identifier for its name
    have hName : ∀ field : Field, isIdentifier (paramIdent field.name) = true :=
      fun field => (bindable_paramIdent field.name).identifier
    constructor
    · exact fun _ h => TypeScript.Parameters.noConfusion h
    · refine List.forall_mem_map.mpr fun field _ => ⟨?_, hNamespace.worded field.type⟩
      dsimp only
      exact hName field
    · simp only [List.map_map, List.forall_mem_map, Function.comp_def]
      exact fun field _ => hName field
    · simp only [TypeScript.Parameters.written, Style.formals, List.map_map, Function.comp_def]
      rfl
    · simp only [Style.arguments, List.map_map, Function.comp_def]
  | namespaced =>
    simp only [Style.signature] at h
    split at h
    next hNone =>
      obtain rfl := pure_eq_ok.mp h
      -- without parameters there is no object, and nothing to pass on
      have hParams := List.isEmpty_iff.mp hNone
      refine ⟨fun _ h => TypeScript.Parameters.noConfusion h, fun _ h => absurd h List.not_mem_nil,
        fun _ h => absurd h List.not_mem_nil, ?_, ?_⟩
      · rw [Style.formals, if_pos hNone]
        rfl
      · rw [Style.arguments, hParams, List.map_nil]
    next hSome =>
      obtain ⟨-, -, h⟩ := bind_eq_ok.mp h
      obtain ⟨members, hMembers, h⟩ := bind_eq_ok.mp h
      obtain rfl := pure_eq_ok.mp h
      obtain rfl := Scope.members_eq hMembers
      rw [hSpace]
      have hWorded : (writtenType Style.namespaced.space? (.record method.params)).Worded :=
        hNamespace.worded (.record method.params)
      have hObject : isIdentifier paramsObject = true := rfl
      constructor
      -- the object has a member for each parameter, and there is one
      · intro name hEq
        have hNone := (TypeScript.Parameters.bundled.inj hEq).2
        rw [writtenMembers_eq_map, List.map_eq_nil_iff] at hNone
        exact hSome (List.isEmpty_iff.mpr hNone)
      · exact List.forall_mem_singleton.mpr ⟨hObject, hWorded⟩
      · exact List.forall_mem_map.mpr fun _ _ => hObject
      · rw [Style.formals, if_neg hSome]
        show [Slot.mk paramsObject (.object (TypeScript.memberSlots _)) false] = _
        rw [memberSlots_writtenMembers]
        rfl
      · rfl

/-- A result is written if there is a value to return, and then for the type of that value. -/
theorem result_eq {result? : Option Result} (h : result scope method = .ok result?) :
    result? = method.valueReturn?.map fun type => ⟨writtenType scope.space? type, method.returnsNullable⟩ := by
  rw [result] at h
  split at h
  next type hValue =>
    obtain ⟨expr, hType, h⟩ := bind_eq_ok.mp h
    obtain rfl := pure_eq_ok.mp h
    rw [hValue, Option.map_some, Scope.type_eq hType]
  next hValue =>
    obtain rfl := pure_eq_ok.mp h
    rw [hValue]
    rfl

/-- A method that is generated is written for the source that the style makes of it. -/
theorem clientMethod_source (hSpace : scope.space? = style.space?) {written : ClientMethod}
    (h : clientMethod style scope method = .ok written) :
    written.Readable ∧ written.source = style.source method ∧
      written.failures.isEmpty = method.errors.isEmpty := by
  have hNamespace := style.namespace_space?
  obtain ⟨signature, hSignature, h⟩ := bind_eq_ok.mp h
  obtain ⟨result?, hResult, h⟩ := bind_eq_ok.mp h
  obtain ⟨failures, hFailures, h⟩ := bind_eq_ok.mp h
  obtain rfl := pure_eq_ok.mp h
  have hTakes := signature_source hSpace hSignature
  obtain rfl := result_eq hResult
  -- there is a description for each error, so both lists are empty or neither is
  have hEmpty : failures.isEmpty = method.errors.isEmpty := by
    have hLength := (mapM_eq_ok_iff.mp hFailures).length_eq
    cases failures <;> cases hErrors : method.errors <;> simp_all
  refine ⟨⟨(bindable_bindingName style method).identifier, hTakes.members, hTakes.readable, hTakes.named,
    ?_, ?_⟩, ?_, hEmpty⟩
  -- what is left: the type of the result, the type of the exception, and the source itself
  · intro written hWritten
    obtain ⟨type, -, rfl⟩ := Option.map_eq_some_iff.mp hWritten
    rw [hSpace]
    exact hNamespace.worded type
  · rw [Scope.reference, hSpace]
    exact hNamespace.isWord (bindable_errorName method).identifier
  · have hRaised : ClientMethod.raised ⟨style.bindingName method, method.name, signature,
          method.valueReturn?.map fun type => ⟨writtenType scope.space? type, method.returnsNullable⟩,
          failures, scope.reference (errorName method)⟩ = style.raised method := by
      rw [ClientMethod.raised, Style.raised, hEmpty, Scope.reference, hSpace]
    rw [ClientMethod.source, Style.source, hTakes.formals, hTakes.arguments, hRaised, Style.returned?, hSpace]
    cases method.valueReturn? <;> rfl

end Methods

/-! ## Modules -/

section Modules

variable {manifest : Manifest} {clientName : String} {style : Style}

/-- The names that the module of a client declares. The function that makes exceptions is there if any
method declares errors. -/
def declaredNames (manifest : Manifest) (clientName : String) : List String :=
  ["AbiCallFailure", "AbiCallResult", "AbiCall", "AbiMethodError"]
    ++ (if manifest.methods.any (!·.errors.isEmpty) then ["methodError"] else [])
    ++ [safeIdent clientName]

/-- The imports of either style can be read back. A positional client leaves out the line for types if there
are no names to put on it. -/
theorem readable_imports (style : Style) (manifest : Manifest) :
    ∀ imported ∈ style.imports manifest, imported.Readable := by
  cases style with
  | positional =>
    refine List.forall_mem_cons.mpr ⟨trivial, ?_⟩
    split
    next => simp
    -- the names imported are identifiers for names of types, hence words
    next hSome =>
      have hNames : ∀ name ∈ namesUsed manifest, isIdentifier name = true := fun name hName =>
        (bindable_clientNames manifest name (mem_namesUsed.mp hName)).identifier
      exact List.forall_mem_singleton.mpr ⟨fun hNone => hSome (List.isEmpty_iff.mpr hNone), hNames⟩
  | namespaced =>
    have hSpace : isIdentifier typesNamespace = true := rfl
    exact List.forall_mem_cons.mpr ⟨hSpace, List.forall_mem_singleton.mpr trivial⟩

/-- A client that is generated is written for what the style makes of the manifest. -/
theorem clientModule_source {client : ClientModule}
    (h : clientModule manifest clientName style = .ok client) :
    client.Readable ∧ client.imports = style.imports manifest ∧
      client.methods.map ClientMethod.source = manifest.methods.map style.source ∧
        client.declared.flatten = declaredNames manifest clientName := by
  obtain ⟨-, -, h⟩ := bind_eq_ok.mp h
  obtain ⟨-, -, h⟩ := bind_eq_ok.mp h
  obtain ⟨methods, hMethods, h⟩ := bind_eq_ok.mp h
  obtain rfl := pure_eq_ok.mp h
  have hSource := fun method written => @clientMethod_source style _ method (style.space?_scope manifest) written
  have hReadable : ∀ written ∈ methods, written.Readable :=
    forall_mem_of_mapM_eq_ok hMethods fun method _ written hWritten => (hSource method written hWritten).1
  have hPairs := mapM_eq_ok_iff.mp hMethods
  -- the methods of the client are those of the manifest, one by one
  have hSources : manifest.methods.map style.source = methods.map ClientMethod.source :=
    map_eq_map_of_forall₂ hPairs fun method written hWritten => (hSource method written hWritten).2.1.symm
  have hFailures : manifest.methods.map (·.errors.isEmpty) = methods.map (·.failures.isEmpty) :=
    map_eq_map_of_forall₂ hPairs fun method written hWritten => (hSource method written hWritten).2.2.symm
  -- so the helper is there exactly if a method of the manifest declares errors
  have hAny : methods.any (!·.failures.isEmpty) = manifest.methods.any (!·.errors.isEmpty) := by
    have hNots := congrArg (List.any · not) hFailures
    rw [List.any_map, List.any_map] at hNots
    exact hNots.symm
  refine ⟨⟨readable_imports style manifest, (bindable_safeIdent clientName).identifier, hReadable⟩, rfl,
    hSources.symm, ?_⟩
  rw [ClientModule.declared, ClientModule.hasFailures, hAny, declaredNames]
  split <;> rfl

/-- The header of a module leaves no line of code. -/
theorem shows_headerSteps (manifest : Manifest) : TypeScript.Shows (headerSteps manifest) [] := by
  obtain ⟨origin, hash, hOrigin, hHash, hSteps⟩ := exists_headerSteps_eq manifest
  rw [hSteps]
  exact TypeScript.Shows.cons (TypeScript.showsStep_lineComment hOrigin)
    (TypeScript.shows_singleton (TypeScript.showsStep_lineComment hHash))

/-- What is read from the lines of code of a client. -/
structure ClientLines (manifest : Manifest) (clientName : String) (style : Style) (lines : List String) :
    Prop where
  methods : readMethods lines = some (manifest.methods.map style.source)
  imports : moduleImports lines = some (style.imports manifest)
  names : boundNames lines
    = some ((style.imports manifest).flatMap Import.bound ++ declaredNames manifest clientName)

/-- **Clients.** Whatever the names in a manifest are, the methods, the imports and the declarations
that are read from the text of a client are the ones that the manifest and the style call for. -/
theorem clientText_lines {text : String} (h : clientText manifest clientName style = .ok text) :
    ClientLines manifest clientName style (codeLines text) := by
  obtain ⟨client, hModule, h⟩ := bind_eq_ok.mp h
  obtain rfl := pure_eq_ok.mp h
  obtain ⟨hReadable, hImports, hMethods, hDeclared⟩ := clientModule_source hModule
  obtain ⟨lines, hShows, hReads⟩ := hReadable.exists_lines
  -- all steps are linewise, so the lines of the rendering are those that the steps show
  have hLinewise := linewise_moduleSteps manifest (ClientModule.closedSteps (clientModule_closed hModule))
  have hLines : codeLines (moduleText manifest client.steps) = lines :=
    TypeScript.codeLines_render hLinewise ((shows_headerSteps manifest).append hShows)
  rw [hLines]
  refine ⟨?_, ?_, ?_⟩
  · rw [hReads.methods, hMethods]
  · rw [hReads.moduleImports hReadable, hImports]
  · rw [hReads.boundNames hReadable, hImports, hDeclared]

end Modules

end AbiBindings.Bindings
