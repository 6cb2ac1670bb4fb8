import AbiBindings.Proofs.Bindings.ModuleBody
import Mathlib.Data.List.Sort

/-!
# Bindings — what the bindings do not distinguish

A manifest says more than its bindings show: which numbers a type holds, that a payload or a result is a
`unit`, that nothing is said about errors, that no value may be null. Erasing forgets all of this. Each
function that generation consists of gives the same for a manifest and for its erasure, so generation cannot
tell two manifests apart that have the same erasure.

* `Manifest.erased` — a manifest without what is not shown;
* `Scope.type_erased`, `clientMethod_erased`, … — one lemma for each function that looks at a manifest;
* `typeDeclarations_erased`, `clientModule_erased` — what is laid out is the same;
* `generate_erased` — two manifests with the same erasure are refused with the same error, or have
  bindings that differ in the line of the fingerprint alone.
-/

namespace AbiBindings.Manifest

/-! ## Erasing -/

/-- All types of numbers are made one of them. -/
def Primitive.erased (type : Primitive) : Primitive := if type.isNumeric then .f64 else type

mutual

/-- A type in which the types of numbers are not told apart. -/
def TypeRef.erased : TypeRef → TypeRef
  | .named name => .named name
  | .primitive type => .primitive type.erased
  | .list items => .list items.erased
  | .map key value => .map key.erased value.erased
  | .record fields => .record (erasedFields fields)

/-- The same for the type of a field. -/
def Field.erased : Field → Field
  | ⟨name, type, nullable⟩ => ⟨name, type.erased, nullable⟩

/-- The same for the types of several fields. -/
def erasedFields : List Field → List Field
  | [] => []
  | field :: rest => field.erased :: erasedFields rest

end

/-- A variant whose payload is left out if it is a `unit`. -/
def Variant.erased (variant : Variant) : Variant :=
  ⟨variant.name, (variant.payload?.filter (!·.isUnit)).map TypeRef.erased⟩

/-- A definition, erased in its fields or its variants. -/
def TypeDef.erased : TypeDef → TypeDef
  | .record fields => .record (fields.map Field.erased)
  | .variant variants => .variant (variants.map Variant.erased)
  | .bytes count? => .bytes count?

/-- An error case, erased in its payload. -/
def ErrorCase.erased (error : ErrorCase) : ErrorCase := ⟨error.code, error.payload?.map TypeRef.erased⟩

/-- A method that returns nothing instead of a `unit`, with a list of errors even if it is empty. Without a
value nothing is said about null. -/
def Method.erased (method : Method) : Method where
  name := method.name
  params := method.params.map Field.erased
  returns? := method.valueReturn?.map TypeRef.erased
  returnsNullable := method.valueReturn?.isSome && method.returnsNullable
  declaredErrors? := some (method.errors.map ErrorCase.erased)

/-- An event, erased in its payload. -/
def Event.erased (event : Event) : Event := ⟨event.name, event.payload?.map TypeRef.erased⟩

/-- A manifest without what its bindings do not show. -/
def erased (manifest : Manifest) : Manifest where
  types := manifest.types.map fun entry => (entry.1, entry.2.erased)
  methods := manifest.methods.map Method.erased
  events := manifest.events.map Event.erased

theorem erasedFields_eq_map (fields : List Field) : erasedFields fields = fields.map Field.erased := by
  induction fields with
  | nil => rfl
  | cons field rest ih => rw [erasedFields, ih, List.map_cons]

@[simp] theorem Field.name_erased (field : Field) : field.erased.name = field.name := by
  cases field
  rfl

@[simp] theorem Field.type_erased (field : Field) : field.erased.type = field.type.erased := by
  cases field
  rfl

/-- A `unit` is no number, so erasing neither makes one nor hides one. -/
@[simp] theorem TypeRef.isUnit_erased (type : TypeRef) : type.erased.isUnit = type.isUnit := by
  cases type with
  | primitive type => cases type <;> rfl
  | _ => rfl

/-- What is left out once is not left out again. -/
@[simp] theorem TypeRef.filter_erased (type? : Option TypeRef) :
    ((type?.filter (!·.isUnit)).map TypeRef.erased).filter (!·.isUnit)
      = (type?.filter (!·.isUnit)).map TypeRef.erased := by
  cases type? with
  | none => rfl
  -- a type is a `unit` exactly if its erasure is
  | some type => cases hUnit : type.isUnit <;> simp [Option.filter, hUnit]

/-- A method returns a value exactly if its erasure does, and then the erased one. -/
@[simp] theorem Method.valueReturn?_erased (method : Method) :
    method.erased.valueReturn? = method.valueReturn?.map TypeRef.erased :=
  TypeRef.filter_erased method.returns?

@[simp] theorem Method.errors_erased (method : Method) :
    method.erased.errors = method.errors.map ErrorCase.erased := rfl

end AbiBindings.Manifest

namespace AbiBindings.Bindings

open Manifest (TypeRef Field Variant TypeDef ErrorCase Method Event Primitive erasedFields erasedFields_eq_map)
open TypeScript (safeIdent)

/-- Steps that give the same for an element and for what becomes of it give the same for a whole list. -/
theorem mapM_map_eq {ε α β : Type} {f : α → Except ε β} {change : α → α} (h : ∀ a, f (change a) = f a)
    (as : List α) : (as.map change).mapM f = as.mapM f := by
  rw [List.mapM_map]
  exact congrArg (as.mapM ·) (funext h)

/-! ## Types -/

/-- All types of numbers are written alike. -/
theorem builtin_erased (type : Primitive) : builtin type.erased = builtin type := by
  cases type <;> rfl

section Scope

variable (scope : Scope)

mutual

/-- A scope writes the same for a type and for its erasure, and so for a field and for the fields of a
record. -/
theorem Scope.type_erased : ∀ type : TypeRef, scope.type type.erased = scope.type type
  | .named _ => rfl
  | .primitive type => by rw [TypeRef.erased, Scope.type, Scope.type, builtin_erased]
  | .list items => by rw [TypeRef.erased, Scope.type, Scope.type, Scope.type_erased items]
  | .map key value => by
    rw [TypeRef.erased, Scope.type, Scope.type, Scope.type_erased key, Scope.type_erased value]
  | .record fields => by rw [TypeRef.erased, Scope.type, Scope.type, Scope.members_erasedFields fields]

theorem Scope.member_erased : ∀ field : Field, scope.member field.erased = scope.member field
  | ⟨_, type, _⟩ => by rw [Field.erased, Scope.member, Scope.member, Scope.type_erased type]

theorem Scope.members_erasedFields : ∀ fields : List Field,
    scope.members (erasedFields fields) = scope.members fields
  | [] => rfl
  | field :: rest => by
    rw [erasedFields, Scope.members, Scope.members, Scope.member_erased field,
      Scope.members_erasedFields rest]

end

theorem Scope.members_erased (fields : List Field) :
    scope.members (fields.map Field.erased) = scope.members fields := by
  rw [← erasedFields_eq_map, Scope.members_erasedFields]

theorem Scope.payload_erased (payload? : Option TypeRef) :
    scope.payload (payload?.map TypeRef.erased) = scope.payload payload? := by
  cases payload? with
  | none => rfl
  | some type => rw [Option.map_some, Scope.payload, Scope.payload, Scope.type_erased]

end Scope

/-! ## The module of types -/

/-- Names are claimed for what is declared, however it is defined. -/
theorem typeClaims_erased (manifest : Manifest) : typeClaims manifest.erased = typeClaims manifest := by
  simp only [typeClaims, Manifest.erased, List.map_map, List.filter_map, List.flatMap_map, List.isEmpty_map,
    Function.comp_def, Method.errors_erased, Event.erased, Option.isSome_map]
  rfl

/-- The scope of a manifest knows the names of types alone. -/
theorem ofManifest_erased (manifest : Manifest) : Scope.ofManifest manifest.erased = .ofManifest manifest := by
  simp only [Scope.ofManifest, Manifest.erased, List.map_map, Function.comp_def]

section Declarations

variable (scope : Scope)

/-- A variant with a `unit` for its payload has the arm of one without. -/
theorem variantArm_erased (variant : Variant) : variantArm scope variant.erased = variantArm scope variant := by
  rw [variantArm, Variant.erased, TypeRef.filter_erased, Scope.payload_erased]
  rfl

theorem errorArm_erased (error : ErrorCase) : errorArm scope error.erased = errorArm scope error := by
  rw [errorArm, ErrorCase.erased, Scope.payload_erased]
  rfl

theorem eventArm_erased (event : Event) : eventArm scope event.erased = eventArm scope event := by
  rw [eventArm, Event.erased, Scope.payload_erased]
  rfl

/-- An entry is declared under its name, by what its erasure is declared by. -/
theorem entryDeclaration_erased (entry : String × TypeDef) :
    entryDeclaration scope (entry.1, entry.2.erased) = entryDeclaration scope entry := by
  obtain ⟨name, definition⟩ := entry
  cases definition with
  | record fields => rw [TypeDef.erased, entryDeclaration, entryDeclaration, Scope.members_erased]
  | variant variants =>
    rw [TypeDef.erased, entryDeclaration, entryDeclaration, mapM_map_eq (variantArm_erased scope)]
  | bytes count? => rfl

theorem errorDeclarations_erased (method : Method) :
    errorDeclarations scope method.erased = errorDeclarations scope method := by
  have hCodes : (method.errors.map ErrorCase.erased).map (·.code) = method.errors.map (·.code) :=
    List.map_map.trans rfl
  rw [errorDeclarations, errorDeclarations, Method.errors_erased, List.isEmpty_map, hCodes,
    mapM_map_eq (errorArm_erased scope)]
  rfl

/-- A payload is declared for an event by its type. -/
theorem payloadDeclarations_erased (event : Event) :
    payloadDeclarations scope event.erased = payloadDeclarations scope event := by
  rw [payloadDeclarations, payloadDeclarations, Event.erased]
  cases event.payload? with
  | none => rfl
  | some type =>
    simp only [Option.map_some, Scope.type_erased]
    rfl

theorem eventDeclarations_erased (events : List Event) :
    eventDeclarations scope (events.map Event.erased) = eventDeclarations scope events := by
  rw [eventDeclarations, eventDeclarations, List.isEmpty_map, mapM_map_eq (eventArm_erased scope)]

end Declarations

/-- **Types.** The declarations for a manifest are those for its erasure. -/
theorem typeDeclarations_erased (manifest : Manifest) :
    typeDeclarations manifest.erased = typeDeclarations manifest := by
  rw [typeDeclarations, typeDeclarations, typeClaims_erased, ofManifest_erased]
  -- part by part, a list of what is erased
  simp only [Manifest.erased]
  rw [List.mapM_map, mapM_map_eq (errorDeclarations_erased _), mapM_map_eq (payloadDeclarations_erased _),
    eventDeclarations_erased]
  simp only [Function.comp_def, entryDeclaration_erased]

/-! ## The client -/

section Client

variable (style : Style) (scope : Scope)

/-- A client claims the names of the types and fixed ones. -/
theorem clientClaims_erased (manifest : Manifest) (clientName : String) :
    clientClaims manifest.erased clientName style = clientClaims manifest clientName style := by
  rw [clientClaims, clientClaims, typeClaims_erased]

/-- Bindings are derived from names, so the method that repeats one is the same. -/
theorem firstSharedBinding?_erased (methods : List Method) : ∀ seen : List String,
    firstSharedBinding? style seen (methods.map Method.erased)
      = (firstSharedBinding? style seen methods).map Method.erased := by
  -- the binding is made of the name alone, in either style
  have hBinding : ∀ method : Method, style.bindingName method.erased = style.bindingName method := by
    intro method
    cases style <;> rfl
  induction methods with
  | nil => exact fun _ => rfl
  | cons method rest ih =>
    intro seen
    rw [List.map_cons, firstSharedBinding?, firstSharedBinding?, hBinding, ih]
    split <;> rfl

theorem checkBindings_erased (methods : List Method) :
    checkBindings style (methods.map Method.erased) = checkBindings style methods := by
  rw [checkBindings, checkBindings, firstSharedBinding?_erased]
  -- the error names the method, and erasing keeps its name
  cases firstSharedBinding? style [] methods with
  | none => rfl
  | some method => cases style <;> rfl

/-- In both styles a scope looks at the names of types. -/
theorem scope_erased (manifest : Manifest) : style.scope manifest.erased = style.scope manifest := by
  cases style with
  | positional => exact ofManifest_erased manifest
  | namespaced => exact congrArg (·.within typesNamespace) (ofManifest_erased manifest)

theorem parameter_erased (field : Field) : parameter scope field.erased = parameter scope field := by
  obtain ⟨name, type, nullable⟩ := field
  rw [parameter, Field.erased, Scope.type_erased]
  rfl

/-- A signature is made of the names and the types of the parameters. -/
theorem signature_erased (method : Method) :
    style.signature scope method.erased = style.signature scope method := by
  cases style with
  | positional =>
    rw [Style.signature, Style.signature, Method.erased, mapM_map_eq (parameter_erased scope)]
    rfl
  | namespaced =>
    -- the names of the members are read too, and they are kept
    simp only [Style.signature, Method.erased, List.isEmpty_map, List.map_map, Function.comp_def,
      Field.name_erased, Scope.members_erased]
    rfl

/-- Whether a value may be null is only looked at if there is one. -/
theorem result_erased (method : Method) : result scope method.erased = result scope method := by
  rw [result, result, Method.valueReturn?_erased]
  cases hValue : method.valueReturn? with
  -- here erasing may have changed the flag, and nothing reads it
  | none => rfl
  | some type =>
    simp only [Option.map_some, Scope.type_erased, Method.erased, hValue, Option.isSome_some, Bool.true_and]

theorem failure_erased (error : ErrorCase) : failure scope error.erased = failure scope error := by
  rw [failure, ErrorCase.erased, Scope.payload_erased]
  rfl

/-- **Methods.** The client method for a method is that for its erasure. -/
theorem clientMethod_erased (method : Method) :
    clientMethod style scope method.erased = clientMethod style scope method := by
  rw [clientMethod, clientMethod, signature_erased, result_erased, Method.errors_erased,
    mapM_map_eq (failure_erased scope)]
  -- the binding and the name in the ABI come from the name of the method
  cases style <;> rfl

end Client

/-! ## Imports -/

mutual

/-- A type and its erasure name the same declarations, and so do fields and theirs. -/
theorem refs_erased : ∀ type : TypeRef, type.erased.refs = type.refs
  | .named _ => rfl
  | .primitive _ => rfl
  | .list items => by rw [TypeRef.erased, TypeRef.refs, TypeRef.refs, refs_erased items]
  | .map key value => by
    rw [TypeRef.erased, TypeRef.refs, TypeRef.refs, refs_erased key, refs_erased value]
  | .record fields => by rw [TypeRef.erased, TypeRef.refs, TypeRef.refs, fieldRefs_erased fields]

theorem refs_erasedField : ∀ field : Field, field.erased.refs = field.refs
  | ⟨_, type, _⟩ => by rw [Field.erased, Field.refs, Field.refs, refs_erased type]

theorem fieldRefs_erased : ∀ fields : List Field,
    Manifest.fieldRefs (erasedFields fields) = Manifest.fieldRefs fields
  | [] => rfl
  | field :: rest => by
    rw [erasedFields, Manifest.fieldRefs, Manifest.fieldRefs, refs_erasedField field, fieldRefs_erased rest]

end

/-- A method and its erasure name the same declarations. -/
theorem methodNames_erased (method : Method) : methodNames method.erased = methodNames method := by
  have hType : ∀ type : TypeRef, typeNames type.erased = typeNames type := by
    intro type
    rw [typeNames, typeNames, refs_erased]
  -- what is returned, if it is more than a `unit`
  have hValue : (method.valueReturn?.map TypeRef.erased).elim [] typeNames
      = method.valueReturn?.elim [] typeNames := by
    cases method.valueReturn? with
    | none => rfl
    | some type => exact hType type
  rw [methodNames, methodNames, Method.valueReturn?_erased, hValue, Method.errors_erased, List.isEmpty_map]
  simp only [Method.erased, List.flatMap_map, Field.type_erased, hType]
  rfl

/-- The names that are imported are known from their set, and that is not changed by erasing. -/
theorem namesUsed_erased (manifest : Manifest) : namesUsed manifest.erased = namesUsed manifest := by
  have hNames : clientNames manifest.erased = clientNames manifest := by
    simp only [clientNames, Manifest.erased, List.flatMap_map, methodNames_erased]
  refine List.Pairwise.eq_of_mem_iff (pairwise_namesUsed manifest.erased) (pairwise_namesUsed manifest) ?_
  -- both lists are sorted, so it is enough that they have the same names
  intro name
  rw [mem_namesUsed, mem_namesUsed, hNames]

theorem imports_erased (style : Style) (manifest : Manifest) :
    style.imports manifest.erased = style.imports manifest := by
  cases style with
  | positional => rw [Style.imports, Style.imports, namesUsed_erased]
  | namespaced => rfl

/-- **Clients.** The client class for a manifest is that for its erasure. -/
theorem clientModule_erased (manifest : Manifest) (clientName : String) (style : Style) :
    clientModule manifest.erased clientName style = clientModule manifest clientName style := by
  -- what is checked first, then what is laid out
  rw [clientModule, clientModule, clientClaims_erased, imports_erased, scope_erased]
  simp only [Manifest.erased]
  rw [checkBindings_erased, mapM_map_eq (clientMethod_erased style _)]

/-! ## Two runs -/

/-- Which error is reported is decided by the declarations, and by the client class if there are any. -/
theorem generate_error_iff {manifest : Manifest} {clientName : String} {style : Style} {e : GenerateError} :
    generate manifest clientName style = .error e ↔
      typeDeclarations manifest = .error e ∨
        (∃ declarations, typeDeclarations manifest = .ok declarations) ∧
          clientModule manifest clientName style = .error e := by
  -- laying out cannot fail, so a text fails exactly as what it is the text of
  have hTypes : typesText manifest = .error e ↔ typeDeclarations manifest = .error e := bind_pure_eq_error
  have hClient : clientText manifest clientName style = .error e ↔
      clientModule manifest clientName style = .error e := bind_pure_eq_error
  have hSome : (∃ text, typesText manifest = .ok text) ↔
      ∃ declarations, typeDeclarations manifest = .ok declarations := by
    simp only [typesText, bind_eq_ok, pure_eq_ok]
    constructor
    · intro h
      obtain ⟨-, declarations, hDeclarations, -⟩ := h
      exact ⟨declarations, hDeclarations⟩
    · intro h
      obtain ⟨declarations, hDeclarations⟩ := h
      exact ⟨_, declarations, hDeclarations, rfl⟩
  rw [generate, bind_eq_error, hTypes, ← hSome]
  simp only [bind_pure_eq_error, hClient, exists_and_right]

/-- **Erasure.** Two manifests that differ only in what their bindings do not show cannot be told apart by
generating bindings, in whatever style and under whatever name. Generation fails for one with the error with
which it fails for the other, and where it succeeds, both modules of one are those of the other but for the
line of the fingerprint. -/
theorem generate_erased {a b : Manifest} (hErased : a.erased = b.erased) (clientName : String) (style : Style) :
    (∀ e, generate a clientName style = .error e ↔ generate b clientName style = .error e) ∧
      ∀ generated, generate a clientName style = .ok generated →
        ∃ other, generate b clientName style = .ok other ∧
          SameBody a b generated.types other.types ∧ SameBody a b generated.client other.client := by
  have hTypes : typeDeclarations a = typeDeclarations b := by
    rw [← typeDeclarations_erased a, hErased, typeDeclarations_erased b]
  have hClient : clientModule a clientName style = clientModule b clientName style := by
    rw [← clientModule_erased a, hErased, clientModule_erased b]
  refine ⟨fun e => ?_, fun generated h => ?_⟩
  -- the same error, since each of the two parts fails alike
  · rw [generate_error_iff, generate_error_iff, hTypes, hClient]
  · obtain ⟨hTypesText, hClientText⟩ := generate_eq_ok.mp h
    obtain ⟨declarations, hDeclarations, -⟩ := bind_eq_ok.mp hTypesText
    obtain ⟨written, hModule, -⟩ := bind_eq_ok.mp hClientText
    -- what is laid out for one is laid out for the other
    obtain ⟨otherTypes, hOtherTypes, hSameTypes⟩ :=
      exists_typesText_sameBody hDeclarations (hTypes.symm.trans hDeclarations) hTypesText
    obtain ⟨otherClient, hOtherClient, hSameClient⟩ :=
      exists_clientText_sameBody hModule (hClient.symm.trans hModule) hClientText
    exact ⟨⟨otherTypes, otherClient⟩, generate_eq_ok.mpr ⟨hOtherTypes, hOtherClient⟩, hSameTypes, hSameClient⟩

/-- A manifest that says more than its bindings show. -/
def verboseManifest : Manifest where
  types := [
    ("sample", .record [⟨"values", .map (.primitive .string) (.list (.primitive .u32)), true⟩]),
    ("state", .variant [⟨"idle", some (.primitive .unit)⟩, ⟨"busy", some (.named "sample")⟩])]
  methods := [
    ⟨"reset", [⟨"after", .primitive .i64, false⟩], some (.primitive .unit), true, some []⟩,
    ⟨"read", [], some (.record [⟨"sample", .named "sample", false⟩]), true,
      some [⟨"late", some (.primitive .u64)⟩]⟩]
  events := [⟨"tick", some (.primitive .u32)⟩]

/-- A manifest with the same bindings that does not. -/
def terseManifest : Manifest where
  types := [
    ("sample", .record [⟨"values", .map (.primitive .string) (.list (.primitive .f64)), true⟩]),
    ("state", .variant [⟨"idle", none⟩, ⟨"busy", some (.named "sample")⟩])]
  methods := [
    ⟨"reset", [⟨"after", .primitive .f32, false⟩], none, false, none⟩,
    ⟨"read", [], some (.record [⟨"sample", .named "sample", false⟩]), true,
      some [⟨"late", some (.primitive .i32)⟩]⟩]
  events := [⟨"tick", some (.primitive .f64)⟩]

/-- A run on either of the two is a run on the other. -/
theorem verboseManifest_sameBody :
    verboseManifest.erased = terseManifest.erased ∧
      ∃ generated other, generate verboseManifest "Client" .positional = .ok generated ∧
        generate terseManifest "Client" .positional = .ok other ∧
        SameBody verboseManifest terseManifest generated.types other.types ∧
        SameBody verboseManifest terseManifest generated.client other.client := by
  have hErased : verboseManifest.erased = terseManifest.erased := rfl
  have hGenerated : ∃ generated, generate verboseManifest "Client" .positional = .ok generated := ⟨_, rfl⟩
  obtain ⟨generated, h⟩ := hGenerated
  obtain ⟨-, hSame⟩ := generate_erased hErased "Client" .positional
  obtain ⟨other, hOther, hTypes, hClient⟩ := hSame generated h
  exact ⟨hErased, generated, other, h, hOther, hTypes, hClient⟩

end AbiBindings.Bindings
