import AbiBindings.Bindings.Generate
import AbiBindings.Proofs.Manifest.Valid

/-!
# Bindings — what is declared can be written

A type is written in a scope, and the one thing that can be wrong with it there is a reference to a
type that is not declared. In a valid manifest there is no such reference, however deep in a type and
wherever the type stands, so everything but the checks on names succeeds.

* `Scope.Knows` — every reference among some nodes is declared;
* `Scope.exists_type` — a type all of whose nodes are known can be written;
* `exists_typesText_eq` — of the type declarations, nothing is left but the check of the claims;
* `exists_clientMethod_eq` — of a client method, nothing is left but the check of its parameters.
-/

namespace AbiBindings.Bindings

open Manifest (TypeRef TypeDef Field Variant ErrorCase Method Event payloadNodes fieldNodes)
open TypeScript (TypeExpr Member safeIdent)

/-! ## Known nodes -/

/-- Every reference among `nodes` is to a declared type. -/
def Scope.Knows (scope : Scope) (nodes : List (TypeRef × String)) : Prop :=
  ∀ node ∈ nodes, ∀ name, node.1 = .named name → name ∈ scope.declared

section Known

variable {scope : Scope} {location : String}

theorem Scope.knows_cons {node : TypeRef × String} {nodes : List (TypeRef × String)} :
    scope.Knows (node :: nodes) ↔
      (∀ name, node.1 = .named name → name ∈ scope.declared) ∧ scope.Knows nodes :=
  List.forall_mem_cons

theorem Scope.knows_append {nodes others : List (TypeRef × String)} :
    scope.Knows (nodes ++ others) ↔ scope.Knows nodes ∧ scope.Knows others :=
  List.forall_mem_append

theorem Scope.Knows.of_mem_flatMap {α : Type} {f : α → List (TypeRef × String)} {as : List α} {a : α}
    (h : scope.Knows (as.flatMap f)) (ha : a ∈ as) : scope.Knows (f a) :=
  fun node hNode => h node (List.mem_flatMap.mpr ⟨a, ha, hNode⟩)

mutual

/-- **Types.** A type all of whose nodes are known can be written, by recursion on the type. -/
theorem Scope.exists_type : ∀ {type : TypeRef} {location : String},
    scope.Knows (type.nodes location) → ∃ expr, scope.type type = .ok expr
  | .named name, location, h => by
    -- the reference itself is the one node, so it is declared
    have hDeclared : name ∈ scope.declared :=
      h (.named name, location) (by simp [TypeRef.nodes]) name rfl
    exact ⟨_, by rw [Scope.type, if_pos (by simpa using hDeclared)]⟩
  | .primitive _, _, _ => ⟨_, rfl⟩
  | .list items, location, h => by
    rw [TypeRef.nodes, Scope.knows_cons] at h
    obtain ⟨expr, hExpr⟩ := Scope.exists_type h.2
    exact ⟨.array expr, by rw [Scope.type, hExpr]; rfl⟩
  | .map key value, location, h => by
    rw [TypeRef.nodes, Scope.knows_cons, Scope.knows_append] at h
    obtain ⟨keyExpr, hKey⟩ := Scope.exists_type h.2.1
    obtain ⟨valueExpr, hValue⟩ := Scope.exists_type h.2.2
    exact ⟨.dictionary keyExpr valueExpr, by rw [Scope.type, hKey, hValue]; rfl⟩
  | .record fields, location, h => by
    rw [TypeRef.nodes, Scope.knows_cons] at h
    obtain ⟨members, hMembers⟩ := Scope.exists_members h.2
    exact ⟨.object members, by rw [Scope.type, hMembers]; rfl⟩

theorem Scope.exists_member : ∀ {field : Field} {location : String},
    scope.Knows (field.nodes location) → ∃ member, scope.member field = .ok member
  | ⟨name, type, nullable⟩, location, h => by
    rw [Field.nodes] at h
    obtain ⟨expr, hExpr⟩ := Scope.exists_type h
    exact ⟨⟨name, expr, nullable⟩, by rw [Scope.member, hExpr]; rfl⟩

theorem Scope.exists_members : ∀ {fields : List Field} {location : String},
    scope.Knows (fieldNodes location fields) → ∃ members, scope.members fields = .ok members
  | [], _, _ => ⟨[], rfl⟩
  | field :: rest, location, h => by
    rw [fieldNodes, Scope.knows_append] at h
    obtain ⟨member, hMember⟩ := Scope.exists_member h.1
    obtain ⟨members, hMembers⟩ := Scope.exists_members h.2
    exact ⟨member :: members, by rw [Scope.members, hMember, hMembers]; rfl⟩

end

/-- A payload can be written if there is none, or if its type can. -/
theorem Scope.exists_payload {payload? : Option TypeRef}
    (h : scope.Knows (payloadNodes location payload?)) :
    ∃ payload?', scope.payload payload? = .ok payload?' := by
  cases payload? with
  | none => exact ⟨none, rfl⟩
  | some type =>
    obtain ⟨expr, hExpr⟩ := Scope.exists_type h
    exact ⟨some expr, by rw [Scope.payload, hExpr]; rfl⟩

/-- Leaving a payload out does no harm. -/
theorem Scope.Knows.filter {payload? : Option TypeRef} (keep : TypeRef → Bool)
    (h : scope.Knows (payloadNodes location payload?)) :
    scope.Knows (payloadNodes location (payload?.filter keep)) := by
  cases payload? with
  | none => exact h
  | some type =>
    rw [Option.filter_some]
    split
    · exact h
    · intro node hNode
      simp [payloadNodes] at hNode

end Known

/-- The scope of a valid manifest knows all of its nodes. -/
theorem Scope.knows_nodes {manifest : Manifest} (hValid : manifest.Valid) {scope : Scope}
    (hDeclared : scope.declared = manifest.types.map (·.1)) : scope.Knows manifest.nodes := by
  intro node hNode name hName
  rw [hDeclared]
  exact hValid.resolved node hNode name hName

/-! ## Declarations -/

section Declarations

variable {scope : Scope} {location : String}

/-- A variant has an arm, with a payload unless that is `unit`. -/
theorem exists_variantArm {variant : Variant}
    (h : scope.Knows (payloadNodes location variant.payload?)) :
    ∃ arm, variantArm scope variant = .ok arm := by
  obtain ⟨payload?, hPayload⟩ := Scope.exists_payload (h.filter (!·.isUnit))
  exact ⟨_, by rw [variantArm, hPayload]; rfl⟩

theorem exists_errorArm {error : ErrorCase}
    (h : scope.Knows (payloadNodes location error.payload?)) :
    ∃ arm, errorArm scope error = .ok arm := by
  obtain ⟨payload?, hPayload⟩ := Scope.exists_payload h
  exact ⟨_, by rw [errorArm, hPayload]; rfl⟩

theorem exists_eventArm {event : Event} (h : scope.Knows event.nodes) :
    ∃ arm, eventArm scope event = .ok arm := by
  obtain ⟨payload?, hPayload⟩ := Scope.exists_payload h
  exact ⟨_, by rw [eventArm, hPayload]; rfl⟩

/-- An entry of the table has a declaration: an interface, a union, or a name for bytes. -/
theorem exists_entryDeclaration {entry : String × TypeDef}
    (h : scope.Knows (entry.2.nodes location)) :
    ∃ declaration, entryDeclaration scope entry = .ok declaration := by
  obtain ⟨name, definition⟩ := entry
  cases definition with
  | record fields =>
    obtain ⟨members, hMembers⟩ := Scope.exists_members h
    exact ⟨_, by rw [entryDeclaration, hMembers]; rfl⟩
  | variant variants =>
    have hArms : ∀ variant ∈ variants, ∃ arm, variantArm scope variant = .ok arm :=
      fun variant hVariant => exists_variantArm (h.of_mem_flatMap hVariant)
    -- the arms are written one by one, and each of them can be
    obtain ⟨arms, hArms⟩ := exists_mapM_eq_ok.mpr hArms
    exact ⟨_, by rw [entryDeclaration, hArms]; rfl⟩
  | bytes count? => exact ⟨_, rfl⟩

/-- Of the nodes of a method, those of its errors. -/
theorem Scope.Knows.errors {method : Method} (h : scope.Knows method.nodes) {error : ErrorCase}
    (hError : error ∈ method.errors) :
    scope.Knows (payloadNodes ("methods." ++ method.name ++ ".errors." ++ error.code)
      error.payload?) := by
  -- the errors come last, behind parameters and result
  rw [Method.nodes, Scope.knows_append, Scope.knows_append] at h
  exact h.2.2.of_mem_flatMap hError

/-- The errors of a method have their declarations. -/
theorem exists_errorDeclarations {method : Method} (h : scope.Knows method.nodes) :
    ∃ declarations, errorDeclarations scope method = .ok declarations := by
  obtain ⟨arms, hArms⟩ := exists_mapM_eq_ok.mpr fun error hError => exists_errorArm (h.errors hError)
  rw [errorDeclarations, hArms]
  split
  · exact ⟨_, rfl⟩
  · exact ⟨_, rfl⟩

/-- The payload of an event has one. -/
theorem exists_payloadDeclarations {event : Event} (h : scope.Knows event.nodes) :
    ∃ declarations, payloadDeclarations scope event = .ok declarations := by
  unfold payloadDeclarations
  rw [Event.nodes] at h
  cases hPayload : event.payload? with
  | none => exact ⟨_, rfl⟩
  | some type =>
    rw [hPayload] at h
    obtain ⟨expr, hExpr⟩ := Scope.exists_type h
    exact ⟨_, by simp only [hExpr]; rfl⟩

/-- All events together have one. -/
theorem exists_eventDeclarations {events : List Event}
    (h : ∀ event ∈ events, scope.Knows event.nodes) :
    ∃ declarations, eventDeclarations scope events = .ok declarations := by
  obtain ⟨arms, hArms⟩ := exists_mapM_eq_ok.mpr fun event hEvent => exists_eventArm (h event hEvent)
  rw [eventDeclarations, hArms]
  split
  · exact ⟨_, rfl⟩
  · exact ⟨_, rfl⟩

end Declarations

section Modules

variable {manifest : Manifest} (hValid : manifest.Valid)

include hValid

/-- A scope of the manifest knows the nodes of its methods. -/
theorem Scope.knows_method {scope : Scope} (hDeclared : scope.declared = manifest.types.map (·.1))
    {method : Method} (hMethod : method ∈ manifest.methods) : scope.Knows method.nodes := by
  have h := Scope.knows_nodes hValid hDeclared
  rw [Manifest.nodes, Scope.knows_append, Scope.knows_append] at h
  exact h.2.1.of_mem_flatMap hMethod

theorem Scope.knows_event {scope : Scope} (hDeclared : scope.declared = manifest.types.map (·.1))
    {event : Event} (hEvent : event ∈ manifest.events) : scope.Knows event.nodes := by
  have h := Scope.knows_nodes hValid hDeclared
  rw [Manifest.nodes, Scope.knows_append, Scope.knows_append] at h
  exact h.2.2.of_mem_flatMap hEvent

theorem Scope.knows_entry {scope : Scope} (hDeclared : scope.declared = manifest.types.map (·.1))
    {entry : String × TypeDef} (hEntry : entry ∈ manifest.types) :
    scope.Knows (entry.2.nodes ("types." ++ entry.1)) := by
  have h := Scope.knows_nodes hValid hDeclared
  rw [Manifest.nodes, Scope.knows_append] at h
  exact h.1.of_mem_flatMap hEntry

/-- Of the type declarations of a valid manifest, nothing is left but the check of the claims. -/
theorem exists_typesText_eq :
    ∃ text, typesText manifest = (fun _ => text) <$> checkClaims typesFile (typeClaims manifest) := by
  have hDeclared : (Scope.ofManifest manifest).declared = manifest.types.map (·.1) := rfl
  have hEvents : ∀ event ∈ manifest.events, (Scope.ofManifest manifest).Knows event.nodes :=
    fun event hEvent => Scope.knows_event hValid hDeclared hEvent
  -- each list of declarations can be written
  obtain ⟨entries, hEntries⟩ :
      ∃ entries, manifest.types.mapM (entryDeclaration (.ofManifest manifest)) = .ok entries :=
    exists_mapM_eq_ok.mpr fun entry hEntry =>
      exists_entryDeclaration (Scope.knows_entry hValid hDeclared hEntry)
  obtain ⟨errors, hErrors⟩ :
      ∃ errors, manifest.methods.mapM (errorDeclarations (.ofManifest manifest)) = .ok errors :=
    exists_mapM_eq_ok.mpr fun method hMethod =>
      exists_errorDeclarations (Scope.knows_method hValid hDeclared hMethod)
  obtain ⟨payloads, hPayloads⟩ :
      ∃ payloads, manifest.events.mapM (payloadDeclarations (.ofManifest manifest)) = .ok payloads :=
    exists_mapM_eq_ok.mpr fun event hEvent => exists_payloadDeclarations (hEvents event hEvent)
  obtain ⟨union, hUnion⟩ := exists_eventDeclarations hEvents
  refine ⟨moduleText manifest (TypeScript.declarationSteps
    (entries ++ errors.flatten ++ payloads.flatten ++ union)), ?_⟩
  rw [typesText, typeDeclarations]
  -- behind the check of the claims, every step is known to succeed
  cases checkClaims typesFile (typeClaims manifest) with
  | error e => rfl
  | ok _ =>
    dsimp only
    rw [hEntries, hErrors, hPayloads, hUnion]
    rfl

end Modules

/-! ## Client methods -/

/-- The names that must differ within a method: those of the parameters, or of the members of the
object that they come in. -/
def Style.parameterNames (style : Style) (method : Method) : List String :=
  match style with
  | .positional => method.params.map (paramIdent ·.name)
  | .namespaced => method.params.map (·.name)

section ClientMethods

variable {scope : Scope} {method : Method}

/-- The parameters of a positional method can be written, and have the names that are checked. -/
theorem exists_parameters {fields : List Field} {location : String}
    (h : scope.Knows (fieldNodes location fields)) :
    ∃ parameters, fields.mapM (parameter scope) = .ok parameters ∧
      parameters.map (·.name) = fields.map (paramIdent ·.name) := by
  induction fields with
  | nil => exact ⟨[], rfl, rfl⟩
  | cons field rest ih =>
    rw [fieldNodes, Scope.knows_append] at h
    obtain ⟨parameters, hParameters, hNames⟩ := ih h.2
    obtain ⟨expr, hExpr⟩ : ∃ expr, scope.type field.type = .ok expr := by
      obtain ⟨name, type, nullable⟩ := field
      rw [Field.nodes] at h
      exact Scope.exists_type h.1
    -- the field comes first, under the identifier for its name
    refine ⟨⟨paramIdent field.name, expr, field.nullable⟩ :: parameters, ?_, ?_⟩
    · rw [List.mapM_cons, parameter, hExpr, hParameters]
      rfl
    · rw [List.map_cons, List.map_cons, hNames]

/-- Of a signature, nothing is left but the check of the parameters. -/
theorem exists_signature_eq (style : Style) (h : scope.Knows method.nodes) :
    ∃ signature, style.signature scope method
      = (fun _ => signature) <$> checkParameters method (style.parameterNames method) := by
  -- of the nodes of the method only those of the parameters are needed
  rw [Method.nodes, Scope.knows_append] at h
  cases style with
  | positional =>
    obtain ⟨parameters, hParameters, hNames⟩ := exists_parameters h.1
    refine ⟨⟨.separate parameters, (parameters.map (·.name)).map .parameter⟩, ?_⟩
    rw [Style.parameterNames, Style.signature, hParameters, ← hNames]
    rfl
  | namespaced =>
    obtain ⟨members, hMembers⟩ := Scope.exists_members h.1
    rw [Style.parameterNames, Style.signature, hMembers]
    cases hParams : method.params with
    -- no parameter, no object, and no name to be checked
    | nil => exact ⟨⟨.separate [], []⟩, rfl⟩
    | cons field rest =>
      refine ⟨⟨.bundled paramsObject members,
        (field :: rest).map (.property paramsObject ·.name)⟩, ?_⟩
      rw [if_neg (by simp)]
      cases checkParameters method ((field :: rest).map (·.name)) <;> rfl

/-- The result of a method can be written; a method that returns `unit` has none. -/
theorem exists_result (h : scope.Knows method.nodes) :
    ∃ result?, result scope method = .ok result? := by
  rw [Method.nodes, Scope.knows_append, Scope.knows_append] at h
  -- a value is returned if it is not `unit`, and then the scope knows it too
  have hReturn := h.2.1.filter (!·.isUnit)
  unfold result
  rw [Method.valueReturn?]
  cases hValue : method.returns?.filter (!·.isUnit) with
  | none => exact ⟨none, rfl⟩
  | some type =>
    rw [hValue] at hReturn
    obtain ⟨expr, hExpr⟩ := Scope.exists_type hReturn
    exact ⟨_, by simp only [hExpr]; rfl⟩

theorem exists_failures (h : scope.Knows method.nodes) :
    ∃ failures, method.errors.mapM (failure scope) = .ok failures := by
  refine exists_mapM_eq_ok.mpr fun error hError => ?_
  obtain ⟨payload?, hPayload⟩ := Scope.exists_payload (h.errors hError)
  exact ⟨_, by rw [failure, hPayload]; rfl⟩

/-- Of a client method, nothing is left but the check of its parameters. -/
theorem exists_clientMethod_eq (style : Style) (h : scope.Knows method.nodes) :
    ∃ written, clientMethod style scope method
      = (fun _ => written) <$> checkParameters method (style.parameterNames method) := by
  obtain ⟨signature, hSignature⟩ := exists_signature_eq style h
  obtain ⟨result?, hResult⟩ := exists_result h
  obtain ⟨failures, hFailures⟩ := exists_failures h
  refine ⟨⟨style.bindingName method, method.name, signature, result?, failures,
    scope.reference (errorName method)⟩, ?_⟩
  rw [clientMethod, hSignature, hResult, hFailures]
  cases checkParameters method (style.parameterNames method) <;> rfl

end ClientMethods

end AbiBindings.Bindings
