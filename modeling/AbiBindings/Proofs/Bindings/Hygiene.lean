import AbiBindings.Proofs.Bindings.References

/-!
# Bindings — scope hygiene of a client

Names meet in several scopes of a client: in the module, in the class, and in each method. The checks
before generation, and the way in which identifiers are derived, keep them apart in each scope.

* `moduleNames` — all names that the module of a client may bind;
* `ModuleHygiene`, `moduleHygiene` — they differ, from each other, from the global exception, and from
  what the module of types exports unless it is imported from there;
* `ClassHygiene`, `MethodHygiene` — the same for the methods of the class, and for what a method takes;
* `clientText_hygiene` — hygiene of what is read from the text.
-/

namespace AbiBindings.Bindings

open Manifest (Method)
open TypeScript (Bindable Import MethodSource Slot bindable_safeIdent boundNames codeLines exportedNames
  moduleImports readMethods safeIdent)

/-! ## The module -/

/-- The names that the module of a client may bind: those of its imports, those of its support code,
and that of the class. -/
def moduleNames (imports : List Import) (clientName : String) : List String :=
  imports.flatMap Import.bound ++ supportNames ++ [safeIdent clientName]

/-- Those of them that the module of types does not export: the namespace for it, if there is one, the
support code, and the class. -/
def ownNames (style : Style) (clientName : String) : List String :=
  style.importedNames ++ supportNames ++ [safeIdent clientName]

/-- Names that differ, among which is none for the global exception, and none that is exported beside
the module except by being imported from there. -/
structure ModuleHygiene (imports : List Import) (exported names : List String) : Prop where
  distinct : names.Nodup
  global : globalError ∉ names
  imported : ∀ name ∈ names, name ∈ exported → ∃ listed, .types listed ∈ imports ∧ name ∈ listed

section Module

variable {manifest : Manifest} {clientName : String} {style : Style}

/-- The declarations that a client of this style imports one by one. -/
def Style.listed (style : Style) (manifest : Manifest) : List String :=
  match style with
  | .positional => namesUsed manifest
  | .namespaced => []

/-- What the imports bind are the declarations that they list, and the namespace if there is one. -/
theorem bound_imports (style : Style) (manifest : Manifest) :
    (style.imports manifest).flatMap Import.bound = style.listed manifest ++ style.importedNames := by
  cases style with
  | positional =>
    rw [Style.imports, Style.listed, Style.importedNames, List.append_nil]
    cases namesUsed manifest with
    | nil => rfl
    | cons name names => exact List.append_nil _
  | namespaced => rfl

/-- A declaration that is listed is listed in one of the imports. -/
theorem exists_listed {name : String} (h : name ∈ style.listed manifest) :
    ∃ listed, .types listed ∈ style.imports manifest ∧ name ∈ listed := by
  cases style with
  | positional =>
    refine ⟨namesUsed manifest, ?_, h⟩
    have hSome : namesUsed manifest ≠ [] := List.ne_nil_of_mem h
    rw [Style.imports, if_neg (by simpa using hSome)]
    exact List.mem_cons_of_mem _ (List.mem_singleton_self _)
  | namespaced => exact absurd h List.not_mem_nil

/-- What is listed differs, and is claimed by the module of types. -/
theorem listed_claimed (hValid : manifest.Valid) (style : Style) :
    (style.listed manifest).Nodup ∧
      ∀ name ∈ style.listed manifest, name ∈ (typeClaims manifest).map Claim.name := by
  cases style with
  | positional =>
    refine ⟨(pairwise_namesUsed manifest).imp fun h => String.ne_of_lt h, fun name hName => ?_⟩
    exact claimed_clientNames hValid name (mem_namesUsed.mp hName)
  | namespaced => exact ⟨List.nodup_nil, fun name h => absurd h List.not_mem_nil⟩

/-- The names of a module are those that it imports one by one, and those of its own. -/
theorem moduleNames_eq (style : Style) (manifest : Manifest) (clientName : String) :
    moduleNames (style.imports manifest) clientName = style.listed manifest ++ ownNames style clientName := by
  rw [moduleNames, bound_imports, ownNames, List.append_assoc, List.append_assoc, List.append_assoc]

/-- The names that a client claims are those that the module of types exports, the global exception, and
those of its own. -/
theorem perm_clientClaims (manifest : Manifest) (clientName : String) (style : Style) :
    ((clientClaims manifest clientName style).map Claim.name).Perm
      ((typeClaims manifest).map Claim.name ++ globalError :: ownNames style clientName) := by
  have hNames : ∀ (names : List String) (origin : Origin),
      (names.map (⟨·, origin⟩ : String → Claim)).map Claim.name = names := by
    intro names origin
    rw [List.map_map]
    exact List.map_id' names
  rw [clientClaims, List.map_append, List.map_append, List.map_append, hNames, hNames, List.map_cons,
    List.map_singleton, List.append_assoc, List.append_assoc]
  -- the global exception is claimed just before the class
  have hPerm : (style.importedNames ++ supportNames ++ [globalError, safeIdent clientName]).Perm
      (globalError :: ownNames style clientName) := List.perm_middle
  rw [List.append_assoc] at hPerm
  exact hPerm.append_left _

/-- **Module.** If no name is claimed twice, the names of the module are kept apart. -/
theorem moduleHygiene (hValid : manifest.Valid)
    (hClaims : ((clientClaims manifest clientName style).map Claim.name).Nodup) :
    ModuleHygiene (style.imports manifest) ((typeClaims manifest).map Claim.name)
      (moduleNames (style.imports manifest) clientName) := by
  rw [(perm_clientClaims manifest clientName style).nodup_iff, List.nodup_append, List.nodup_cons] at hClaims
  obtain ⟨-, ⟨hGlobal, hOwn⟩, hApart⟩ := hClaims
  obtain ⟨hDistinct, hListed⟩ := listed_claimed hValid style
  rw [moduleNames_eq]
  constructor
  · refine List.nodup_append.mpr ⟨hDistinct, hOwn, fun name hName other hOther => ?_⟩
    -- what is listed is claimed by the module of types, and so by nothing else
    exact hApart name (hListed name hName) other (List.mem_cons_of_mem _ hOther)
  · refine List.not_mem_append (fun hName => ?_) hGlobal
    exact hApart globalError (hListed globalError hName) globalError List.mem_cons_self rfl
  · intro name hName hExported
    rcases List.mem_append.mp hName with hImported | hMem
    · exact exists_listed hImported
    -- a name of its own is not exported by the module of types
    · exact absurd rfl (hApart name hExported name (List.mem_cons_of_mem _ hMem))

end Module

/-! ## The class and its methods -/

/-- What a method takes is kept apart: parameters from each other and from what the body uses, or the
members of the one object that it takes. -/
def MethodHygiene (style : Style) (source : MethodSource) : Prop :=
  match style with
  | .positional => (source.formals.map Slot.name).Nodup ∧
    ∀ formal ∈ source.formals, Bindable formal.name ∧ formal.name ∉ bodyNames
  | .namespaced => source.formals = [] ∨ ∃ members : List Slot,
    source.formals = [⟨paramsObject, .object members, false⟩] ∧ (members.map Slot.name).Nodup

/-- The methods of a class differ, in their names and in what they call. -/
structure ClassHygiene (style : Style) (sources : List MethodSource) : Prop where
  bindable : ∀ source ∈ sources, Bindable source.binding
  bindings : (sources.map MethodSource.binding).Nodup
  callees : (sources.map MethodSource.callee).Nodup
  methods : ∀ source ∈ sources, MethodHygiene style source

section Class

variable {style : Style}

/-- **Method.** If the parameters of a method differ, what it takes is kept apart. -/
theorem methodHygiene {method : Method} (h : (style.parameterNames method).Nodup) :
    MethodHygiene style (style.source method) := by
  cases style with
  | positional =>
    have hNames : (Style.positional.source method).formals.map Slot.name
        = Style.positional.parameterNames method := Style.names_formals method
    refine ⟨by rwa [hNames], fun formal hFormal => ?_⟩
    have hName : formal.name ∈ Style.positional.parameterNames method := by
      rw [← hNames]
      exact List.mem_map_of_mem hFormal
    obtain ⟨param, -, hParam⟩ := List.mem_map.mp hName
    rw [← hParam]
    exact ⟨bindable_paramIdent param.name, paramIdent_not_mem_bodyNames param.name⟩
  | namespaced =>
    show Style.namespaced.formals method = [] ∨ ∃ members : List Slot,
      Style.namespaced.formals method = _ ∧ _
    rw [Style.formals]
    split
    -- without parameters nothing is taken, and otherwise one object
    next => exact Or.inl rfl
    next =>
      refine Or.inr ⟨method.params.map Style.namespaced.slot, rfl, ?_⟩
      rw [List.map_map]
      exact h

/-- Bindings are derived from the names of methods, so methods whose bindings differ have different
names. -/
theorem nodup_names {methods : List Method} (h : (methods.map style.bindingName).Nodup) :
    (methods.map Method.name).Nodup := by
  -- either style derives the binding from the name, so methods of one name would share it
  have hDerived : ∃ derive : String → String, ∀ method : Method, style.bindingName method = derive method.name := by
    cases style with
    | positional => exact ⟨methodIdent, fun _ => rfl⟩
    | namespaced => exact ⟨safeIdent, fun _ => rfl⟩
  obtain ⟨derive, hDerive⟩ := hDerived
  have hMap : methods.map style.bindingName = (methods.map Method.name).map derive := by
    rw [List.map_map]
    exact List.map_congr_left fun method _ => hDerive method
  rw [hMap] at h
  exact h.of_map

/-- **Class.** If neither bindings nor parameters are repeated, the methods of the class are kept apart. -/
theorem classHygiene {methods : List Method} (hBindings : (methods.map style.bindingName).Nodup)
    (hParameters : ∀ method ∈ methods, (style.parameterNames method).Nodup) :
    ClassHygiene style (methods.map style.source) := by
  constructor
  · exact List.forall_mem_map.mpr fun method _ => bindable_bindingName style method
  · rw [List.map_map]
    exact hBindings
  · rw [List.map_map]
    exact nodup_names hBindings
  · exact List.forall_mem_map.mpr fun method hMethod => methodHygiene (hParameters method hMethod)

end Class

/-! ## The text -/

/-- The names that a module declares are among those of its support code and that of the class. -/
theorem declaredNames_sublist (manifest : Manifest) (clientName : String) :
    (declaredNames manifest clientName).Sublist (supportNames ++ [safeIdent clientName]) := by
  have hSupport : supportNames = ["AbiCallFailure", "AbiCallResult", "AbiCall", "AbiMethodError"]
      ++ ["methodError"] := rfl
  rw [declaredNames, hSupport]
  refine List.Sublist.append (List.Sublist.append_left ?_ _) (List.Sublist.refl _)
  split
  · exact List.Sublist.refl _
  · exact List.nil_sublist _

/-- **Hygiene.** The names that are read from the text of a client for a manifest that was read are kept
apart in each scope. In the module, the imports, the support code and the class bind names that differ, none
of them is the global exception, and none but the imported ones is exported by the module of types. In the
class, methods differ in their names and in what they call. In a method, parameters differ from each other
and from the names that its body uses, or the members of the one parameter differ. All names that are made
for the class, its methods and their parameters are identifiers and not reserved. What is read is what the
manifest calls for: its imports, and its methods with what they call and what they take. -/
theorem clientText_hygiene {document : Json} {manifest : Manifest}
    (hRead : Manifest.ofJson document = .ok manifest) {clientName : String} {style : Style} {text : String}
    (h : clientText manifest clientName style = .ok text) :
    ∃ types exported imports bound sources,
      (typesText manifest = .ok types ∧ exportedNames (Layout.textLines types) = some exported) ∧
      (moduleImports (codeLines text) = some imports ∧ boundNames (codeLines text) = some bound ∧
        readMethods (codeLines text) = some sources) ∧
      (imports = style.imports manifest ∧
        bound = imports.flatMap Import.bound ++ declaredNames manifest clientName ∧
        bound.Sublist (moduleNames imports clientName)) ∧
      (sources.map MethodSource.callee = manifest.methods.map Method.name ∧
        sources.map MethodSource.binding = manifest.methods.map style.bindingName ∧
        sources.map MethodSource.formals = manifest.methods.map style.formals) ∧
      ModuleHygiene imports exported (moduleNames imports clientName) ∧
      Bindable (safeIdent clientName) ∧ ClassHygiene style sources := by
  have hValid := Manifest.valid_of_ofJson hRead
  obtain ⟨hClaims, hBindings, hParameters⟩ := (exists_clientText_eq_ok hValid).mp ⟨text, h⟩
  obtain ⟨types, hTypes⟩ := (exists_typesText_eq_ok hValid).mpr (nodup_typeClaims hClaims)
  have hLines := clientText_lines h
  refine ⟨types, _, _, _, _, ⟨hTypes, exportedNames_typesText hTypes⟩,
    ⟨hLines.imports, hLines.names, hLines.methods⟩, ⟨rfl, rfl, ?_⟩, ⟨?_, ?_, ?_⟩,
    moduleHygiene hValid hClaims, bindable_safeIdent clientName, classHygiene hBindings hParameters⟩
  · rw [moduleNames, List.append_assoc]
    exact List.Sublist.append_left (declaredNames_sublist manifest clientName) _
  -- one source is read for each method
  · exact List.map_map
  · exact List.map_map
  · exact List.map_map

/-- A document whose names are those of the language, of the support code, and of the body of a method. -/
def borrowedDocument : Json := .object [
  ("schema_version", .string "wasm-abi/1"),
  ("types", .object [("types", .object [("kind", .string "record"), ("fields", .array [])])]),
  ("methods", .array [
    .object [("name", .string "delete"), ("params", .array [
      .object [("name", .string "response"), ("type", .object [("$ref", .string "types")])],
      .object [("name", .string "Error"), ("type", .object [("kind", .string "string")])],
      .object [("name", .string "in"), ("type", .object [("kind", .string "bool")])]])],
    .object [("name", .string "methodError"),
      ("errors", .array [.object [("code", .string "class")]])]]),
  ("events", .array [])]

/-- The manifest that is read from it. -/
def borrowedManifest : Manifest where
  types := [("types", .record [])]
  methods := [
    ⟨"delete", [⟨"response", .named "types", false⟩, ⟨"Error", .primitive .string, false⟩,
      ⟨"in", .primitive .bool, false⟩], none, false, none⟩,
    ⟨"methodError", [], none, false, some [⟨"class", none⟩]⟩]
  events := []

/-- Each borrowed name is changed where it is bound, none is changed where it is called. -/
theorem borrowedManifest_hygiene :
    Manifest.ofJson borrowedDocument = .ok borrowedManifest ∧
      ∃ text, clientText borrowedManifest "interface" .positional = .ok text ∧
        ∃ exported imports bound sources,
          (boundNames (codeLines text) = some bound ∧ readMethods (codeLines text) = some sources) ∧
          bound = ["methodErrorError", "types", "AbiCallFailure", "AbiCallResult", "AbiCall",
            "AbiMethodError", "methodError", "interface_"] ∧
          sources.map MethodSource.callee = ["delete", "methodError"] ∧
          sources.map MethodSource.binding = ["delete_", "methodError"] ∧
          sources.map (·.formals.map Slot.name) = [["response_", "Error_", "in_"], []] ∧
          bound.Sublist (moduleNames imports "interface") ∧
          ModuleHygiene imports exported (moduleNames imports "interface") ∧
          ClassHygiene .positional sources := by
  have hRead : Manifest.ofJson borrowedDocument = .ok borrowedManifest := rfl
  have hText : ∃ text, clientText borrowedManifest "interface" .positional = .ok text := ⟨_, rfl⟩
  obtain ⟨text, hText⟩ := hText
  obtain ⟨-, exported, imports, bound, sources, -, ⟨-, hBound, hSources⟩, ⟨hImports, hNames, hSublist⟩,
    ⟨hCallees, hBindings, hFormals⟩, hModule, -, hClass⟩ := clientText_hygiene hRead hText
  refine ⟨hRead, text, hText, exported, imports, bound, sources, ⟨hBound, hSources⟩, ?_, hCallees,
    hBindings, ?_, hSublist, hModule, hClass⟩
  -- the names are those that the imports bind and those of the module, which can be evaluated
  · rw [hNames, hImports]
    decide
  · have hTaken := congrArg (List.map (List.map Slot.name)) hFormals
    rw [List.map_map] at hTaken
    exact hTaken

end AbiBindings.Bindings
