import AbiBindings.Bindings.Generate
import AbiBindings.Proofs.Bindings.ClosedTypes
import AbiBindings.Proofs.Bindings.NamesUsed

/-!
# Bindings — nothing gets out of its place

The strings of a manifest end up in identifiers, in literals, in keys and in comments. Whatever they
are, quotes, ends of comments and brackets included, none of them reaches the code around it: a lexer
ends each generated module in code, with all brackets closed, and all that it has seen outside of
comments and strings are plain characters.

* `namesUsed_closed` — the names that a client imports;
* `clientMethod_closed`, `clientModule_closed` — what a client is put together with;
* `generate_closed` — both modules.
-/

namespace AbiBindings.Bindings

open Manifest (TypeRef Field Method)
open TypeScript (ClientMethod ClientModule Closed ClosedStep OneLine Parameter Result Signature
  closedStep_lineComment closed_of_isIdentifier closed_safeIdent endsLine lexes_literal oneLine_literal)

/-! ## Names of a client -/

theorem closed_typesNamespace : Closed typesNamespace := lexes_literal rfl

/-- In both styles references come out closed. -/
theorem Style.spaceClosed (style : Style) (manifest : Manifest) :
    (style.scope manifest).SpaceClosed := by
  cases style with
  | positional => exact Scope.spaceClosed_ofManifest manifest
  | namespaced =>
    intro space hSpace
    obtain rfl := Option.some.inj hSpace
    exact closed_typesNamespace

/-- The name of a client method is an identifier, whatever the method is called. -/
theorem Style.closed_bindingName (style : Style) (method : Method) :
    Closed (style.bindingName method) :=
  closed_of_isIdentifier (bindable_bindingName style method).identifier

theorem closed_paramIdent (name : String) : Closed (paramIdent name) :=
  closed_of_isIdentifier (bindable_paramIdent name).identifier

/-! ## Imports -/

/-- The names that a client imports are closed. -/
theorem namesUsed_closed (manifest : Manifest) : ∀ name ∈ namesUsed manifest, Closed name :=
  fun name hName =>
    closed_of_isIdentifier (bindable_clientNames manifest name (mem_namesUsed.mp hName)).identifier

/-- The imports of a client consist of closed parts. -/
theorem imports_closed (style : Style) (manifest : Manifest) :
    ∀ line ∈ style.imports manifest, line.PartsClosed := by
  cases style with
  | positional =>
    refine List.forall_mem_cons.mpr ⟨trivial, ?_⟩
    split
    -- without a name there is no import but the one that passes everything on
    · simp
    · exact List.forall_mem_singleton.mpr (namesUsed_closed manifest)
  | namespaced =>
    exact List.forall_mem_cons.mpr ⟨closed_typesNamespace, List.forall_mem_singleton.mpr trivial⟩

/-! ## Methods -/

section Methods

variable {scope : Scope} (hScope : scope.SpaceClosed) {method : Method}

include hScope

theorem parameter_closed {field : Field} {written : Parameter}
    (h : parameter scope field = .ok written) : Closed written.name ∧ Closed written.type.text := by
  obtain ⟨expr, hType, hWritten⟩ := bind_eq_ok.mp h
  obtain rfl := pure_eq_ok.mp hWritten
  exact ⟨closed_paramIdent field.name, closed_type hScope hType⟩

/-- All parts of a signature are closed: parameters, and the arguments that are passed on. -/
theorem signature_closed {style : Style} {signature : Signature}
    (h : style.signature scope method = .ok signature) :
    signature.parameters.PartsClosed ∧ ∀ argument ∈ signature.arguments, Closed argument.text := by
  cases style with
  | positional =>
    obtain ⟨parameters, hParameters, h⟩ := bind_eq_ok.mp h
    obtain ⟨-, -, h⟩ := bind_eq_ok.mp h
    obtain rfl := pure_eq_ok.mp h
    have hClosed : ∀ written ∈ parameters, Closed written.name ∧ Closed written.type.text :=
      forall_mem_of_mapM_eq_ok hParameters fun field _ written hWritten =>
        parameter_closed hScope hWritten
    -- the arguments are the parameters again, by their names
    refine ⟨hClosed, fun argument hArgument => ?_⟩
    obtain ⟨name, hName, rfl⟩ := List.mem_map.mp hArgument
    obtain ⟨written, hWritten, rfl⟩ := List.mem_map.mp hName
    exact (hClosed written hWritten).1
  | namespaced =>
    rw [Style.signature] at h
    -- without parameters nothing is written
    split at h
    next =>
      obtain rfl := pure_eq_ok.mp h
      exact ⟨by simp [TypeScript.Parameters.PartsClosed], by simp⟩
    next =>
      obtain ⟨-, -, h⟩ := bind_eq_ok.mp h
      obtain ⟨members, hMembers, h⟩ := bind_eq_ok.mp h
      obtain rfl := pure_eq_ok.mp h
      -- the arguments are properties of the one parameter
      have hObject : Closed paramsObject := lexes_literal rfl
      refine ⟨⟨hObject, closed_members hScope hMembers⟩, fun argument hArgument => ?_⟩
      obtain ⟨field, -, rfl⟩ := List.mem_map.mp hArgument
      exact TypeScript.closed_propertyAccess hObject field.name

/-- The result of a method has a closed type, if there is one. -/
theorem result_closed {result? : Option Result} (h : result scope method = .ok result?) :
    ∀ result ∈ result?, Closed result.type.text := by
  rw [result] at h
  split at h
  next type _ =>
    obtain ⟨expr, hType, h⟩ := bind_eq_ok.mp h
    obtain rfl := pure_eq_ok.mp h
    intro result hResult
    obtain rfl := Option.some.inj hResult
    exact closed_type hScope hType
  next =>
    obtain rfl := pure_eq_ok.mp h
    simp

/-- A client method consists of closed parts. Its failures are only spoken of in comments. -/
theorem clientMethod_closed {style : Style} {written : ClientMethod}
    (h : clientMethod style scope method = .ok written) : written.PartsClosed := by
  obtain ⟨signature, hSignature, h⟩ := bind_eq_ok.mp h
  obtain ⟨result?, hResult, h⟩ := bind_eq_ok.mp h
  obtain ⟨failures, -, h⟩ := bind_eq_ok.mp h
  obtain rfl := pure_eq_ok.mp h
  obtain ⟨hParameters, hArguments⟩ := signature_closed hScope hSignature
  exact {
    binding := style.closed_bindingName method
    parameters := hParameters
    arguments := hArguments
    result := result_closed hScope hResult
    failureType := closed_reference hScope (closed_errorName method) }

end Methods

/-- **A client** consists of closed parts. -/
theorem clientModule_closed {manifest : Manifest} {clientName : String} {style : Style}
    {client : ClientModule} (h : clientModule manifest clientName style = .ok client) :
    client.PartsClosed := by
  obtain ⟨-, -, h⟩ := bind_eq_ok.mp h
  obtain ⟨-, -, h⟩ := bind_eq_ok.mp h
  obtain ⟨methods, hMethods, h⟩ := bind_eq_ok.mp h
  obtain rfl := pure_eq_ok.mp h
  have hMethod : ∀ written ∈ methods, written.PartsClosed :=
    forall_mem_of_mapM_eq_ok hMethods fun method _ written hWritten =>
      clientMethod_closed (style.spaceClosed manifest) hWritten
  exact ⟨imports_closed style manifest, closed_safeIdent clientName, hMethod⟩

/-! ## Modules -/

theorem endsLine_digitChar : ∀ n < 16, endsLine (Nat.digitChar n) = false := by
  decide

/-- A digest is written in one line, since each of its characters is a digit. -/
theorem oneLine_hex (digest : Digest) : OneLine digest.hex := by
  -- the characters are those of the words, one behind the other
  intro c hc
  rw [Digest.hex, String.toList_join] at hc
  obtain ⟨word, hWord, hc⟩ := List.mem_flatMap.mp hc
  obtain ⟨value, -, rfl⟩ := List.mem_map.mp hWord
  rw [Digest.hexWord, String.toList_ofList] at hc
  obtain ⟨i, -, rfl⟩ := List.mem_map.mp hc
  exact endsLine_digitChar _ (Nat.mod_lt _ (by decide))

/-- The two lines of the header are comments, whatever the manifest. -/
theorem exists_headerSteps_eq (manifest : Manifest) :
    ∃ origin hash, OneLine origin ∧ OneLine hash ∧
      headerSteps manifest = [.line ("//" ++ origin), .line ("//" ++ hash)] := by
  have hVersion : OneLine Manifest.schemaVersion := oneLine_literal rfl
  have hOrigin : OneLine (" Code generated by abi-codegen from a " ++ Manifest.schemaVersion
      ++ " manifest. DO NOT EDIT.") :=
    (OneLine.append (oneLine_literal rfl) hVersion).append (oneLine_literal rfl)
  have hHash : OneLine (" abi-hash: " ++ manifest.fingerprint.hex) :=
    OneLine.append (oneLine_literal rfl) (oneLine_hex manifest.fingerprint)
  refine ⟨_, _, hOrigin, hHash, ?_⟩
  -- as written in the header, the slashes belong to the words behind them
  rw [← String.append_assoc, ← String.append_assoc, ← String.append_assoc]
  rfl

/-- So the header is closed by itself. -/
theorem closedStep_headerSteps (manifest : Manifest) :
    ∀ step ∈ headerSteps manifest, ClosedStep step := by
  obtain ⟨origin, hash, hOrigin, hHash, hSteps⟩ := exists_headerSteps_eq manifest
  rw [hSteps]
  exact List.forall_mem_cons.mpr
    ⟨closedStep_lineComment hOrigin, List.forall_mem_singleton.mpr (closedStep_lineComment hHash)⟩

/-- A module whose body is laid out line by line is laid out line by line. -/
theorem linewise_moduleSteps (manifest : Manifest) {body : List Layout.Step}
    (h : ∀ step ∈ body, ClosedStep step) : Layout.linewiseSteps (headerSteps manifest ++ body) = true := by
  rw [Layout.linewiseSteps_iff, List.forall_mem_append]
  exact ⟨fun step hStep => (closedStep_headerSteps manifest step hStep).linewise,
    fun step hStep => (h step hStep).linewise⟩

theorem closed_moduleText (manifest : Manifest) {body : List Layout.Step}
    (h : ∀ step ∈ body, ClosedStep step) : Closed (moduleText manifest body) :=
  TypeScript.closed_render (List.forall_mem_append.mpr ⟨closedStep_headerSteps manifest, h⟩)

/-- **Containment.** Whatever the strings of a manifest and the name of the class are, both modules
end outside of comments and strings, no string literal in them goes over the end of a line, and what
is left of them without comments and strings is plain code whose brackets match. -/
theorem generate_closed {manifest : Manifest} {clientName : String} {style : Style}
    {generated : Generated} (h : generate manifest clientName style = .ok generated) :
    Closed generated.types ∧ Closed generated.client := by
  obtain ⟨types, hTypes, h⟩ := bind_eq_ok.mp h
  obtain ⟨client, hClient, h⟩ := bind_eq_ok.mp h
  obtain rfl := pure_eq_ok.mp h
  -- the checks come first and write nothing
  obtain ⟨declarations, hDeclarations, hTypes⟩ := bind_eq_ok.mp hTypes
  obtain rfl := pure_eq_ok.mp hTypes
  obtain ⟨clientModule, hModule, hClient⟩ := bind_eq_ok.mp hClient
  obtain rfl := pure_eq_ok.mp hClient
  constructor
  · exact closed_moduleText manifest
      (TypeScript.closedStep_declarationSteps (typeDeclarations_closed hDeclarations))
  · exact closed_moduleText manifest (ClientModule.closedSteps (clientModule_closed hModule))

/-- A manifest whose names try to get out of where they stand. -/
def restlessManifest : Manifest where
  types := [("*/ \"type\x7d", .record [⟨"key\": never \x7d; //", .primitive .string, true⟩])]
  methods := [⟨"run\n*/ (\"", [⟨"`", .named "*/ \"type\x7d", false⟩], none, false,
    some [⟨"*/ throw \x7b", some (.list (.named "*/ \"type\x7d"))⟩]⟩]
  events := [⟨"\\\"", some (.primitive .bytes)⟩]

/-- They do not, in either module. -/
theorem restlessManifest_contained :
    ∃ generated, generate restlessManifest "class \x7b" .namespaced = .ok generated ∧
      Closed generated.types ∧ Closed generated.client := by
  have hGenerated : ∃ generated, generate restlessManifest "class \x7b" .namespaced = .ok generated :=
    ⟨_, rfl⟩
  obtain ⟨generated, h⟩ := hGenerated
  exact ⟨generated, h, generate_closed h⟩

end AbiBindings.Bindings
