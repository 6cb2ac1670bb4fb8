import AbiBindings.Proofs.Bindings.Hygiene
import AbiBindings.Proofs.Bindings.ModuleBody

/-!
# Bindings — names of globals

Built-in types, dictionaries and promises are written under the names of globals. A declaration of the same
name captures them: behind `interface Uint8Array`, a member for bytes has the type of this interface. The
reserved words keep declarations off most of these names, and a claim keeps them off the global exception.
`Uint8Array`, `Record` and `Promise` are guarded by neither.

* `typeGlobals`, `clientGlobals` — the globals that the two modules use;
* `unguarded` — those of them that are neither reserved nor claimed;
* `safeIdent_eq_unguarded` — each of them stands for itself alone, and no derived name comes to it;
* `generate_captured` — when a module binds one of its globals.
-/

namespace AbiBindings.Bindings

open Manifest (Method Event)
open TypeScript (Builtin Import bindable_safeIdent boundNames codeLines eq_of_safeIdent_eq exportedNames
  isIdentifier isReserved safeIdent)

/-! ## Globals -/

/-- The globals under which types are written: built-in types, a union without arms, and dictionaries. -/
def typeGlobals : List String :=
  [Builtin.boolean, .number, .string, .void, .byteArray].map Builtin.text ++ ["never", "Record"]

/-- The globals that a client uses: those of types, the type of a method that is asynchronous, and the
exception for a failure that is not declared. -/
def clientGlobals : List String := typeGlobals ++ ["Promise", globalError]

/-- The globals that no declaration is kept off. -/
def unguarded : List String := ["Uint8Array", "Record", "Promise"]

/-- Everything else is reserved, or the global exception. -/
theorem guarded_clientGlobals : ∀ name ∈ clientGlobals, name ∉ unguarded →
    isReserved name = true ∨ name = globalError := by
  decide

/-- An unguarded global stands for itself and for no other name. -/
theorem safeIdent_eq_unguarded {name ident : String} (hIdent : ident ∈ unguarded) :
    safeIdent name = ident ↔ name = ident := by
  have hBindable : ∀ ident ∈ unguarded, isIdentifier ident = true ∧ isReserved ident = false := by decide
  have hPlain : ∀ ident ∈ unguarded, '_' ∉ ident.toList := by decide
  constructor
  · exact eq_of_safeIdent_eq (hPlain ident hIdent)
  · rintro rfl
    obtain ⟨hIdentifier, hUnreserved⟩ := hBindable name hIdent
    exact TypeScript.Bindable.safeIdent_eq ⟨hIdentifier, hUnreserved⟩

/-- No name with one of the suffixes is an unguarded global. -/
theorem append_ne_unguarded {stem suffix ident : String} (hIdent : ident ∈ unguarded)
    (hSuffix : suffix ∈ ["ErrorCode", "Error", "Payload"]) : stem ++ suffix ≠ ident := by
  have hEnds : ∀ ident ∈ unguarded, ∀ suffix ∈ ["ErrorCode", "Error", "Payload"],
      ¬ suffix.toList <:+ ident.toList := by decide
  -- a name with a suffix would end in it
  rintro rfl
  refine hEnds _ hIdent suffix hSuffix ?_
  rw [String.toList_append]
  exact List.suffix_append _ _

/-! ## The module of types -/

/-- An unguarded global is claimed for an entry of the type table of this name, and for nothing else. -/
theorem unguarded_mem_typeClaims {manifest : Manifest} {ident : String} (hIdent : ident ∈ unguarded) :
    ident ∈ (typeClaims manifest).map Claim.name ↔ ident ∈ manifest.types.map (·.1) := by
  constructor
  · intro h
    obtain ⟨claim, hClaim, hName⟩ := List.mem_map.mp h
    simp only [typeClaims, List.mem_append, List.mem_map, List.mem_flatMap, List.mem_cons,
      List.not_mem_nil, or_false] at hClaim
    -- entries, codes and errors of methods, payloads, and the union of all events
    rcases hClaim with ((⟨entry, hEntry, rfl⟩ | ⟨method, -, rfl | rfl⟩) | ⟨event, -, rfl⟩) | hUnion
    · rw [← (safeIdent_eq_unguarded hIdent).mp hName]
      exact List.mem_map_of_mem hEntry
    · exact absurd hName (append_ne_unguarded hIdent (by simp))
    · exact absurd hName (append_ne_unguarded hIdent (by simp))
    · exact absurd hName (append_ne_unguarded hIdent (by simp))
    · split at hUnion
      · exact absurd hUnion List.not_mem_nil
      · obtain rfl := List.mem_singleton.mp hUnion
        subst hName
        exact absurd hIdent (by decide)
  · intro h
    have hClaimed := claimed_entry h
    rwa [(safeIdent_eq_unguarded hIdent).mpr rfl] at hClaimed

/-- A global of types is exported exactly if it is unguarded and the name of an entry. -/
theorem exported_typeGlobals (manifest : Manifest) : ∀ name ∈ typeGlobals,
    name ∈ (typeClaims manifest).map Claim.name ↔ name ∈ unguarded ∧ name ∈ manifest.types.map (·.1) := by
  intro name hName
  by_cases hUnguarded : name ∈ unguarded
  · rw [unguarded_mem_typeClaims hUnguarded, and_iff_right hUnguarded]
  -- the other globals of types are reserved, and what is claimed never is
  · refine iff_of_false (fun hClaimed => ?_) fun h => hUnguarded h.1
    obtain ⟨claim, hClaim, rfl⟩ := List.mem_map.mp hClaimed
    have hReserved : ∀ name ∈ typeGlobals, name ∉ unguarded → isReserved name = true := by decide
    have hUnreserved := (bindable_claimName manifest claim hClaim).unreserved
    exact absurd (hReserved _ hName hUnguarded) (Bool.eq_false_iff.mp hUnreserved)

/-! ## The client -/

section Client

variable {manifest : Manifest} {clientName : String} {style : Style}

/-- The names that the module of a client binds: what it imports, what supports it, and its class. -/
theorem mem_bound {name : String} :
    name ∈ (style.imports manifest).flatMap Import.bound ++ declaredNames manifest clientName ↔
      (style = .positional ∧ .declaration name ∈ clientWords manifest) ∨ name ∈ style.importedNames ∨
        name ∈ declaredNames manifest clientName := by
  rw [bound_imports, List.mem_append, List.mem_append, or_assoc]
  refine or_congr_left ?_
  cases style with
  | positional => rw [Style.listed, mem_namesUsed, declaration_mem_clientWords, and_iff_right rfl]
  | namespaced => exact iff_of_false List.not_mem_nil fun h => Style.noConfusion h.1

/-- The support code does not bind a global. -/
theorem mem_declaredNames_global {name : String} (hName : name ∈ clientGlobals) :
    name ∈ declaredNames manifest clientName ↔ safeIdent clientName = name := by
  have hSupport : ∀ name ∈ clientGlobals, name ∉ supportNames := by decide
  constructor
  · intro h
    rcases List.mem_append.mp ((declaredNames_sublist manifest clientName).subset h) with h | h
    · exact absurd h (hSupport name hName)
    · exact (List.mem_singleton.mp h).symm
  · rintro rfl
    exact List.mem_append_right _ (List.mem_singleton_self _)

/-- What a client binds is not reserved. -/
theorem unreserved_bound {name : String}
    (h : name ∈ (style.imports manifest).flatMap Import.bound ++ declaredNames manifest clientName) :
    isReserved name = false := by
  have hFixed : ∀ name ∈ typesNamespace :: supportNames, isReserved name = false := by decide
  -- an import may bring in names of types or the namespace; the others are names of its own
  rcases mem_bound.mp h with ⟨-, hWord⟩ | hSpace | hDeclared
  · exact (bindable_clientNames manifest name (declaration_mem_clientWords.mp hWord)).unreserved
  · cases style with
    | positional => exact absurd hSpace List.not_mem_nil
    | namespaced =>
      obtain rfl := List.mem_singleton.mp hSpace
      exact hFixed _ List.mem_cons_self
  · rcases List.mem_append.mp ((declaredNames_sublist manifest clientName).subset hDeclared) with h | h
    · exact hFixed name (List.mem_cons_of_mem _ h)
    · obtain rfl := List.mem_singleton.mp h
      exact (bindable_safeIdent clientName).unreserved

/-- A global is bound exactly if it is unguarded and the name of the class, or of a type that is imported. -/
theorem bound_clientGlobals (hValid : manifest.Valid)
    (hClaims : ((clientClaims manifest clientName style).map Claim.name).Nodup) : ∀ name ∈ clientGlobals,
    name ∈ (style.imports manifest).flatMap Import.bound ++ declaredNames manifest clientName ↔
      name ∈ unguarded ∧
        (clientName = name ∨ style = .positional ∧ .declaration name ∈ clientWords manifest) := by
  intro name hName
  by_cases hUnguarded : name ∈ unguarded
  · have hSpace : ∀ style : Style, ∀ name ∈ clientGlobals, name ∉ style.importedNames := by
      intro style
      cases style <;> decide
    rw [mem_bound, mem_declaredNames_global hName, or_iff_right (hSpace style name hName),
      safeIdent_eq_unguarded hUnguarded, and_iff_right hUnguarded, or_comm]
  -- a guarded global is reserved, or it is the global exception; neither is bound
  · refine iff_of_false (fun hBound => ?_) fun h => hUnguarded h.1
    rcases guarded_clientGlobals name hName hUnguarded with hReserved | rfl
    · exact absurd hReserved (Bool.eq_false_iff.mp (unreserved_bound hBound))
    -- the claim for the global exception keeps every other name of the module off it
    · refine (moduleHygiene hValid hClaims).global (List.Sublist.subset ?_ hBound)
      rw [moduleNames, List.append_assoc]
      exact List.Sublist.append_left (declaredNames_sublist manifest clientName) _

end Client

/-! ## Both modules -/

/-- **Captured globals.** Of the globals that both modules use, generation keeps all declarations off all but
`Uint8Array`, `Record` and `Promise`. The module of types exports one of these exactly if it is a name in the
type table. A client binds one exactly if it is the name of the class, or if the client imports types one by
one and a method refers to the type of this name. -/
theorem generate_captured {document : Json} {manifest : Manifest}
    (hRead : Manifest.ofJson document = .ok manifest) {clientName : String} {style : Style}
    {generated : Generated} (h : generate manifest clientName style = .ok generated) :
    ∃ exported bound,
      (exportedNames (Layout.textLines generated.types) = some exported ∧
        boundNames (codeLines generated.client) = some bound) ∧
      (∀ name ∈ typeGlobals, name ∈ exported ↔
        name ∈ ["Uint8Array", "Record", "Promise"] ∧ name ∈ manifest.types.map (·.1)) ∧
      ∀ name ∈ clientGlobals, name ∈ bound ↔
        name ∈ ["Uint8Array", "Record", "Promise"] ∧
          (clientName = name ∨ style = .positional ∧ .declaration name ∈ clientWords manifest) := by
  have hValid := Manifest.valid_of_ofJson hRead
  obtain ⟨hClaims, -, -⟩ := (exists_generate_eq_ok hValid).mp ⟨generated, h⟩
  obtain ⟨hTypes, hClient⟩ := generate_eq_ok.mp h
  exact ⟨_, _, ⟨exportedNames_typesText hTypes, (clientText_lines hClient).names⟩,
    exported_typeGlobals manifest, bound_clientGlobals hValid hClaims⟩

/-- A document with types that have the names of globals. -/
def capturingDocument : Json := .object [
  ("schema_version", .string "wasm-abi/1"),
  ("types", .object [
    ("Uint8Array", .object [("kind", .string "record"), ("fields", .array [
      .object [("name", .string "raw"), ("type", .object [("kind", .string "bytes")])]])]),
    ("Promise", .object [("kind", .string "bytes")])]),
  ("methods", .array [
    .object [("name", .string "fetch"), ("returns", .object [("$ref", .string "Promise")])]]),
  ("events", .array [])]

/-- The manifest that is read from it. -/
def capturingManifest : Manifest where
  types := [("Uint8Array", .record [⟨"raw", .primitive .bytes, false⟩]), ("Promise", .bytes none)]
  methods := [⟨"fetch", [], some (.named "Promise"), false, none⟩]
  events := []

/-- Two of the names are exported; the client binds the one that its method refers to. -/
theorem capturingManifest_globals :
    Manifest.ofJson capturingDocument = .ok capturingManifest ∧
      ∃ generated exported bound, generate capturingManifest "Client" .positional = .ok generated ∧
        exportedNames (Layout.textLines generated.types) = some exported ∧
        boundNames (codeLines generated.client) = some bound ∧
        ("Uint8Array" ∈ exported ∧ "Record" ∉ exported ∧ "number" ∉ exported) ∧
        "Promise" ∈ bound ∧ "Uint8Array" ∉ bound ∧ "Error" ∉ bound := by
  have hRead : Manifest.ofJson capturingDocument = .ok capturingManifest := rfl
  have hGenerated : ∃ generated, generate capturingManifest "Client" .positional = .ok generated := ⟨_, rfl⟩
  obtain ⟨generated, h⟩ := hGenerated
  obtain ⟨exported, bound, ⟨hExported, hBound⟩, hTypes, hClient⟩ := generate_captured hRead h
  refine ⟨hRead, generated, exported, bound, h, hExported, hBound, ⟨?_, ?_, ?_⟩, ?_, ?_, ?_⟩
  -- what is captured is read off the two conditions at each name
  · exact (hTypes "Uint8Array" (by decide)).mpr (by decide)
  · exact fun hMem => absurd ((hTypes "Record" (by decide)).mp hMem) (by decide)
  · exact fun hMem => absurd ((hTypes "number" (by decide)).mp hMem) (by decide)
  · exact (hClient "Promise" (by decide)).mpr ⟨by decide, Or.inr ⟨rfl, by decide⟩⟩
  · exact fun hMem => absurd ((hClient "Uint8Array" (by decide)).mp hMem) (by decide)
  · exact fun hMem => absurd ((hClient "Error" (by decide)).mp hMem) (by decide)

/-- Not every manifest that is read leaves the globals alone: an interface may have the name under which the
bytes inside of it are written. -/
theorem not_forall_uncaptured : ¬ ∀ document manifest clientName style generated exported bound,
    Manifest.ofJson document = .ok manifest → generate manifest clientName style = .ok generated →
      exportedNames (Layout.textLines generated.types) = some exported →
        boundNames (codeLines generated.client) = some bound →
          (∀ name ∈ typeGlobals, name ∉ exported) ∧ ∀ name ∈ clientGlobals, name ∉ bound := by
  intro hNone
  have hRead : Manifest.ofJson capturingDocument = .ok capturingManifest := rfl
  have hGenerated : ∃ generated, generate capturingManifest "Client" .positional = .ok generated := ⟨_, rfl⟩
  obtain ⟨generated, h⟩ := hGenerated
  obtain ⟨hTypes, hClient⟩ := generate_eq_ok.mp h
  obtain ⟨hExported, -⟩ := hNone capturingDocument capturingManifest "Client" .positional _ _ _ hRead h
    (exportedNames_typesText hTypes) (clientText_lines hClient).names
  exact hExported "Uint8Array" (by decide) (by decide)

end AbiBindings.Bindings
