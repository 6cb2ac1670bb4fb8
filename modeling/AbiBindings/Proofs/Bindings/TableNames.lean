import AbiBindings.Proofs.Bindings.ModuleBody
import AbiBindings.Proofs.Json.Objects
import AbiBindings.Proofs.Manifest.Acceptance
import Mathlib.Data.List.Perm.Basic

/-!
# Bindings — what a client depends on

A client refers to the entries of the type table and does not repeat them. What is in the entries, and the
order in which they stand, is not seen in it: the table comes in only as a set of names, once where names
are claimed and once where a reference is looked up.

* `nodup_tableNames` — the names in a table that was read differ;
* `Scope.Alike` — scopes with the same set of names write the same types;
* `clientMethod_congr` — and so the same methods;
* `nodup_clientClaims_congr` — the claims on names are fine for one table if they are for the other;
* `clientText_tableNames` — with the same set of names in their tables, two manifests have clients that
  differ in the line of the fingerprint alone.
-/

namespace AbiBindings.Manifest

open Json (Shape)

/-! ## Names in the type table -/

/-- A document that states its version is no array, as it has more columns than the version. -/
theorem exists_members_of_read {value : Json} {document : Document} (hVersion : checkVersion value = .ok ())
    (h : Document.read value = .ok document) : ∃ members, value = .object members := by
  cases value with
  | object members => exact ⟨members, rfl⟩
  | array items =>
    -- the version is found in an array of one item, and that is too short for a document
    match items, hVersion with
    | [.string version], _ =>
      have hRead : Document.read (.array [.string version])
          = .error (.invalidLength 1 (.columns Document.shape.name 4)) := rfl
      exact absurd (hRead.symm.trans h) nofun
  | _ => exact absurd hVersion nofun

/-- **Tables.** The names in the type table of a document differ, as they are keys of an object. That objects
have no key twice is no restriction: `Json.keysOnce_of_parse` says it of every text. -/
theorem nodup_tableNames {value : Json} (hOnce : value.keysOnce = true) {manifest : Manifest}
    (hRead : ofJson value = .ok manifest) : (manifest.types.map (·.1)).Nodup := by
  obtain ⟨hVersion, ⟨document, hDocument, hSettle⟩, -⟩ := ofJson_eq_ok.mp hRead
  obtain ⟨members, rfl⟩ := exists_members_of_read hVersion hDocument
  obtain ⟨hSettled, -, -⟩ := Document.settle_eq_ok.mp hSettle
  -- the row of the document is its members, so the table stands under its key
  obtain ⟨row, hRow, hColumns⟩ := bind_eq_ok.mp hDocument
  obtain ⟨rfl, -⟩ := Shape.onlyKeys_of_read hRow
  obtain ⟨version, -, hColumns⟩ := bind_eq_ok.mp hColumns
  obtain ⟨entries, hEntries, hColumns⟩ := bind_eq_ok.mp hColumns
  obtain ⟨methods, -, hColumns⟩ := bind_eq_ok.mp hColumns
  obtain ⟨announcements, -, hColumns⟩ := bind_eq_ok.mp hColumns
  obtain rfl := pure_eq_ok.mp hColumns
  obtain ⟨value, hValue, hTable⟩ := Json.Row.need_eq_ok.mp hEntries
  obtain ⟨table, rfl, hNames⟩ := Json.readTable_eq_ok.mp hTable
  have hKeys : table.map (·.1) = entries.map (·.1) := map_eq_map_of_forall₂ hNames fun _ _ h => h.1
  have hTypes : entries.map (·.1) = manifest.types.map (·.1) :=
    map_eq_map_of_forall₂ hSettled fun _ _ h => h.1
  have hMember : (Json.object row).member? "types" = some (.object table) := hValue
  rw [← hTypes, ← hKeys]
  exact Json.nodup_of_keysOnce (Json.keysOnce_of_member? hOnce hMember)

end AbiBindings.Manifest

namespace AbiBindings.Bindings

open Manifest (TypeRef Field ErrorCase Method Event)
open TypeScript (ClientModule safeIdent)

/-! ## Scopes -/

/-- Scopes that see the same set of names, in whatever order, in the same namespace. -/
structure Scope.Alike (a b : Scope) : Prop where
  declared : ∀ name, name ∈ a.declared ↔ name ∈ b.declared
  space : a.space? = b.space?

section Scope

variable {a b : Scope}

/-- The namespace alone decides how a reference is written. -/
theorem Scope.Alike.reference (hAlike : a.Alike b) (ident : String) : a.reference ident = b.reference ident := by
  rw [Scope.reference, Scope.reference, hAlike.space]

mutual

/-- A type is looked at down to the names in it and not further. -/
theorem Scope.Alike.type (hAlike : a.Alike b) : ∀ type : TypeRef, a.type type = b.type type
  | .named name => by
    have hContains : a.declared.contains name = b.declared.contains name := by
      rw [Bool.eq_iff_iff, List.contains_iff_mem, List.contains_iff_mem, hAlike.declared]
    rw [Scope.type, Scope.type, hContains, hAlike.reference]
  | .primitive _ => rfl
  | .list items => by rw [Scope.type, Scope.type, hAlike.type items]
  | .map key value => by rw [Scope.type, Scope.type, hAlike.type key, hAlike.type value]
  | .record fields => by rw [Scope.type, Scope.type, hAlike.members fields]

theorem Scope.Alike.member (hAlike : a.Alike b) : ∀ field : Field, a.member field = b.member field
  | ⟨_, type, _⟩ => by rw [Scope.member, Scope.member, hAlike.type type]

theorem Scope.Alike.members (hAlike : a.Alike b) : ∀ fields : List Field, a.members fields = b.members fields
  | [] => rfl
  | field :: rest => by
    rw [Scope.members, Scope.members, hAlike.member field, hAlike.members rest]

end

variable (hAlike : a.Alike b)

include hAlike

theorem Scope.Alike.payload (payload? : Option TypeRef) : a.payload payload? = b.payload payload? := by
  cases payload? with
  | none => rfl
  | some type => rw [Scope.payload, Scope.payload, hAlike.type]

/-! ## Methods -/

/-- In either style a signature is made of types of parameters. -/
theorem signature_congr (style : Style) (method : Method) :
    style.signature a method = style.signature b method := by
  have hParameter : parameter a = parameter b := by
    funext field
    rw [parameter, parameter, hAlike.type]
  cases style with
  | positional => rw [Style.signature, Style.signature, hParameter]
  | namespaced => rw [Style.signature, Style.signature, hAlike.members]

theorem result_congr (method : Method) : result a method = result b method := by
  rw [result, result]
  simp only [hAlike.type]

/-- Scopes that are alike have the same client methods. -/
theorem clientMethod_congr (style : Style) (method : Method) :
    clientMethod style a method = clientMethod style b method := by
  have hFailure : failure a = failure b := by
    funext error
    rw [failure, failure, hAlike.payload]
  rw [clientMethod, clientMethod, signature_congr hAlike, result_congr hAlike, hFailure, hAlike.reference]

end Scope

/-! ## Claims -/

section Manifests

variable {a b : Manifest}

/-- The table claims a name for each of its own; what else is claimed does not depend on it. -/
theorem names_clientClaims (manifest : Manifest) (clientName : String) (style : Style) :
    (clientClaims manifest clientName style).map Claim.name
      = (manifest.types.map (·.1)).map safeIdent
        ++ (clientClaims { manifest with types := [] } clientName style).map Claim.name := by
  simp only [clientClaims, typeClaims, List.map_append, List.map_map, List.map_nil, List.nil_append,
    List.append_assoc]
  rfl

variable (hMethods : a.methods = b.methods) (hEvents : a.events = b.events)
  (hNames : (a.types.map (·.1)).Perm (b.types.map (·.1)))

include hMethods hEvents hNames

/-- Claims on names in another order clash if they clash in the first one. -/
theorem nodup_clientClaims_congr (clientName : String) (style : Style) :
    ((clientClaims a clientName style).map Claim.name).Nodup ↔
      ((clientClaims b clientName style).map Claim.name).Nodup := by
  have hOthers : ({ a with types := [] } : Manifest) = { b with types := [] } := by
    rw [hMethods, hEvents]
  -- what the tables claim comes first, in the order of each table
  rw [names_clientClaims a, names_clientClaims b, hOthers]
  exact ((hNames.map safeIdent).append_right _).nodup_iff

/-! ## Clients -/

/-- Manifests with the same methods, the same events and the same names in their tables have the same client
class. -/
theorem clientModule_congr {clientName : String} {style : Style} {client : ClientModule} :
    clientModule a clientName style = .ok client ↔ clientModule b clientName style = .ok client := by
  have hScope : (style.scope a).Alike (style.scope b) := by
    have hTable : (Scope.ofManifest a).Alike (Scope.ofManifest b) := ⟨fun _ => hNames.mem_iff, rfl⟩
    cases style with
    | positional => exact hTable
    | namespaced => exact ⟨hTable.declared, rfl⟩
  have hWritten : clientMethod style (style.scope a) = clientMethod style (style.scope b) :=
    funext (clientMethod_congr hScope style)
  -- imports are collected from methods, whatever is in the table
  have hImports : style.imports a = style.imports b := by
    cases style with
    | positional => rw [Style.imports, Style.imports, namesUsed, namesUsed, hMethods]
    | namespaced => rfl
  have hClaims : checkClaims clientFile (clientClaims a clientName style) = .ok () ↔
      checkClaims clientFile (clientClaims b clientName style) = .ok () := by
    rw [checkClaims_eq_ok, checkClaims_eq_ok, nodup_clientClaims_congr hMethods hEvents hNames]
  rw [clientModule, clientModule, hMethods, hWritten, hImports]
  -- all that is left in which the two may differ is the first step, the check of the claims
  refine bind_eq_ok.trans (Iff.trans ?_ bind_eq_ok.symm)
  exact exists_congr fun _ => and_congr_left fun _ => hClaims

end Manifests

/-- **Tables.** The client of a manifest that was read depends on the type table only through its set of
names. If another manifest has the same methods and events, and the same names in its table, in any order and
defined in any way, circles included, then there is a client for one exactly if there is one for the other,
and the two differ in the line of the fingerprint alone. -/
theorem clientText_tableNames {documentA documentB : Json} {a b : Manifest}
    (hOnceA : documentA.keysOnce = true) (hReadA : Manifest.ofJson documentA = .ok a)
    (hOnceB : documentB.keysOnce = true) (hReadB : Manifest.ofJson documentB = .ok b)
    (hMethods : a.methods = b.methods) (hEvents : a.events = b.events)
    (hNames : ∀ name, name ∈ a.types.map (·.1) ↔ name ∈ b.types.map (·.1))
    (clientName : String) (style : Style) :
    ((∃ text, clientText a clientName style = .ok text) ↔ ∃ other, clientText b clientName style = .ok other) ∧
      ∀ text other, clientText a clientName style = .ok text → clientText b clientName style = .ok other →
        SameBody a b text other := by
  -- as no name is in a table twice, the same set of names is the same list up to order
  have hPerm : (a.types.map (·.1)).Perm (b.types.map (·.1)) :=
    (List.perm_ext_iff_of_nodup (Manifest.nodup_tableNames hOnceA hReadA)
      (Manifest.nodup_tableNames hOnceB hReadB)).mpr hNames
  have hModule : ∀ client, clientModule a clientName style = .ok client ↔
      clientModule b clientName style = .ok client :=
    fun client => clientModule_congr hMethods hEvents hPerm
  refine ⟨?_, fun text other hText hOther => ?_⟩
  · simp only [clientText, bind_eq_ok, pure_eq_ok, hModule]
    constructor
    · intro h
      obtain ⟨-, client, hClient, -⟩ := h
      exact ⟨_, client, hClient, rfl⟩
    · intro h
      obtain ⟨-, client, hClient, -⟩ := h
      exact ⟨_, client, hClient, rfl⟩
  · obtain ⟨client, hClient, -⟩ := bind_eq_ok.mp hText
    obtain ⟨found, hFound, hSame⟩ := exists_clientText_sameBody hClient ((hModule client).mp hClient) hText
    obtain rfl := Except.ok.inj (hOther.symm.trans hFound)
    exact hSame

/-- A document with two records that refer to each other. -/
def coupledDocument : Json := .object [
  ("schema_version", .string "wasm-abi/1"),
  ("types", .object [
    ("left", .object [("kind", .string "record"), ("fields", .array [
      .object [("name", .string "other"), ("type", .object [("$ref", .string "right")])]])]),
    ("right", .object [("kind", .string "record"), ("fields", .array [
      .object [("name", .string "other"), ("type", .object [("$ref", .string "left")])]])])]),
  ("methods", .array [
    .object [("name", .string "turn"), ("returns", .object [("$ref", .string "left")]), ("params", .array [
      .object [("name", .string "by"), ("type", .object [("$ref", .string "right")])]])]]),
  ("events", .array [])]

/-- The manifest that is read from it. -/
def coupledManifest : Manifest where
  types := [
    ("left", .record [⟨"other", .named "right", false⟩]),
    ("right", .record [⟨"other", .named "left", false⟩])]
  methods := [⟨"turn", [⟨"by", .named "right", false⟩], some (.named "left"), false, none⟩]
  events := []

/-- A document with the same names in another order, for types that do not refer to anything. -/
def uncoupledDocument : Json := .object [
  ("schema_version", .string "wasm-abi/1"),
  ("types", .object [
    ("right", .object [("kind", .string "bytes")]),
    ("left", .object [("kind", .string "variant"), ("variants", .array [
      .object [("name", .string "none")]])])]),
  ("methods", .array [
    .object [("name", .string "turn"), ("returns", .object [("$ref", .string "left")]), ("params", .array [
      .object [("name", .string "by"), ("type", .object [("$ref", .string "right")])]])]]),
  ("events", .array [])]

/-- The manifest that is read from it. -/
def uncoupledManifest : Manifest where
  types := [("right", .bytes none), ("left", .variant [⟨"none", none⟩])]
  methods := coupledManifest.methods
  events := []

/-- Both clients name the same types, one of which refers to the other and back in the first table only. -/
theorem coupledManifest_sameBody :
    Manifest.ofJson coupledDocument = .ok coupledManifest ∧
      Manifest.ofJson uncoupledDocument = .ok uncoupledManifest ∧
      ∃ text other, clientText coupledManifest "Client" .positional = .ok text ∧
        clientText uncoupledManifest "Client" .positional = .ok other ∧
        SameBody coupledManifest uncoupledManifest text other := by
  have hReadA : Manifest.ofJson coupledDocument = .ok coupledManifest := rfl
  have hReadB : Manifest.ofJson uncoupledDocument = .ok uncoupledManifest := rfl
  -- one table lists the names in the opposite order of the other
  have hNames : ∀ name, name ∈ coupledManifest.types.map (·.1) ↔ name ∈ uncoupledManifest.types.map (·.1) :=
    fun name => (List.Perm.swap "right" "left" []).mem_iff
  obtain ⟨hExists, hSame⟩ := clientText_tableNames (by decide) hReadA (by decide) hReadB rfl rfl hNames "Client"
    .positional
  have hText : ∃ text, clientText coupledManifest "Client" .positional = .ok text := ⟨_, rfl⟩
  obtain ⟨text, hText⟩ := hText
  obtain ⟨other, hOther⟩ := hExists.mp ⟨text, hText⟩
  exact ⟨hReadA, hReadB, text, other, hText, hOther, hSame text other hText hOther⟩

end AbiBindings.Bindings
