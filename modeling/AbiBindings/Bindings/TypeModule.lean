import AbiBindings.Bindings.Scope
import AbiBindings.Manifest.Fingerprint
import AbiBindings.TypeScript.Declaration

/-!
# Bindings — the type declarations

The module of types declares, in the order of the manifest: one type for each entry of the type
table, the error codes and the errors of each method that declares errors, the payload of each event
that has one, and the union of all events.

* `typeDeclarations` — the declarations;
* `typesText` — the whole module.
-/

namespace AbiBindings.Bindings

open Layout (Step)
open Manifest (TypeRef TypeDef Variant ErrorCase Method Event)
open TypeScript (Arm Declaration safeIdent)

/-! ## The header of a module -/

/-- The two lines at the top of every module: where it comes from, and from which manifest. -/
def headerSteps (manifest : Manifest) : List Step := [
  .line ("// Code generated by abi-codegen from a " ++ Manifest.schemaVersion
    ++ " manifest. DO NOT EDIT."),
  .line ("// abi-hash: " ++ manifest.fingerprint.hex)]

/-- A module as text. -/
def moduleText (manifest : Manifest) (body : List Step) : String :=
  Layout.render 2 (headerSteps manifest ++ body)

/-! ## Declarations -/

/-- The arm for a variant. A `unit` payload is left out. -/
def variantArm (scope : Scope) (variant : Variant) : Except GenerateError Arm :=
  return ⟨.kind, variant.name, ← scope.payload (variant.payload?.filter (!·.isUnit))⟩

/-- The arm for an error case. -/
def errorArm (scope : Scope) (error : ErrorCase) : Except GenerateError Arm :=
  return ⟨.code, error.code, ← scope.payload error.payload?⟩

/-- The arm for an event. -/
def eventArm (scope : Scope) (event : Event) : Except GenerateError Arm :=
  return ⟨.name, event.name, ← scope.payload event.payload?⟩

/-- The declaration for an entry of the type table. -/
def entryDeclaration (scope : Scope) : String × TypeDef → Except GenerateError Declaration
  | (name, .record fields) => return .interface (safeIdent name) (← scope.members fields)
  | (name, .variant variants) => return .union (safeIdent name) (← variants.mapM (variantArm scope))
  | (name, .bytes count?) =>
    let doc := count?.toList.map fun count =>
      "Fixed-length: " ++ toString count.value.toNat ++ " bytes."
    return .synonym doc (safeIdent name) (.builtin .byteArray)

/-- The declarations for the errors of a method. -/
def errorDeclarations (scope : Scope) (method : Method) :
    Except GenerateError (List Declaration) := do
  if method.errors.isEmpty then return []
  let arms ← method.errors.mapM (errorArm scope)
  return [.literals (errorCodesName method) (method.errors.map (·.code)), .union (errorName method) arms]

/-- The declaration for the payload of an event. -/
def payloadDeclarations (scope : Scope) (event : Event) : Except GenerateError (List Declaration) := do
  match event.payload? with
  | some payload => return [.synonym [] (payloadName event) (← scope.type payload)]
  | none => return []

/-- The declaration of the union of all events. -/
def eventDeclarations (scope : Scope) (events : List Event) :
    Except GenerateError (List Declaration) := do
  if events.isEmpty then return []
  return [.union eventUnion (← events.mapM (eventArm scope))]

/-- All type declarations of a manifest. -/
def typeDeclarations (manifest : Manifest) : Except GenerateError (List Declaration) := do
  checkClaims typesFile (typeClaims manifest)
  let scope := Scope.ofManifest manifest
  let entries ← manifest.types.mapM (entryDeclaration scope)
  let errors ← manifest.methods.mapM (errorDeclarations scope)
  let payloads ← manifest.events.mapM (payloadDeclarations scope)
  let union ← eventDeclarations scope manifest.events
  return entries ++ errors.flatten ++ payloads.flatten ++ union

/-- The module of type declarations as text. -/
def typesText (manifest : Manifest) : Except GenerateError String := do
  let declarations ← typeDeclarations manifest
  return moduleText manifest (TypeScript.declarationSteps declarations)

end AbiBindings.Bindings
