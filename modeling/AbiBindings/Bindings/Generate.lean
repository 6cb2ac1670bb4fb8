import AbiBindings.Bindings.Style
import AbiBindings.Bindings.TypeModule

/-!
# Bindings — generation

The bindings of a manifest are two modules: the type declarations and a client class. They depend on
nothing but the manifest, the name of the class and the style.

* `clientModule`, `clientText` — the client class;
* `generate` — both modules.
-/

namespace AbiBindings.Bindings

open Manifest (ErrorCase Method)
open TypeScript (ClientMethod ClientModule Failure Result safeIdent)

/-! ## The client class -/

/-- The names in the module of the client class. The type declarations are passed on, so they are
among them. -/
def clientClaims (manifest : Manifest) (clientName : String) (style : Style) : List Claim :=
  typeClaims manifest
    ++ style.importedNames.map (⟨·, .typesImport⟩)
    ++ supportNames.map (⟨·, .support⟩)
    ++ [⟨globalError, .globalError⟩, ⟨safeIdent clientName, .clientClass⟩]

/-- The first of `methods` whose binding is among `seen` or is that of an earlier one. -/
def firstSharedBinding? (style : Style) (seen : List String) : List Method → Option Method
  | [] => none
  | method :: rest =>
    let binding := style.bindingName method
    if seen.contains binding then some method
    else firstSharedBinding? style (binding :: seen) rest

/-- Check that no two methods have the same binding. -/
def checkBindings (style : Style) (methods : List Method) : Except GenerateError Unit :=
  match firstSharedBinding? style [] methods with
  | some method => .error (.duplicateBinding (style.bindingName method) method.name)
  | none => .ok ()

/-- The failure for an error case. -/
def failure (scope : Scope) (error : ErrorCase) : Except GenerateError Failure :=
  return ⟨error.code, ← scope.payload error.payload?⟩

/-- The result of a method, if it returns a value. -/
def result (scope : Scope) (method : Method) : Except GenerateError (Option Result) := do
  match method.valueReturn? with
  | some type => return some ⟨← scope.type type, method.returnsNullable⟩
  | none => return none

/-- The client method for a method. -/
def clientMethod (style : Style) (scope : Scope) (method : Method) :
    Except GenerateError ClientMethod := do
  let signature ← style.signature scope method
  let result? ← result scope method
  let failures ← method.errors.mapM (failure scope)
  return {
    binding := style.bindingName method
    wireName := method.name
    signature, result?, failures
    failureType := scope.reference (errorName method) }

/-- The client class for a manifest. -/
def clientModule (manifest : Manifest) (clientName : String) (style : Style) :
    Except GenerateError ClientModule := do
  checkClaims clientFile (clientClaims manifest clientName style)
  checkBindings style manifest.methods
  let methods ← manifest.methods.mapM (clientMethod style (style.scope manifest))
  return { imports := style.imports manifest, className := safeIdent clientName, methods }

/-- The module of the client class as text. -/
def clientText (manifest : Manifest) (clientName : String) (style : Style) :
    Except GenerateError String := do
  let client ← clientModule manifest clientName style
  return moduleText manifest client.steps

/-! ## Both modules -/

/-- The two modules as text. -/
structure Generated where
  types : String
  client : String
  deriving DecidableEq, Repr

/-- The files of the two modules, in the order in which they are written. -/
def Generated.files (generated : Generated) : List (String × String) :=
  [(typesFile, generated.types), (clientFile, generated.client)]

/-- Generate both modules. -/
def generate (manifest : Manifest) (clientName : String) (style : Style) :
    Except GenerateError Generated := do
  let types ← typesText manifest
  let client ← clientText manifest clientName style
  return { types, client }

end AbiBindings.Bindings
