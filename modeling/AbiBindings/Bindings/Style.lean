import AbiBindings.Bindings.Scope
import AbiBindings.TypeScript.Client

/-!
# Bindings — styles of clients

A client takes the arguments of a method in one of two styles.

* positional — one parameter for each, methods in camel case, types imported by name:
  `makePerson(name, age)`;
* namespaced — one object with a member for each, methods as declared, types seen through a
  namespace: `make_person(params: { name; age })`.
-/

namespace AbiBindings.Bindings

open Manifest (TypeRef Field Method)
open TypeScript (Argument Import Member Parameter Parameters Signature safeIdent)

/-- How the methods of a client take their arguments. -/
inductive Style where
  | positional
  | namespaced
  deriving DecidableEq, Repr

namespace Style

/-! ## Names -/

/-- What a client of this style sees of the type declarations. -/
def scope (style : Style) (manifest : Manifest) : Scope :=
  match style with
  | .positional => Scope.ofManifest manifest
  | .namespaced => (Scope.ofManifest manifest).within typesNamespace

/-- The name of the client method for a method. -/
def bindingName (style : Style) (method : Method) : String :=
  match style with
  | .positional => methodIdent method.name
  | .namespaced => safeIdent method.name

/-- The names that imports bring into the module, those passed on apart. -/
def importedNames : Style → List String
  | .positional => []
  | .namespaced => [typesNamespace]

end Style

/-! ## Imports -/

/-- Put a name where it belongs in an ascending list, unless it is there. -/
def insertName (name : String) : List String → List String
  | [] => [name]
  | other :: rest =>
    if name < other then name :: other :: rest
    else if name = other then other :: rest
    else other :: insertName name rest

/-- Note the declaration that a node names. -/
def noteName (node : TypeRef) (_ : String) : StateM (List String) Unit :=
  match node with
  | .named name => modify (insertName (safeIdent name))
  | _ => pure ()

/-- Note every declaration that a type names. -/
def noteNames (type : TypeRef) : StateM (List String) Unit := type.visit noteName ""

/-- Note every declaration that the client method for a method names. -/
def noteMethod (method : Method) : StateM (List String) Unit := do
  method.params.forM fun param => noteNames param.type
  if let some type := method.valueReturn? then noteNames type
  unless method.errors.isEmpty do modify (insertName (errorName method))

/-- The declarations that the client methods name, in ascending order. -/
def namesUsed (manifest : Manifest) : List String :=
  ((manifest.methods.forM noteMethod).run []).2

/-- The imports of a client. -/
def Style.imports (style : Style) (manifest : Manifest) : List Import :=
  match style with
  | .positional =>
    let names := namesUsed manifest
    .passOn :: if names.isEmpty then [] else [.types names]
  | .namespaced => [.wildcard typesNamespace, .passOn]

/-! ## Signatures -/

/-- The parameter for a parameter of a method. -/
def parameter (scope : Scope) (field : Field) : Except GenerateError Parameter :=
  return ⟨paramIdent field.name, ← scope.type field.type, field.nullable⟩

/-- Check that no parameter of a method has the name of an earlier one. -/
def checkParameters (method : Method) (names : List String) : Except GenerateError Unit :=
  match firstRepeat? names with
  | some name => .error (.duplicateParameter method.name name)
  | none => .ok ()

/-- The signature of the client method for a method. -/
def Style.signature (style : Style) (scope : Scope) (method : Method) :
    Except GenerateError Signature := do
  match style with
  | .positional =>
    let parameters ← method.params.mapM (parameter scope)
    let names := parameters.map (·.name)
    checkParameters method names
    return ⟨.separate parameters, names.map .parameter⟩
  | .namespaced =>
    if method.params.isEmpty then return ⟨.separate [], []⟩
    checkParameters method (method.params.map (·.name))
    let members ← scope.members method.params
    return ⟨.bundled paramsObject members, method.params.map (.property paramsObject ·.name)⟩

end AbiBindings.Bindings
