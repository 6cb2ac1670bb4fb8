import AbiBindings.Manifest.TypeRef

/-!
# Manifest — the declarations of an interface

A `Manifest` describes what a remote application offers: a table of named types, methods to call,
and events to listen to. All lists are in the order of the document.

* `Manifest.findType?`, `Manifest.findMethod?` — look up by name;
* `Manifest.visitTypes` — an action on every node of every type, with its location;
* `Manifest.same` — equality that takes the type table as a table.
-/

namespace AbiBindings.Manifest

/-! ## Declarations -/

/-- The length of a byte string of fixed length: at least one. -/
structure ByteCount where
  value : UInt64
  positive : value ≠ 0
  deriving DecidableEq

/-- One arm of a variant type. -/
structure Variant where
  name : String
  payload? : Option TypeRef
  deriving DecidableEq

/-- A definition in the type table. Byte strings without a count have any length. -/
inductive TypeDef where
  | record (fields : List Field)
  | variant (variants : List Variant)
  | bytes (count? : Option ByteCount)
  deriving DecidableEq

/-- A declared way for a method to fail. -/
structure ErrorCase where
  code : String
  payload? : Option TypeRef
  deriving DecidableEq

/-- A method that can be called. The order of the parameters is the contract of the call. -/
structure Method where
  name : String
  params : List Field
  returns? : Option TypeRef
  returnsNullable : Bool
  declaredErrors? : Option (List ErrorCase)
  deriving DecidableEq

/-- The declared ways to fail; a method need not say anything about them. -/
def Method.errors (method : Method) : List ErrorCase := method.declaredErrors?.getD []

/-- The type of the value returned, if there is one: `unit` is no value. -/
def Method.valueReturn? (method : Method) : Option TypeRef :=
  method.returns?.filter (!·.isUnit)

/-- An event that the application publishes. -/
structure Event where
  name : String
  payload? : Option TypeRef
  deriving DecidableEq

/-- An event without payload is one whose payload is absent or `unit`. -/
def Event.ofPayload (name : String) (payload? : Option TypeRef) : Event :=
  ⟨name, payload?.filter (!·.isUnit)⟩

end Manifest

open Manifest

/-- The declarations of an interface. -/
structure Manifest where
  types : List (String × TypeDef)
  methods : List Method
  events : List Event

namespace Manifest

/-- The one version of the schema that a manifest may have. -/
def schemaVersion : String := "wasm-abi/1"

/-! ## Looking up -/

/-- The definition called `name`. -/
def findType? (manifest : Manifest) (name : String) : Option TypeDef := manifest.types.lookup name

/-- The first method called `name`. -/
def findMethod? (manifest : Manifest) (name : String) : Option Method :=
  manifest.methods.find? (·.name == name)

/-! ## How much a manifest declares -/

/-- The numbers of declarations. -/
structure Summary where
  methods : Nat
  events : Nat
  types : Nat
  deriving DecidableEq, Repr

/-- How many declarations of each kind there are. -/
def summary (manifest : Manifest) : Summary :=
  ⟨manifest.methods.length, manifest.events.length, manifest.types.length⟩

/-- A summary in words. -/
def Summary.text (summary : Summary) : String :=
  toString summary.methods ++ " methods, " ++ toString summary.events ++ " events, "
    ++ toString summary.types ++ " types"

/-! ## Visiting every type -/

section Visit

variable {m : Type → Type} [Monad m] (act : TypeRef → String → m Unit)

/-- Act on every node of a payload, if there is one. -/
def visitPayload (location : String) : Option TypeRef → m Unit
  | some type => type.visit act location
  | none => pure ()

/-- Act on every node in a definition; `location` is that of the definition. -/
def TypeDef.visit (location : String) : TypeDef → m Unit
  | .record fields => visitFields act location fields
  | .variant variants =>
    variants.forM fun variant => visitPayload act (location ++ "." ++ variant.name) variant.payload?
  | .bytes _ => pure ()

/-- Act on every node in a method: parameters, then the return type, then error payloads. -/
def Method.visit (method : Method) : m Unit := do
  let location := "methods." ++ method.name
  visitFields act (location ++ ".params") method.params
  visitPayload act (location ++ ".returns") method.returns?
  method.errors.forM fun error =>
    visitPayload act (location ++ ".errors." ++ error.code) error.payload?

/-- Act on every node in an event. -/
def Event.visit (event : Event) : m Unit :=
  visitPayload act ("events." ++ event.name ++ ".payload") event.payload?

/-- Act on every node in the type table, then in the methods, then in the events. -/
def visitTypes (manifest : Manifest) : m Unit := do
  manifest.types.forM fun (name, definition) => definition.visit act ("types." ++ name)
  manifest.methods.forM (Method.visit act)
  manifest.events.forM (Event.visit act)

end Visit

/-! ## Equality -/

/-- Whether two type tables define the same names in the same way, in whatever order. -/
def sameTable (a b : List (String × TypeDef)) : Bool :=
  a.length == b.length && a.all fun (name, definition) => b.lookup name == some definition

/-- Whether two manifests declare the same. -/
def same (a b : Manifest) : Bool :=
  sameTable a.types b.types && a.methods == b.methods && a.events == b.events

end Manifest

end AbiBindings
