import AbiBindings.Manifest.Basic
import AbiBindings.Text.Words
import AbiBindings.TypeScript.Identifier

/-!
# Bindings — names

Which identifiers stand for the names of a manifest, and the names that the generated modules use of
their own.
-/

namespace AbiBindings.Bindings

open Manifest (Method Event)
open TypeScript (safeIdent)

/-! ## Files -/

/-- The file of the type declarations. -/
def typesFile : String := "types.ts"

/-- The file of the client class. -/
def clientFile : String := "client.ts"

/-! ## Derived names -/

/-- The union of the error codes of a method. -/
def errorCodesName (method : Method) : String := safeIdent method.name ++ "ErrorCode"

/-- The union of the errors of a method. -/
def errorName (method : Method) : String := safeIdent method.name ++ "Error"

/-- The payload of an event. -/
def payloadName (event : Event) : String := safeIdent event.name ++ "Payload"

/-- A name in camel case; a name without letters and digits is kept as it is. -/
def methodIdent (name : String) : String :=
  let camel := Text.lowerCamel name
  safeIdent (if camel.isEmpty then name else camel)

/-- The names that the body of a method uses beside its parameters. -/
def bodyNames : List String := ["response", "methodError", "Error"]

/-- The parameter that stands for `name`. It never hides a name that the body uses. -/
def paramIdent (name : String) : String :=
  let ident := safeIdent name
  if bodyNames.contains ident then ident ++ "_" else ident

/-! ## Fixed names -/

/-- The union of all events. -/
def eventUnion : String := "AbiEvent"

/-- What the client module declares beside the class. -/
def supportNames : List String :=
  ["AbiCallFailure", "AbiCallResult", "AbiCall", "AbiMethodError", "methodError"]

/-- The exception that a call without declared errors throws. -/
def globalError : String := "Error"

/-- The namespace through which a client may see the type declarations. -/
def typesNamespace : String := "types"

/-- The object in which a method may take its arguments. -/
def paramsObject : String := "params"

end AbiBindings.Bindings
