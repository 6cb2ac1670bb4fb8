import AbiBindings.Bindings.Names
import AbiBindings.Text.Quoted

/-!
# Bindings — claims on names

Different declarations of a manifest may come to the same identifier. Each module therefore lists
what it declares as `Claim`s, in the order of the declarations, before anything is generated, and
the first name claimed twice is an error.

* `typeClaims` — the names that the type declarations export;
* `firstClash?` — the first claim on a name that is taken.
-/

namespace AbiBindings.Bindings

open Manifest (TypeRef)
open TypeScript (safeIdent)

/-! ## Claims -/

/-- What a name is claimed for. -/
inductive Origin where
  | type (name : String)
  | errors (method : String)
  | payload (event : String)
  | eventUnion
  | typesImport
  | support
  | globalError
  | clientClass
  deriving DecidableEq, Repr

/-- The words for an origin. -/
def Origin.text : Origin → String
  | .type name => "type " ++ Text.quoted name
  | .errors method => "errors of method " ++ Text.quoted method
  | .payload event => "payload of event " ++ Text.quoted event
  | .eventUnion => "the event union"
  | .typesImport => "the type module import"
  | .support => "client support code"
  | .globalError => "the global Error used by client methods"
  | .clientClass => "the client class"

/-- A name with what it is claimed for. -/
structure Claim where
  name : String
  origin : Origin
  deriving DecidableEq, Repr

/-- The names that the type declarations export, in their order. -/
def typeClaims (manifest : Manifest) : List Claim :=
  manifest.types.map (fun (name, _) => ⟨safeIdent name, .type name⟩)
    ++ (manifest.methods.filter (!·.errors.isEmpty)).flatMap (fun method =>
      [⟨errorCodesName method, .errors method.name⟩, ⟨errorName method, .errors method.name⟩])
    ++ (manifest.events.filter (·.payload?.isSome)).map (fun event =>
      ⟨payloadName event, .payload event.name⟩)
    ++ if manifest.events.isEmpty then [] else [⟨eventUnion, .eventUnion⟩]

/-! ## Clashes -/

/-- Two claims on one name. -/
structure Clash where
  name : String
  first : Origin
  second : Origin
  deriving DecidableEq, Repr

/-- The first of `claims` whose name is taken, by `taken` or by an earlier one. -/
def firstClashAfter? (taken : List Claim) : List Claim → Option Clash
  | [] => none
  | claim :: rest =>
    match taken.find? (·.name == claim.name) with
    | some holder => some ⟨claim.name, holder.origin, claim.origin⟩
    | none => firstClashAfter? (taken ++ [claim]) rest

/-- The first claim on a name that an earlier one holds. -/
def firstClash? (claims : List Claim) : Option Clash := firstClashAfter? [] claims

/-- The first of `names` that is among `seen` or repeats an earlier one. -/
def firstRepeatAfter? (seen : List String) : List String → Option String
  | [] => none
  | name :: rest => if seen.contains name then some name else firstRepeatAfter? (name :: seen) rest

/-- The first name that repeats an earlier one. -/
def firstRepeat? (names : List String) : Option String := firstRepeatAfter? [] names

/-! ## Errors -/

/-- Why no bindings can be generated. -/
inductive GenerateError where
  | unknownType (name : String)
  | duplicateBinding (binding method : String)
  | duplicateDeclaration (file : String) (clash : Clash)
  | duplicateParameter (method param : String)

/-- The words for an error. -/
def GenerateError.message : GenerateError → String
  | .unknownType name =>
    "unknown type reference " ++ Text.quoted name ++ " (manifest was not resolved)"
  | .duplicateBinding binding method =>
    "methods map to the same client binding `" ++ binding ++ "` (second: `" ++ method ++ "`)"
  | .duplicateDeclaration file clash =>
    file ++ " declares `" ++ clash.name ++ "` twice: for " ++ clash.first.text ++ " and for "
      ++ clash.second.text
  | .duplicateParameter method param =>
    "parameters of method `" ++ method ++ "` map to the same identifier `" ++ param ++ "`"

/-- Check that no name of the module in `file` is claimed twice. -/
def checkClaims (file : String) (claims : List Claim) : Except GenerateError Unit :=
  match firstClash? claims with
  | some clash => .error (.duplicateDeclaration file clash)
  | none => .ok ()

end AbiBindings.Bindings
