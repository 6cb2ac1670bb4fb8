import AbiBindings.Layout.Step
import AbiBindings.TypeScript.TypeExpr

/-!
# TypeScript — exported type declarations

The declarations of a module that holds types only: interfaces, unions whose arms carry a
discriminant, unions of string literals, and synonyms.

* `Declaration.name` — the name that a declaration exports;
* `Declaration.steps` — how it is laid out.
-/

namespace AbiBindings.TypeScript

open Layout (Step)

/-! ## Arms of unions -/

/-- The property that tells the arms of a union apart. -/
inductive Discriminant where
  | kind
  | code
  | name
  deriving DecidableEq, Repr

/-- The key of a discriminant. -/
def Discriminant.key : Discriminant → String
  | .kind => "kind"
  | .code => "code"
  | .name => "name"

/-- An arm: the label its discriminant has, and what it carries. -/
structure Arm where
  discriminant : Discriminant
  label : String
  payload? : Option TypeExpr

/-- How an arm is written. A failure's payload is a second object type beside its code, anything
else's is a second member. -/
def Arm.text (arm : Arm) : String :=
  let label := arm.discriminant.key ++ ": " ++ stringLiteral arm.label
  match arm.payload? with
  | none => objectText [label]
  | some payload =>
    let payload := "payload: " ++ payload.text
    match arm.discriminant with
    | .code => objectText [label] ++ " & " ++ objectText [payload]
    | .kind | .name => objectText [label, payload]

/-! ## Declarations -/

/-- An exported declaration. -/
inductive Declaration where
  | interface (name : String) (members : List Member)
  | union (name : String) (arms : List Arm)
  | literals (name : String) (labels : List String)
  | synonym (doc : List String) (name : String) (type : TypeExpr)

/-- The name that a declaration exports. -/
def Declaration.name : Declaration → String
  | .interface name _ | .union name _ | .literals name _ | .synonym _ name _ => name

/-- The lines of the arms of a union; the last one ends the declaration. -/
def armLines : List Arm → List Step
  | [] => []
  | [last] => [.line ("| " ++ last.text ++ ";")]
  | arm :: rest => .line ("| " ++ arm.text) :: armLines rest

/-- A declaration that gives a type another name. -/
def exportType (name type : String) : String := "export type " ++ name ++ " = " ++ type ++ ";"

/-- How a declaration is laid out. -/
def Declaration.steps : Declaration → List Step
  | .interface name [] => [.line ("export interface " ++ name ++ " \x7b\x7d")]
  | .interface name members =>
    [.block ("export interface " ++ name) (members.map fun member => .line (member.text ++ ";"))]
  | .union name [] => [.line (exportType name "never")]
  | .union name arms => [.line ("export type " ++ name ++ " ="), .nested (armLines arms)]
  | .literals name labels => [.line (exportType name (" | ".intercalate (labels.map stringLiteral)))]
  | .synonym doc name type => [.doc doc, .line (exportType name type.text)]

/-- Declarations with an empty line before each. -/
def declarationSteps (declarations : List Declaration) : List Step :=
  declarations.flatMap fun declaration => .blank :: declaration.steps

end AbiBindings.TypeScript
