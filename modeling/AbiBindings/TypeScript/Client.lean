import AbiBindings.Layout.Step
import AbiBindings.TypeScript.TypeExpr

/-!
# TypeScript — client classes

A client class wraps a function that performs calls and has one asynchronous method for each method
that can be called. A method forwards its arguments in order under the name that the other side
knows, turns a failed response into an exception and hands the value of a successful one on.

* `ClientMethod` — a method of the class;
* `ClientModule` — the class with everything else in its module;
* `ClientModule.steps` — how the module is laid out.
-/

namespace AbiBindings.TypeScript

open Layout (Step)

/-! ## Parameters and arguments -/

/-- A parameter of a method. -/
structure Parameter where
  name : String
  type : TypeExpr
  nullable : Bool

/-- How a parameter is written. -/
def Parameter.text (parameter : Parameter) : String :=
  parameter.name ++ ": " ++ orNull parameter.type.text parameter.nullable

/-- How a method takes its arguments: one by one, or as the members of one object. -/
inductive Parameters where
  | separate (parameters : List Parameter)
  | bundled (name : String) (members : List Member)

/-- What stands between the parentheses of a method. -/
def Parameters.text : Parameters → String
  | .separate parameters => ", ".intercalate (parameters.map Parameter.text)
  | .bundled name members => name ++ ": \x7b " ++ "; ".intercalate (memberTexts members) ++ " \x7d"

/-- An expression for the value of an argument. -/
inductive Argument where
  | parameter (name : String)
  | property (target name : String)
  deriving DecidableEq, Repr

/-- How an argument is written. -/
def Argument.text : Argument → String
  | .parameter name => name
  | .property target name => propertyAccess target name

/-- What a method takes and what it passes on. -/
structure Signature where
  parameters : Parameters
  arguments : List Argument

/-! ## Methods -/

/-- The type of a value that is returned. -/
structure Result where
  type : TypeExpr
  nullable : Bool

/-- How the type of a value is written. -/
def Result.text (result : Result) : String := orNull result.type.text result.nullable

/-- A declared way to fail. -/
structure Failure where
  code : String
  payload? : Option TypeExpr

/-- A method of a client class. -/
structure ClientMethod where
  binding : String
  /-- The name that the other side knows. -/
  wireName : String
  signature : Signature
  result? : Option Result
  failures : List Failure
  /-- The union of the failures, where there are any. -/
  failureType : Reference

namespace ClientMethod

/-- The line of the documentation on a failure. -/
def failureDoc (failure : Failure) : String :=
  "@throws \x7bAbiMethodError\x7d `" ++ failure.code ++ "`" ++
    match failure.payload? with
    | some payload => " with payload `" ++ payload.text ++ "`"
    | none => ""

/-- The documentation: what the method calls and how it fails. -/
def doc (method : ClientMethod) : List String :=
  ["Calls the `" ++ method.wireName ++ "` ABI method.", ""] ++
    if method.failures.isEmpty then
      ["@throws \x7bError\x7d when the call fails; no error codes are declared."]
    else method.failures.map failureDoc

/-- The line that performs the call. -/
def callLine (method : ClientMethod) : String :=
  "const response = await this.#call(" ++ stringLiteral method.wireName ++ ", ["
    ++ ", ".intercalate (method.signature.arguments.map Argument.text) ++ "]);"

/-- The line that turns a failed response into an exception. -/
def throwLine (method : ClientMethod) : String :=
  if method.failures.isEmpty then "throw new Error(response.error.message);"
  else
    "throw methodError<" ++ method.failureType.text ++ ">(" ++ stringLiteral method.wireName
      ++ ", response.error);"

/-- The line that hands the value on, if there is one. -/
def returnLines (method : ClientMethod) : List String :=
  match method.result? with
  | some result =>
    let value := if result.nullable then "(response.value ?? null)" else "response.value"
    ["return " ++ value ++ " as " ++ result.text ++ ";"]
  | none => []

/-- Such a line says what is returned, with a default if that may be absent, and of which type it is. -/
theorem exists_result_of_mem_returnLines {method : ClientMethod} {line : String}
    (h : line ∈ method.returnLines) :
    ∃ result, method.result? = some result ∧
      line = "return " ++ (if result.nullable then "(response.value ?? null)" else "response.value")
        ++ " as " ++ result.text ++ ";" := by
  rw [returnLines] at h
  split at h
  next result hResult => exact ⟨result, hResult, List.mem_singleton.mp h⟩
  next => exact absurd h List.not_mem_nil

/-- The type of the value that the method promises. -/
def promised (method : ClientMethod) : String := method.result?.elim "void" Result.text

/-- The first line of the method, up to its brace. -/
def header (method : ClientMethod) : String :=
  "async " ++ method.binding ++ "(" ++ method.signature.parameters.text ++ "): Promise<"
    ++ method.promised ++ ">"

/-- How a method is laid out. -/
def steps (method : ClientMethod) : List Step := [
  .doc method.doc,
  .block method.header
    ([.line method.callLine, .block "if (!response.ok)" [.line method.throwLine]]
      ++ method.returnLines.map .line)]

end ClientMethod

/-! ## Modules -/

/-- The module that the declarations of types come from. -/
def typesModule : String := "./types"

/-- A line that brings declarations into a module or passes them on. -/
inductive Import where
  | passOn
  | wildcard (name : String)
  | types (names : List String)

/-- How an import is written. -/
def Import.text : Import → String
  | .passOn => "export * from " ++ stringLiteral typesModule ++ ";"
  | .wildcard name => "import * as " ++ name ++ " from " ++ stringLiteral typesModule ++ ";"
  | .types names =>
    "import type \x7b " ++ ", ".intercalate names ++ " \x7d from " ++ stringLiteral typesModule ++ ";"

/-- The types of the function that performs calls, and the exception for declared failures. -/
def transportSteps : List Step := [
  .line "/** A failed call as reported by the transport. */",
  .block "export interface AbiCallFailure" [
    .line "code?: string;",
    .line "message: string;",
    .line "payload?: unknown;"],
  .blank,
  .line "export type AbiCallResult =",
  .nested [
    .line "| \x7b ok: true; value: unknown \x7d",
    .line "| \x7b ok: false; error: AbiCallFailure \x7d;"],
  .blank,
  .line "/** Transport primitive: invoke `method` with positional `args`. */",
  .line "export type AbiCall = (method: string, args: unknown[]) => Promise<AbiCallResult>;",
  .blank,
  .line "/** Thrown when a method fails with one of its declared error codes. */",
  .block "export class AbiMethodError<E extends \x7b code: string \x7d> extends Error" [
    .line "readonly method: string;",
    .line "readonly error: E;",
    .blank,
    .block "constructor(method: string, error: E, message: string)" [
      .line "super(message);",
      .line "this.name = \"AbiMethodError\";",
      .line "this.method = method;",
      .line "this.error = error;"]]]

/-- The function that makes the exception for a declared failure. -/
def failureHelperSteps : List Step := [
  .block ("function methodError<E extends \x7b code: string \x7d>(method: string, "
      ++ "failure: AbiCallFailure): AbiMethodError<E>") [
    .line "const error = (failure.payload === undefined",
    .nested [
      .line "? \x7b code: failure.code \x7d",
      .line ": \x7b code: failure.code, payload: failure.payload \x7d) as unknown as E;"],
    .line "return new AbiMethodError<E>(method, error, failure.message);"]]

/-- A client class with everything else in its module. -/
structure ClientModule where
  imports : List Import
  className : String
  methods : List ClientMethod

namespace ClientModule

/-- Whether a method has declared failures. -/
def hasFailures (client : ClientModule) : Bool := client.methods.any (!·.failures.isEmpty)

/-- The members of the class. -/
def classSteps (client : ClientModule) : List Step := [
  .line "readonly #call: AbiCall;",
  .blank,
  .block "constructor(call: AbiCall)" [.line "this.#call = call;"]]
  ++ client.methods.flatMap fun method => .blank :: method.steps

/-- How the module is laid out. -/
def steps (client : ClientModule) : List Step :=
  .blank :: client.imports.map (.line ·.text)
    ++ .blank :: transportSteps
    ++ (if client.hasFailures then .blank :: failureHelperSteps else [])
    ++ [.blank, .block ("export class " ++ client.className) client.classSteps]

end ClientModule

end AbiBindings.TypeScript
