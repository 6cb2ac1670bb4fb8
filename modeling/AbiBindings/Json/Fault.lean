import AbiBindings.Json.NumberText
import AbiBindings.Text.Quoted

/-!
# Json — values of the wrong shape

A `Fault` says why a value is not what was expected in its place: it has the wrong kind or length,
a member is missing or unknown, or a tag is unknown.
-/

namespace AbiBindings.Json

/-- What is expected in a place. -/
inductive Expectation where
  | boolean
  | string
  | sequence
  | map
  | unsigned
  | unit
  | stringOrMap
  | singleKeyMap
  | tag
  /-- A record, by its name. -/
  | record (name : String)
  /-- A record of so many columns, by its name, spelled as an array. -/
  | columns (name : String) (count : Nat)
  /-- An array with nothing behind its columns. -/
  | fewerItems
  /-- An array with nothing behind its columns, of which there are so many. -/
  | exactItems (count : Nat)
  /-- One of several records told apart by a tag, by their common name. -/
  | tagged (name : String)

/-- A count of elements in words. -/
def elementCount (count : Nat) : String :=
  toString count ++ if count = 1 then " element" else " elements"

/-- The words for an expectation. -/
def Expectation.text : Expectation → String
  | .boolean => "a boolean"
  | .string => "a string"
  | .sequence => "a sequence"
  | .map => "a map"
  | .unsigned => "u64"
  | .unit => "unit"
  | .stringOrMap => "string or map"
  | .singleKeyMap => "map with a single key"
  | .tag => "variant identifier"
  | .record name => name
  | .columns name count => name ++ " with " ++ elementCount count
  | .fewerItems => "fewer elements in array"
  | .exactItems count => elementCount count ++ " in sequence"
  | .tagged name => "internally tagged enum " ++ name

/-- Why a value is not what was expected. -/
inductive Fault where
  | invalidType (found : Json) (expected : Expectation)
  | invalidValue (found : Json) (expected : Expectation)
  | invalidLength (found : Nat) (expected : Expectation)
  | missingField (key : String)
  | unknownField (key : String) (expected : List String)
  | unknownVariant (tag : String) (expected : List String)
  /-- None of several forms fits, whatever was wrong with each. -/
  | noForm (name : String)

/-- A value as a message names it. -/
def describe : Json → String
  | .null => "null"
  | .bool value => "boolean `" ++ (if value then "true" else "false") ++ "`"
  | .number (.float value) => "floating point `" ++ floatText value ++ "`"
  | .number value => "integer `" ++ value.text ++ "`"
  | .string value => "string " ++ Text.quoted value
  | .array _ => "sequence"
  | .object _ => "map"

/-- Names to choose from, in words. -/
def choices (names : List String) : String :=
  match names.map fun name => "`" ++ name ++ "`" with
  | [] => "there are no fields"
  | [only] => "expected " ++ only
  | [first, second] => "expected " ++ first ++ " or " ++ second
  | several => "expected one of " ++ ", ".intercalate several

/-- The words for a fault. -/
def Fault.message : Fault → String
  | .invalidType found expected => "invalid type: " ++ found.describe ++ ", expected " ++ expected.text
  | .invalidValue found expected => "invalid value: " ++ found.describe ++ ", expected " ++ expected.text
  | .invalidLength found expected =>
    "invalid length " ++ toString found ++ ", expected " ++ expected.text
  | .missingField key => "missing field `" ++ key ++ "`"
  | .unknownField key expected => "unknown field `" ++ key ++ "`, " ++ choices expected
  | .unknownVariant tag expected => "unknown variant `" ++ tag ++ "`, " ++ choices expected
  | .noForm name => "data did not match any variant of untagged enum " ++ name

end AbiBindings.Json
