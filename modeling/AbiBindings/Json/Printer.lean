import AbiBindings.Json.Literal
import AbiBindings.Json.NumberText

/-!
# Json — printing

A value is printed in one line without blanks, or over several lines with two blanks per level.
-/

namespace AbiBindings.Json

mutual

/-- A value in one line. -/
def compact : Json → String
  | .null => "null"
  | .bool value => if value then "true" else "false"
  | .number value => value.text
  | .string value => literal value
  | .array items => "[" ++ ",".intercalate (compactItems items) ++ "]"
  | .object members => "\x7b" ++ ",".intercalate (compactMembers members) ++ "\x7d"

/-- Items in one line each. -/
def compactItems : List Json → List String
  | [] => []
  | item :: rest => item.compact :: compactItems rest

/-- Members in one line each. -/
def compactMembers : List (String × Json) → List String
  | [] => []
  | member :: rest => compactMember member :: compactMembers rest

/-- A member in one line. -/
def compactMember : String × Json → String
  | (key, value) => literal key ++ ":" ++ value.compact

end

/-- Written parts on lines of their own between brackets; `level` is that of the brackets. -/
def prettyList (opening closing : String) (level : Nat) (parts : List String) : String :=
  if parts.isEmpty then opening ++ closing
  else
    let inner := "\n" ++ String.ofList (List.replicate (2 * (level + 1)) ' ')
    let outer := "\n" ++ String.ofList (List.replicate (2 * level) ' ')
    opening ++ inner ++ ("," ++ inner).intercalate parts ++ outer ++ closing

mutual

/-- A value over several lines, at `level`. -/
def prettyAt (level : Nat) : Json → String
  | .array items => prettyList "[" "]" level (prettyItems (level + 1) items)
  | .object members => prettyList "\x7b" "\x7d" level (prettyMembers (level + 1) members)
  | .null => "null"
  | .bool value => if value then "true" else "false"
  | .number value => value.text
  | .string value => literal value

/-- Items over several lines. -/
def prettyItems (level : Nat) : List Json → List String
  | [] => []
  | item :: rest => prettyAt level item :: prettyItems level rest

/-- Members over several lines. -/
def prettyMembers (level : Nat) : List (String × Json) → List String
  | [] => []
  | member :: rest => prettyMember level member :: prettyMembers level rest

/-- A member over several lines. -/
def prettyMember (level : Nat) : String × Json → String
  | (key, value) => literal key ++ ": " ++ prettyAt level value

end

/-- A value over several lines. -/
def pretty (value : Json) : String := prettyAt 0 value

end AbiBindings.Json
