import AbiBindings.Json.Literal
import AbiBindings.TypeScript.Identifier

/-!
# TypeScript — literals and properties

Names that the other side of a call knows are never rewritten. As the key of a member, and behind
an object, such a name stands bare if it is an identifier and is quoted otherwise.
-/

namespace AbiBindings.TypeScript

/-- A double-quoted string literal; the escapes of JSON mean the same here. -/
def stringLiteral (value : String) : String := Json.literal value

/-- The key under which an object type lists the property `name`. -/
def propertyKey (name : String) : String :=
  if isIdentifier name then name else stringLiteral name

/-- The expression that reads the property `name` of `target`. -/
def propertyAccess (target name : String) : String :=
  if isIdentifier name then target ++ "." ++ name else target ++ "[" ++ stringLiteral name ++ "]"

end AbiBindings.TypeScript
