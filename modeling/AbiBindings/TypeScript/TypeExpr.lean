import AbiBindings.TypeScript.Property

/-!
# TypeScript — type expressions

The types that a binding needs: built-in types, references to declarations, arrays, dictionaries
and object types, and how each is written. Whether a value may also be `null` belongs to the place
where a type stands and not to the type, so members carry it and `orNull` writes it.
-/

namespace AbiBindings.TypeScript

/-- The built-in types. -/
inductive Builtin where
  | boolean
  | number
  | string
  | void
  | byteArray
  deriving DecidableEq, Repr

/-- How a built-in type is written. -/
def Builtin.text : Builtin → String
  | .boolean => "boolean"
  | .number => "number"
  | .string => "string"
  | .void => "void"
  | .byteArray => "Uint8Array"

/-- A declaration as seen from a module: under its own name, or inside a namespace. -/
structure Reference where
  space? : Option String
  name : String
  deriving DecidableEq, Repr

/-- How a reference is written. -/
def Reference.text (ref : Reference) : String :=
  match ref.space? with
  | some space => space ++ "." ++ ref.name
  | none => ref.name

mutual

/-- A type expression. -/
inductive TypeExpr where
  | builtin (type : Builtin)
  | reference (ref : Reference)
  | array (items : TypeExpr)
  | dictionary (key value : TypeExpr)
  | object (members : List Member)

/-- A member of an object type. -/
structure Member where
  key : String
  type : TypeExpr
  nullable : Bool

end

/-- A written type, made a union with `null` where `nullable` is set. -/
def orNull (text : String) (nullable : Bool) : String :=
  if nullable then text ++ " | null" else text

/-- An object type with these written members. -/
def objectText (members : List String) : String :=
  if members.isEmpty then "\x7b\x7d" else "\x7b " ++ "; ".intercalate members ++ " \x7d"

mutual

/-- How a type is written. -/
def TypeExpr.text : TypeExpr → String
  | .builtin type => type.text
  | .reference ref => ref.text
  | .array items => items.text ++ "[]"
  | .dictionary key value => "Record<" ++ key.text ++ ", " ++ value.text ++ ">"
  | .object members => objectText (memberTexts members)

/-- How a member is written: its key, then its type. -/
def Member.text : Member → String
  | ⟨key, type, nullable⟩ => propertyKey key ++ ": " ++ orNull type.text nullable

/-- How each of several members is written. -/
def memberTexts : List Member → List String
  | [] => []
  | member :: rest => member.text :: memberTexts rest

end

end AbiBindings.TypeScript
