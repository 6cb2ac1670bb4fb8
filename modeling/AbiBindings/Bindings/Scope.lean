import AbiBindings.Bindings.Claims
import AbiBindings.TypeScript.TypeExpr

/-!
# Bindings — types in a scope

How the types of a manifest come out in a generated module. A reference is passed on by its name
only, so types that refer to each other in a circle do no harm; the name must be in the type table.
-/

namespace AbiBindings.Bindings

open Manifest (Primitive TypeRef Field)
open TypeScript (Builtin TypeExpr Member Reference safeIdent)

/-- What a module sees of the type declarations. -/
structure Scope where
  /-- The names in the type table. -/
  declared : List String
  /-- The namespace in which the declarations are visible, if they are in one. -/
  space? : Option String

/-- The scope in which the declarations of a manifest are visible under their own names. -/
def Scope.ofManifest (manifest : Manifest) : Scope := ⟨manifest.types.map (·.1), none⟩

/-- The same declarations inside a namespace. -/
def Scope.within (scope : Scope) (space : String) : Scope := { scope with space? := some space }

/-- A declaration as seen from the scope. -/
def Scope.reference (scope : Scope) (ident : String) : Reference := ⟨scope.space?, ident⟩

/-- The built-in type for a primitive type. -/
def builtin : Primitive → Builtin
  | .bool => .boolean
  | .i32 | .i64 | .u32 | .u64 | .f32 | .f64 => .number
  | .string => .string
  | .unit => .void
  | .bytes => .byteArray

mutual

/-- The type expression for a type. -/
def Scope.type (scope : Scope) : TypeRef → Except GenerateError TypeExpr
  | .named name =>
    if scope.declared.contains name then .ok (.reference (scope.reference (safeIdent name)))
    else .error (.unknownType name)
  | .primitive type => .ok (.builtin (builtin type))
  | .list items => return .array (← scope.type items)
  | .map key value => return .dictionary (← scope.type key) (← scope.type value)
  | .record fields => return .object (← scope.members fields)

/-- The member for a field. -/
def Scope.member (scope : Scope) : Field → Except GenerateError Member
  | ⟨name, type, nullable⟩ => return ⟨name, ← scope.type type, nullable⟩

/-- The members for several fields. -/
def Scope.members (scope : Scope) : List Field → Except GenerateError (List Member)
  | [] => .ok []
  | field :: rest => return (← scope.member field) :: (← scope.members rest)

end

/-- The type expression for a payload, if there is one. -/
def Scope.payload (scope : Scope) : Option TypeRef → Except GenerateError (Option TypeExpr)
  | some type => some <$> scope.type type
  | none => .ok none

end AbiBindings.Bindings
