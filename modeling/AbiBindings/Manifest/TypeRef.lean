/-!
# Manifest — references to types

A `TypeRef` stands wherever a manifest expects a type: it names an entry of the type table, or it
spells a type in place. Fields and method parameters have the same form, and records nest them, so
`TypeRef` and `Field` are defined together.

* `TypeRef.visit` — an action on every node of a reference, each with its dotted location.
-/

namespace AbiBindings.Manifest

/-! ## Primitive types -/

/-- The primitive types. -/
inductive Primitive where
  | bool
  | i32
  | i64
  | u32
  | u64
  | f32
  | f64
  | string
  | unit
  | bytes
  deriving DecidableEq, Repr

namespace Primitive

/-- The name of a primitive type in a manifest. -/
def name : Primitive → String
  | bool => "bool"
  | i32 => "i32"
  | i64 => "i64"
  | u32 => "u32"
  | u64 => "u64"
  | f32 => "f32"
  | f64 => "f64"
  | string => "string"
  | unit => "unit"
  | bytes => "bytes"

/-- Every primitive type. -/
def all : List Primitive := [bool, i32, i64, u32, u64, f32, f64, string, unit, bytes]

/-- The primitive type called `name`. -/
def ofName? (name : String) : Option Primitive := all.find? (·.name == name)

/-- Whether values of the type are numbers. -/
def isNumeric : Primitive → Bool
  | i32 | i64 | u32 | u64 | f32 | f64 => true
  | _ => false

end Primitive

/-! ## References -/

mutual

/-- A reference to a type. -/
inductive TypeRef where
  | named (name : String)
  | primitive (type : Primitive)
  | list (items : TypeRef)
  | map (key value : TypeRef)
  | record (fields : List Field)

/-- A field of a record, or a parameter of a method. -/
structure Field where
  name : String
  type : TypeRef
  nullable : Bool

end

namespace TypeRef

/-- Whether the reference is the `unit` primitive, of which nothing is worth passing on. -/
def isUnit : TypeRef → Bool
  | .primitive .unit => true
  | _ => false

/-- A short name for the kind of node, for diagnostics. -/
def kindName : TypeRef → String
  | .named _ => "$ref"
  | .primitive type => type.name
  | .list _ => "list"
  | .map _ _ => "map"
  | .record _ => "record"

end TypeRef

/-! ## Visiting every node -/

mutual

/-- Act on this node at `location` and then on every node nested inside it, depth first. -/
def TypeRef.visit {m : Type → Type} [Monad m] (act : TypeRef → String → m Unit)
    (location : String) : TypeRef → m Unit
  | .named name => act (.named name) location
  | .primitive type => act (.primitive type) location
  | .list items => do
    act (.list items) location
    items.visit act (location ++ ".items")
  | .map key value => do
    act (.map key value) location
    key.visit act (location ++ ".key")
    value.visit act (location ++ ".value")
  | .record fields => do
    act (.record fields) location
    visitFields act location fields

/-- Act on every node of a field's type; `location` is that of the record. -/
def Field.visit {m : Type → Type} [Monad m] (act : TypeRef → String → m Unit)
    (location : String) : Field → m Unit
  | ⟨name, type, _⟩ => type.visit act (location ++ "." ++ name)

/-- Act on every node of the types of several fields. -/
def visitFields {m : Type → Type} [Monad m] (act : TypeRef → String → m Unit)
    (location : String) : List Field → m Unit
  | [] => pure ()
  | field :: rest => do
    field.visit act location
    visitFields act location rest

end

/-! ## Equality -/

mutual

/-- Whether two references are equal. -/
def TypeRef.same : TypeRef → TypeRef → Bool
  | .named a, .named b => a == b
  | .primitive a, .primitive b => a == b
  | .list a, .list b => a.same b
  | .map a b, .map c d => a.same c && b.same d
  | .record as, .record bs => sameFields as bs
  | _, _ => false

/-- Whether two fields are equal. -/
def Field.same : Field → Field → Bool
  | ⟨nameA, typeA, nullableA⟩, ⟨nameB, typeB, nullableB⟩ =>
    nameA == nameB && nullableA == nullableB && typeA.same typeB

/-- Whether two lists of fields are equal. -/
def sameFields : List Field → List Field → Bool
  | [], [] => true
  | a :: as, b :: bs => a.same b && sameFields as bs
  | _, _ => false

end

mutual

theorem TypeRef.same_iff : ∀ {a b : TypeRef}, a.same b = true ↔ a = b
  | .named _, b => by cases b <;> simp [TypeRef.same]
  | .primitive _, b => by cases b <;> simp [TypeRef.same]
  | .list a, b => by cases b <;> simp [TypeRef.same, @TypeRef.same_iff a]
  | .map a c, b => by
    cases b <;> simp [TypeRef.same, @TypeRef.same_iff a, @TypeRef.same_iff c]
  | .record as, b => by cases b <;> simp [TypeRef.same, @sameFields_iff as]

theorem Field.same_iff : ∀ {a b : Field}, a.same b = true ↔ a = b
  | ⟨_, type, _⟩, ⟨_, _, _⟩ => by
    simp [Field.same, @TypeRef.same_iff type]
    grind

theorem sameFields_iff : ∀ {as bs : List Field}, sameFields as bs = true ↔ as = bs
  | [], bs => by cases bs <;> simp [sameFields]
  | a :: as, bs => by
    cases bs <;> simp [sameFields, @Field.same_iff a, @sameFields_iff as]

end

instance : DecidableEq TypeRef := fun _ _ => decidable_of_iff _ TypeRef.same_iff

instance : DecidableEq Field := fun _ _ => decidable_of_iff _ Field.same_iff

end AbiBindings.Manifest
