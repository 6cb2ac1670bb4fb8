import AbiBindings.Json.Row
import AbiBindings.Manifest.Basic

/-!
# Manifest — reading nodes

How the nodes of a manifest are spelled in JSON. Fields, variants, methods and error cases are
records. A reference to a type is either a record with the single column `$ref`, or a record with
the columns of its kind and a tag, the kind, in front; whatever is wrong inside a reference is
reported as one fault of the outermost one.
-/

namespace AbiBindings.Manifest

open Json (Fault Shape Row Place)

/-! ## Primitive types -/

/-- Read the name of a primitive type. -/
def Primitive.readName (name : String) : Except Fault Primitive :=
  match Primitive.ofName? name with
  | some type => .ok type
  | none => .error (.unknownVariant name (Primitive.all.map Primitive.name))

/-- Read a primitive type that stands alone: its name, or an object that maps it to `null`. -/
def Primitive.read : Json → Except Fault Primitive
  | .string name => Primitive.readName name
  | .object [(name, value)] => do
    let type ← Primitive.readName name
    match value with
    | .null => return type
    | other => throw (.invalidType other .unit)
  | .object members => .error (.invalidValue (.object members) .singleKeyMap)
  | other => .error (.invalidType other .stringOrMap)

/-! ## References -/

/-- The kinds of a reference that is spelled in place. -/
def TypeRef.kinds : List String := Primitive.all.map Primitive.name ++ ["list", "map", "record"]

/-- The one fault of a reference. -/
def TypeRef.fault : Fault := .noForm "RawTypeRef"

/-- The columns of a tagged record without their tag. -/
inductive Untagged where
  | ofObject (members : List (String × Json))
  | ofArray (items : List Json)

/-- The values of exactly these columns, in their order. -/
def Untagged.exactly? (keys : List String) : Untagged → Option (List Json)
  | .ofObject members =>
    if members.all (keys.contains ·.1) then keys.mapM fun key => members.lookup key else none
  | .ofArray items => if items.length = keys.length then some items else none

/-- The name that a reference names, if it is one to a named type. -/
def TypeRef.target? : Json → Option String
  | .object [("$ref", .string name)] => some name
  | .array [.string name] => some name
  | _ => none

/-- The kind that a tag spells: by name, or by its position among the kinds. -/
def TypeRef.kind? : Json → Option String
  | .string name => some name
  | .number (.unsigned position) => kinds[position.toNat]?
  | _ => none

/-- The kind of a reference that is spelled in place, and the columns behind it. -/
def TypeRef.untag? : Json → Option (String × Untagged)
  | .object members => do
    let kind ← kind? (← members.lookup "kind")
    return (kind, .ofObject (members.filter (·.1 != "kind")))
  | .array (tag :: items) => do return (← kind? tag, .ofArray items)
  | _ => none

/-- Read a field inside a reference, given how its type is read. -/
def Field.readInside? (readType? : Json → Option TypeRef) : Json → Option Field
  | .object members => do
    guard (members.all (["name", "type", "nullable"].contains ·.1))
    let .string name ← members.lookup "name" | none
    let type ← readType? (← members.lookup "type")
    match members.lookup "nullable" with
    | none => return ⟨name, type, false⟩
    | some (.bool nullable) => return ⟨name, type, nullable⟩
    | some _ => none
  | .array [.string name, type] => return ⟨name, ← readType? type, false⟩
  | .array [.string name, type, .bool nullable] => return ⟨name, ← readType? type, nullable⟩
  | _ => none

/-- Read a reference in which at most `depth` arrays and objects are open. -/
def TypeRef.readWithin : Nat → Json → Option TypeRef
  | 0, _ => none
  | depth + 1, value =>
    match target? value with
    | some name => some (.named name)
    | none => do
      let (kind, columns) ← untag? value
      match kind with
      | "list" =>
        match ← columns.exactly? ["items"] with
        | [items] => return .list (← readWithin depth items)
        | _ => none
      | "map" =>
        match ← columns.exactly? ["key", "value"] with
        | [key, value] => return .map (← readWithin depth key) (← readWithin depth value)
        | _ => none
      | "record" =>
        match ← columns.exactly? ["fields"] with
        | [.array fields] => return .record (← fields.mapM (Field.readInside? (readWithin depth)))
        | _ => none
      | kind => do
        let _ ← columns.exactly? []
        return .primitive (← Primitive.ofName? kind)

/-- Read a reference. -/
def TypeRef.read (value : Json) : Except Fault TypeRef :=
  match TypeRef.readWithin value.depth value with
  | some type => .ok type
  | none => .error TypeRef.fault

/-! ## Fields -/

/-- The columns of a field. -/
def Field.shape : Shape where
  name := "struct Field"
  columns := [.needed "name" Json.readText, .needed "type" TypeRef.read,
    .optional "nullable" Json.readBool]

/-- Read a field. -/
def Field.read (place : Place) (value : Json) : Except Fault Field := do
  let row ← Field.shape.read place value
  return {
    name := ← row.need "name" Json.readText
    type := ← row.need "type" TypeRef.read
    nullable := ← row.maybe "nullable" false Json.readBool }

/-! ## Variants, methods and error cases -/

/-- Read a payload, which may be `null`. -/
def readPayload : Json → Except Fault (Option TypeRef) := Json.readOptional TypeRef.read

/-- The columns of a variant. -/
def Variant.shape : Shape where
  name := "struct Variant"
  columns := [.needed "name" Json.readText, .optional "payload" readPayload]

/-- Read a variant. -/
def Variant.read (place : Place) (value : Json) : Except Fault Variant := do
  let row ← Variant.shape.read place value
  return {
    name := ← row.need "name" Json.readText
    payload? := ← row.maybe "payload" none readPayload }

/-- The columns of an error case. -/
def ErrorCase.shape : Shape where
  name := "struct ErrorCase"
  columns := [.needed "code" Json.readText, .optional "payload" readPayload]

/-- Read an error case. -/
def ErrorCase.read (value : Json) : Except Fault ErrorCase := do
  let row ← ErrorCase.shape.read .direct value
  return {
    code := ← row.need "code" Json.readText
    payload? := ← row.maybe "payload" none readPayload }

/-- Read the parameters of a method. -/
def readParams : Json → Except Fault (List Field) := Json.readList (Field.read .direct)

/-- Read the errors that a method declares, which may be `null`. -/
def readErrors : Json → Except Fault (Option (List ErrorCase)) :=
  Json.readOptional (Json.readList ErrorCase.read)

/-- The columns of a method. -/
def Method.shape : Shape where
  name := "struct Method"
  columns := [.needed "name" Json.readText, .optional "params" readParams,
    .optional "returns" readPayload, .optional "returns_nullable" Json.readBool,
    .optional "errors" readErrors]

/-- Read a method. -/
def Method.read (value : Json) : Except Fault Method := do
  let row ← Method.shape.read .direct value
  return {
    name := ← row.need "name" Json.readText
    params := ← row.maybe "params" [] readParams
    returns? := ← row.maybe "returns" none readPayload
    returnsNullable := ← row.maybe "returns_nullable" false Json.readBool
    declaredErrors? := ← row.maybe "errors" none readErrors }

end AbiBindings.Manifest
