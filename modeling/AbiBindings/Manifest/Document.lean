import AbiBindings.Manifest.Node

/-!
# Manifest — documents

A `Document` is a manifest as it is spelled, before its declarations are checked against each other:
byte strings may still have length zero, events may still use an outdated member, and references
need not name anything.
-/

namespace AbiBindings.Manifest

open Json (Fault Shape)

/-! ## Type definitions -/

/-- A definition in the type table as it is spelled. -/
inductive Entry where
  | record (fields : List Field)
  | variant (variants : List Variant)
  | bytes (count? : Option UInt64)

/-- The common name of the three kinds of definitions. -/
def Entry.family : String := "RawTypeDef"

/-- The kinds of definitions. -/
def Entry.kinds : List String := ["record", "variant", "bytes"]

/-- Read the fields of a record type. -/
def readFields : Json → Except Fault (List Field) := Json.readList (Field.read .tagged)

/-- Read the arms of a variant type. -/
def readVariants : Json → Except Fault (List Variant) := Json.readList (Variant.read .tagged)

/-- Read the length of a byte string, which may be `null`. -/
def readCount : Json → Except Fault (Option UInt64) := Json.readOptional Json.readUnsignedNumber

/-- The columns of a record type. -/
def Entry.recordShape : Shape where
  name := "struct variant " ++ Entry.family ++ "::Record"
  columns := [.needed "fields" readFields]

/-- The columns of a variant type. -/
def Entry.variantShape : Shape where
  name := "struct variant " ++ Entry.family ++ "::Variant"
  columns := [.needed "variants" readVariants]

/-- The columns of a byte string type. -/
def Entry.bytesShape : Shape where
  name := "struct variant " ++ Entry.family ++ "::Bytes"
  columns := [.optional "size" readCount]

/-- Read the columns of a definition behind its tag. -/
def Entry.readColumns (tag columns : Json) : Except Fault Entry :=
  match tag with
  | .string "record" => do
    let row ← Entry.recordShape.read .tagged columns
    return .record (← row.need "fields" readFields)
  | .string "variant" => do
    let row ← Entry.variantShape.read .tagged columns
    return .variant (← row.need "variants" readVariants)
  | .string "bytes" => do
    let row ← Entry.bytesShape.read .tagged columns
    return .bytes (← row.maybe "size" none readCount)
  | .string other => .error (.unknownVariant other Entry.kinds)
  | other => .error (.invalidType other .tag)

/-- Read a definition: its tag, wherever it stands, and then its columns. -/
def Entry.read : Json → Except Fault Entry
  | .object members =>
    match members.lookup "kind" with
    | some tag => Entry.readColumns tag (.object (members.filter (·.1 != "kind")))
    | none => .error (.missingField "kind")
  | .array (tag :: items) => Entry.readColumns tag (.array items)
  | .array [] => .error (.missingField "kind")
  | other => .error (.invalidType other (.tagged Entry.family))

/-! ## Events -/

/-- An event as it is spelled. -/
structure Announcement where
  name : String
  payload? : Option TypeRef
  /-- Whether the outdated member `type` is there, whatever its value. -/
  hasType : Bool

/-- Read the mere presence of a member. -/
def readPresence (_ : Json) : Except Fault Bool := .ok true

/-- The columns of an event. -/
def Announcement.shape : Shape where
  name := "struct RawEvent"
  columns := [.needed "name" Json.readText, .optional "payload" readPayload,
    .optional "type" readPresence]

/-- Read an event. -/
def Announcement.read (value : Json) : Except Fault Announcement := do
  let row ← Announcement.shape.read .direct value
  return {
    name := ← row.need "name" Json.readText
    payload? := ← row.maybe "payload" none readPayload
    hasType := ← row.maybe "type" false readPresence }

/-! ## Documents -/

/-- A manifest as it is spelled. -/
structure Document where
  version : String
  entries : List (String × Entry)
  methods : List Method
  announcements : List Announcement

/-- Read the type table. -/
def readEntries : Json → Except Fault (List (String × Entry)) := Json.readTable Entry.read

/-- Read the methods. -/
def readMethods : Json → Except Fault (List Method) := Json.readList Method.read

/-- Read the events. -/
def readAnnouncements : Json → Except Fault (List Announcement) := Json.readList Announcement.read

/-- The columns of a manifest. -/
def Document.shape : Shape where
  name := "struct RawManifest"
  columns := [.needed "schema_version" Json.readText, .needed "types" readEntries,
    .needed "methods" readMethods, .needed "events" readAnnouncements]

/-- Read a manifest as it is spelled. -/
def Document.read (value : Json) : Except Fault Document := do
  let row ← Document.shape.read .direct value
  return {
    version := ← row.need "schema_version" Json.readText
    entries := ← row.need "types" readEntries
    methods := ← row.need "methods" readMethods
    announcements := ← row.need "events" readAnnouncements }

end AbiBindings.Manifest
