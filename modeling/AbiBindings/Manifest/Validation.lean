import AbiBindings.Json.Parser
import AbiBindings.Manifest.Document

/-!
# Manifest — from documents to manifests

A manifest is accepted only if its declarations make sense together. The rules are checked one after
the other, each over the whole document, and the first violation is reported:

* the schema version is the supported one;
* the document has the shape of a manifest;
* no byte string has the fixed length zero;
* no event uses the outdated member `type`;
* the keys of every map are strings;
* every reference names an entry of the type table. Types may refer to each other in a circle.

`Manifest.ofJson` reads a manifest from a JSON value, `Manifest.parse` from the bytes of a text.
-/

namespace AbiBindings.Manifest

open Json (Fault)

/-! ## Errors -/

/-- Why a document is not a manifest. -/
inductive SchemaError where
  | notAnObject
  | unsupportedVersion (found : String)
  | malformed (fault : Fault)
  | zeroSizeBytes (name : String)
  | eventTypeField (event : String)
  | nonStringMapKey (location found : String)

/-- The words for a schema error. -/
def SchemaError.message (e : SchemaError) : String :=
  "schema validation failed: " ++
    match e with
    | .notAnObject => "manifest must be a JSON object"
    | .unsupportedVersion found =>
      "unsupported schema_version " ++ Text.quoted found ++ " (expected "
        ++ Text.quoted schemaVersion ++ ")"
    | .malformed fault => fault.message
    | .zeroSizeBytes name =>
      "bytes type " ++ Text.quoted name ++ " has size 0; fixed-length bytes need a positive size, "
        ++ "variable-length bytes omit `size`"
    | .eventTypeField event =>
      "event " ++ Text.quoted event
        ++ " declares `type`; event payloads must be declared with `payload`"
    | .nonStringMapKey location found =>
      "map key must be string type (found " ++ found ++ " at " ++ location ++ ")"

/-- A reference that names nothing. -/
structure Dangling where
  name : String
  location : String
  deriving DecidableEq, Repr

/-- The words for a dangling reference. -/
def Dangling.message (e : Dangling) : String :=
  "Dangling $ref " ++ Text.quoted e.name ++ " at " ++ e.location

/-- Why a text or a value is not a manifest. -/
inductive LoadError where
  | notJson (error : Json.SyntaxError)
  | schema (error : SchemaError)
  | dangling (error : Dangling)

/-- The words for a load error. -/
def LoadError.message : LoadError → String
  | .notJson error => "manifest is not valid JSON: " ++ error.message
  | .schema error => error.message
  | .dangling error => error.message

/-! ## The schema version -/

/-- The version that a document states, if it is a text or nothing at all. -/
def statedVersion : Json → Except SchemaError (Option String)
  | .object members =>
    match members.lookup "schema_version" with
    | none | some .null => .ok none
    | some (.string version) => .ok (some version)
    | some _ => .error .notAnObject
  | .array [.null] => .ok none
  | .array [.string version] => .ok (some version)
  | _ => .error .notAnObject

/-- Check the version before anything else. -/
def checkVersion (value : Json) : Except SchemaError Unit := do
  match ← statedVersion value with
  | none => throw (.malformed (.missingField "schema_version"))
  | some version => unless version = schemaVersion do throw (.unsupportedVersion version)

/-! ## Declarations -/

/-- A definition, unless it is a byte string of length zero. -/
def Entry.settle (name : String) : Entry → Except SchemaError TypeDef
  | .record fields => .ok (.record fields)
  | .variant variants => .ok (.variant variants)
  | .bytes none => .ok (.bytes none)
  | .bytes (some count) =>
    if positive : count ≠ 0 then .ok (.bytes (some ⟨count, positive⟩))
    else .error (.zeroSizeBytes name)

/-- An event, unless it uses the outdated member. -/
def Announcement.settle (event : Announcement) : Except SchemaError Event :=
  if event.hasType then .error (.eventTypeField event.name)
  else .ok (.ofPayload event.name event.payload?)

/-- The manifest that a document declares. -/
def Document.settle (document : Document) : Except SchemaError Manifest := do
  let types ← document.entries.mapM fun (name, entry) => (name, ·) <$> entry.settle name
  let events ← document.announcements.mapM Announcement.settle
  return { types, methods := document.methods, events }

/-! ## Types -/

/-- A map node must have strings as keys. -/
def checkMapKey (node : TypeRef) (location : String) : Except SchemaError Unit :=
  match node with
  | .map (.primitive .string) _ => .ok ()
  | .map key _ => .error (.nonStringMapKey location key.kindName)
  | _ => .ok ()

/-- Check that a reference names an entry of the type table, and count it. -/
def countReference (manifest : Manifest) (node : TypeRef) (location : String) :
    StateT Nat (Except Dangling) Unit :=
  match node with
  | .named name =>
    if (manifest.findType? name).isSome then modify (· + 1) else throw ⟨name, location⟩
  | _ => pure ()

/-- Check every reference of a manifest; how many there are. -/
def resolve (manifest : Manifest) : Except Dangling Nat := do
  let ((), count) ← (manifest.visitTypes (countReference manifest)).run 0
  return count

/-! ## Loading -/

/-- The declarations of a document that has the shape of a manifest, up to its references. -/
def validate (value : Json) : Except SchemaError Manifest := do
  -- the version first: a document of another version may have any shape
  checkVersion value
  let document ← (Document.read value).mapError .malformed
  let manifest ← document.settle
  manifest.visitTypes checkMapKey
  return manifest

/-- Read a manifest from a JSON value. -/
def ofJson (value : Json) : Except LoadError Manifest := do
  let manifest ← (validate value).mapError .schema
  let _ ← (resolve manifest).mapError .dangling
  return manifest

/-- Read a manifest from the bytes of a text. -/
def parse (bytes : ByteArray) : Except LoadError Manifest := do
  ofJson (← (Json.parse bytes).mapError .notJson)

end AbiBindings.Manifest
