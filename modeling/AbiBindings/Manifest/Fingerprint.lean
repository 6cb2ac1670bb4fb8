import AbiBindings.Digest.Sha256
import AbiBindings.Manifest.Basic

/-!
# Manifest — fingerprints

A fingerprint identifies what a manifest declares. The declarations are encoded as bytes, each node
behind a tag and each text and each list behind its length, and the fingerprint is the digest of
these bytes. Reading the encoding from the left, a tag says what follows, so no two manifests share
an encoding unless they differ only in saying nothing about errors or saying there are none.

* `Manifest.encoding` — the bytes;
* `Manifest.fingerprint` — their digest.
-/

namespace AbiBindings.Manifest

/-! ## Parts -/

/-- The tags of nodes. -/
inductive NodeTag where
  | named
  | primitive
  | list
  | map
  | record
  | variant
  | bytes
  | method
  | event
  | manifest
  deriving DecidableEq, Repr

/-- The byte of a tag. -/
def NodeTag.byte : NodeTag → UInt8
  | .named => 0x01
  | .primitive => 0x02
  | .list => 0x10
  | .map => 0x11
  | .record => 0x12
  | .variant => 0x13
  | .bytes => 0x14
  | .method => 0x20
  | .event => 0x21
  | .manifest => 0x30

/-- The byte of a primitive type. -/
def Primitive.byte : Primitive → UInt8
  | .bool => 0x01
  | .i32 => 0x02
  | .i64 => 0x03
  | .u32 => 0x04
  | .u64 => 0x05
  | .f32 => 0x06
  | .f64 => 0x07
  | .string => 0x08
  | .unit => 0x09
  | .bytes => 0x0a

/-- A number in so many bytes, the lowest first. -/
def littleEndian : Nat → Nat → List UInt8
  | 0, _ => []
  | width + 1, n => UInt8.ofNat (n % 256) :: littleEndian width (n / 256)

/-- A count of elements or bytes, in eight bytes. -/
def encodeCount (n : Nat) : List UInt8 := littleEndian 8 n

/-- A yes or no. -/
def encodeFlag (flag : Bool) : List UInt8 := [if flag then 1 else 0]

/-- A text behind its length in bytes. -/
def encodeText (s : String) : List UInt8 := encodeCount s.utf8ByteSize ++ s.toUTF8.data.toList

/-- Elements, each encoded in the same way, behind their number. -/
def encodeList {α : Type} (encode : α → List UInt8) (items : List α) : List UInt8 :=
  encodeCount items.length ++ items.flatMap encode

/-! ## Nodes -/

mutual

/-- A type. -/
def TypeRef.encode : TypeRef → List UInt8
  | .named name => NodeTag.named.byte :: encodeText name
  | .primitive type => [NodeTag.primitive.byte, type.byte]
  | .list items => NodeTag.list.byte :: items.encode
  | .map key value => NodeTag.map.byte :: key.encode ++ value.encode
  | .record fields => NodeTag.record.byte :: encodeCount fields.length ++ encodeFields fields

/-- A field: its name, whether it may be null, its type. -/
def Field.encode : Field → List UInt8
  | ⟨name, type, nullable⟩ => encodeText name ++ encodeFlag nullable ++ type.encode

/-- Fields one after the other. -/
def encodeFields : List Field → List UInt8
  | [] => []
  | field :: rest => field.encode ++ encodeFields rest

end

/-- A type that may be absent. -/
def encodePayload : Option TypeRef → List UInt8
  | some type => encodeFlag true ++ type.encode
  | none => encodeFlag false

/-- An arm of a variant. -/
def Variant.encode (variant : Variant) : List UInt8 :=
  encodeText variant.name ++ encodePayload variant.payload?

/-- An entry of the type table. A length of zero stands for any length. -/
def encodeEntry : String × TypeDef → List UInt8
  | (name, .record fields) => NodeTag.record.byte :: encodeText name ++ encodeList Field.encode fields
  | (name, .variant variants) =>
    NodeTag.variant.byte :: encodeText name ++ encodeList Variant.encode variants
  | (name, .bytes count?) =>
    NodeTag.bytes.byte :: encodeText name ++ encodeCount (count?.elim 0 (·.value.toNat))

/-- A declared way to fail. -/
def ErrorCase.encode (error : ErrorCase) : List UInt8 :=
  encodeText error.code ++ encodePayload error.payload?

/-- A method. -/
def Method.encode (method : Method) : List UInt8 :=
  NodeTag.method.byte :: encodeText method.name
    ++ encodeList Field.encode method.params
    ++ encodePayload method.returns?
    ++ encodeFlag method.returnsNullable
    ++ encodeList ErrorCase.encode method.errors

/-- An event. -/
def Event.encode (event : Event) : List UInt8 :=
  NodeTag.event.byte :: encodeText event.name ++ encodePayload event.payload?

/-- A whole manifest. -/
def encoding (manifest : Manifest) : List UInt8 :=
  NodeTag.manifest.byte :: encodeList encodeEntry manifest.types
    ++ encodeList Method.encode manifest.methods
    ++ encodeList Event.encode manifest.events

/-! ## Digests -/

/-- The digest of a manifest. -/
def fingerprint (manifest : Manifest) : Digest := Digest.sha256 manifest.encoding

end AbiBindings.Manifest
