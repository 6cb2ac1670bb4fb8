import AbiBindings.Proofs.Bindings.Written

/-!
# Bindings — what the text of a type says

A written type can be told from its text alone. Two references to types come out as the same text exactly
if they have the same shape, where a shape keeps the texts at the leaves, the lists, maps and records
around them, and the names and the `null` of fields. So neither brackets behind a type nor `| null` nor
the members of a record can be taken for parts of something else, whatever the names of fields are.

* `renderedShape` — the shape of a reference, by recursion on it;
* `Shape.text` — a shape written out;
* `Scope.text_eq_iff` — equal texts are equal shapes.
-/

namespace AbiBindings.TypeScript

/-! ## Shapes written out -/

mutual

/-- A shape written out. -/
def Shape.text : Shape → String
  | .word text => text
  | .literal value => stringLiteral value
  | .array items => items.text ++ "[]"
  | .dictionary key value => "Record<" ++ key.text ++ ", " ++ value.text ++ ">"
  | .object members => objectText (slotTexts members)

/-- A slot written out as a member. -/
def Slot.text : Slot → String
  | ⟨name, shape, nullable⟩ => propertyKey name ++ ": " ++ orNull shape.text nullable

/-- Several slots written out. -/
def slotTexts : List Slot → List String
  | [] => []
  | slot :: rest => slot.text :: slotTexts rest

end

mutual

/-- The text of a type depends on its shape alone. -/
theorem TypeExpr.text_shape : ∀ (expr : TypeExpr), expr.shape.text = expr.text
  | .builtin _ => by rw [TypeExpr.shape, Shape.text, TypeExpr.text]
  | .reference _ => by rw [TypeExpr.shape, Shape.text, TypeExpr.text]
  | .array items => by rw [TypeExpr.shape, Shape.text, TypeExpr.text, items.text_shape]
  | .dictionary key value => by
    rw [TypeExpr.shape, Shape.text, TypeExpr.text, key.text_shape, value.text_shape]
  | .object members => by rw [TypeExpr.shape, Shape.text, TypeExpr.text, slotTexts_memberSlots members]

/-- A member is written out from its slot. -/
theorem Member.text_slot : ∀ (member : Member), member.slot.text = member.text
  | ⟨_, type, _⟩ => by rw [Member.slot, Slot.text, Member.text, type.text_shape]

theorem slotTexts_memberSlots : ∀ (members : List Member),
    slotTexts (memberSlots members) = memberTexts members
  | [] => rfl
  | member :: rest => by
    rw [memberSlots, slotTexts, memberTexts, member.text_slot, slotTexts_memberSlots rest]

end

/-- Equal texts are equal shapes: each text is read back as the shape it was written for. -/
theorem TypeExpr.Worded.text_eq_text {a b : TypeExpr} (ha : a.Worded) (hb : b.Worded) :
    a.text = b.text ↔ a.shape = b.shape := by
  constructor
  · intro hText
    -- nothing is behind the texts, so there is nothing that a reader could go on into
    have hStops : Stops (fun c => goesOn c || c == '[') [] := by
      intro c hc
      simp at hc
    have hReadA := ha.spells.readAs [] hStops
    have hReadB := hb.spells.readAs [] hStops
    rw [hText, hReadB] at hReadA
    exact (Prod.mk.inj (Option.some.inj hReadA)).1.symm
  · intro hShape
    rw [← a.text_shape, ← b.text_shape, hShape]

end AbiBindings.TypeScript

namespace AbiBindings.Bindings

open Manifest (Primitive TypeRef Field)
open TypeScript (Shape Slot TypeExpr memberSlots safeIdent)

/-! ## Shapes of references -/

/-- The text at a leaf that is a primitive type. All numbers share one. -/
def primitiveLeaf : Primitive → String
  | .bool => "boolean"
  | .i32 | .i64 | .u32 | .u64 | .f32 | .f64 => "number"
  | .string => "string"
  | .unit => "void"
  | .bytes => "Uint8Array"

/-- The text at a leaf that names an entry of the type table, seen through a namespace or not. -/
def namedLeaf (space? : Option String) (name : String) : String :=
  match space? with
  | some space => space ++ "." ++ safeIdent name
  | none => safeIdent name

mutual

/-- The shape under which a reference is rendered: lists, maps and records as they are, down to the texts
at the leaves. -/
def renderedShape (space? : Option String) : TypeRef → Shape
  | .named name => .word (namedLeaf space? name)
  | .primitive type => .word (primitiveLeaf type)
  | .list items => .array (renderedShape space? items)
  | .map key value => .dictionary (renderedShape space? key) (renderedShape space? value)
  | .record fields => .object (renderedSlots space? fields)

/-- A field keeps its name and whether it may be null. -/
def renderedSlot (space? : Option String) : Field → Slot
  | ⟨name, type, nullable⟩ => ⟨name, renderedShape space? type, nullable⟩

/-- The fields of a record in their order. -/
def renderedSlots (space? : Option String) : List Field → List Slot
  | [] => []
  | field :: rest => renderedSlot space? field :: renderedSlots space? rest

end

/-- The leaves are the built-in types that primitive types are written as. -/
theorem primitiveLeaf_eq (type : Primitive) : primitiveLeaf type = (builtin type).text := by
  cases type <;> rfl

section Shapes

variable {space? : Option String}

mutual

/-- The expression for a type has the shape of the type. -/
theorem shape_writtenType : ∀ (type : TypeRef), (writtenType space? type).shape = renderedShape space? type
  | .named name => by cases space? <;> rfl
  | .primitive type => by rw [writtenType, TypeExpr.shape, renderedShape, primitiveLeaf_eq]
  | .list items => by rw [writtenType, TypeExpr.shape, renderedShape, shape_writtenType items]
  | .map key value => by
    rw [writtenType, TypeExpr.shape, renderedShape, shape_writtenType key, shape_writtenType value]
  | .record fields => by rw [writtenType, TypeExpr.shape, renderedShape, memberSlots_rendered fields]

theorem slot_rendered : ∀ (field : Field), (writtenMember space? field).slot = renderedSlot space? field
  | ⟨_, type, _⟩ => by rw [writtenMember, TypeScript.Member.slot, renderedSlot, shape_writtenType type]

theorem memberSlots_rendered : ∀ (fields : List Field),
    memberSlots (writtenMembers space? fields) = renderedSlots space? fields
  | [] => rfl
  | field :: rest => by
    rw [writtenMembers, memberSlots, renderedSlots, slot_rendered field, memberSlots_rendered rest]

end

end Shapes

/-! ## Texts -/

/-- **Texts of types.** In a module that sees the declarations of a manifest, under their own names or
through the namespace, two references come out as the same text exactly if they are rendered under the same
shape. -/
theorem Scope.text_eq_iff (manifest : Manifest) {scope : Scope}
    (hScope : scope = .ofManifest manifest ∨ scope = (Scope.ofManifest manifest).within typesNamespace)
    {a b : TypeRef} {exprA exprB : TypeExpr} (hA : scope.type a = .ok exprA) (hB : scope.type b = .ok exprB) :
    exprA.text = exprB.text ↔ renderedShape scope.space? a = renderedShape scope.space? b := by
  -- in neither of the two scopes a namespace could be taken for something else
  have hSpace : Namespace scope.space? := by
    intro space hSome
    rcases hScope with rfl | rfl
    · simp [Scope.ofManifest] at hSome
    · obtain rfl := Option.some.inj hSome
      rfl
  obtain rfl := Scope.type_eq hA
  obtain rfl := Scope.type_eq hB
  rw [(hSpace.worded a).text_eq_text (hSpace.worded b), shape_writtenType, shape_writtenType]

/-- A record with two fields, of which the first may be null. -/
def twoFields : TypeRef :=
  .record [⟨"a", .named "Tag", true⟩, ⟨"b", .list (.primitive .u32), false⟩]

/-- A record with one field, whose name looks like the first field and the key of the second. -/
def oneField : TypeRef :=
  .record [⟨"a: types.Tag | null; b", .list (.primitive .f64), false⟩]

/-- They come out as different texts, although the names in the second one spell the first. -/
theorem twoFields_text_ne :
    ∃ scope exprA exprB,
      scope = (Scope.ofManifest ⟨[("Tag", .bytes none)], [], []⟩).within typesNamespace ∧
      scope.type twoFields = .ok exprA ∧ scope.type oneField = .ok exprB ∧ exprA.text ≠ exprB.text := by
  refine ⟨_, _, _, rfl, rfl, rfl, fun hText => ?_⟩
  have hShape := (Scope.text_eq_iff ⟨[("Tag", .bytes none)], [], []⟩ (Or.inr rfl) (a := twoFields)
    (b := oneField) rfl rfl).mp hText
  simp [twoFields, oneField, renderedShape, renderedSlots] at hShape

end AbiBindings.Bindings
