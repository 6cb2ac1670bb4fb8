import AbiBindings.Manifest.Basic
import AbiBindings.Proofs.Json.Objects

/-!
# Manifest — how a manifest is spelled

The shapes of a `wasm-abi/1` document, stated without a reader. `Spells d m` says that the value `d`
spells the manifest `m`: every node is an object with only the keys of its shape, in any order; what
must be there is there; what may be left out stands for its default; lists keep their order.

* `SpellsType`, `SpellsField`, `SpellsVariant`, `SpellsDefinition`, `SpellsErrorCase`, `SpellsMethod`,
  `SpellsEvent` — the nodes;
* `Spells` — the document;
* `objectForm` — documents in which no node is spelled as an array and no kind of a reference as a
  number. Readers take such documents too, but they are no part of the shapes.
-/

namespace AbiBindings.Manifest

open Json (OnlyKeys)

/-! ## Members that may be left out -/

/-- A flag that is left out is not set. -/
def SpellsFlag (value? : Option Json) (flag : Bool) : Prop :=
  value? = some (.bool flag) ∨ (value? = none ∧ flag = false)

/-- A list that is left out is empty. -/
def SpellsList {α : Type} (spells : Json → α → Prop) (value? : Option Json) (as : List α) : Prop :=
  (∃ items, value? = some (.array items) ∧ List.Forall₂ spells items as) ∨ (value? = none ∧ as = [])

/-- Something that is left out, or `null`, is absent. -/
def SpellsOptional {α : Type} (spells : Json → α → Prop) (value? : Option Json) : Option α → Prop
  | some a => ∃ value, value? = some value ∧ spells value a
  | none => value? = none ∨ value? = some .null

/-! ## Types and fields -/

mutual

/-- `d` spells a type: a reference by `$ref` alone, everything else by its `kind` and its parts. -/
def SpellsType (d : Json) : TypeRef → Prop
  | .named name => OnlyKeys ["$ref"] d ∧ d.member? "$ref" = some (.string name)
  | .primitive type => OnlyKeys ["kind"] d ∧ d.member? "kind" = some (.string type.name)
  | .list items =>
    OnlyKeys ["kind", "items"] d ∧ d.member? "kind" = some (.string "list") ∧
      ∃ value, d.member? "items" = some value ∧ SpellsType value items
  | .map key value =>
    OnlyKeys ["kind", "key", "value"] d ∧ d.member? "kind" = some (.string "map") ∧
      (∃ inner, d.member? "key" = some inner ∧ SpellsType inner key) ∧
        ∃ inner, d.member? "value" = some inner ∧ SpellsType inner value
  | .record fields =>
    OnlyKeys ["kind", "fields"] d ∧ d.member? "kind" = some (.string "record") ∧
      ∃ items, d.member? "fields" = some (.array items) ∧ SpellsFields items fields

/-- `d` spells a field, or a parameter. -/
def SpellsField (d : Json) : Field → Prop
  | ⟨name, type, nullable⟩ =>
    OnlyKeys ["name", "type", "nullable"] d ∧ d.member? "name" = some (.string name) ∧
      (∃ value, d.member? "type" = some value ∧ SpellsType value type) ∧
        SpellsFlag (d.member? "nullable") nullable

/-- `items` spell fields, one for one. -/
def SpellsFields : List Json → List Field → Prop
  | [], [] => True
  | item :: items, field :: fields => SpellsField item field ∧ SpellsFields items fields
  | _, _ => False

end

/-- Fields are spelled one for one, as in any other list. -/
theorem spellsFields_iff {items : List Json} {fields : List Field} :
    SpellsFields items fields ↔ List.Forall₂ SpellsField items fields := by
  induction items generalizing fields with
  | nil => cases fields <;> simp [SpellsFields]
  | cons item items ih => cases fields <;> simp [SpellsFields, ih]

/-- `d` spells an arm of a variant. -/
structure SpellsVariant (d : Json) (variant : Variant) : Prop where
  keys : OnlyKeys ["name", "payload"] d
  name : d.member? "name" = some (.string variant.name)
  payload : SpellsOptional SpellsType (d.member? "payload") variant.payload?

/-! ## Declarations -/

/-- `d` spells a definition of the type table. A byte string of fixed length has a positive size. -/
def SpellsDefinition (d : Json) : TypeDef → Prop
  | .record fields =>
    OnlyKeys ["kind", "fields"] d ∧ d.member? "kind" = some (.string "record") ∧
      ∃ items, d.member? "fields" = some (.array items) ∧ List.Forall₂ SpellsField items fields
  | .variant variants =>
    OnlyKeys ["kind", "variants"] d ∧ d.member? "kind" = some (.string "variant") ∧
      ∃ items, d.member? "variants" = some (.array items) ∧
        List.Forall₂ SpellsVariant items variants
  | .bytes count? =>
    OnlyKeys ["kind", "size"] d ∧ d.member? "kind" = some (.string "bytes") ∧
      SpellsOptional (fun value count => value = .number (.unsigned count.value)) (d.member? "size")
        count?

/-- A member of the type table spells an entry: its key is the name. -/
def SpellsEntry (member : String × Json) (entry : String × TypeDef) : Prop :=
  member.1 = entry.1 ∧ SpellsDefinition member.2 entry.2

/-- `d` spells an error case. -/
structure SpellsErrorCase (d : Json) (error : ErrorCase) : Prop where
  keys : OnlyKeys ["code", "payload"] d
  code : d.member? "code" = some (.string error.code)
  payload : SpellsOptional SpellsType (d.member? "payload") error.payload?

/-- `d` spells a method. -/
structure SpellsMethod (d : Json) (method : Method) : Prop where
  keys : OnlyKeys ["name", "params", "returns", "returns_nullable", "errors"] d
  name : d.member? "name" = some (.string method.name)
  params : SpellsList SpellsField (d.member? "params") method.params
  returns : SpellsOptional SpellsType (d.member? "returns") method.returns?
  returnsNullable : SpellsFlag (d.member? "returns_nullable") method.returnsNullable
  errors : SpellsOptional
    (fun value errors => ∃ items, value = .array items ∧ List.Forall₂ SpellsErrorCase items errors)
    (d.member? "errors") method.declaredErrors?

/-- `d` spells an event: its payload is the one that is written, unless that is `unit`. There is no
member `type`. -/
structure SpellsEvent (d : Json) (event : Event) : Prop where
  keys : OnlyKeys ["name", "payload"] d
  name : d.member? "name" = some (.string event.name)
  payload : ∃ written?, SpellsOptional SpellsType (d.member? "payload") written? ∧
    event.payload? = if written? = some (.primitive .unit) then none else written?

/-- `d` spells a manifest of the one version there is. -/
structure Spells (d : Json) (manifest : Manifest) : Prop where
  keys : OnlyKeys ["schema_version", "types", "methods", "events"] d
  version : d.member? "schema_version" = some (.string "wasm-abi/1")
  types : ∃ members, d.member? "types" = some (.object members) ∧
    List.Forall₂ SpellsEntry members manifest.types
  methods : ∃ items, d.member? "methods" = some (.array items) ∧
    List.Forall₂ SpellsMethod items manifest.methods
  events : ∃ items, d.member? "events" = some (.array items) ∧
    List.Forall₂ SpellsEvent items manifest.events

/-! ## Documents in object form -/

/-- The kinds of nodes of a document. -/
inductive NodeKind where
  | manifest
  | definition
  | field
  | variant
  | method
  | errorCase
  | event
  | type
  deriving DecidableEq, Repr

/-- What a place of a document is for. -/
inductive Role where
  /-- One node. -/
  | node (kind : NodeKind)
  /-- An array of nodes. -/
  | nodes (kind : NodeKind)
  /-- An object whose members are nodes. -/
  | table (kind : NodeKind)
  deriving DecidableEq, Repr

/-- The members of a node in which further nodes stand; in types and definitions they go by the
member `kind`. -/
def NodeKind.parts (kind : NodeKind) (tag? : Option Json) : List (String × Role) :=
  match kind, tag? with
  | .manifest, _ =>
    [("types", .table .definition), ("methods", .nodes .method), ("events", .nodes .event)]
  | .definition, some (.string "record") => [("fields", .nodes .field)]
  | .definition, some (.string "variant") => [("variants", .nodes .variant)]
  | .field, _ => [("type", .node .type)]
  | .method, _ => [("params", .nodes .field), ("returns", .node .type), ("errors", .nodes .errorCase)]
  | .variant, _ | .errorCase, _ | .event, _ => [("payload", .node .type)]
  | .type, some (.string "list") => [("items", .node .type)]
  | .type, some (.string "map") => [("key", .node .type), ("value", .node .type)]
  | .type, some (.string "record") => [("fields", .nodes .field)]
  | .definition, _ | .type, _ => []

/-- Whether the member `kind` of a node is no number where a reference expects a name. -/
def tagInForm : NodeKind → Option Json → Bool
  | .type, some (.number _) => false
  | _, _ => true

mutual

/-- Whether no node in a place is spelled as an array, and no kind of a reference as a number. -/
def inForm : Role → Json → Bool
  | .node _, .array _ => false
  | .node kind, .object members =>
    let tag? := members.lookup "kind"
    tagInForm kind tag? && membersInForm (fun key => (kind.parts tag?).lookup key) members
  | .nodes kind, .array items => itemsInForm kind items
  | .table kind, .object members => membersInForm (fun _ => some (.node kind)) members
  | _, _ => true

/-- The same for each of several nodes. -/
def itemsInForm (kind : NodeKind) : List Json → Bool
  | [] => true
  | item :: rest => inForm (.node kind) item && itemsInForm kind rest

/-- The same for members, given what each key is for. -/
def membersInForm (role? : String → Option Role) : List (String × Json) → Bool
  | [] => true
  | member :: rest => memberInForm role? member && membersInForm role? rest

/-- The same for one member. -/
def memberInForm (role? : String → Option Role) : String × Json → Bool
  | (key, value) =>
    match role? key with
    | some role => inForm role value
    | none => true

end

/-- Whether a document is in object form: no node in it is an array, no kind of a reference is a
number. -/
def objectForm (d : Json) : Bool := inForm (.node .manifest) d

/-- Members are in form if each of them that has a role is. -/
theorem membersInForm_iff {role? : String → Option Role} {members : List (String × Json)} :
    membersInForm role? members = true ↔
      ∀ member ∈ members, ∀ role, role? member.1 = some role → inForm role member.2 = true := by
  induction members with
  | nil => simp [membersInForm]
  | cons member members ih =>
    obtain ⟨key, value⟩ := member
    -- a key that is for nothing may carry anything
    rw [membersInForm, Bool.and_eq_true, List.forall_mem_cons, ih, memberInForm]
    cases role? key <;> simp

theorem itemsInForm_iff {kind : NodeKind} {items : List Json} :
    itemsInForm kind items = true ↔ ∀ item ∈ items, inForm (.node kind) item = true := by
  induction items with
  | nil => simp [itemsInForm]
  | cons item items ih => rw [itemsInForm, Bool.and_eq_true, List.forall_mem_cons, ih]

/-- In a node in object form everything that holds nodes is in object form. -/
theorem inForm_member {kind : NodeKind} {d value : Json} {key : String} (role : Role)
    (hForm : inForm (.node kind) d = true) (hMember : d.member? key = some value)
    (hRole : (kind.parts (d.member? "kind")).lookup key = some role) : inForm role value = true := by
  obtain ⟨members, rfl, hLookup⟩ := Json.exists_members_of_member? hMember
  simp only [inForm, Bool.and_eq_true] at hForm
  exact membersInForm_iff.mp hForm.2 (key, value) (mem_of_lookup hLookup) role hRole

theorem inForm_item {kind : NodeKind} {items : List Json} {item : Json}
    (hForm : inForm (.nodes kind) (.array items) = true) (hItem : item ∈ items) :
    inForm (.node kind) item = true :=
  itemsInForm_iff.mp hForm item hItem

theorem inForm_entry {kind : NodeKind} {members : List (String × Json)} {member : String × Json}
    (hForm : inForm (.table kind) (.object members) = true) (hMember : member ∈ members) :
    inForm (.node kind) member.2 = true :=
  membersInForm_iff.mp hForm member hMember (.node kind) rfl

end AbiBindings.Manifest
