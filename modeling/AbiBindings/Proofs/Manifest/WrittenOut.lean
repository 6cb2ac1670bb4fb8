import AbiBindings.Manifest.Node
import AbiBindings.Proofs.Json.ArrayRows
import AbiBindings.Proofs.Manifest.Spelling

/-!
# Manifest — documents written out

Readers take a node from an array, with its columns in their own order, and the kind of a reference from its
position among the kinds. Writing a document out says the same in object form: arrays become objects under
the keys of their columns, positions become names, and all else stays as it is.

* `writeOut` — a document written out, node by node;
* `written` — the members of a node that is written out, from its row;
* `writeOut_of_inForm` — what is in object form is left as it is.
-/

namespace AbiBindings.Manifest

open Json (OnlyKeys)

/-! ## The shapes of nodes -/

/-- The keys that a node may have; in types and definitions they go by the member `kind`. -/
def NodeKind.keys : NodeKind → Option Json → List String
  | .manifest, _ => ["schema_version", "types", "methods", "events"]
  | .definition, some (.string "record") => ["kind", "fields"]
  | .definition, some (.string "variant") => ["kind", "variants"]
  | .definition, some (.string "bytes") => ["kind", "size"]
  | .definition, _ => ["kind"]
  | .field, _ => ["name", "type", "nullable"]
  | .variant, _ | .event, _ => ["name", "payload"]
  | .method, _ => ["name", "params", "returns", "returns_nullable", "errors"]
  | .errorCase, _ => ["code", "payload"]
  | .type, none => ["$ref"]
  | .type, some (.string "list") => ["kind", "items"]
  | .type, some (.string "map") => ["kind", "key", "value"]
  | .type, some (.string "record") => ["kind", "fields"]
  | .type, some _ => ["kind"]

/-- The columns of a node that is spelled as an array. An event still has the outdated one. -/
def NodeKind.columns : NodeKind → Option Json → List String
  | .event, _ => ["name", "payload", "type"]
  | kind, tag? => kind.keys tag?

/-! ## Writing out -/

/-- The kind of a reference by its name. -/
def namedKind (tag : Json) : Json :=
  match TypeRef.kind? tag with
  | some name => .string name
  | none => tag

/-- The kind of a node, by name where the node is a reference. -/
def NodeKind.named : NodeKind → Json → Json
  | .type, tag => namedKind tag
  | _, tag => tag

/-- The kind of a node that is spelled as an array: its first item, unless that is the name of a type. -/
def NodeKind.headTag? : NodeKind → List Json → Option Json
  | .type, [.string _] => none
  | kind, items => items.head?.map kind.named

/-- What a member of a node holds. -/
inductive Part where
  | nodes (role : Role)
  /-- The kind of a reference. -/
  | tag
  | plain
  deriving DecidableEq, Repr

/-- What the member `key` of a node holds. -/
def NodeKind.part (kind : NodeKind) (tag? : Option Json) (key : String) : Part :=
  match (kind.parts tag?).lookup key with
  | some role => .nodes role
  | none => if kind = .type ∧ key = "kind" then .tag else .plain

mutual

/-- What stands in a place, written out. -/
def writeOut : Role → Json → Json
  | .node kind, .object members =>
    .object (membersOut (kind.part ((members.lookup "kind").map kind.named)) members)
  | .node kind, .array items =>
    let tag? := kind.headTag? items
    .object (columnsOut (kind.part tag?) (kind.columns tag?) items)
  | .nodes kind, .array items => .array (itemsOut kind items)
  | .table kind, .object members => .object (membersOut (fun _ => .nodes (.node kind)) members)
  | _, value => value

/-- Each of several nodes, written out. -/
def itemsOut (kind : NodeKind) : List Json → List Json
  | [] => []
  | item :: rest => writeOut (.node kind) item :: itemsOut kind rest

/-- Members, written out, given what each key is for. -/
def membersOut (part : String → Part) : List (String × Json) → List (String × Json)
  | [] => []
  | member :: rest => memberOut part member :: membersOut part rest

/-- One member, written out. -/
def memberOut (part : String → Part) : String × Json → String × Json
  | (key, value) =>
    match part key with
    | .nodes role => (key, writeOut role value)
    | .tag => (key, namedKind value)
    | .plain => (key, value)

/-- Items, written out under the keys of their columns. -/
def columnsOut (part : String → Part) : List String → List Json → List (String × Json)
  | key :: keys, item :: items =>
    match part key with
    | .nodes role => (key, writeOut role item) :: columnsOut part keys items
    | .tag => (key, namedKind item) :: columnsOut part keys items
    | .plain => (key, item) :: columnsOut part keys items
  | _, _ => []

end

/-! ## Rows written out -/

/-- What a member holds, written out. -/
def partOut : Part → Json → Json
  | .nodes role, value => writeOut role value
  | .tag, value => namedKind value
  | .plain, value => value

/-- The members of a node that is written out, from those that it is spelled with. -/
def written (part : String → Part) (row : List (String × Json)) : List (String × Json) :=
  row.map fun member => (member.1, partOut (part member.1) member.2)

theorem itemsOut_eq_map {kind : NodeKind} {items : List Json} :
    itemsOut kind items = items.map (writeOut (.node kind)) := by
  induction items with
  | nil => rfl
  | cons item items ih => rw [itemsOut, ih, List.map_cons]

/-- Members are written out one by one, so an object is a row of its own members. -/
theorem membersOut_eq_written {part : String → Part} {members : List (String × Json)} :
    membersOut part members = written part members := by
  induction members with
  | nil => rfl
  | cons member members ih =>
    obtain ⟨key, value⟩ := member
    rw [membersOut, ih, memberOut, written, written, List.map_cons]
    -- the part that a key stands for decides what is written, and is the same on both sides
    cases part key <;> rfl

/-- Items are written out under the keys of the columns that they stand in; columns and items that are left
over on either side are dropped, as `zip` drops them. -/
theorem columnsOut_eq_written {part : String → Part} {keys : List String} {items : List Json} :
    columnsOut part keys items = written part (keys.zip items) := by
  induction keys generalizing items with
  | nil => simp [columnsOut, written]
  | cons key keys ih =>
    cases items with
    | nil => rfl
    | cons item items =>
      rw [columnsOut, ih, List.zip_cons_cons, written, written, List.map_cons]
      cases part key <;> rfl

theorem writeOut_object {kind : NodeKind} {members : List (String × Json)} :
    writeOut (.node kind) (.object members)
      = .object (written (kind.part ((members.lookup "kind").map kind.named)) members) := by
  rw [writeOut, membersOut_eq_written]

/-- A node in array form gets the keys of its columns, as many as it has items for. -/
theorem writeOut_array {kind : NodeKind} {items : List Json} :
    writeOut (.node kind) (.array items)
      = .object (written (kind.part (kind.headTag? items)) ((kind.columns (kind.headTag? items)).zip items)) := by
  rw [writeOut, columnsOut_eq_written]

theorem writeOut_items {kind : NodeKind} {items : List Json} :
    writeOut (.nodes kind) (.array items) = .array (items.map (writeOut (.node kind))) := by
  rw [writeOut, itemsOut_eq_map]

/-- A table keeps its names, which are not the keys of a node. -/
theorem writeOut_table {kind : NodeKind} {members : List (String × Json)} :
    writeOut (.table kind) (.object members)
      = .object (members.map fun member => (member.1, writeOut (.node kind) member.2)) := by
  rw [writeOut, membersOut_eq_written]
  rfl

/-- What is found in a row that is written out is what is found in the row, written out. -/
theorem lookup_written (part : String → Part) (row : List (String × Json)) (key : String) :
    (written part row).lookup key = (row.lookup key).map (partOut (part key)) :=
  lookup_map_value (fun key => partOut (part key)) row key

/-- What a key with a plain value holds is not touched. -/
theorem lookup_written_plain {part : String → Part} {key : String} (hPart : part key = .plain)
    (row : List (String × Json)) : (written part row).lookup key = row.lookup key := by
  rw [lookup_written, hPart]
  exact Option.map_id'

/-- Writing out changes values and no keys. -/
theorem onlyKeys_written {keys : List String} {part : String → Part} {row : List (String × Json)} :
    OnlyKeys keys (.object (written part row)) ↔ OnlyKeys keys (.object row) := by
  simp only [OnlyKeys, written, List.forall_mem_map]

/-! ## Object form -/

/-- A reference in form spells its kind by name already. -/
theorem named_of_inForm {kind : NodeKind} {tag : Json} (h : tagInForm kind (some tag) = true) :
    kind.named tag = tag := by
  cases kind with
  | type => cases tag <;> simp_all [NodeKind.named, namedKind, TypeRef.kind?, tagInForm]
  | _ => rfl

/-- A row of which each value is left as it is, is left as it is. -/
theorem written_eq_self {part : String → Part} {row : List (String × Json)}
    (h : ∀ member ∈ row, partOut (part member.1) member.2 = member.2) : written part row = row := by
  rw [written, List.map_congr_left]
  · exact List.map_id row
  · intro member hMember
    rw [h member hMember]
    rfl

/-- What is in form, each of its objects with each of its keys once, is left as it is. -/
theorem writeOut_of_inForm {role : Role} {d : Json} (hForm : inForm role d = true)
    (hOnce : d.keysOnce = true) : writeOut role d = d := by
  -- on the depth: whatever is written out inside is less deep
  induction hDepth : d.depth using Nat.strongRecOn generalizing role d with
  | ind depth ih =>
  subst hDepth
  match role, d with
  | .node kind, .object members =>
    -- the kind decides what the other members are for, so it is shown to stay first
    have hTag : (members.lookup "kind").map kind.named = members.lookup "kind" := by
      have hTagForm : tagInForm kind (members.lookup "kind") = true := by
        simp only [inForm, Bool.and_eq_true] at hForm
        exact hForm.1
      cases hKind : members.lookup "kind" with
      | none => rfl
      | some tag => exact congrArg some (named_of_inForm (hKind ▸ hTagForm))
    rw [writeOut_object, hTag, written_eq_self]
    intro member hMember
    obtain ⟨key, value⟩ := member
    have hValue : (Json.object members).member? key = some value :=
      -- with each key once, what stands under a key is this member and no other
      Json.lookup_of_mem (Json.nodup_of_keysOnce hOnce) hMember
    rw [NodeKind.part]
    split
    · next role hRole =>
      exact ih _ (Json.depth_lt_of_member? hValue) (inForm_member role hForm hValue hRole)
        -- a member with nodes in it is in form itself
        (Json.keysOnce_of_member? hOnce hValue) rfl
    · split
      -- the kind of a reference is left as it is
      · next hKind =>
        obtain ⟨rfl, rfl⟩ := hKind
        have hTagged : members.lookup "kind" = some value := hValue
        rw [hTagged] at hTag
        exact Option.some.inj hTag
      -- any other member is plain
      · rfl
  | .nodes kind, .array items =>
    rw [writeOut_items, List.map_congr_left, List.map_id]
    intro item hItem
    exact ih _ (Json.depth_lt_of_mem_items hItem) (inForm_item hForm hItem)
      (Json.keysOnce_of_mem_items hOnce hItem) rfl
  | .table kind, .object members =>
    rw [writeOut_table, List.map_congr_left, List.map_id]
    intro member hMember
    have hValue : (Json.object members).member? member.1 = some member.2 :=
      Json.lookup_of_mem (Json.nodup_of_keysOnce hOnce) hMember
    rw [ih _ (Json.depth_lt_of_member? hValue) (inForm_entry hForm hMember)
      (Json.keysOnce_of_mem_members hOnce hMember) rfl]
    rfl
  -- an array is not in form, and everything else is left alone
  | .node _, .array items => simp [inForm] at hForm
  | .node _, .null | .node _, .bool _ | .node _, .number _ | .node _, .string _ => rfl
  | .nodes _, .null | .nodes _, .bool _ | .nodes _, .number _ | .nodes _, .string _
  | .nodes _, .object _ => rfl
  | .table _, .null | .table _, .bool _ | .table _, .number _ | .table _, .string _
  | .table _, .array _ => rfl

end AbiBindings.Manifest
