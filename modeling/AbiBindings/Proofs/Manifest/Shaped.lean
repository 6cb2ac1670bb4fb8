import AbiBindings.Proofs.Manifest.WrittenNodes

/-!
# Manifest — the shape of accepted documents

A document of the right shape has objects for nodes, with no keys but those of the node, and names for kinds.
Not every document that is accepted has this shape, since nodes are also taken from arrays and the kinds of
references from numbers. But nothing else is taken, so each accepted document is one of the right shape once it
is written out.

* `wellShaped` — the documents of the right shape;
* `shaped_of_spellsType`, `shaped_of_spellsMethod` and the like — what spells a node has its shape;
* `inForm_of_shaped` — what has its shape is in object form;
* `ofJson_writeOut` — accepted documents, and `not_forall_wellShaped` — not all of them have the shape.
-/

namespace AbiBindings.Manifest

open Json (OnlyKeys)

/-! ## The right shape -/

/-- Whether the kind of a node is one that there is. A reference by name has none. -/
def NodeKind.knows : NodeKind → Option Json → Bool
  | .definition, some (.string kind) => Entry.kinds.contains kind
  | .definition, _ => false
  | .type, none => true
  | .type, some (.string kind) => TypeRef.kinds.contains kind
  | .type, some _ => false
  | _, _ => true

/-- Whether a member is left empty: some may be `null` where there are no nodes. -/
def leftEmpty (key : String) : Json → Bool
  | .null => ["payload", "returns", "errors"].contains key
  | _ => false

mutual

/-- Whether what stands in a place has the right shape. -/
def shaped : Role → Json → Bool
  | .node kind, .object members =>
    let tag? := members.lookup "kind"
    kind.knows tag? && members.all (fun member => (kind.keys tag?).contains member.1) &&
      membersShaped (fun key => (kind.parts tag?).lookup key) members
  | .nodes kind, .array items => itemsShaped kind items
  | .table kind, .object members => entriesShaped kind members
  | _, _ => false

/-- The same for each of several nodes. -/
def itemsShaped (kind : NodeKind) : List Json → Bool
  | [] => true
  | item :: rest => shaped (.node kind) item && itemsShaped kind rest

/-- The same for the entries of a table. -/
def entriesShaped (kind : NodeKind) : List (String × Json) → Bool
  | [] => true
  | member :: rest => entryShaped kind member && entriesShaped kind rest

/-- The same for one entry. -/
def entryShaped (kind : NodeKind) : String × Json → Bool
  | (_, value) => shaped (.node kind) value

/-- The same for the members of a node, given what each key is for. -/
def membersShaped (role? : String → Option Role) : List (String × Json) → Bool
  | [] => true
  | member :: rest => memberShaped role? member && membersShaped role? rest

/-- The same for one member. -/
def memberShaped (role? : String → Option Role) : String × Json → Bool
  | (key, value) =>
    match role? key with
    | some role => leftEmpty key value || shaped role value
    | none => true

end

/-- Whether a document has the right shape: every node in it is an object with no keys but its own, every kind
is one that there is. -/
def wellShaped (d : Json) : Bool := shaped (.node .manifest) d

theorem itemsShaped_iff {kind : NodeKind} {items : List Json} :
    itemsShaped kind items = true ↔ ∀ item ∈ items, shaped (.node kind) item = true := by
  induction items with
  | nil => simp [itemsShaped]
  | cons item items ih => rw [itemsShaped, Bool.and_eq_true, List.forall_mem_cons, ih]

theorem entriesShaped_iff {kind : NodeKind} {members : List (String × Json)} :
    entriesShaped kind members = true ↔ ∀ member ∈ members, shaped (.node kind) member.2 = true := by
  induction members with
  | nil => simp [entriesShaped]
  | cons member members ih =>
    obtain ⟨key, value⟩ := member
    rw [entriesShaped, Bool.and_eq_true, List.forall_mem_cons, ih, entryShaped]

/-- A member with nodes in it has their shape, or is left empty; any other may hold what it likes. -/
theorem membersShaped_iff {role? : String → Option Role} {members : List (String × Json)} :
    membersShaped role? members = true ↔ ∀ member ∈ members, ∀ role, role? member.1 = some role →
      leftEmpty member.1 member.2 = true ∨ shaped role member.2 = true := by
  induction members with
  | nil => simp [membersShaped]
  | cons member members ih =>
    obtain ⟨key, value⟩ := member
    rw [membersShaped, Bool.and_eq_true, List.forall_mem_cons, ih, memberShaped]
    cases role? key <;> simp

/-! ## What spells a node has its shape -/

/-- What stands in a member of a node, if it is there at all, has the right shape. -/
def ShapedMember (d : Json) (part : String × Role) : Prop :=
  ∀ value, d.member? part.1 = some value → leftEmpty part.1 value = true ∨ shaped part.2 value = true

section Members

variable {α : Type} {kind : NodeKind} {role : Role} {d value : Json} {key : String}
  {spells : Json → α → Prop}

/-- A node has the right shape if its kind, its keys and its members are right. -/
theorem shaped_node {tag? : Option Json} (hOnce : d.keysOnce = true) (hTag : d.member? "kind" = tag?)
    (hKind : kind.knows tag? = true) (hKeys : OnlyKeys (kind.keys tag?) d)
    (hParts : ∀ part ∈ kind.parts tag?, ShapedMember d part) : shaped (.node kind) d = true := by
  cases d with
  | object members =>
    obtain rfl : members.lookup "kind" = tag? := hTag
    rw [shaped, Bool.and_eq_true, Bool.and_eq_true, List.all_eq_true, membersShaped_iff]
    -- the kind and the keys were assumed
    refine ⟨⟨hKind, fun member hMember => List.contains_iff_mem.mpr (hKeys member hMember)⟩,
      fun member hMember role hRole => ?_⟩
    exact hParts (member.1, role) (mem_of_lookup hRole) member.2
      (Json.lookup_of_mem (Json.nodup_of_keysOnce hOnce) hMember)
  | _ => exact hKeys.elim

/-- A node does not have what is not among its keys. -/
theorem member?_eq_none {keys : List String} (hKeys : OnlyKeys keys d) (hKey : key ∉ keys) :
    d.member? key = none := by
  cases d with
  | object members =>
    rw [Json.member?, List.lookup_eq_none_iff]
    intro member hMember
    rw [bne_iff_ne]
    rintro rfl
    exact hKey (hKeys member hMember)
  | _ => rfl

/-- What stands in a member is one value, so it is enough that this one has the shape. -/
theorem shapedMember_of_shaped (hValue : d.member? key = some value) (hShaped : shaped role value = true) :
    ShapedMember d (key, role) := by
  intro other hOther
  obtain rfl := Option.some.inj (hValue.symm.trans hOther)
  exact Or.inr hShaped

/-- An optional member is left out, or `null` where that is allowed, or has the shape of its value. -/
theorem shapedMember_of_spellsOptional {a? : Option α} (hOnce : d.keysOnce = true)
    (hEmpty : leftEmpty key .null = true)
    (hItem : ∀ {value a}, spells value a → value.keysOnce = true → shaped role value = true)
    (h : SpellsOptional spells (d.member? key) a?) : ShapedMember d (key, role) := by
  cases a? with
  | some a =>
    obtain ⟨value, hValue, hSpells⟩ := h
    exact shapedMember_of_shaped hValue (hItem hSpells (Json.keysOnce_of_member? hOnce hValue))
  | none =>
    intro value hValue
    -- nothing was read, since there is no member or since it is empty
    rcases h with hNone | hNull
    · cases hNone.symm.trans hValue
    · cases hNull.symm.trans hValue
      exact Or.inl hEmpty

/-- Several nodes have their shape if each spells something. -/
theorem shaped_items {items : List Json} {as : List α} (hOnce : (Json.array items).keysOnce = true)
    (hItem : ∀ {item a}, spells item a → item.keysOnce = true → shaped (.node kind) item = true)
    (h : List.Forall₂ spells items as) : shaped (.nodes kind) (.array items) = true := by
  rw [shaped, itemsShaped_iff]
  exact forall_mem_of_forall₂ h fun item hMem a hSpells => hItem hSpells (Json.keysOnce_of_mem_items hOnce hMem)

/-- A member that needs an array has the shape of its items. -/
theorem shapedMember_of_items {as : List α} (hOnce : d.keysOnce = true)
    (hItem : ∀ {item a}, spells item a → item.keysOnce = true → shaped (.node kind) item = true)
    (h : ∃ items, d.member? key = some (.array items) ∧ List.Forall₂ spells items as) :
    ShapedMember d (key, .nodes kind) := by
  obtain ⟨items, hItems, hSpells⟩ := h
  exact shapedMember_of_shaped hItems (shaped_items (Json.keysOnce_of_member? hOnce hItems) hItem hSpells)

/-- A list that may be left out has the shape of its items, or is not there. -/
theorem shapedMember_of_spellsList {as : List α} (hOnce : d.keysOnce = true)
    (hItem : ∀ {item a}, spells item a → item.keysOnce = true → shaped (.node kind) item = true)
    (h : SpellsList spells (d.member? key) as) : ShapedMember d (key, .nodes kind) := by
  rcases h with hItems | ⟨hNone, -⟩
  · exact shapedMember_of_items hOnce hItem hItems
  · intro value hValue
    cases hNone.symm.trans hValue

end Members

mutual

/-- By recursion on the type, along its parts. -/
theorem shaped_of_spellsType : ∀ {type : TypeRef} {d : Json},
    SpellsType d type → d.keysOnce = true → shaped (.node .type) d = true
  | .named name, d, ⟨hKeys, _⟩, hOnce =>
    -- a reference by name has no kind, so nothing in it is a node
    shaped_node hOnce (member?_eq_none hKeys (by decide)) rfl hKeys (List.forall_mem_nil _)
  | .primitive type, d, ⟨hKeys, hKind⟩, hOnce => by
    cases type <;> exact shaped_node hOnce hKind rfl hKeys (List.forall_mem_nil _)
  | .list items, d, ⟨hKeys, hKind, value, hValue, hItems⟩, hOnce => by
    have hShaped := shaped_of_spellsType hItems (Json.keysOnce_of_member? hOnce hValue)
    exact shaped_node hOnce hKind rfl hKeys
      (List.forall_mem_cons.mpr ⟨shapedMember_of_shaped hValue hShaped, List.forall_mem_nil _⟩)
  | .map key value, d, ⟨hKeys, hKind, ⟨a, ha, hKey⟩, b, hb, hValue⟩, hOnce => by
    have hShapedKey := shaped_of_spellsType hKey (Json.keysOnce_of_member? hOnce ha)
    have hShapedValue := shaped_of_spellsType hValue (Json.keysOnce_of_member? hOnce hb)
    refine shaped_node hOnce hKind rfl hKeys (List.forall_mem_cons.mpr ⟨shapedMember_of_shaped ha hShapedKey, ?_⟩)
    exact List.forall_mem_cons.mpr ⟨shapedMember_of_shaped hb hShapedValue, List.forall_mem_nil _⟩
  | .record fields, d, ⟨hKeys, hKind, items, hValue, hFields⟩, hOnce => by
    have hOnceItems := Json.keysOnce_of_member? hOnce hValue
    -- the fields are recursed into one by one, so their keys are asked for one by one too
    have hShaped := itemsShaped_of_spellsFields hFields (Json.itemsKeysOnce_iff.mp hOnceItems)
    refine shaped_node hOnce hKind rfl hKeys (List.forall_mem_cons.mpr ⟨shapedMember_of_shaped hValue ?_,
      List.forall_mem_nil _⟩)
    rw [shaped, hShaped]

/-- A field has no kind, and one node in it. -/
theorem shaped_of_spellsField : ∀ {field : Field} {d : Json},
    SpellsField d field → d.keysOnce = true → shaped (.node .field) d = true
  | ⟨name, type, nullable⟩, d, ⟨hKeys, _, ⟨value, hValue, hType⟩, _⟩, hOnce => by
    have hShaped := shaped_of_spellsType hType (Json.keysOnce_of_member? hOnce hValue)
    exact shaped_node hOnce rfl rfl hKeys
      (List.forall_mem_cons.mpr ⟨shapedMember_of_shaped hValue hShaped, List.forall_mem_nil _⟩)

theorem itemsShaped_of_spellsFields : ∀ {fields : List Field} {items : List Json},
    SpellsFields items fields → (∀ item ∈ items, item.keysOnce = true) → itemsShaped .field items = true
  | [], [], _, _ => rfl
  | field :: fields, item :: items, h, hOnce => by
    rw [List.forall_mem_cons] at hOnce
    rw [itemsShaped, shaped_of_spellsField h.1 hOnce.1, itemsShaped_of_spellsFields h.2 hOnce.2]
    rfl

end

/-- What spells a variant has its shape; its payload may be left empty. -/
theorem shaped_of_spellsVariant {d : Json} {variant : Variant} (h : SpellsVariant d variant)
    (hOnce : d.keysOnce = true) : shaped (.node .variant) d = true :=
  shaped_node hOnce rfl rfl h.keys (List.forall_mem_cons.mpr
    ⟨shapedMember_of_spellsOptional hOnce rfl shaped_of_spellsType h.payload, List.forall_mem_nil _⟩)

theorem shaped_of_spellsErrorCase {d : Json} {error : ErrorCase} (h : SpellsErrorCase d error)
    (hOnce : d.keysOnce = true) : shaped (.node .errorCase) d = true :=
  shaped_node hOnce rfl rfl h.keys (List.forall_mem_cons.mpr
    ⟨shapedMember_of_spellsOptional hOnce rfl shaped_of_spellsType h.payload, List.forall_mem_nil _⟩)

/-- What spells an event has its shape: the payload that was written may be dropped, but spells a type. -/
theorem shaped_of_spellsEvent {d : Json} {event : Event} (h : SpellsEvent d event)
    (hOnce : d.keysOnce = true) : shaped (.node .event) d = true := by
  -- the type that was written, before a payload of type `unit` is dropped
  obtain ⟨written?, hPayload, -⟩ := h.payload
  exact shaped_node hOnce rfl rfl h.keys (List.forall_mem_cons.mpr
    ⟨shapedMember_of_spellsOptional hOnce rfl shaped_of_spellsType hPayload, List.forall_mem_nil _⟩)

/-- What spells a method has its shape: a list of fields, a type, and a list of errors, each optional. -/
theorem shaped_of_spellsMethod {d : Json} {method : Method} (h : SpellsMethod d method)
    (hOnce : d.keysOnce = true) : shaped (.node .method) d = true := by
  have hErrors : ShapedMember d ("errors", .nodes .errorCase) := by
    refine shapedMember_of_spellsOptional hOnce rfl (fun hSpells hOnceValue => ?_) h.errors
    -- a list of errors that is given is an array, even if it is empty
    obtain ⟨items, rfl, hItems⟩ := hSpells
    exact shaped_items hOnceValue shaped_of_spellsErrorCase hItems
  refine shaped_node hOnce rfl rfl h.keys ?_
  simp only [NodeKind.parts, List.forall_mem_cons]
  exact ⟨shapedMember_of_spellsList hOnce shaped_of_spellsField h.params,
    shapedMember_of_spellsOptional hOnce rfl shaped_of_spellsType h.returns, hErrors, List.forall_mem_nil _⟩

/-- What spells a definition has the shape that its kind calls for. -/
theorem shaped_of_spellsDefinition {d : Json} {definition : TypeDef} (h : SpellsDefinition d definition)
    (hOnce : d.keysOnce = true) : shaped (.node .definition) d = true := by
  cases definition with
  | record fields =>
    exact shaped_node hOnce h.2.1 rfl h.1 (List.forall_mem_cons.mpr
      ⟨shapedMember_of_items hOnce shaped_of_spellsField h.2.2, List.forall_mem_nil _⟩)
  | variant variants =>
    exact shaped_node hOnce h.2.1 rfl h.1 (List.forall_mem_cons.mpr
      ⟨shapedMember_of_items hOnce shaped_of_spellsVariant h.2.2, List.forall_mem_nil _⟩)
  | bytes count? => exact shaped_node hOnce h.2.1 rfl h.1 (List.forall_mem_nil _)

/-- What spells a manifest has the right shape. -/
theorem wellShaped_of_spells {d : Json} {manifest : Manifest} (h : Spells d manifest)
    (hOnce : d.keysOnce = true) : wellShaped d = true := by
  have hTypes : ShapedMember d ("types", .table .definition) := by
    obtain ⟨members, hMembers, hEntries⟩ := h.types
    refine shapedMember_of_shaped hMembers ?_
    rw [shaped, entriesShaped_iff]
    have hOnceMembers := Json.keysOnce_of_member? hOnce hMembers
    exact forall_mem_of_forall₂ hEntries fun member hMember entry hEntry =>
      -- the name of an entry is free, and its definition is a node
      shaped_of_spellsDefinition hEntry.2 (Json.keysOnce_of_mem_members hOnceMembers hMember)
  refine shaped_node hOnce rfl rfl h.keys ?_
  simp only [NodeKind.parts, List.forall_mem_cons]
  exact ⟨hTypes, shapedMember_of_items hOnce shaped_of_spellsMethod h.methods,
    shapedMember_of_items hOnce shaped_of_spellsEvent h.events, List.forall_mem_nil _⟩

/-! ## The right shape is an object form -/

/-- What is left empty has no nodes in it, so nothing in it can be in the wrong form. -/
theorem inForm_of_leftEmpty {key : String} {value : Json} (role : Role) (h : leftEmpty key value = true) :
    inForm role value = true := by
  cases value with
  | null => cases role <;> rfl
  | _ => simp [leftEmpty] at h

/-- A kind that there is, is no number. -/
theorem tagInForm_of_knows {kind : NodeKind} {tag? : Option Json} (h : kind.knows tag? = true) :
    tagInForm kind tag? = true := by
  unfold tagInForm
  split <;> simp_all [NodeKind.knows]

/-- **Object form.** What has the right shape has an object for every node and a name for every kind. -/
theorem inForm_of_shaped {role : Role} {d : Json} (hShaped : shaped role d = true)
    (hOnce : d.keysOnce = true) : inForm role d = true := by
  -- on the depth: whatever has a shape inside is less deep
  induction hDepth : d.depth using Nat.strongRecOn generalizing role d with
  | ind depth ih =>
  subst hDepth
  match role, d with
  | .node kind, .object members =>
    simp only [shaped, Bool.and_eq_true] at hShaped
    obtain ⟨⟨hKind, -⟩, hMembers⟩ := hShaped
    simp only [inForm, Bool.and_eq_true]
    -- the kinds are in form, so only the members with nodes in them are left
    refine ⟨tagInForm_of_knows hKind, membersInForm_iff.mpr fun member hMember part hRole => ?_⟩
    obtain hEmpty | hPart := membersShaped_iff.mp hMembers member hMember part hRole
    · exact inForm_of_leftEmpty part hEmpty
    · have hValue : (Json.object members).member? member.1 = some member.2 :=
        Json.lookup_of_mem (Json.nodup_of_keysOnce hOnce) hMember
      exact ih _ (Json.depth_lt_of_member? hValue) hPart (Json.keysOnce_of_mem_members hOnce hMember) rfl
  | .nodes kind, .array items =>
    refine itemsInForm_iff.mpr fun item hItem => ?_
    exact ih _ (Json.depth_lt_of_mem_items hItem) (itemsShaped_iff.mp hShaped item hItem)
      (Json.keysOnce_of_mem_items hOnce hItem) rfl
  | .table kind, .object members =>
    refine membersInForm_iff.mpr fun member hMember part hRole => ?_
    obtain rfl := Option.some.inj hRole
    have hValue : (Json.object members).member? member.1 = some member.2 :=
      Json.lookup_of_mem (Json.nodup_of_keysOnce hOnce) hMember
    exact ih _ (Json.depth_lt_of_member? hValue) (entriesShaped_iff.mp hShaped member hMember)
      (Json.keysOnce_of_mem_members hOnce hMember) rfl
  -- an array for a node has no shape, and in any other value there are no nodes
  | .node _, .array _ => simp [shaped] at hShaped
  | .node _, .null | .node _, .bool _ | .node _, .number _ | .node _, .string _ => rfl
  | .nodes _, .null | .nodes _, .bool _ | .nodes _, .number _ | .nodes _, .string _
  | .nodes _, .object _ => rfl
  | .table _, .null | .table _, .bool _ | .table _, .number _ | .table _, .string _
  | .table _, .array _ => rfl

/-! ## Accepted documents -/

/-- **The shape of accepted documents.** What is accepted as a manifest spells it once it is written out, and
writing out leaves alone what is in object form. So an accepted document has the right shape exactly if it is
in object form. -/
theorem ofJson_writeOut {d : Json} {manifest : Manifest} (hOnce : d.keysOnce = true)
    (h : ofJson d = .ok manifest) :
    (Spells (writeOut (.node .manifest) d) manifest ∧ manifest.Valid) ∧
      (objectForm d = true → writeOut (.node .manifest) d = d) ∧
        (wellShaped d = true ↔ objectForm d = true) := by
  obtain ⟨hVersion, ⟨document, hDocument, hSettle⟩, hValid⟩ := ofJson_eq_ok.mp h
  have hSpells := spells_writeOut hVersion hDocument hSettle
  have hSame : objectForm d = true → writeOut (.node .manifest) d = d :=
    fun hForm => writeOut_of_inForm hForm hOnce
  refine ⟨⟨hSpells, hValid⟩, hSame, fun hShaped => inForm_of_shaped hShaped hOnce, fun hForm => ?_⟩
  -- a document in object form is written out as itself
  rw [hSame hForm] at hSpells
  exact wellShaped_of_spells hSpells hOnce

/-- A document with a parameter that is an array, and a type whose kind is a number. -/
def listedDocument : Json := .object [
  ("schema_version", .string "wasm-abi/1"),
  ("types", .object []),
  ("methods", .array [
    .object [("name", .string "read"), ("params", .array [
      .array [.string "path", .object [("kind", .number (.unsigned 7))]]])]]),
  ("events", .array [])]

/-- The manifest that is read from it. -/
def listedManifest : Manifest where
  types := []
  methods := [⟨"read", [⟨"path", .primitive .string, false⟩], none, false, none⟩]
  events := []

theorem listedDocument_spells :
    (listedDocument.keysOnce = true ∧ ofJson listedDocument = .ok listedManifest) ∧
      Spells (writeOut (.node .manifest) listedDocument) listedManifest ∧ objectForm listedDocument = false :=
  ⟨⟨by decide, rfl⟩, (ofJson_writeOut (by decide) rfl).1.1, by decide⟩

/-- Not every document that is accepted has the right shape. -/
theorem not_forall_wellShaped :
    ¬ ∀ d manifest, d.keysOnce = true → ofJson d = .ok manifest → wellShaped d = true :=
  fun h => absurd (h listedDocument listedManifest (by decide) rfl) (by decide)

end AbiBindings.Manifest
