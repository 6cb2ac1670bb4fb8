import AbiBindings.Proofs.Bindings.Hygiene
import AbiBindings.Proofs.Bindings.ModuleBody

/-!
# Bindings — repeated keys and labels

Object types list members by key, and unions tell their arms apart by label. In the bindings of a manifest
the keys are the names of fields and the labels those of variants, errors and events, so what repeats there
is repeated in what a manifest declares. Nothing is looked at before generation but the parameters of a
method. For everything else, the bindings are unambiguous exactly if the manifest is.

* `Shape.objectKeys`, `Block.labels` — the keys of all object types in a type, the labels of a union;
* `Manifest.recordKeys`, `Manifest.Unambiguous` — the names of fields of all records, and manifests in
  which no list of names repeats one;
* `objectKeys_shape` — each record of a type is written as one object type, however deep it stands;
* `unambiguous_declared`, `distinct_source` — the blocks of the module of types, and the methods of a client;
* `generate_unambiguous` — both modules against the manifest.
-/

namespace AbiBindings.TypeScript

/-! ## Keys and labels -/

mutual

/-- The keys of all object types in a type, those of an object before those inside of it. -/
def Shape.objectKeys : Shape → List (List String)
  | .word _ | .literal _ => []
  | .array items => items.objectKeys
  | .dictionary key value => key.objectKeys ++ value.objectKeys
  | .object members => members.map Slot.name :: slotsObjectKeys members

/-- The same for the type of a slot. -/
def Slot.objectKeys : Slot → List (List String)
  | ⟨_, shape, _⟩ => shape.objectKeys

/-- The same for the types of several slots. -/
def slotsObjectKeys : List Slot → List (List String)
  | [] => []
  | slot :: rest => slot.objectKeys ++ slotsObjectKeys rest

end

/-- The keys of all object types in a block. -/
def Block.objectKeys : Block → List (List String)
  | .interface _ members => members.map Slot.name :: slotsObjectKeys members
  | .union _ arms => arms.flatMap (·.flatMap Shape.objectKeys)
  | .alternatives _ types => types.flatMap Shape.objectKeys

/-- The label of an arm: the literal in its first member. -/
def armLabel? : List Shape → Option String
  | .object (⟨_, .literal label, _⟩ :: _) :: _ => some label
  | _ => none

/-- The labels of a block, one for each arm if it is a union. -/
def Block.labels : Block → List String
  | .union _ arms => arms.filterMap armLabel?
  | .interface _ _ | .alternatives _ _ => []

/-- The keys of all object types in the type of an exception. -/
def Raised.objectKeys : Raised → List (List String)
  | .message => []
  | .declared type _ => type.objectKeys

/-- The keys of all object types in a method, line by line. -/
def MethodSource.objectKeys (source : MethodSource) : List (List String) :=
  slotsObjectKeys source.formals ++ source.promised.shape.objectKeys ++ source.raised.objectKeys
    ++ source.returned?.elim [] (·.type.shape.objectKeys)

/-- Lists of names none of which repeats a name. -/
def Distinct (lists : List (List String)) : Prop := ∀ names ∈ lists, names.Nodup

/-- A block in which no object type has two members with the same key, and no union two arms with the same
label. -/
structure Block.Unambiguous (block : Block) : Prop where
  keys : Distinct block.objectKeys
  labels : block.labels.Nodup

theorem slotsObjectKeys_eq_flatMap (slots : List Slot) :
    slotsObjectKeys slots = slots.flatMap Slot.objectKeys := by
  induction slots with
  | nil => rfl
  | cons slot rest ih => rw [slotsObjectKeys, ih, List.flatMap_cons]

/-- The two conditions on a block, as they are used below. -/
theorem Block.unambiguous_iff {block : Block} :
    block.Unambiguous ↔ Distinct block.objectKeys ∧ block.labels.Nodup :=
  ⟨fun h => ⟨h.keys, h.labels⟩, fun h => ⟨h.1, h.2⟩⟩

section Distinct

variable {lists others : List (List String)} {names : List String}

theorem distinct_nil : Distinct [] := fun _ h => absurd h List.not_mem_nil

theorem distinct_cons : Distinct (names :: lists) ↔ names.Nodup ∧ Distinct lists := List.forall_mem_cons

theorem distinct_append : Distinct (lists ++ others) ↔ Distinct lists ∧ Distinct others :=
  List.forall_mem_append

/-- Lists that come from several sources have no repetition if those of each source have none. -/
theorem distinct_flatMap {α : Type} {as : List α} {f : α → List (List String)} :
    Distinct (as.flatMap f) ↔ ∀ a ∈ as, Distinct (f a) := by
  constructor
  · exact fun h a ha names hNames => h names (List.mem_flatMap.mpr ⟨a, ha, hNames⟩)
  · intro h names hNames
    obtain ⟨a, ha, hNames⟩ := List.mem_flatMap.mp hNames
    exact h a ha names hNames

end Distinct

end AbiBindings.TypeScript

namespace AbiBindings.Manifest

open TypeScript (Distinct)

/-! ## Names in a manifest -/

/-- The names of the fields of a node that is a record. -/
def recordKeys? (node : TypeRef × String) : Option (List String) :=
  match node.1 with
  | .record fields => some (fields.map Field.name)
  | _ => none

/-- The names of the fields of each record among nodes. -/
def recordKeys (nodes : List (TypeRef × String)) : List (List String) := nodes.filterMap recordKeys?

theorem recordKeys_append (nodes others : List (TypeRef × String)) :
    recordKeys (nodes ++ others) = recordKeys nodes ++ recordKeys others :=
  List.filterMap_append

theorem recordKeys_flatMap {α : Type} (as : List α) (f : α → List (TypeRef × String)) :
    recordKeys (as.flatMap f) = as.flatMap fun a => recordKeys (f a) :=
  List.filterMap_flatMap

/-- A `unit` is no record. -/
theorem recordKeys_filter (payload? : Option TypeRef) (location : String) :
    recordKeys (payloadNodes location (payload?.filter (!·.isUnit))) = recordKeys (payloadNodes location payload?) := by
  cases payload? with
  | none => rfl
  | some type =>
    cases type with
    | primitive type => cases type <;> rfl
    | _ => rfl

/-- The names that a definition lists: those of its fields, or of its variants. -/
def TypeDef.names : TypeDef → List String
  | .record fields => fields.map Field.name
  | .variant variants => variants.map Variant.name
  | .bytes _ => []

/-- A manifest in which no record has two fields of the same name, however deep it stands, no variant type two
variants, no method two errors with the same code, and no two events have the same name. -/
structure Unambiguous (manifest : Manifest) : Prop where
  records : Distinct (recordKeys manifest.nodes)
  definitions : ∀ entry ∈ manifest.types, entry.2.names.Nodup
  errors : ∀ method ∈ manifest.methods, (method.errors.map ErrorCase.code).Nodup
  events : (manifest.events.map Event.name).Nodup

end AbiBindings.Manifest

namespace AbiBindings.Bindings

open Manifest (TypeRef Field Variant TypeDef ErrorCase Method Event fieldNodes payloadNodes recordKeys
  recordKeys_append recordKeys_filter recordKeys_flatMap)
open TypeScript (Block Distinct MethodSource Shape Slot armLabel? codeLines distinct_append distinct_cons
  distinct_flatMap distinct_nil readBlock readMethods slotsObjectKeys slotsObjectKeys_eq_flatMap)

/-! ## Types -/

section Types

variable (space? : Option String)

mutual

/-- Each record of a type is written as an object type, and nothing else is. -/
theorem objectKeys_shape : ∀ (type : TypeRef) (location : String),
    (writtenType space? type).shape.objectKeys = recordKeys (type.nodes location)
  | .named _, _ => rfl
  | .primitive _, _ => rfl
  | .list items, location => objectKeys_shape items (location ++ ".items")
  | .map key value, location => by
    show (writtenType space? key).shape.objectKeys ++ (writtenType space? value).shape.objectKeys
      = recordKeys (key.nodes (location ++ ".key") ++ value.nodes (location ++ ".value"))
    rw [objectKeys_shape key, objectKeys_shape value, recordKeys_append]
  -- the keys of this object are the names of its fields; what is inside of it are the records inside of the
  -- fields
  | .record fields, location => by
    have hNames : (TypeScript.memberSlots (writtenMembers space? fields)).map Slot.name
        = fields.map Field.name := by
      rw [memberSlots_writtenMembers, List.map_map]
      rfl
    show (TypeScript.memberSlots (writtenMembers space? fields)).map Slot.name
        :: slotsObjectKeys (TypeScript.memberSlots (writtenMembers space? fields))
      = fields.map Field.name :: recordKeys (fieldNodes location fields)
    rw [hNames, objectKeys_members fields location]

theorem objectKeys_member : ∀ (field : Field) (location : String),
    (writtenMember space? field).slot.objectKeys = recordKeys (field.nodes location)
  | ⟨name, type, _⟩, location => objectKeys_shape type (location ++ "." ++ name)

theorem objectKeys_members : ∀ (fields : List Field) (location : String),
    slotsObjectKeys (TypeScript.memberSlots (writtenMembers space? fields))
      = recordKeys (fieldNodes location fields)
  | [], _ => rfl
  | field :: rest, location => by
    rw [writtenMembers, TypeScript.memberSlots, slotsObjectKeys, fieldNodes, recordKeys_append,
      objectKeys_member field location, objectKeys_members rest location]

end

end Types

/-! ## The module of types -/

theorem objectKeys_fields (fields : List Field) (location : String) :
    slotsObjectKeys (fields.map fieldSlot) = recordKeys (fieldNodes location fields) := by
  rw [← objectKeys_members none fields location, memberSlots_writtenMembers]
  rfl

/-- A payload lists the keys of its type, and without a payload there are none. -/
theorem objectKeys_payload (payload? : Option TypeRef) (location : String) :
    slotsObjectKeys (payload?.map payloadSlot).toList = recordKeys (payloadNodes location payload?) := by
  cases payload? with
  | none => rfl
  | some type => exact (List.append_nil _).trans (objectKeys_shape none type location)

/-- An object with a label and a payload has no key twice, so all that may repeat is in the payload. -/
theorem distinct_labelled (key : String) (hKey : key ≠ "payload") (label : String) (payload? : Option TypeRef)
    (location : String) :
    Distinct (Shape.object (⟨key, .literal label, false⟩ :: (payload?.map payloadSlot).toList)).objectKeys ↔
      Distinct (recordKeys (payloadNodes location payload?)) := by
  -- the only other key is that of the payload
  have hNames : (key :: (payload?.map payloadSlot).toList.map Slot.name).Nodup := by
    cases payload? with
    | none => exact List.nodup_singleton key
    | some type => exact List.nodup_cons.mpr ⟨fun h => hKey (List.mem_singleton.mp h), List.nodup_singleton _⟩
  show Distinct ((key :: (payload?.map payloadSlot).toList.map Slot.name)
    :: slotsObjectKeys (payload?.map payloadSlot).toList) ↔ _
  rw [distinct_cons, and_iff_right hNames, objectKeys_payload payload? location]

/-- An arm for a variant repeats what its payload repeats; that a payload `unit` is left out makes no
difference. -/
theorem distinct_variantShapes (variant : Variant) (location : String) :
    Distinct ((variantShapes variant).flatMap Shape.objectKeys) ↔
      Distinct (recordKeys (payloadNodes location variant.payload?)) := by
  rw [variantShapes, List.flatMap_singleton, distinct_labelled "kind" (by decide) _ _ location, recordKeys_filter]

/-- An arm for an error repeats what its payload repeats. -/
theorem distinct_errorShapes (error : ErrorCase) (location : String) :
    Distinct ((errorShapes error).flatMap Shape.objectKeys) ↔
      Distinct (recordKeys (payloadNodes location error.payload?)) := by
  -- an error is written as an intersection: an object with the code, and one with the payload
  rw [errorShapes, List.flatMap_cons, distinct_append]
  have hCode : Distinct (Shape.object [⟨"code", .literal error.code, false⟩]).objectKeys :=
    (distinct_labelled "code" (by decide) error.code none location).mpr distinct_nil
  rw [and_iff_right hCode]
  cases error.payload? with
  -- without a payload, the intersection has only one side
  | none => exact Iff.rfl
  | some type =>
    show Distinct (["payload"] :: slotsObjectKeys [payloadSlot type] ++ []) ↔ _
    rw [List.append_nil, distinct_cons, and_iff_right (List.nodup_singleton _)]
    exact iff_of_eq (congrArg Distinct (objectKeys_payload (some type) location))

theorem distinct_eventShapes (event : Event) :
    Distinct ((eventShapes event).flatMap Shape.objectKeys) ↔ Distinct (recordKeys event.nodes) := by
  rw [eventShapes, List.flatMap_singleton, distinct_labelled "name" (by decide)]
  rfl

/-- The block of a union repeats what its labels and its arms repeat. -/
theorem unambiguous_unionBlock {α : Type} (name : String) (arm : α → List Shape) (label : α → String)
    (hLabel : ∀ item, armLabel? (arm item) = some (label item)) (items : List α) :
    (unionBlock name (items.map arm)).Unambiguous ↔
      (items.map label).Nodup ∧ ∀ item ∈ items, Distinct ((arm item).flatMap Shape.objectKeys) := by
  have hLabels : (items.map arm).filterMap armLabel? = items.map label := by
    rw [List.filterMap_map, ← List.filterMap_eq_map]
    exact congrArg (items.filterMap ·) (funext hLabel)
  -- without items there is no union, and nothing to repeat
  cases items with
  | nil => exact iff_of_true ⟨distinct_nil, List.nodup_nil⟩ ⟨List.nodup_nil, by simp⟩
  | cons item rest =>
    have hBlock : unionBlock name ((item :: rest).map arm) = .union name ((item :: rest).map arm) := rfl
    rw [hBlock, Block.unambiguous_iff, Block.labels, hLabels, Block.objectKeys, List.flatMap_map,
      distinct_flatMap, and_comm]

/-- The block of an entry of the table repeats what the definition lists and what the records in it list. -/
theorem unambiguous_entry (name : String) (definition : TypeDef) (location : String) :
    (Declared.entry name definition).block.Unambiguous ↔
      definition.names.Nodup ∧ Distinct (recordKeys (definition.nodes location)) := by
  cases definition with
  | record fields =>
    -- an interface: its members are the fields
    have hNames : (fields.map fieldSlot).map Slot.name = fields.map Field.name := List.map_map.trans rfl
    rw [Declared.block, Block.unambiguous_iff, Block.labels, and_iff_left List.nodup_nil, Block.objectKeys,
      hNames, objectKeys_fields fields location, distinct_cons]
    rfl
  | variant variants =>
    -- a union: its labels are the names of the variants
    rw [Declared.block, unambiguous_unionBlock _ variantShapes Variant.name fun _ => rfl]
    refine and_congr_right fun _ => ?_
    rw [TypeDef.nodes, recordKeys_flatMap, distinct_flatMap]
    exact forall₂_congr fun variant _ => distinct_variantShapes variant _
  | bytes count? => exact iff_of_true ⟨distinct_nil, List.nodup_nil⟩ ⟨List.nodup_nil, distinct_nil⟩

/-- The two blocks for the errors of a method repeat what the codes and the payloads repeat. -/
theorem unambiguous_declaredErrors (method : Method) (location : ErrorCase → String) :
    (∀ entry ∈ declaredErrors method, entry.block.Unambiguous) ↔
      (method.errors.map ErrorCase.code).Nodup ∧
        ∀ error ∈ method.errors, Distinct (recordKeys (payloadNodes (location error) error.payload?)) := by
  have hUnion : (Declared.failures method.name method.errors).block.Unambiguous ↔
      (method.errors.map ErrorCase.code).Nodup ∧
        ∀ error ∈ method.errors, Distinct (recordKeys (payloadNodes (location error) error.payload?)) := by
    rw [Declared.block, unambiguous_unionBlock _ errorShapes ErrorCase.code fun _ => rfl]
    exact and_congr_right fun _ => forall₂_congr fun error _ => distinct_errorShapes error _
  -- the codes on their own are literals, in which nothing is listed
  have hCodes : (Declared.codes method.name method.errors).block.Unambiguous := by
    refine ⟨?_, List.nodup_nil⟩
    rw [Declared.block, Block.objectKeys, List.flatMap_map]
    exact distinct_flatMap.mpr fun _ _ => distinct_nil
  rw [declaredErrors]
  split
  -- without errors there are no blocks, and no codes to repeat
  next hNone => simp [List.isEmpty_iff.mp hNone]
  next =>
    rw [List.forall_mem_cons, List.forall_mem_singleton, and_iff_right hCodes, hUnion]

/-- The block for the payload of an event repeats what the records in the payload list. -/
theorem unambiguous_declaredPayload (event : Event) :
    (∀ entry ∈ declaredPayload event, entry.block.Unambiguous) ↔ Distinct (recordKeys event.nodes) := by
  rw [declaredPayload, Event.nodes]
  cases event.payload? with
  | none => exact iff_of_true (by simp) distinct_nil
  | some type =>
    rw [Option.map_some, Option.toList_some, List.forall_mem_singleton, Declared.block, Block.unambiguous_iff,
      Block.labels, and_iff_left List.nodup_nil, Block.objectKeys, List.flatMap_singleton]
    exact iff_of_eq (congrArg Distinct (objectKeys_shape none type _))

/-- The union of all events repeats what their names and their payloads repeat. -/
theorem unambiguous_declaredUnion (events : List Event) :
    (∀ entry ∈ declaredUnion events, entry.block.Unambiguous) ↔
      (events.map Event.name).Nodup ∧ ∀ event ∈ events, Distinct (recordKeys event.nodes) := by
  rw [declaredUnion]
  split
  next hNone => simp [List.isEmpty_iff.mp hNone]
  next =>
    rw [List.forall_mem_singleton, Declared.block, unambiguous_unionBlock _ eventShapes Event.name fun _ => rfl]
    exact and_congr_right fun _ => forall₂_congr fun event _ => distinct_eventShapes event

/-- **Types.** The blocks of the module of types repeat what the entries of the table, the errors of methods
and the events repeat. -/
theorem unambiguous_declared (manifest : Manifest) :
    (∀ entry ∈ declared manifest, entry.block.Unambiguous) ↔
      (∀ entry ∈ manifest.types,
        entry.2.names.Nodup ∧ Distinct (recordKeys (entry.2.nodes ("types." ++ entry.1)))) ∧
      (∀ method ∈ manifest.methods, (method.errors.map ErrorCase.code).Nodup ∧ ∀ error ∈ method.errors,
        Distinct (recordKeys (payloadNodes ("methods." ++ method.name ++ ".errors." ++ error.code)
          error.payload?))) ∧
      (manifest.events.map Event.name).Nodup ∧ ∀ event ∈ manifest.events, Distinct (recordKeys event.nodes) := by
  have hFlat : ∀ {α : Type} (as : List α) (f : α → List Declared),
      (∀ entry ∈ as.flatMap f, entry.block.Unambiguous) ↔
        ∀ a ∈ as, ∀ entry ∈ f a, entry.block.Unambiguous := by
    intro α as f
    simp only [List.mem_flatMap]
    exact ⟨fun h a ha entry hEntry => h entry ⟨a, ha, hEntry⟩, fun h entry ⟨a, ha, hEntry⟩ => h a ha entry hEntry⟩
  rw [declared, List.forall_mem_append, List.forall_mem_append, List.forall_mem_append, List.forall_mem_map,
    hFlat, hFlat, unambiguous_declaredUnion, and_assoc, and_assoc]
  refine and_congr (forall₂_congr fun entry _ => unambiguous_entry entry.1 entry.2 _)
    (and_congr (forall₂_congr fun method _ => unambiguous_declaredErrors method _) ?_)
  -- a payload that is declared on its own is that of an event, which is looked at already
  refine and_iff_right_of_imp fun h event hEvent => ?_
  exact (unambiguous_declaredPayload event).mpr (h.2 event hEvent)

/-! ## The client -/

/-- **Methods.** If the parameters of a method differ, all that its lines may repeat is in the types of its
parameters and of the value that it returns. -/
theorem distinct_source {style : Style} {method : Method} (hParameters : (style.parameterNames method).Nodup)
    (params returns : String) :
    Distinct (style.source method).objectKeys ↔
      Distinct (recordKeys (fieldNodes params method.params)) ∧
        Distinct (recordKeys (payloadNodes returns method.returns?)) := by
  have hFields : slotsObjectKeys (method.params.map style.slot) = recordKeys (fieldNodes params method.params) := by
    rw [← objectKeys_members style.space? method.params params, memberSlots_writtenMembers]
    rfl
  have hFormals : Distinct (slotsObjectKeys (style.formals method)) ↔
      Distinct (recordKeys (fieldNodes params method.params)) := by
    rw [← hFields]
    cases style with
    -- the parameters stand one by one, or as the members of one object
    | positional =>
      -- parameters have other names than members, but the same types
      rw [Style.formals, slotsObjectKeys_eq_flatMap, slotsObjectKeys_eq_flatMap, List.flatMap_map, List.flatMap_map]
      rfl
    | namespaced =>
      have hNames : ((method.params.map Style.namespaced.slot).map Slot.name).Nodup := by
        rw [List.map_map]
        exact hParameters
      rw [Style.formals]
      split
      next hNone => rw [List.isEmpty_iff.mp hNone, List.map_nil]
      next =>
        show Distinct ((method.params.map Style.namespaced.slot).map Slot.name
          :: slotsObjectKeys (method.params.map Style.namespaced.slot) ++ []) ↔ _
        rw [List.append_nil, distinct_cons, and_iff_right hNames]
  -- an exception carries the message alone or names a declared type, and in neither are keys listed
  have hRaised : (style.raised method).objectKeys = [] := by
    rw [Style.raised]
    split <;> rfl
  rw [MethodSource.objectKeys, distinct_append, distinct_append, distinct_append]
  show ((Distinct (slotsObjectKeys (style.formals method))
      ∧ Distinct ((style.returned? method).getD _).shape.objectKeys)
      ∧ Distinct (style.raised method).objectKeys)
    ∧ Distinct (((style.returned? method).map _).elim [] _) ↔ _
  rw [hFormals, hRaised, and_iff_left distinct_nil, and_assoc, ← recordKeys_filter method.returns?,
    Style.returned?, Method.valueReturn?]
  refine and_congr_right fun _ => ?_
  -- the value that is returned is written twice
  cases method.returns?.filter (!·.isUnit) with
  | none => exact iff_of_true ⟨distinct_nil, distinct_nil⟩ distinct_nil
  | some type =>
    show Distinct (style.shape type).objectKeys ∧ Distinct (style.shape type).objectKeys ↔ _
    rw [and_self_iff, Style.shape, objectKeys_shape style.space? type returns]
    rfl

/-! ## Both modules -/

/-- Behind the header, the parts of the module of types are read as the blocks of what is declared. -/
theorem TypesLines.mapM_readBlock {manifest : Manifest} {text : String} (h : TypesLines manifest text) :
    (Layout.sections text).tail.mapM readBlock = some ((declared manifest).map Declared.block) := by
  rw [h.sections, List.tail_cons, mapM_eq_some_iff, List.forall₂_map_left_iff, List.forall₂_map_right_iff,
    List.forall₂_same]
  exact h.blocks

/-- The records of a manifest, thing by thing as the modules are written. -/
theorem distinct_nodes (manifest : Manifest) :
    Distinct (recordKeys manifest.nodes) ↔
      (∀ entry ∈ manifest.types, Distinct (recordKeys (entry.2.nodes ("types." ++ entry.1)))) ∧
      (∀ method ∈ manifest.methods,
        (Distinct (recordKeys (fieldNodes ("methods." ++ method.name ++ ".params") method.params)) ∧
          Distinct (recordKeys (payloadNodes ("methods." ++ method.name ++ ".returns") method.returns?))) ∧
        ∀ error ∈ method.errors, Distinct (recordKeys
          (payloadNodes ("methods." ++ method.name ++ ".errors." ++ error.code) error.payload?))) ∧
      ∀ event ∈ manifest.events, Distinct (recordKeys event.nodes) := by
  simp only [Manifest.nodes, Method.nodes, recordKeys_append, recordKeys_flatMap, distinct_append,
    distinct_flatMap, and_assoc]

/-- **Ambiguity.** In both modules that are generated for a manifest that was read, the object types list no
key twice, at any depth, and the unions tell their arms apart, exactly if in the manifest no record, variant
type, list of errors or list of events repeats a name. Of all this nothing is checked, neither when a manifest
is read nor when bindings are generated; only the object in which a method takes its parameters never lists a
key twice. What stands around the methods of a client is the same for every manifest. -/
theorem generate_unambiguous {document : Json} {manifest : Manifest}
    (hRead : Manifest.ofJson document = .ok manifest) {clientName : String} {style : Style}
    {generated : Generated} (h : generate manifest clientName style = .ok generated) :
    ∃ blocks sources,
      ((Layout.sections generated.types).tail.mapM readBlock = some blocks ∧
        readMethods (codeLines generated.client) = some sources) ∧
      ((∀ block ∈ blocks, block.Unambiguous) ∧ (∀ source ∈ sources, Distinct source.objectKeys) ↔
        manifest.Unambiguous) ∧
      (style = .namespaced → ∀ source ∈ sources, ∀ formal ∈ source.formals, ∀ members,
        formal.shape = .object members → (members.map Slot.name).Nodup) := by
  have hValid := Manifest.valid_of_ofJson hRead
  obtain ⟨-, -, hParameters⟩ := (exists_generate_eq_ok hValid).mp ⟨generated, h⟩
  obtain ⟨hTypes, hClient⟩ := generate_eq_ok.mp h
  refine ⟨(declared manifest).map Declared.block, manifest.methods.map style.source,
    ⟨(typesText_lines hTypes).mapM_readBlock, (clientText_lines hClient).methods⟩, ?_, ?_⟩
  · have hSources : (∀ source ∈ manifest.methods.map style.source, Distinct source.objectKeys) ↔
        -- the conditions on the manifest are sorted by module: the types, errors and events first, then the
        -- methods
        ∀ method ∈ manifest.methods,
          Distinct (recordKeys (fieldNodes ("methods." ++ method.name ++ ".params") method.params)) ∧
            Distinct (recordKeys (payloadNodes ("methods." ++ method.name ++ ".returns") method.returns?)) := by
      rw [List.forall_mem_map]
      exact forall₂_congr fun method hMethod => distinct_source (hParameters method hMethod) _ _
    rw [List.forall_mem_map, unambiguous_declared, hSources]
    constructor
    · intro h
      obtain ⟨⟨hEntries, hErrors, hNames, hEvents⟩, hMethods⟩ := h
      refine ⟨(distinct_nodes manifest).mpr ⟨fun entry hEntry => (hEntries entry hEntry).2,
        fun method hMethod => ⟨hMethods method hMethod, (hErrors method hMethod).2⟩, hEvents⟩,
        fun entry hEntry => (hEntries entry hEntry).1, fun method hMethod => (hErrors method hMethod).1, hNames⟩
    · intro h
      obtain ⟨hEntries, hMethods, hEvents⟩ := (distinct_nodes manifest).mp h.records
      exact ⟨⟨fun entry hEntry => ⟨h.definitions entry hEntry, hEntries entry hEntry⟩,
        fun method hMethod => ⟨h.errors method hMethod, (hMethods method hMethod).2⟩, h.events, hEvents⟩,
        fun method hMethod => (hMethods method hMethod).1⟩
  · rintro rfl
    refine List.forall_mem_map.mpr fun method hMethod formal hFormal members hMembers => ?_
    -- a method without parameters takes no object
    rcases (methodHygiene (hParameters method hMethod) : MethodHygiene .namespaced _) with hNone | ⟨slots, hSome, hSlots⟩
    · rw [hNone] at hFormal
      exact absurd hFormal List.not_mem_nil
    · rw [hSome] at hFormal
      obtain rfl := List.mem_singleton.mp hFormal
      obtain rfl := Shape.object.inj hMembers
      exact hSlots

/-- A document in which whatever may be repeated is. -/
def repeatingDocument : Json := .object [
  ("schema_version", .string "wasm-abi/1"),
  ("types", .object [
    ("Pair", .object [("kind", .string "record"), ("fields", .array [
      .object [("name", .string "a"), ("type", .object [("kind", .string "string")])],
      .object [("name", .string "a"), ("type", .object [("kind", .string "u32")])]])]),
    ("Shape", .object [("kind", .string "variant"), ("variants", .array [
      .object [("name", .string "dot")],
      .object [("name", .string "dot"), ("payload", .object [("kind", .string "u32")])]])])]),
  ("methods", .array [
    .object [("name", .string "draw"), ("errors", .array [
      .object [("code", .string "full")],
      .object [("code", .string "full"), ("payload", .object [("kind", .string "string")])]])]]),
  ("events", .array [.object [("name", .string "drawn")], .object [("name", .string "drawn")]])]

/-- The manifest that is read from it. -/
def repeatingManifest : Manifest where
  types := [
    ("Pair", .record [⟨"a", .primitive .string, false⟩, ⟨"a", .primitive .u32, false⟩]),
    ("Shape", .variant [⟨"dot", none⟩, ⟨"dot", some (.primitive .u32)⟩])]
  methods := [⟨"draw", [], none, false, some [⟨"full", none⟩, ⟨"full", some (.primitive .string)⟩]⟩]
  events := [⟨"drawn", none⟩, ⟨"drawn", none⟩]

/-- In this manifest everything repeats, and bindings are generated for it all the same. -/
theorem repeatingManifest_ambiguous :
    Manifest.ofJson repeatingDocument = .ok repeatingManifest ∧
      ∃ generated blocks sources, generate repeatingManifest "Client" .positional = .ok generated ∧
        (Layout.sections generated.types).tail.mapM readBlock = some blocks ∧
        readMethods (codeLines generated.client) = some sources ∧
        ¬ ((∀ block ∈ blocks, block.Unambiguous) ∧ ∀ source ∈ sources, Distinct source.objectKeys) := by
  have hRead : Manifest.ofJson repeatingDocument = .ok repeatingManifest := rfl
  have hGenerated : ∃ generated, generate repeatingManifest "Client" .positional = .ok generated := ⟨_, rfl⟩
  obtain ⟨generated, h⟩ := hGenerated
  obtain ⟨blocks, sources, ⟨hBlocks, hSources⟩, hIff, -⟩ := generate_unambiguous hRead h
  have hRepeats : ¬ (repeatingManifest.events.map Event.name).Nodup := by decide
  exact ⟨hRead, generated, blocks, sources, h, hBlocks, hSources, fun hBoth => hRepeats (hIff.mp hBoth).events⟩

/-- Not every manifest that is read has unambiguous bindings: an interface may list a member twice, with
different types. -/
theorem not_forall_unambiguous : ¬ ∀ document manifest clientName style generated blocks sources,
    Manifest.ofJson document = .ok manifest → generate manifest clientName style = .ok generated →
      (Layout.sections generated.types).tail.mapM readBlock = some blocks →
        readMethods (codeLines generated.client) = some sources →
          (∀ block ∈ blocks, block.Unambiguous) ∧ ∀ source ∈ sources, Distinct source.objectKeys := by
  intro hAll
  have hRead : Manifest.ofJson repeatingDocument = .ok repeatingManifest := rfl
  have hGenerated : ∃ generated, generate repeatingManifest "Client" .positional = .ok generated := ⟨_, rfl⟩
  obtain ⟨generated, h⟩ := hGenerated
  obtain ⟨hTypes, hClient⟩ := generate_eq_ok.mp h
  obtain ⟨hBlocks, -⟩ := hAll repeatingDocument repeatingManifest "Client" .positional _ _ _ hRead h
    (typesText_lines hTypes).mapM_readBlock (clientText_lines hClient).methods
  -- the record of the document has two fields of one name, so the first block lists one key twice
  have hPair := hBlocks _ List.mem_cons_self
  exact absurd (hPair.keys _ List.mem_cons_self) (by decide)

end AbiBindings.Bindings
