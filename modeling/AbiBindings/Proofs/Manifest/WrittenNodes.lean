import AbiBindings.Proofs.Manifest.Acceptance
import AbiBindings.Proofs.Manifest.WrittenOut

/-!
# Manifest — what is read is spelled by the document written out

Whatever a reader makes of a value, be it an object or an array, the value written out spells it. A node is
read from its row, and what is written out is its row again, under the same keys; so there is one lemma for
each way in which a row is taken from a value, and then one for each kind of node.

* `Writes` — the row of a node that is written out;
* `writes_of_untag?`, `writes_of_read`, `writes_of_columns` — types, nodes without a kind, definitions;
* `spellsType_writeOut`, `spellsMethod_writeOut` and the like — the nodes;
* `spells_writeOut` — the document.
-/

namespace AbiBindings.Manifest

open Json (Fault OnlyKeys Place Row Shape)

/-! ## Rows -/

/-- A node whose row is `row`, with no keys but `keys`, if it has the kind `tag?`. -/
structure Writes (kind : NodeKind) (tag? : Option Json) (keys : List String) (row : Row) (d : Json) :
    Prop where
  out : writeOut (.node kind) d = .object (written (kind.part tag?) row)
  onlyKeys : OnlyKeys keys (.object row)

section Rows

variable {kind : NodeKind} {tag? : Option Json} {keys : List String} {row : Row} {d : Json} {key : String}

theorem Writes.onlyKeys_out (h : Writes kind tag? keys row d) : OnlyKeys keys (writeOut (.node kind) d) := by
  rw [h.out]
  exact onlyKeys_written.mpr h.onlyKeys

/-- A member of the node written out is the column of the row, as what it is for is written out. -/
theorem Writes.member? (h : Writes kind tag? keys row d) (key : String) :
    (writeOut (.node kind) d).member? key = (row.lookup key).map (partOut (kind.part tag? key)) := by
  rw [h.out]
  exact lookup_written (kind.part tag?) row key

/-- A column that holds no nodes is kept. -/
theorem Writes.member?_plain (h : Writes kind tag? keys row d) (hPart : kind.part tag? key = .plain) :
    (writeOut (.node kind) d).member? key = row.lookup key := by
  rw [h.out]
  exact lookup_written_plain hPart row

/-- What holds nodes is written out in its place. -/
theorem Writes.member?_nodes {role : Role} {value : Json} (h : Writes kind tag? keys row d)
    (hPart : kind.part tag? key = .nodes role) (hValue : row.lookup key = some value) :
    (writeOut (.node kind) d).member? key = some (writeOut role value) := by
  rw [h.member?, hValue, hPart]
  rfl

/-- An object is its own row. -/
theorem writes_members (kind : NodeKind) {members : List (String × Json)}
    (hPart : ∀ tag?, kind.part tag? = kind.part none) (hKeys : OnlyKeys keys (.object members)) :
    Writes kind none keys members (.object members) where
  out := by rw [writeOut_object, hPart]
  onlyKeys := hKeys

/-- The row of an array pairs its items with the columns. -/
theorem writes_items (kind : NodeKind) (hPart : ∀ tag?, kind.part tag? = kind.part none)
    (hColumns : ∀ tag?, kind.columns tag? = kind.columns none) (items : List Json) :
    Writes kind none (kind.columns none) ((kind.columns none).zip items) (.array items) where
  out := by rw [writeOut_array, hPart, hColumns]
  onlyKeys _ hMember := (List.of_mem_zip hMember).1

/-- No node has further nodes under the key of its kind. -/
theorem lookup_parts_kind (kind : NodeKind) (tag? : Option Json) : (kind.parts tag?).lookup "kind" = none := by
  unfold NodeKind.parts
  split <;> rfl

end Rows

/-! ## Types -/

section Types

/-- An array that is no reference has its kind in front. -/
theorem headTag?_of_target? {tag : Json} {items : List Json}
    (h : TypeRef.target? (.array (tag :: items)) = none) :
    NodeKind.type.headTag? (tag :: items) = some (namedKind tag) := by
  cases items with
  | nil => cases tag <;> first | rfl | simp [TypeRef.target?] at h
  | cons item items => cases tag <;> rfl

/-- A kind that is known is written out by its name, even where it is stated as a number. -/
theorem namedKind_of_kind? {tag : Json} {name : String} (h : TypeRef.kind? tag = some name) :
    namedKind tag = .string name := by
  rw [namedKind, h]

/-- A reference by name, from either form. -/
theorem spellsType_of_target? {d : Json} {name : String} (h : TypeRef.target? d = some name) :
    SpellsType (writeOut (.node .type) d) (.named name) := by
  unfold TypeRef.target? at h
  split at h
  · obtain rfl := Option.some.inj h
    exact ⟨by simp [writeOut_object, OnlyKeys, written], rfl⟩
  · obtain rfl := Option.some.inj h
    exact ⟨by simp [writeOut_array, NodeKind.headTag?, NodeKind.columns, NodeKind.keys, OnlyKeys, written], rfl⟩
  · simp at h

/-- The kind of a type is written out by its name. -/
theorem Writes.member?_kind {name : String} {keys : List String} {row : Row} {d tag : Json}
    (h : Writes .type (some (.string name)) keys row d) (hTag : row.lookup "kind" = some tag)
    (hName : TypeRef.kind? tag = some name) :
    (writeOut (.node .type) d).member? "kind" = some (.string name) := by
  have hPart : NodeKind.type.part (some (.string name)) "kind" = .tag := by
    rw [NodeKind.part, lookup_parts_kind]
    rfl
  rw [h.member?, hTag, hPart, Option.map_some, partOut, namedKind_of_kind? hName]

/-- The row of a type that has a kind, with the columns of that kind. -/
theorem writes_of_untag? {d : Json} {name : String} {columns : Untagged} {keys : List String}
    {values : List Json} (hTarget : TypeRef.target? d = none)
    (hUntag : TypeRef.untag? d = some (name, columns)) (hValues : columns.exactly? keys = some values)
    (hKeys : NodeKind.type.keys (some (.string name)) = "kind" :: keys) (hNodup : ("kind" :: keys).Nodup) :
    ∃ row, Writes .type (some (.string name)) ("kind" :: keys) row d ∧
      (writeOut (.node .type) d).member? "kind" = some (.string name) ∧
      List.Forall₂ (fun key value => row.lookup key = some value) keys values := by
  obtain ⟨hKind, hRest⟩ := List.nodup_cons.mp hNodup
  -- an object has the kind among its members, an array in front of the other columns
  cases d with
  | object members =>
    simp only [TypeRef.untag?, Option.bind_eq_bind, Option.bind_eq_some_iff, Option.pure_def,
      Option.some.injEq, Prod.mk.injEq] at hUntag
    obtain ⟨tag, hTag, name, hName, rfl, rfl⟩ := hUntag
    obtain ⟨hOnly, hColumns⟩ := (exactly?_eq_some keys hKind).mp hValues
    have hWrites : Writes .type (some (.string name)) ("kind" :: keys) members (.object members) := by
      refine ⟨?_, hOnly⟩
      rw [writeOut_object, hTag, Option.map_some, NodeKind.named, namedKind_of_kind? hName]
    exact ⟨members, hWrites, hWrites.member?_kind hTag hName, hColumns⟩
  | array items =>
    cases items with
    | nil => simp [TypeRef.untag?] at hUntag
    | cons tag items =>
      simp only [TypeRef.untag?, Option.bind_eq_bind, Option.bind_eq_some_iff, Option.pure_def,
        Option.some.injEq, Prod.mk.injEq] at hUntag
      obtain ⟨name, hName, rfl, rfl⟩ := hUntag
      rw [Untagged.exactly?] at hValues
      split at hValues
      · next hLength =>
        obtain rfl := Option.some.inj hValues
        have hLengths : ("kind" :: keys).length = (tag :: items).length := by simp [hLength]
        have hColumns := List.forall₂_cons.mp (forall₂_lookup_zip hNodup hLengths)
        have hWrites : Writes .type (some (.string name)) ("kind" :: keys)
            (("kind" :: keys).zip (tag :: items)) (.array (tag :: items)) := by
          refine ⟨?_, fun _ hMember => (List.of_mem_zip hMember).1⟩
          rw [writeOut_array, headTag?_of_target? hTarget, namedKind_of_kind? hName, ← hKeys]
          rfl
        exact ⟨_, hWrites, hWrites.member?_kind hColumns.1 hName, hColumns.2⟩
      · simp at hValues
  | _ => simp [TypeRef.untag?] at hUntag

/-- A field is spelled as soon as its columns are. -/
theorem Writes.spellsField {row : Row} {d value : Json} {name : String} {type : TypeRef} {nullable : Bool}
    (h : Writes .field none ["name", "type", "nullable"] row d)
    (hName : row.lookup "name" = some (.string name)) (hValue : row.lookup "type" = some value)
    (hType : SpellsType (writeOut (.node .type) value) type)
    (hFlag : SpellsFlag (row.lookup "nullable") nullable) :
    SpellsField (writeOut (.node .field) d) ⟨name, type, nullable⟩ := by
  refine ⟨h.onlyKeys_out, (h.member?_plain rfl).trans hName, ⟨_, h.member?_nodes rfl hValue, hType⟩, ?_⟩
  rw [h.member?_plain rfl]
  exact hFlag

/-- A field that is read inside a type, provided that its type is spelled. -/
theorem spellsField_out_of_readInside? {readType? : Json → Option TypeRef} {d : Json} {field : Field}
    (hType : ∀ {value type}, readType? value = some type → SpellsType (writeOut (.node .type) value) type)
    (h : Field.readInside? readType? d = some field) : SpellsField (writeOut (.node .field) d) field := by
  unfold Field.readInside? at h
  split at h
  next members =>
    simp only [Option.bind_eq_bind, Option.bind_eq_some_iff] at h
    obtain ⟨⟨⟩, hGuard, name, hName, h⟩ := h
    have hKeys : OnlyKeys ["name", "type", "nullable"] (.object members) := by
      intro member hMember
      simpa using List.all_eq_true.mp (guard_eq_some.mp hGuard) member hMember
    have hWrites := writes_members .field (fun _ => rfl) hKeys
    -- the name of the field is a string; then its type, and the flag if there is one
    cases name with
    | string name =>
      simp only [Option.bind_eq_some_iff] at h
      obtain ⟨value, hValue, type, hRead, h⟩ := h
      split at h
      next hNone =>
        obtain rfl := Option.some.inj h
        exact hWrites.spellsField hName hValue (hType hRead) (Or.inr ⟨hNone, rfl⟩)
      next nullable hSome =>
        obtain rfl := Option.some.inj h
        exact hWrites.spellsField hName hValue (hType hRead) (Or.inl hSome)
      next => simp at h
    | _ => simp at h
  -- an array of two items leaves the flag out
  next name value =>
    simp only [Option.bind_eq_bind, Option.bind_eq_some_iff, Option.pure_def, Option.some.injEq] at h
    obtain ⟨type, hRead, rfl⟩ := h
    have hWrites := writes_items .field (fun _ => rfl) (fun _ => rfl) [.string name, value]
    exact hWrites.spellsField rfl rfl (hType hRead) (Or.inr ⟨rfl, rfl⟩)
  -- an array of three items has it
  next name value nullable =>
    simp only [Option.bind_eq_bind, Option.bind_eq_some_iff, Option.pure_def, Option.some.injEq] at h
    obtain ⟨type, hRead, rfl⟩ := h
    have hWrites := writes_items .field (fun _ => rfl) (fun _ => rfl) [.string name, value, .bool nullable]
    exact hWrites.spellsField rfl rfl (hType hRead) (Or.inl rfl)
  next => simp at h

/-- What is read as a type, within whatever depth, is spelled by the value written out. -/
theorem spellsType_out_of_readWithin {depth : Nat} {d : Json} {type : TypeRef}
    (h : TypeRef.readWithin depth d = some type) : SpellsType (writeOut (.node .type) d) type := by
  -- on the depth: what is read inside is read within a smaller one
  induction depth generalizing d type with
  | zero => simp [TypeRef.readWithin] at h
  | succ depth ih =>
    rw [TypeRef.readWithin] at h
    split at h
    next name hTarget =>
      obtain rfl := Option.some.inj h
      exact spellsType_of_target? hTarget
    next hTarget =>
      simp only [Option.bind_eq_bind, Option.bind_eq_some_iff] at h
      obtain ⟨⟨kind, columns⟩, hUntag, h⟩ := h
      dsimp only at h
      -- the columns and the places they hold go by the kind
      split at h
      -- a list: one place, for the items
      next =>
        simp only [Option.bind_eq_some_iff] at h
        obtain ⟨values, hValues, h⟩ := h
        obtain ⟨row, hWrites, hKind, hColumns⟩ :=
          writes_of_untag? hTarget hUntag hValues rfl (by decide)
        obtain ⟨items, _, hItems, ⟨⟩, rfl⟩ := List.forall₂_cons_left_iff.mp hColumns
        simp only [Option.bind_eq_some_iff, Option.pure_def, Option.some.injEq] at h
        obtain ⟨inner, hInner, rfl⟩ := h
        exact ⟨hWrites.onlyKeys_out, hKind, _, hWrites.member?_nodes rfl hItems, ih hInner⟩
      -- a map: two places, for the keys and the values
      next =>
        simp only [Option.bind_eq_some_iff] at h
        obtain ⟨values, hValues, h⟩ := h
        obtain ⟨row, hWrites, hKind, hColumns⟩ :=
          writes_of_untag? hTarget hUntag hValues rfl (by decide)
        obtain ⟨key, _, hKey, hRest, rfl⟩ := List.forall₂_cons_left_iff.mp hColumns
        obtain ⟨value, _, hValue, ⟨⟩, rfl⟩ := List.forall₂_cons_left_iff.mp hRest
        simp only [Option.bind_eq_some_iff, Option.pure_def, Option.some.injEq] at h
        obtain ⟨keyType, hKeyType, valueType, hValueType, rfl⟩ := h
        exact ⟨hWrites.onlyKeys_out, hKind, ⟨_, hWrites.member?_nodes rfl hKey, ih hKeyType⟩,
          _, hWrites.member?_nodes rfl hValue, ih hValueType⟩
      -- a record: one place, which holds an array of fields
      next =>
        simp only [Option.bind_eq_some_iff] at h
        obtain ⟨values, hValues, h⟩ := h
        obtain ⟨row, hWrites, hKind, hColumns⟩ :=
          writes_of_untag? hTarget hUntag hValues rfl (by decide)
        obtain ⟨fields, _, hFields, ⟨⟩, rfl⟩ := List.forall₂_cons_left_iff.mp hColumns
        cases fields with
        | array items =>
          simp only [Option.bind_eq_some_iff, Option.pure_def, Option.some.injEq, mapM_eq_some_iff] at h
          obtain ⟨read, hRead, rfl⟩ := h
          have hOut := (hWrites.member?_nodes rfl hFields).trans (congrArg some writeOut_items)
          refine ⟨hWrites.onlyKeys_out, hKind, _, hOut, spellsFields_iff.mpr ?_⟩
          rw [List.forall₂_map_left_iff]
          exact hRead.imp fun _ _ hField => spellsField_out_of_readInside? ih hField
        | _ => simp at h
      -- a primitive type: no place at all
      next =>
        simp only [Option.bind_eq_some_iff, Option.pure_def, Option.some.injEq] at h
        obtain ⟨values, hValues, primitive, hPrimitive, rfl⟩ := h
        obtain rfl := Primitive.name_of_ofName? hPrimitive
        obtain ⟨row, hWrites, hKind, -⟩ :=
          writes_of_untag? hTarget hUntag hValues (by cases primitive <;> rfl) (by decide)
        exact ⟨hWrites.onlyKeys_out, hKind⟩

/-- **Types.** What is read as a type is spelled by the value written out. -/
theorem spellsType_writeOut {d : Json} {type : TypeRef} (h : TypeRef.read d = .ok type) :
    SpellsType (writeOut (.node .type) d) type := by
  rw [TypeRef.read] at h
  split at h
  next found hFound =>
    obtain rfl := Except.ok.inj h
    exact spellsType_out_of_readWithin hFound
  next => simp at h

end Types

/-! ## Columns -/

section Columns

variable {α : Type} {kind part : NodeKind} {tag? : Option Json} {keys : List String} {row : Row}
  {d : Json} {key : String} {readItem : Json → Except Fault α} {spells : Json → α → Prop}

/-- The row of a node without a kind, as a record is read. -/
theorem writes_of_read (kind : NodeKind) {shape : Shape} {place : Place}
    (hPart : ∀ tag?, kind.part tag? = kind.part none)
    (hColumns : ∀ tag?, kind.columns tag? = shape.columns.map (·.key))
    (h : shape.read place d = .ok row) : Writes kind none (shape.columns.map (·.key)) row d := by
  -- an object is written out by its keys, an array by its places
  cases d with
  | object members =>
    obtain ⟨rfl, hKeys⟩ := Shape.onlyKeys_of_read h
    exact writes_members kind hPart hKeys
  | array items =>
    obtain ⟨-, rfl⟩ := Shape.row_of_array h
    rw [← hColumns none]
    exact writes_items kind hPart (fun tag? => (hColumns tag?).trans (hColumns none).symm) items
  | _ => simp [Shape.read] at h

/-- A string that is read from the row stands in the node written out. -/
theorem Writes.member?_text {s : String} (h : Writes kind tag? keys row d)
    (hPart : kind.part tag? key = .plain) (hRead : row.need key Json.readText = .ok s) :
    (writeOut (.node kind) d).member? key = some (.string s) :=
  (h.member?_plain hPart).trans (need_text_eq_ok.mp hRead)

/-- A flag that is read from the row stands there too, or is left out in both. -/
theorem Writes.spellsFlag {flag : Bool} (h : Writes kind tag? keys row d)
    (hPart : kind.part tag? key = .plain) (hRead : row.maybe key false Json.readBool = .ok flag) :
    SpellsFlag ((writeOut (.node kind) d).member? key) flag := by
  rw [h.member?_plain hPart]
  exact maybe_flag_eq_ok.mp hRead

/-- What is read in a place that may be empty is spelled there, provided that it is when it is read alone. -/
theorem Writes.spellsOptional {role : Role} {a? : Option α} (h : Writes kind tag? keys row d)
    (hPart : kind.part tag? key = .nodes role) (hNull : writeOut role .null = .null)
    (hItem : ∀ {value a}, readItem value = .ok a → spells (writeOut role value) a)
    (hRead : row.maybe key none (Json.readOptional readItem) = .ok a?) :
    SpellsOptional spells ((writeOut (.node kind) d).member? key) a? := by
  rw [h.member?, hPart]
  -- absent, `null`, or something to read
  rcases Row.maybe_eq_ok.mp hRead with ⟨hNone, rfl⟩ | ⟨value, hValue, hRead⟩
  · exact Or.inl (by rw [hNone]; rfl)
  · rw [hValue]
    rcases Json.readOptional_eq_ok.mp hRead with ⟨rfl, rfl⟩ | ⟨-, a, ha, rfl⟩
    · exact Or.inr (congrArg some hNull)
    · exact ⟨_, rfl, hItem ha⟩

/-- A payload is a place for a type that may be empty. -/
theorem Writes.spellsPayload {payload? : Option TypeRef} (h : Writes kind tag? keys row d)
    (hPart : kind.part tag? key = .nodes (.node .type))
    (hRead : row.maybe key none readPayload = .ok payload?) :
    SpellsOptional SpellsType ((writeOut (.node kind) d).member? key) payload? :=
  h.spellsOptional hPart rfl spellsType_writeOut hRead

/-- The items of a list of nodes are written out one by one. -/
theorem exists_items_of_readList {value : Json} {as : List α}
    (hItem : ∀ {item a}, readItem item = .ok a → spells (writeOut (.node part) item) a)
    (hRead : Json.readList readItem value = .ok as) :
    ∃ items, writeOut (.nodes part) value = .array items ∧ List.Forall₂ spells items as := by
  obtain ⟨items, rfl, hItems⟩ := Json.readList_eq_ok.mp hRead
  refine ⟨_, writeOut_items, ?_⟩
  rw [List.forall₂_map_left_iff]
  exact hItems.imp fun _ _ => hItem

/-- A list that is needed is there, with its items written out. -/
theorem Writes.exists_items {as : List α} (h : Writes kind tag? keys row d)
    (hPart : kind.part tag? key = .nodes (.nodes part))
    (hItem : ∀ {item a}, readItem item = .ok a → spells (writeOut (.node part) item) a)
    (hRead : row.need key (Json.readList readItem) = .ok as) :
    ∃ items, (writeOut (.node kind) d).member? key = some (.array items) ∧
      List.Forall₂ spells items as := by
  obtain ⟨value, hValue, hRead⟩ := Row.need_eq_ok.mp hRead
  obtain ⟨items, hOut, hItems⟩ := exists_items_of_readList hItem hRead
  exact ⟨items, hOut ▸ h.member?_nodes hPart hValue, hItems⟩

/-- A list that may be absent is absent, or it is there with its items written out. -/
theorem Writes.spellsList {as : List α} (h : Writes kind tag? keys row d)
    (hPart : kind.part tag? key = .nodes (.nodes part))
    (hItem : ∀ {item a}, readItem item = .ok a → spells (writeOut (.node part) item) a)
    (hRead : row.maybe key [] (Json.readList readItem) = .ok as) :
    SpellsList spells ((writeOut (.node kind) d).member? key) as := by
  rcases Row.maybe_eq_ok.mp hRead with ⟨hNone, rfl⟩ | hRead
  · exact Or.inr ⟨by rw [h.member?, hNone]; rfl, rfl⟩
  · exact Or.inl (h.exists_items hPart hItem (Row.need_eq_ok.mpr hRead))

end Columns

/-! ## Nodes without a kind -/

/-- A field: its name, its type and its flag. -/
theorem spellsField_writeOut {place : Place} {d : Json} {field : Field}
    (h : Field.read place d = .ok field) : SpellsField (writeOut (.node .field) d) field := by
  obtain ⟨row, hRow, h⟩ := bind_eq_ok.mp h
  have hWrites := writes_of_read .field (fun _ => rfl) (fun _ => rfl) hRow
  simp only [bind_eq_ok, pure_eq_ok] at h
  obtain ⟨name, hName, type, hType, nullable, hFlag, rfl⟩ := h
  obtain ⟨value, hValue, hRead⟩ := Row.need_eq_ok.mp hType
  exact hWrites.spellsField (need_text_eq_ok.mp hName) hValue (spellsType_writeOut hRead)
    (maybe_flag_eq_ok.mp hFlag)

/-- A variant: its name and its payload. -/
theorem spellsVariant_writeOut {place : Place} {d : Json} {variant : Variant}
    (h : Variant.read place d = .ok variant) : SpellsVariant (writeOut (.node .variant) d) variant := by
  obtain ⟨row, hRow, h⟩ := bind_eq_ok.mp h
  have hWrites := writes_of_read .variant (fun _ => rfl) (fun _ => rfl) hRow
  simp only [bind_eq_ok, pure_eq_ok] at h
  obtain ⟨name, hName, payload?, hPayload, rfl⟩ := h
  exact ⟨hWrites.onlyKeys_out, hWrites.member?_text rfl hName, hWrites.spellsPayload rfl hPayload⟩

/-- An error case: its code and its payload. -/
theorem spellsErrorCase_writeOut {d : Json} {error : ErrorCase} (h : ErrorCase.read d = .ok error) :
    SpellsErrorCase (writeOut (.node .errorCase) d) error := by
  obtain ⟨row, hRow, h⟩ := bind_eq_ok.mp h
  have hWrites := writes_of_read .errorCase (fun _ => rfl) (fun _ => rfl) hRow
  simp only [bind_eq_ok, pure_eq_ok] at h
  obtain ⟨code, hCode, payload?, hPayload, rfl⟩ := h
  exact ⟨hWrites.onlyKeys_out, hWrites.member?_text rfl hCode, hWrites.spellsPayload rfl hPayload⟩

/-- A method: each of its columns is of one of the kinds above. -/
theorem spellsMethod_writeOut {d : Json} {method : Method} (h : Method.read d = .ok method) :
    SpellsMethod (writeOut (.node .method) d) method := by
  obtain ⟨row, hRow, h⟩ := bind_eq_ok.mp h
  have hWrites := writes_of_read .method (fun _ => rfl) (fun _ => rfl) hRow
  simp only [bind_eq_ok, pure_eq_ok] at h
  obtain ⟨name, hName, params, hParams, returns?, hReturns, flag, hFlag, errors?, hErrors, rfl⟩ := h
  exact {
    keys := hWrites.onlyKeys_out
    name := hWrites.member?_text rfl hName
    params := hWrites.spellsList rfl spellsField_writeOut hParams
    returns := hWrites.spellsPayload rfl hReturns
    returnsNullable := hWrites.spellsFlag rfl hFlag
    errors := hWrites.spellsOptional rfl rfl (exists_items_of_readList spellsErrorCase_writeOut) hErrors }

/-- An event that is read and settled; settling has refused the outdated member. -/
theorem spellsEvent_writeOut {d : Json} {announcement : Announcement} {event : Event}
    (h : Announcement.read d = .ok announcement) (hSettle : announcement.settle = .ok event) :
    SpellsEvent (writeOut (.node .event) d) event := by
  obtain ⟨row, hRow, h⟩ := bind_eq_ok.mp h
  have hWrites := writes_of_read .event (fun _ => rfl) (fun _ => rfl) hRow
  simp only [bind_eq_ok, pure_eq_ok] at h
  obtain ⟨name, hName, payload?, hPayload, hasType, hType, rfl⟩ := h
  obtain ⟨hAbsent, rfl⟩ := Announcement.settle_eq_ok.mp hSettle
  have hNone : row.lookup "type" = none := by
    rw [← Option.not_isSome_iff_eq_none, ← maybe_presence_eq_ok.mp hType]
    exact Bool.not_eq_true _ ▸ hAbsent
  refine ⟨?_, hWrites.member?_text rfl hName, payload?, hWrites.spellsPayload rfl hPayload,
    payload_ofPayload name payload?⟩
  -- the outdated member is among the columns, but it is not in the row
  rw [hWrites.out, onlyKeys_event, onlyKeys_written, lookup_written, hNone]
  exact ⟨hWrites.onlyKeys, rfl⟩

/-! ## Definitions -/

/-- `columns` are those of the definition `d` behind its tag. -/
inductive Untags (tag : Json) : Json → Json → Prop where
  | object {members : List (String × Json)} (hTag : members.lookup "kind" = some tag) :
    Untags tag (.object (members.filter (·.1 != "kind"))) (.object members)
  | array (items : List Json) : Untags tag (.array items) (.array (tag :: items))

/-- A definition that is read has a tag, among its members or in front of its items. -/
theorem exists_untags_of_read {d : Json} {entry : Entry} (h : Entry.read d = .ok entry) :
    ∃ tag columns, Untags tag columns d ∧ Entry.readColumns tag columns = .ok entry := by
  unfold Entry.read at h
  split at h
  · split at h
    · next tag hTag => exact ⟨tag, _, .object hTag, h⟩
    · simp at h
  · next tag items => exact ⟨tag, _, .array items, h⟩
  · simp at h
  · simp at h

/-- The row of a definition, with the columns of its kind. -/
theorem writes_of_columns {tag : String} {columns d : Json} {shape : Shape} {row : Row}
    (hUntags : Untags (.string tag) columns d)
    (hKeys : NodeKind.definition.keys (some (.string tag)) = "kind" :: shape.columns.map (·.key))
    (h : shape.read .tagged columns = .ok row) :
    ∃ all, Writes .definition (some (.string tag)) ("kind" :: shape.columns.map (·.key)) all d ∧
      (writeOut (.node .definition) d).member? "kind" = some (.string tag) ∧
      ∀ key, key ≠ "kind" → all.lookup key = row.lookup key := by
  -- the tag is a plain column, so it stays what it is
  have hKind {all : Row} (hWrites : Writes .definition (some (.string tag))
      ("kind" :: shape.columns.map (·.key)) all d) (hTag : all.lookup "kind" = some (.string tag)) :
      (writeOut (.node .definition) d).member? "kind" = some (.string tag) := by
    rw [hWrites.member?_plain, hTag]
    rw [NodeKind.part, lookup_parts_kind]
    rfl
  cases hUntags with
  -- tagged from inside: the kind is one of the members
  | @object members hTag =>
    obtain ⟨rfl, hOnly⟩ := Shape.onlyKeys_of_read h
    have hWrites : Writes .definition (some (.string tag)) ("kind" :: shape.columns.map (·.key))
        members (.object members) := by
      refine ⟨?_, onlyKeys_filter.mp hOnly⟩
      rw [writeOut_object, hTag]
      rfl
    exact ⟨members, hWrites, hKind hWrites hTag, fun key hKey => (lookup_filter_ne "kind" key hKey).symm⟩
  -- tagged from outside: the kind is the first item
  | array items =>
    obtain ⟨-, rfl⟩ := Shape.row_of_array h
    have hWrites : Writes .definition (some (.string tag)) ("kind" :: shape.columns.map (·.key))
        (("kind" :: shape.columns.map (·.key)).zip (.string tag :: items)) (.array (.string tag :: items)) := by
      refine ⟨?_, fun _ hMember => (List.of_mem_zip hMember).1⟩
      rw [writeOut_array, ← hKeys]
      cases items <;> rfl
    refine ⟨_, hWrites, hKind hWrites rfl, fun key hKey => ?_⟩
    rw [List.zip_cons_cons, List.lookup_cons, beq_false_of_ne hKey]

/-- A needed column is looked up under its key, so it does not matter what else is in the row. -/
theorem need_congr {α : Type} {all row : Row} {key : String} {readItem : Json → Except Fault α}
    (h : all.lookup key = row.lookup key) : all.need key readItem = row.need key readItem := by
  rw [Row.need, Row.need, h]

theorem maybe_congr {α : Type} {all row : Row} {key : String} {absent : α}
    {readItem : Json → Except Fault α} (h : all.lookup key = row.lookup key) :
    all.maybe key absent readItem = row.maybe key absent readItem := by
  rw [Row.maybe, Row.maybe, h]

/-- A definition that is read and settled. -/
theorem spellsDefinition_writeOut {name : String} {d : Json} {entry : Entry} {definition : TypeDef}
    (h : Entry.read d = .ok entry) (hSettle : entry.settle name = .ok definition) :
    SpellsDefinition (writeOut (.node .definition) d) definition := by
  obtain ⟨tag, columns, hUntags, h⟩ := exists_untags_of_read h
  -- one case for each tag; there is something to settle for byte strings only
  unfold Entry.readColumns at h
  split at h
  next =>
    obtain ⟨row, hRow, h⟩ := bind_eq_ok.mp h
    obtain ⟨all, hWrites, hKind, hSame⟩ := writes_of_columns hUntags rfl hRow
    simp only [bind_eq_ok, pure_eq_ok] at h
    obtain ⟨fields, hFields, rfl⟩ := h
    obtain rfl := Except.ok.inj hSettle
    rw [← need_congr (hSame "fields" (by decide))] at hFields
    exact ⟨hWrites.onlyKeys_out, hKind, hWrites.exists_items rfl spellsField_writeOut hFields⟩
  next =>
    obtain ⟨row, hRow, h⟩ := bind_eq_ok.mp h
    obtain ⟨all, hWrites, hKind, hSame⟩ := writes_of_columns hUntags rfl hRow
    simp only [bind_eq_ok, pure_eq_ok] at h
    obtain ⟨variants, hVariants, rfl⟩ := h
    obtain rfl := Except.ok.inj hSettle
    rw [← need_congr (hSame "variants" (by decide))] at hVariants
    exact ⟨hWrites.onlyKeys_out, hKind, hWrites.exists_items rfl spellsVariant_writeOut hVariants⟩
  next =>
    obtain ⟨row, hRow, h⟩ := bind_eq_ok.mp h
    obtain ⟨all, hWrites, hKind, hSame⟩ := writes_of_columns hUntags rfl hRow
    simp only [bind_eq_ok, pure_eq_ok] at h
    obtain ⟨count?, hCount, rfl⟩ := h
    obtain ⟨settled?, rfl, rfl⟩ := Entry.settle_bytes_eq_ok.mp hSettle
    rw [← maybe_congr (hSame "size" (by decide)), readCount,
      maybe_optional_eq_ok (fun _ _ _ _ => Json.readUnsignedNumber_eq_ok) (by simp)] at hCount
    refine ⟨hWrites.onlyKeys_out, hKind, spellsOptional_map_value.mp ?_⟩
    rw [hWrites.member?_plain rfl]
    exact hCount
  all_goals simp at h

/-! ## Documents -/

/-- Only one version passes the check. -/
theorem statedVersion_of_checkVersion {d : Json} (h : checkVersion d = .ok ()) :
    statedVersion d = .ok (some "wasm-abi/1") := by
  obtain ⟨stated?, hStated, h⟩ := bind_eq_ok.mp h
  cases stated? with
  | none => simp [throw, throwThe, MonadExceptOf.throw] at h
  | some version =>
    by_cases hVersion : version = schemaVersion
    · rw [hStated, hVersion]
      rfl
    · simp [hVersion, throw, throwThe, MonadExceptOf.throw] at h

/-- The version is that of the row. An array that states one is too short for a manifest. -/
theorem lookup_version {d : Json} {place : Place} {row : Row} {value : Json}
    (hVersion : checkVersion d = .ok ()) (hRow : Document.shape.read place d = .ok row)
    (hTypes : row.lookup "types" = some value) :
    row.lookup "schema_version" = some (.string "wasm-abi/1") := by
  have hStated := statedVersion_of_checkVersion hVersion
  -- the version is stated under its key, or as the first item of an array
  cases d with
  | object members =>
    obtain ⟨rfl, -⟩ := Shape.onlyKeys_of_read hRow
    rw [statedVersion] at hStated
    split at hStated <;> simp_all
  | array items =>
    obtain ⟨-, rfl⟩ := Shape.row_of_array hRow
    unfold statedVersion at hStated
    split at hStated <;> simp_all [Document.shape, Json.Column.needed]
  | _ => simp [statedVersion] at hStated

/-- A document that is read and settled, of the right version. -/
theorem spells_writeOut {d : Json} {document : Document} {manifest : Manifest}
    (hVersion : checkVersion d = .ok ()) (h : Document.read d = .ok document)
    (hSettle : document.settle = .ok manifest) : Spells (writeOut (.node .manifest) d) manifest := by
  obtain ⟨row, hRow, h⟩ := bind_eq_ok.mp h
  have hWrites := writes_of_read .manifest (fun _ => rfl) (fun _ => rfl) hRow
  simp only [bind_eq_ok, pure_eq_ok] at h
  obtain ⟨version, -, entries, hEntries, methods, hMethods, announcements, hAnnouncements, rfl⟩ := h
  obtain ⟨hTypes, hSame, hEvents⟩ := Document.settle_eq_ok.mp hSettle
  obtain ⟨value, hValue, hTable⟩ := Row.need_eq_ok.mp hEntries
  obtain ⟨members, rfl, hMembers⟩ := Json.readTable_eq_ok.mp hTable
  refine ⟨hWrites.onlyKeys_out, (hWrites.member?_plain rfl).trans (lookup_version hVersion hRow hValue),
    ⟨members.map fun member => (member.1, writeOut (.node .definition) member.2), ?_, ?_⟩, ?_, ?_⟩
  · exact (hWrites.member?_nodes rfl hValue).trans (congrArg some writeOut_table)
  · -- each entry is read under its name and settled under the same name
    rw [List.forall₂_map_left_iff]
    refine (forall₂_comp_iff.mp ⟨entries, hMembers, hTypes⟩).imp fun member type hEntry => ?_
    obtain ⟨entry, ⟨hName, hRead⟩, hType, hEntrySettle⟩ := hEntry
    exact ⟨hName.trans hType, spellsDefinition_writeOut hRead hEntrySettle⟩
  · rw [hSame]
    exact hWrites.exists_items rfl spellsMethod_writeOut hMethods
  · obtain ⟨value, hValue, hRead⟩ := Row.need_eq_ok.mp hAnnouncements
    obtain ⟨items, rfl, hItems⟩ := Json.readList_eq_ok.mp hRead
    refine ⟨items.map (writeOut (.node .event)), ?_, ?_⟩
    · exact (hWrites.member?_nodes rfl hValue).trans (congrArg some writeOut_items)
    · rw [List.forall₂_map_left_iff]
      refine (forall₂_comp_iff.mp ⟨announcements, hItems, hEvents⟩).imp fun item event hEvent => ?_
      obtain ⟨announcement, hRead, hEventSettle⟩ := hEvent
      exact spellsEvent_writeOut hRead hEventSettle

end AbiBindings.Manifest
