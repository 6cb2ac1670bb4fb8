import AbiBindings.Manifest.Node
import AbiBindings.Proofs.Manifest.Spelling
import Mathlib.Data.Option.Basic

/-!
# Manifest — reading a type is finding what it spells

A reference to a type is read by looking for `$ref`, then for a `kind`, and then for the columns of
that kind. In object form this finds a type exactly if the value spells it:

* `spellsType_of_readWithin` — what is read is spelled, by induction on the bound on the depth;
* `readWithin_of_spellsType` — what is spelled is read, by recursion on the type, as soon as the
  bound is the depth of the value;
* `TypeRef.read_eq_ok` — both together.
-/

namespace AbiBindings.Manifest

open Json (OnlyKeys)

/-! ## Tag and columns -/

/-- Columns are found beside the tag as they are found without it. -/
theorem mapM_lookup_filter {members : List (String × Json)} {tag : String} {keys : List String}
    (hKeys : tag ∉ keys) :
    (keys.mapM fun key => (members.filter (·.1 != tag)).lookup key)
      = keys.mapM fun key => members.lookup key := by
  induction keys with
  | nil => rfl
  | cons key keys ih =>
    rw [List.mem_cons, not_or] at hKeys
    rw [List.mapM_cons, List.mapM_cons, lookup_filter_ne tag key (Ne.symm hKeys.1), ih hKeys.2]

/-- What may stand behind a tag, with the tag and without it. -/
theorem onlyKeys_filter {members : List (String × Json)} {tag : String} {keys : List String} :
    OnlyKeys keys (.object (members.filter (·.1 != tag))) ↔
      OnlyKeys (tag :: keys) (.object members) := by
  simp only [OnlyKeys, List.mem_filter, List.mem_cons, bne_iff_ne, and_imp]
  constructor
  · intro h member hMember
    by_cases hTag : member.1 = tag
    · exact Or.inl hTag
    · exact Or.inr (h member hMember hTag)
  · intro h member hMember hTag
    exact (h member hMember).resolve_left hTag

/-- The columns behind a tag are complete if the object has no other keys and each column is there. -/
theorem exactly?_eq_some {members : List (String × Json)} (keys : List String) {values : List Json}
    (hKeys : "kind" ∉ keys) :
    (Untagged.ofObject (members.filter (·.1 != "kind"))).exactly? keys = some values ↔
      OnlyKeys ("kind" :: keys) (.object members) ∧
        List.Forall₂ (fun key value => (Json.object members).member? key = some value) keys
          values := by
  -- the two questions that are asked: whether there are other keys, and whether each column is found
  have hOnly : ((members.filter (·.1 != "kind")).all (keys.contains ·.1)) = true ↔
      OnlyKeys ("kind" :: keys) (.object members) := by
    rw [← onlyKeys_filter]
    simp only [List.all_eq_true, OnlyKeys, List.contains_iff_mem]
  have hLookup : (keys.mapM fun key => (members.filter (·.1 != "kind")).lookup key) = some values ↔
      List.Forall₂ (fun key value => (Json.object members).member? key = some value) keys values := by
    rw [mapM_lookup_filter hKeys, mapM_eq_some_iff]
    rfl
  rw [Untagged.exactly?]
  split
  next hAll => rw [hLookup]; exact ⟨fun h => ⟨hOnly.mp hAll, h⟩, fun h => h.2⟩
  next hAll => exact ⟨fun h => by simp at h, fun h => absurd (hOnly.mpr h.1) hAll⟩

theorem exactly?_one {members : List (String × Json)} (key : String) {values : List Json}
    (hKey : key ≠ "kind") :
    (Untagged.ofObject (members.filter (·.1 != "kind"))).exactly? [key] = some values ↔
      OnlyKeys ["kind", key] (.object members) ∧
        ∃ value, (Json.object members).member? key = some value ∧ values = [value] := by
  rw [exactly?_eq_some [key] (by simp [Ne.symm hKey])]
  simp [List.forall₂_cons_left_iff]

/-- The two columns of a map. -/
theorem exactly?_two {members : List (String × Json)} (first second : String) {values : List Json}
    (hFirst : first ≠ "kind") (hSecond : second ≠ "kind") :
    (Untagged.ofObject (members.filter (·.1 != "kind"))).exactly? [first, second] = some values ↔
      OnlyKeys ["kind", first, second] (.object members) ∧
        ∃ a, (Json.object members).member? first = some a ∧
          ∃ b, (Json.object members).member? second = some b ∧ values = [a, b] := by
  rw [exactly?_eq_some [first, second] (by simp [Ne.symm hFirst, Ne.symm hSecond])]
  simp [List.forall₂_cons_left_iff]

/-- In object form, a name is read only from an object that has nothing but the name. -/
theorem target?_eq_some {d : Json} {name : String} (hForm : inForm (.node .type) d = true)
    (h : TypeRef.target? d = some name) : SpellsType d (.named name) := by
  unfold TypeRef.target? at h
  split at h
  · obtain rfl := Option.some.inj h
    exact ⟨by simp [OnlyKeys], by simp [Json.member?]⟩
  · simp [inForm] at hForm
  · simp at h

/-- In object form, a kind is read only from the name in the member `kind`. -/
theorem untag?_eq_some {d : Json} {kind : String} {columns : Untagged}
    (hForm : inForm (.node .type) d = true) (h : TypeRef.untag? d = some (kind, columns)) :
    ∃ members, d = .object members ∧ d.member? "kind" = some (.string kind) ∧
      columns = .ofObject (members.filter (·.1 != "kind")) := by
  cases d with
  | object members =>
    simp only [TypeRef.untag?, Option.bind_eq_bind, Option.bind_eq_some_iff, Option.pure_def,
      Option.some.injEq, Prod.mk.injEq] at h
    obtain ⟨tag, hTag, name, hKind, rfl, rfl⟩ := h
    refine ⟨members, rfl, ?_, rfl⟩
    simp only [inForm, hTag, Bool.and_eq_true] at hForm
    -- a number in the place of the kind is not in object form
    cases tag with
    | string text => simpa [TypeRef.kind?, Json.member?, hTag] using hKind
    | number n => simp [tagInForm] at hForm
    | _ => simp [TypeRef.kind?] at hKind
  | array items => simp [inForm] at hForm
  | _ => simp [TypeRef.untag?] at h

/-! ## What is read is spelled -/

theorem Primitive.name_of_ofName? {name : String} {type : Primitive}
    (h : Primitive.ofName? name = some type) : type.name = name := by
  simpa using List.find?_some h

/-- A guard lets through what fulfils its condition. -/
theorem guard_eq_some {condition : Bool} :
    (guard (condition = true) : Option Unit) = some () ↔ condition = true := by
  cases condition with
  | true => exact iff_of_true rfl rfl
  | false => exact iff_of_false nofun nofun

/-- A field that is read inside a type is spelled, provided its type is. -/
theorem spellsField_of_readInside? {readType? : Json → Option TypeRef} {d : Json} {field : Field}
    (hType : ∀ {value type}, inForm (.node .type) value = true → readType? value = some type →
      SpellsType value type)
    (hForm : inForm (.node .field) d = true) (h : Field.readInside? readType? d = some field) :
    SpellsField d field := by
  cases d with
  | object members =>
    simp only [Field.readInside?, Option.bind_eq_bind, Option.bind_eq_some_iff] at h
    obtain ⟨⟨⟩, hGuard, name, hName, h⟩ := h
    have hKeys : OnlyKeys ["name", "type", "nullable"] (.object members) := by
      intro member hMember
      simpa using List.all_eq_true.mp (guard_eq_some.mp hGuard) member hMember
    cases name with
    | string name =>
      simp only [Option.bind_eq_some_iff] at h
      obtain ⟨value, hValue, type, hRead, h⟩ := h
      have hMember : (Json.object members).member? "type" = some value := hValue
      have hSpelled : SpellsType value type :=
        hType (inForm_member (.node .type) hForm hMember rfl) hRead
      -- the three forms of the flag differ in nothing else
      have hField (nullable : Bool) (hFlag : SpellsFlag (members.lookup "nullable") nullable) :
          SpellsField (.object members) ⟨name, type, nullable⟩ :=
        ⟨hKeys, hName, ⟨value, hValue, hSpelled⟩, hFlag⟩
      split at h
      next hNone =>
        obtain rfl := Option.some.inj h
        exact hField false (Or.inr ⟨hNone, rfl⟩)
      next nullable hSome =>
        obtain rfl := Option.some.inj h
        exact hField nullable (Or.inl hSome)
      next => simp at h
    | _ => simp at h
  | array items => simp [inForm] at hForm
  | _ => simp [Field.readInside?] at h

/-- What is read as a type, within whatever depth, is spelled. -/
theorem spellsType_of_readWithin {depth : Nat} {d : Json} {type : TypeRef}
    (hForm : inForm (.node .type) d = true) (h : TypeRef.readWithin depth d = some type) :
    SpellsType d type := by
  -- on the depth: what is read inside is read within a smaller one
  induction depth generalizing d type with
  | zero => simp [TypeRef.readWithin] at h
  | succ depth ih =>
    rw [TypeRef.readWithin] at h
    split at h
    next name hTarget =>
      obtain rfl := Option.some.inj h
      exact target?_eq_some hForm hTarget
    next =>
      simp only [Option.bind_eq_bind, Option.bind_eq_some_iff] at h
      obtain ⟨⟨kind, columns⟩, hUntag, h⟩ := h
      obtain ⟨members, rfl, hKind, rfl⟩ := untag?_eq_some hForm hUntag
      dsimp only at h
      -- the columns and the places they hold go by the kind
      split at h
      -- a list: one column, for the items
      next =>
        simp only [Option.bind_eq_some_iff, exactly?_one "items" (by decide)] at h
        obtain ⟨-, ⟨hKeys, items, hItems, rfl⟩, h⟩ := h
        simp only [Option.bind_eq_some_iff, Option.pure_def, Option.some.injEq] at h
        obtain ⟨inner, hInner, rfl⟩ := h
        have hItemsForm := inForm_member (.node .type) hForm hItems (by rw [hKind]; rfl)
        exact ⟨hKeys, hKind, items, hItems, ih hItemsForm hInner⟩
      -- a map: two columns, for the keys and the values
      next =>
        simp only [Option.bind_eq_some_iff,
          exactly?_two "key" "value" (by decide) (by decide)] at h
        obtain ⟨-, ⟨hKeys, key, hKey, value, hValue, rfl⟩, h⟩ := h
        simp only [Option.bind_eq_some_iff, Option.pure_def, Option.some.injEq] at h
        obtain ⟨keyType, hKeyType, valueType, hValueType, rfl⟩ := h
        have hKeyForm := inForm_member (.node .type) hForm hKey (by rw [hKind]; rfl)
        have hValueForm := inForm_member (.node .type) hForm hValue (by rw [hKind]; rfl)
        exact ⟨hKeys, hKind, ⟨key, hKey, ih hKeyForm hKeyType⟩,
          value, hValue, ih hValueForm hValueType⟩
      -- a record: one column, for an array of fields
      next =>
        simp only [Option.bind_eq_some_iff, exactly?_one "fields" (by decide)] at h
        obtain ⟨-, ⟨hKeys, fields, hFields, rfl⟩, h⟩ := h
        cases fields with
        | array items =>
          simp only [Option.bind_eq_some_iff, Option.pure_def, Option.some.injEq,
            mapM_eq_some_iff] at h
          obtain ⟨read, hRead, rfl⟩ := h
          have hItemsForm := inForm_member (.nodes .field) hForm hFields (by rw [hKind]; rfl)
          refine ⟨hKeys, hKind, items, hFields, spellsFields_iff.mpr ?_⟩
          exact forall₂_imp_of_mem hRead fun item hItem field hField =>
            spellsField_of_readInside? ih (inForm_item hItemsForm hItem) hField
        | _ => simp at h
      -- a primitive type, which is known by its name
      next =>
        simp only [Option.bind_eq_some_iff, exactly?_eq_some [] (by decide),
          Option.pure_def, Option.some.injEq] at h
        obtain ⟨values, ⟨hKeys, -⟩, primitive, hName, rfl⟩ := h
        obtain rfl := Primitive.name_of_ofName? hName
        exact ⟨hKeys, hKind⟩

/-! ## What is spelled is read -/

/-- An object needs a depth of at least one. -/
theorem exists_members_of_onlyKeys {keys : List String} {d : Json} {depth : Nat}
    (h : OnlyKeys keys d) (hDepth : d.depth ≤ depth) :
    ∃ members inner, d = .object members ∧ depth = inner + 1 := by
  cases d with
  | object members =>
    rw [Json.depth] at hDepth
    exact ⟨members, depth - 1, rfl, by omega⟩
  | _ => exact h.elim

/-- What has a kind is not taken for a reference by name. -/
theorem target?_eq_none {members : List (String × Json)} {tag : Json}
    (h : (Json.object members).member? "kind" = some tag) :
    TypeRef.target? (.object members) = none := by
  unfold TypeRef.target?
  split
  next hEq =>
    obtain rfl := Json.object.inj hEq
    simp [Json.member?, List.lookup_cons] at h
  next => simp at *
  next => rfl

/-- The name in the member `kind` is read as the kind, with the other members as columns. -/
theorem untag?_of_kind {members : List (String × Json)} {kind : String}
    (h : (Json.object members).member? "kind" = some (.string kind)) :
    TypeRef.untag? (.object members)
      = some (kind, .ofObject (members.filter (·.1 != "kind"))) := by
  rw [Json.member?] at h
  simp [TypeRef.untag?, h, TypeRef.kind?]

/-- A single member under the one key there may be. -/
theorem eq_singleton_of_onlyKeys {members : List (String × Json)} {key : String} {value : Json}
    (hOnce : (members.map (·.1)).Nodup) (hKeys : OnlyKeys [key] (.object members))
    (h : (Json.object members).member? key = some value) : members = [(key, value)] := by
  have hMem := mem_of_lookup h
  cases members with
  | nil => simp at hMem
  | cons first rest =>
    have hFirst : first.1 = key := by simpa using hKeys first List.mem_cons_self
    -- a second member would have the same key
    cases rest with
    | nil => rw [List.mem_singleton.mp hMem]
    | cons second rest =>
      have hSecond : second.1 = key := by simpa using hKeys second (by simp)
      simp [hFirst, hSecond] at hOnce

mutual

/-- What spells a type is read as that type, as soon as its depth is allowed for. -/
theorem readWithin_of_spellsType : ∀ {type : TypeRef} {d : Json} {depth : Nat},
    SpellsType d type → d.keysOnce = true → d.depth ≤ depth →
      TypeRef.readWithin depth d = some type
  | .named name, d, depth, h, hOnce, hDepth => by
    obtain ⟨members, depth, rfl, rfl⟩ := exists_members_of_onlyKeys h.1 hDepth
    obtain rfl := eq_singleton_of_onlyKeys (Json.nodup_of_keysOnce hOnce) h.1 h.2
    rfl
  | .primitive type, d, depth, ⟨hKeys, hKind⟩, _, hDepth => by
    obtain ⟨members, depth, rfl, rfl⟩ := exists_members_of_onlyKeys hKeys hDepth
    have hColumns := (exactly?_eq_some [] (by decide)).mpr ⟨hKeys, .nil⟩
    rw [TypeRef.readWithin, target?_eq_none hKind, untag?_of_kind hKind]
    -- reading goes by the name, so each name has to be looked at
    cases type <;> simp [Primitive.name, hColumns, Primitive.ofName?, Primitive.all]
  | .list items, d, depth, ⟨hKeys, hKind, value, hValue, hItems⟩, hOnce, hDepth => by
    obtain ⟨members, depth, rfl, rfl⟩ := exists_members_of_onlyKeys hKeys hDepth
    have hInner := Json.depth_lt_of_member? hValue
    have hLe : value.depth ≤ depth := by omega
    have hRead := readWithin_of_spellsType hItems (Json.keysOnce_of_member? hOnce hValue) hLe
    have hColumns := (exactly?_one "items" (by decide)).mpr ⟨hKeys, value, hValue, rfl⟩
    rw [TypeRef.readWithin, target?_eq_none hKind, untag?_of_kind hKind]
    simp [hColumns, hRead]
  | .map key value, d, depth, ⟨hKeys, hKind, ⟨a, ha, hKey⟩, b, hb, hValue⟩, hOnce, hDepth => by
    obtain ⟨members, depth, rfl, rfl⟩ := exists_members_of_onlyKeys hKeys hDepth
    have hInnerA := Json.depth_lt_of_member? ha
    have hInnerB := Json.depth_lt_of_member? hb
    have hLeA : a.depth ≤ depth := by omega
    have hLeB : b.depth ≤ depth := by omega
    have hReadKey := readWithin_of_spellsType hKey (Json.keysOnce_of_member? hOnce ha) hLeA
    have hReadValue := readWithin_of_spellsType hValue (Json.keysOnce_of_member? hOnce hb) hLeB
    have hColumns := (exactly?_two "key" "value" (by decide) (by decide)).mpr
      ⟨hKeys, a, ha, b, hb, rfl⟩
    rw [TypeRef.readWithin, target?_eq_none hKind, untag?_of_kind hKind]
    simp [hColumns, hReadKey, hReadValue]
  | .record fields, d, depth, ⟨hKeys, hKind, items, hValue, hFields⟩, hOnce, hDepth => by
    obtain ⟨members, depth, rfl, rfl⟩ := exists_members_of_onlyKeys hKeys hDepth
    have hInner := Json.depth_lt_of_member? hValue
    have hOnceItems := Json.keysOnce_of_member? hOnce hValue
    have hLe : ∀ item ∈ items, item.depth ≤ depth := by
      intro item hItem
      have hItemDepth := Json.depth_lt_of_mem_items hItem
      omega
    have hRead := mapM_readInside?_of_spellsFields hFields
      (fun item hItem => Json.keysOnce_of_mem_items hOnceItems hItem) hLe
    have hColumns := (exactly?_one "fields" (by decide)).mpr ⟨hKeys, .array items, hValue, rfl⟩
    rw [TypeRef.readWithin, target?_eq_none hKind, untag?_of_kind hKind]
    simp [hColumns, hRead]

/-- What spells a field is read as that field. -/
theorem readInside?_of_spellsField : ∀ {field : Field} {d : Json} {depth : Nat},
    SpellsField d field → d.keysOnce = true → d.depth ≤ depth →
      Field.readInside? (TypeRef.readWithin depth) d = some field
  | ⟨name, type, nullable⟩, d, depth, ⟨hKeys, hName, ⟨value, hValue, hType⟩, hFlag⟩, hOnce,
      hDepth => by
    -- the type is a member, hence less deep than the field
    have hInner := Json.depth_lt_of_member? hValue
    have hLe : value.depth ≤ depth := by omega
    have hRead := readWithin_of_spellsType hType (Json.keysOnce_of_member? hOnce hValue) hLe
    obtain ⟨members, -, rfl, -⟩ := exists_members_of_onlyKeys hKeys hDepth
    -- the keys that the reader allows are those that the spelling does
    have hGuard : (guard (members.all (["name", "type", "nullable"].contains ·.1)) : Option Unit)
        = some () :=
      guard_eq_some.mpr (List.all_eq_true.mpr fun member hMember => by
        simpa using hKeys member hMember)
    rw [Json.member?] at hName hValue hFlag
    rw [Field.readInside?, hGuard]
    -- the flag is spelled, or it is absent and not set
    rcases hFlag with hFlag | ⟨hFlag, rfl⟩ <;> simp [hName, hValue, hRead, hFlag]

/-- What spells several fields is read as these fields. -/
theorem mapM_readInside?_of_spellsFields : ∀ {fields : List Field} {items : List Json} {depth : Nat},
    SpellsFields items fields → (∀ item ∈ items, item.keysOnce = true) →
      (∀ item ∈ items, item.depth ≤ depth) →
        items.mapM (Field.readInside? (TypeRef.readWithin depth)) = some fields
  | [], [], _, _, _, _ => rfl
  | [], _ :: _, _, h, _, _ => h.elim
  | _ :: _, [], _, h, _, _ => h.elim
  | field :: fields, item :: items, depth, h, hOnce, hDepth => by
    obtain ⟨hItemOnce, hRestOnce⟩ := List.forall_mem_cons.mp hOnce
    obtain ⟨hItemDepth, hRestDepth⟩ := List.forall_mem_cons.mp hDepth
    have hItem := readInside?_of_spellsField h.1 hItemOnce hItemDepth
    have hRest := mapM_readInside?_of_spellsFields h.2 hRestOnce hRestDepth
    rw [List.mapM_cons, hItem, hRest]
    rfl

end

/-- **Reading a type is finding what it spells.** -/
theorem TypeRef.read_eq_ok {d : Json} {type : TypeRef} (hForm : inForm (.node .type) d = true)
    (hOnce : d.keysOnce = true) : TypeRef.read d = .ok type ↔ SpellsType d type := by
  rw [TypeRef.read]
  constructor
  · intro h
    split at h
    next found hFound =>
      obtain rfl := Except.ok.inj h
      exact spellsType_of_readWithin hForm hFound
    next => simp at h
  · intro h
    rw [readWithin_of_spellsType h hOnce (Nat.le_refl _)]

end AbiBindings.Manifest
