import AbiBindings.Proofs.Manifest.TypeSpelling

/-!
# Manifest — reading a node is finding what it spells

Every node but a type is read by taking the columns of a record. In object form this finds exactly
what the node spells, so that for each kind of node there is one lemma.

* `need_text_eq_ok`, `maybe_flag_eq_ok`, `need_list_eq_ok`, `maybe_list_eq_ok`,
  `maybe_optional_eq_ok` — the columns;
* `readLabelled_eq_ok` — a label and a payload, which is all there is to variants and error cases;
* `Field.read_eq_ok`, `Variant.read_eq_ok`, `ErrorCase.read_eq_ok`, `Method.read_eq_ok` — the nodes.
-/

namespace AbiBindings.Manifest

open Json (OnlyKeys Row Shape Place Column Fault)

/-! ## Columns -/

section Columns

variable {α : Type} {readItem : Json → Except Fault α} {spells : Json → α → Prop} {row : Row}
  {key : String}

theorem need_text_eq_ok {s : String} :
    row.need key Json.readText = .ok s ↔ row.lookup key = some (.string s) := by
  simp [Row.need_eq_ok, Json.readText_eq_ok]

/-- A flag may be absent, and then it is not set. -/
theorem maybe_flag_eq_ok {flag : Bool} :
    row.maybe key false Json.readBool = .ok flag ↔ SpellsFlag (row.lookup key) flag := by
  simp [Row.maybe_eq_ok, Json.readBool_eq_ok, SpellsFlag, or_comm]

/-- A list of nodes, each of which is read as what it spells. -/
theorem readList_eq_ok_iff {value : Json} {as : List α}
    (hItems : ∀ items, value = .array items → ∀ item ∈ items, ∀ a,
      readItem item = .ok a ↔ spells item a) :
    Json.readList readItem value = .ok as ↔
      ∃ items, value = .array items ∧ List.Forall₂ spells items as := by
  rw [Json.readList_eq_ok]
  exact exists_congr fun items => and_congr_right fun hEq => forall₂_congr_of_mem (hItems items hEq)

/-- A needed list of nodes spells what its items spell. -/
theorem need_list_eq_ok {as : List α}
    (hItems : ∀ items, row.lookup key = some (.array items) → ∀ item ∈ items, ∀ a,
      readItem item = .ok a ↔ spells item a) :
    row.need key (Json.readList readItem) = .ok as ↔
      ∃ items, row.lookup key = some (.array items) ∧ List.Forall₂ spells items as := by
  rw [Row.need_eq_ok]
  -- an array is needed, so the value that is there is one
  constructor
  · intro h
    obtain ⟨value, hValue, hRead⟩ := h
    obtain ⟨items, rfl, h⟩ :=
      (readList_eq_ok_iff fun items hEq => hItems items (hEq ▸ hValue)).mp hRead
    exact ⟨items, hValue, h⟩
  · intro h
    obtain ⟨items, hValue, h⟩ := h
    refine ⟨.array items, hValue, (readList_eq_ok_iff fun others hEq => ?_).mpr ⟨items, rfl, h⟩⟩
    exact hItems others (hEq ▸ hValue)

/-- A list that may be absent, and then is empty. -/
theorem maybe_list_eq_ok {as : List α}
    (hItems : ∀ items, row.lookup key = some (.array items) → ∀ item ∈ items, ∀ a,
      readItem item = .ok a ↔ spells item a) :
    row.maybe key [] (Json.readList readItem) = .ok as ↔ SpellsList spells (row.lookup key) as := by
  rw [Row.maybe_eq_ok, SpellsList, or_comm, ← Row.need_eq_ok, need_list_eq_ok hItems]

/-- Something that may be absent; `null` itself spells nothing. -/
theorem maybe_optional_eq_ok {a? : Option α}
    (hRead : ∀ value, row.lookup key = some value → value ≠ .null → ∀ a,
      readItem value = .ok a ↔ spells value a)
    (hNull : ∀ a, ¬ spells .null a) :
    row.maybe key none (Json.readOptional readItem) = .ok a? ↔
      SpellsOptional spells (row.lookup key) a? := by
  rw [Row.maybe_eq_ok]
  -- absent, `null`, or something to read
  constructor
  · rintro (⟨hNone, rfl⟩ | ⟨value, hValue, h⟩)
    · exact Or.inl hNone
    · rcases Json.readOptional_eq_ok.mp h with ⟨rfl, rfl⟩ | ⟨hNe, a, ha, rfl⟩
      · exact Or.inr hValue
      · exact ⟨value, hValue, (hRead value hValue hNe a).mp ha⟩
  · intro h
    -- nothing is spelled by absence and by `null` alike
    cases a? with
    | none =>
      rcases h with hNone | hSome
      · exact Or.inl ⟨hNone, rfl⟩
      · exact Or.inr ⟨.null, hSome, Json.readOptional_eq_ok.mpr (Or.inl ⟨rfl, rfl⟩)⟩
    | some a =>
      obtain ⟨value, hValue, hSpells⟩ := h
      have hNe : value ≠ .null := fun hEq => hNull a (hEq ▸ hSpells)
      exact Or.inr ⟨value, hValue, Json.readOptional_eq_ok.mpr
        (Or.inr ⟨hNe, a, (hRead value hValue hNe a).mpr hSpells, rfl⟩)⟩

end Columns

/-! ## Nodes -/

/-- Object form rules out the other form in which a record may be written, an array. -/
theorem ne_array_of_inForm {kind : NodeKind} {d : Json} (hForm : inForm (.node kind) d = true)
    (items : List Json) : d ≠ .array items := by
  rintro rfl
  simp [inForm] at hForm

/-- If no key is repeated anywhere in a document, the keys of an object in it differ. -/
theorem nodup_of_eq_object {d : Json} (hOnce : d.keysOnce = true) (members : List (String × Json))
    (h : d = .object members) : (members.map (·.1)).Nodup := by
  subst h
  exact Json.nodup_of_keysOnce hOnce

/-- No type is spelled by `null`, so `null` in the place of one means that there is none. -/
theorem not_spellsType_null (type : TypeRef) : ¬ SpellsType .null type := by
  cases type <;> simp [SpellsType, OnlyKeys]

/-- The nodes of a list in a node in object form are in object form, and have each key once. -/
theorem inForm_listed {kind : NodeKind} (part : NodeKind) {members : List (String × Json)}
    {items : List Json} {key : String} {item : Json}
    (hForm : inForm (.node kind) (.object members) = true)
    (hOnce : (Json.object members).keysOnce = true)
    (hItems : members.lookup key = some (.array items))
    (hRole : (kind.parts ((Json.object members).member? "kind")).lookup key = some (.nodes part))
    (hItem : item ∈ items) : inForm (.node part) item = true ∧ item.keysOnce = true := by
  have hMember : (Json.object members).member? key = some (.array items) := hItems
  exact ⟨inForm_item (inForm_member (.nodes part) hForm hMember hRole) hItem,
    Json.keysOnce_of_mem_items (Json.keysOnce_of_member? hOnce hMember) hItem⟩

/-- A payload in a node in object form. -/
theorem maybe_payload_eq_ok {kind : NodeKind} {members : List (String × Json)} {key : String}
    {payload? : Option TypeRef} (hForm : inForm (.node kind) (.object members) = true)
    (hOnce : (Json.object members).keysOnce = true)
    (hRole : (kind.parts ((Json.object members).member? "kind")).lookup key = some (.node .type)) :
    Row.maybe members key none readPayload = .ok payload? ↔
      SpellsOptional SpellsType ((Json.object members).member? key) payload? :=
  maybe_optional_eq_ok
    (fun _ hValue _ _ => TypeRef.read_eq_ok (inForm_member (.node .type) hForm hValue hRole)
      (Json.keysOnce_of_member? hOnce hValue))
    not_spellsType_null

/-- **Fields.** A field is read from a node in object form exactly if the node spells it. -/
theorem Field.read_eq_ok {place : Place} {d : Json} {field : Field}
    (hForm : inForm (.node .field) d = true) (hOnce : d.keysOnce = true) :
    Field.read place d = .ok field ↔ SpellsField d field := by
  rw [Field.read, Shape.read_bind_eq_ok (ne_array_of_inForm hForm) (nodup_of_eq_object hOnce)]
  · obtain ⟨name, type, nullable⟩ := field
    simp only [bind_eq_ok, pure_eq_ok, need_text_eq_ok, maybe_flag_eq_ok]
    constructor
    -- the columns give name, type and flag; the type is a node in the node
    · intro h
      obtain ⟨members, rfl, hKeys, name', hName, type', hNeed, flag, hFlag, hEq⟩ := h
      obtain ⟨rfl, rfl, rfl⟩ := Field.mk.inj hEq
      obtain ⟨value, hLookup, hType⟩ := Row.need_eq_ok.mp hNeed
      have hValue : (Json.object members).member? "type" = some value := hLookup
      have hSpells := (TypeRef.read_eq_ok (inForm_member (.node .type) hForm hValue rfl)
        (Json.keysOnce_of_member? hOnce hValue)).mp hType
      exact ⟨hKeys, hName, ⟨value, hValue, hSpells⟩, hFlag⟩
    · intro h
      obtain ⟨hKeys, hName, ⟨value, hValue, hSpells⟩, hFlag⟩ := h
      obtain ⟨members, rfl, -⟩ := Json.exists_members_of_member? hName
      have hType := (TypeRef.read_eq_ok (inForm_member (.node .type) hForm hValue rfl)
        (Json.keysOnce_of_member? hOnce hValue)).mpr hSpells
      exact ⟨members, rfl, hKeys, name, hName, type, Row.need_eq_ok.mpr ⟨value, hValue, hType⟩,
        nullable, hFlag, rfl⟩
  · -- what could be taken from a column has passed its check
    intro members h
    simp only [bind_eq_ok, pure_eq_ok] at h
    obtain ⟨name, hName, type, hType, nullable, hFlag, -⟩ := h
    simp only [Field.shape, List.forall_mem_cons]
    exact ⟨fun _ => Column.check_of_need hName, fun _ => Column.check_of_need hType,
      fun _ => Column.check_of_maybe hFlag, by simp⟩

/-- Nodes of a label and a payload, whatever the label is called. -/
theorem readLabelled_eq_ok {α : Type} {kind : NodeKind} {place : Place} {shape : Shape} {key : String}
    {d : Json} {a : α} {make : String → Option TypeRef → α} {label : α → String}
    {payload? : α → Option TypeRef} (hMake : ∀ name carried? a,
      make name carried? = a ↔ name = label a ∧ carried? = payload? a)
    (hColumns : shape.columns = [.needed key Json.readText, .optional "payload" readPayload])
    (hRole : ∀ tag?, (kind.parts tag?).lookup "payload" = some (.node .type))
    (hForm : inForm (.node kind) d = true) (hOnce : d.keysOnce = true) :
    (shape.read place d >>= fun row => do
        return make (← row.need key Json.readText) (← row.maybe "payload" none readPayload)) = .ok a ↔
      OnlyKeys [key, "payload"] d ∧ d.member? key = some (.string (label a)) ∧
        SpellsOptional SpellsType (d.member? "payload") (payload? a) := by
  have hKeyNames : shape.columns.map (·.key) = [key, "payload"] := by
    rw [hColumns]
    rfl
  rw [Shape.read_bind_eq_ok (ne_array_of_inForm hForm) (nodup_of_eq_object hOnce), hKeyNames]
  · simp only [bind_eq_ok, pure_eq_ok, need_text_eq_ok, hMake]
    constructor
    · intro h
      obtain ⟨members, rfl, hKeys, name, hName, carried?, hPayload, rfl, rfl⟩ := h
      exact ⟨hKeys, hName, (maybe_payload_eq_ok hForm hOnce (hRole _)).mp hPayload⟩
    · intro h
      obtain ⟨hKeys, hName, hPayload⟩ := h
      obtain ⟨members, rfl, -⟩ := Json.exists_members_of_member? hName
      exact ⟨members, rfl, hKeys, label a, hName, payload? a,
        (maybe_payload_eq_ok hForm hOnce (hRole _)).mpr hPayload, rfl, rfl⟩
  -- both columns have passed their checks if the record could be made
  · intro members h
    simp only [bind_eq_ok, pure_eq_ok] at h
    obtain ⟨name, hName, carried?, hPayload, -⟩ := h
    rw [hColumns]
    simp only [List.forall_mem_cons]
    exact ⟨fun _ => Column.check_of_need hName, fun _ => Column.check_of_maybe hPayload, by simp⟩

/-- **Variants.** A variant is a label called `name` and a payload. -/
theorem Variant.read_eq_ok {place : Place} {d : Json} {variant : Variant}
    (hForm : inForm (.node .variant) d = true) (hOnce : d.keysOnce = true) :
    Variant.read place d = .ok variant ↔ SpellsVariant d variant := by
  have hMake : ∀ name payload? (variant : Variant),
      Variant.mk name payload? = variant ↔ name = variant.name ∧ payload? = variant.payload? := by
    intro name payload? variant
    cases variant
    rw [Variant.mk.injEq]
  rw [Variant.read, readLabelled_eq_ok hMake rfl (fun _ => rfl) hForm hOnce]
  constructor
  · intro h
    exact ⟨h.1, h.2.1, h.2.2⟩
  · intro h
    exact ⟨h.keys, h.name, h.payload⟩

/-- **Error cases.** An error case is a label called `code` and a payload. -/
theorem ErrorCase.read_eq_ok {d : Json} {error : ErrorCase}
    (hForm : inForm (.node .errorCase) d = true) (hOnce : d.keysOnce = true) :
    ErrorCase.read d = .ok error ↔ SpellsErrorCase d error := by
  have hMake : ∀ code payload? (error : ErrorCase),
      ErrorCase.mk code payload? = error ↔ code = error.code ∧ payload? = error.payload? := by
    intro code payload? error
    cases error
    rw [ErrorCase.mk.injEq]
  rw [ErrorCase.read, readLabelled_eq_ok hMake rfl (fun _ => rfl) hForm hOnce]
  constructor
  · intro h
    exact ⟨h.1, h.2.1, h.2.2⟩
  · intro h
    exact ⟨h.keys, h.code, h.payload⟩

/-- A list of fields in a node in object form. -/
theorem maybe_params_eq_ok {members : List (String × Json)} {params : List Field}
    (hForm : inForm (.node .method) (.object members) = true)
    (hOnce : (Json.object members).keysOnce = true) :
    Row.maybe members "params" [] readParams = .ok params ↔
      SpellsList SpellsField ((Json.object members).member? "params") params := by
  refine maybe_list_eq_ok fun items hItems item hItem field => ?_
  obtain ⟨hItemForm, hItemOnce⟩ := inForm_listed .field hForm hOnce hItems rfl hItem
  exact Field.read_eq_ok hItemForm hItemOnce

/-- The declared errors in a node in object form. -/
theorem maybe_errors_eq_ok {members : List (String × Json)} {errors? : Option (List ErrorCase)}
    (hForm : inForm (.node .method) (.object members) = true)
    (hOnce : (Json.object members).keysOnce = true) :
    Row.maybe members "errors" none readErrors = .ok errors? ↔
      SpellsOptional
        (fun value errors =>
          ∃ items, value = .array items ∧ List.Forall₂ SpellsErrorCase items errors)
        ((Json.object members).member? "errors") errors? := by
  refine maybe_optional_eq_ok (fun value hValue _ errors => ?_) (by simp)
  refine readList_eq_ok_iff fun items hItems item hItem error => ?_
  subst hItems
  obtain ⟨hItemForm, hItemOnce⟩ := inForm_listed .errorCase hForm hOnce hValue rfl hItem
  exact ErrorCase.read_eq_ok hItemForm hItemOnce

/-- **Methods.** Of the five columns only the name is needed; each is read as what its member spells. -/
theorem Method.read_eq_ok {d : Json} {method : Method} (hForm : inForm (.node .method) d = true)
    (hOnce : d.keysOnce = true) : Method.read d = .ok method ↔ SpellsMethod d method := by
  rw [Method.read, Shape.read_bind_eq_ok (ne_array_of_inForm hForm) (nodup_of_eq_object hOnce)]
  · simp only [bind_eq_ok, pure_eq_ok, need_text_eq_ok, maybe_flag_eq_ok]
    constructor
    · intro h
      obtain ⟨members, rfl, hKeys, name, hName, params, hParams, returns?, hReturns, flag, hFlag,
        errors?, hErrors, rfl⟩ := h
      exact ⟨hKeys, hName, (maybe_params_eq_ok hForm hOnce).mp hParams,
        (maybe_payload_eq_ok hForm hOnce rfl).mp hReturns, hFlag,
        (maybe_errors_eq_ok hForm hOnce).mp hErrors⟩
    · intro h
      obtain ⟨hKeys, hName, hParams, hReturns, hFlag, hErrors⟩ := h
      obtain ⟨members, rfl, -⟩ := Json.exists_members_of_member? hName
      exact ⟨members, rfl, hKeys, method.name, hName, method.params,
        (maybe_params_eq_ok hForm hOnce).mpr hParams, method.returns?,
        (maybe_payload_eq_ok hForm hOnce rfl).mpr hReturns, method.returnsNullable, hFlag,
        method.declaredErrors?, (maybe_errors_eq_ok hForm hOnce).mpr hErrors, rfl⟩
  -- as with fields, no column is left unchecked
  · intro members h
    simp only [bind_eq_ok, pure_eq_ok] at h
    obtain ⟨name, hName, params, hParams, returns?, hReturns, flag, hFlag, errors?, hErrors, -⟩ := h
    simp only [Method.shape, List.forall_mem_cons]
    exact ⟨fun _ => Column.check_of_need hName, fun _ => Column.check_of_maybe hParams,
      fun _ => Column.check_of_maybe hReturns, fun _ => Column.check_of_maybe hFlag,
      fun _ => Column.check_of_maybe hErrors, by simp⟩

end AbiBindings.Manifest
