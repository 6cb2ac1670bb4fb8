import AbiBindings.Proofs.Manifest.NodeSpelling
import AbiBindings.Proofs.Manifest.Valid

/-!
# Manifest — acceptance of documents in object form

A document in object form is accepted exactly if it spells a manifest that is valid. Two steps of the
reader leave out what a manifest cannot hold, byte strings of length zero and events with a member
`type`; they are taken together with the reading of the nodes they follow. What is left is the version
and the validity of the types.

* `exists_announcement_iff`, `exists_entry_iff` — events and definitions, read and settled;
* `exists_document_iff` — documents, read and settled;
* `ofJson_eq_ok_iff` — acceptance.
-/

namespace AbiBindings.Manifest

open Json (OnlyKeys Row Shape Column Fault)

/-! ## Events -/

/-- The outdated member is there exactly if its presence is read. -/
theorem maybe_presence_eq_ok {row : Row} {flag : Bool} :
    row.maybe "type" false readPresence = .ok flag ↔ flag = (row.lookup "type").isSome := by
  rw [Row.maybe_eq_ok]
  cases row.lookup "type" <;> simp [readPresence, eq_comm]

/-- An event is settled if the outdated member is absent, and then from its name and its payload. -/
theorem Announcement.settle_eq_ok {announcement : Announcement} {event : Event} :
    announcement.settle = .ok event ↔
      announcement.hasType = false ∧ event = .ofPayload announcement.name announcement.payload? := by
  unfold Announcement.settle
  cases announcement.hasType <;> simp [eq_comm]

/-- A payload `unit` is dropped, any other is kept. -/
theorem payload_ofPayload (name : String) (payload? : Option TypeRef) :
    (Event.ofPayload name payload?).payload?
      = if payload? = some (.primitive .unit) then none else payload? := by
  rcases payload? with _ | type
  · rfl
  · cases type with
    | primitive type => cases type <;> rfl
    | _ => simp [Event.ofPayload, TypeRef.isUnit]

/-- Without the outdated member, the keys of an event are the two others. -/
theorem onlyKeys_event {members : List (String × Json)} :
    OnlyKeys ["name", "payload"] (.object members) ↔
      OnlyKeys ["name", "payload", "type"] (.object members) ∧ members.lookup "type" = none := by
  rw [List.lookup_eq_none_iff]
  constructor
  · intro h
    refine ⟨fun member hMember => by simpa using Or.imp_right Or.inl (by simpa using h member hMember),
      fun member hMember => ?_⟩
    -- of the two keys left, neither is the outdated one
    have hKey := h member hMember
    simp only [List.mem_cons, List.not_mem_nil, or_false] at hKey
    rcases hKey with hKey | hKey <;> simp [hKey]
  · intro h member hMember
    obtain ⟨h, hType⟩ := h
    have hKey := h member hMember
    -- the outdated key is not there, so the member has one of the others
    have hNe : member.1 ≠ "type" := fun hEq => by simpa [hEq] using hType member hMember
    simpa [hNe] using hKey

/-- An event as it is spelled, the outdated member included. -/
theorem Announcement.read_eq_ok {d : Json} {announcement : Announcement}
    (hForm : inForm (.node .event) d = true) (hOnce : d.keysOnce = true) :
    Announcement.read d = .ok announcement ↔
      ∃ members, d = .object members ∧ OnlyKeys ["name", "payload", "type"] d ∧
        d.member? "name" = some (.string announcement.name) ∧
          SpellsOptional SpellsType (d.member? "payload") announcement.payload? ∧
            announcement.hasType = (members.lookup "type").isSome := by
  rw [Announcement.read, Shape.read_bind_eq_ok (ne_array_of_inForm hForm) (nodup_of_eq_object hOnce)]
  · simp only [bind_eq_ok, pure_eq_ok, need_text_eq_ok, maybe_presence_eq_ok]
    constructor
    · intro h
      obtain ⟨members, rfl, hKeys, name, hName, payload?, hPayload, hasType, hType, rfl⟩ := h
      exact ⟨members, rfl, hKeys, hName, (maybe_payload_eq_ok hForm hOnce rfl).mp hPayload, hType⟩
    · intro h
      obtain ⟨members, rfl, hKeys, hName, hPayload, hType⟩ := h
      exact ⟨members, rfl, hKeys, announcement.name, hName, announcement.payload?,
        (maybe_payload_eq_ok hForm hOnce rfl).mpr hPayload, announcement.hasType, hType, rfl⟩
  -- all three columns have been taken, so each has passed its check
  · intro members h
    simp only [bind_eq_ok, pure_eq_ok] at h
    obtain ⟨name, hName, payload?, hPayload, hasType, hType, -⟩ := h
    simp only [Announcement.shape, List.forall_mem_cons]
    exact ⟨fun _ => Column.check_of_need hName, fun _ => Column.check_of_maybe hPayload,
      fun _ => Column.check_of_maybe hType, by simp⟩

/-- What is read and settled as an event is what spells it. -/
theorem exists_announcement_iff {d : Json} {event : Event}
    (hForm : inForm (.node .event) d = true) (hOnce : d.keysOnce = true) :
    (∃ announcement, Announcement.read d = .ok announcement ∧ announcement.settle = .ok event) ↔
      SpellsEvent d event := by
  constructor
  · intro h
    obtain ⟨announcement, hAnnouncement, hSettle⟩ := h
    obtain ⟨members, rfl, hKeys, hName, hPayload, hType⟩ :=
      (Announcement.read_eq_ok hForm hOnce).mp hAnnouncement
    obtain ⟨hAbsent, rfl⟩ := Announcement.settle_eq_ok.mp hSettle
    -- settling has refused the outdated member, so it is absent
    have hNone : members.lookup "type" = none := by
      rw [← Option.not_isSome_iff_eq_none, ← hType, hAbsent]
      exact Bool.false_ne_true
    exact ⟨onlyKeys_event.mpr ⟨hKeys, hNone⟩, hName, announcement.payload?, hPayload,
      payload_ofPayload announcement.name announcement.payload?⟩
  · intro h
    obtain ⟨hKeys, hName, written?, hPayload, hEvent⟩ := h
    obtain ⟨members, rfl, -⟩ := Json.exists_members_of_member? hName
    obtain ⟨hKeys, hNone⟩ := onlyKeys_event.mp hKeys
    refine ⟨⟨event.name, written?, false⟩, (Announcement.read_eq_ok hForm hOnce).mpr
      ⟨members, rfl, hKeys, hName, hPayload, by simp [hNone]⟩,
      Announcement.settle_eq_ok.mpr ⟨rfl, ?_⟩⟩
    -- an event is settled from its name and the payload as it is written
    obtain ⟨name, payload?⟩ := event
    rw [← payload_ofPayload name written?] at hEvent
    exact congrArg (Event.mk name) hEvent

/-! ## Definitions -/

/-- A definition is read from the columns behind its tag, and these are the ones of its shape. -/
theorem read_bind_filter_eq_ok {α : Type} {shape : Shape} {members : List (String × Json)}
    {take : Row → Except Fault α} {a : α} (hOnce : (Json.object members).keysOnce = true)
    (hCheck : ∀ members : Row, take members = .ok a → ∀ column ∈ shape.columns,
      ∀ value, members.lookup column.key = some value → column.check value = .ok ()) :
    (shape.read .tagged (.object (members.filter (·.1 != "kind"))) >>= take) = .ok a ↔
      OnlyKeys ("kind" :: shape.columns.map (·.key)) (.object members) ∧
        take (members.filter (·.1 != "kind")) = .ok a := by
  -- without the kind there are fewer members, so no key is there twice either
  have hFilterOnce : ((members.filter (·.1 != "kind")).map (·.1)).Nodup :=
    (Json.nodup_of_keysOnce hOnce).sublist (List.filter_sublist.map _)
  rw [Shape.read_bind_eq_ok (fun _ => by simp) (fun _ hEq => Json.object.inj hEq ▸ hFilterOnce)
    hCheck, ← onlyKeys_filter]
  constructor
  · intro h
    obtain ⟨_, hEq, hKeys, hTake⟩ := h
    exact ⟨hKeys, Json.object.inj hEq ▸ hTake⟩
  · intro h
    obtain ⟨hKeys, hTake⟩ := h
    exact ⟨_, rfl, hKeys, hTake⟩

section Definitions

variable {members : List (String × Json)} {entry : Entry}
  (hForm : inForm (.node .definition) (.object members) = true)
  (hOnce : (Json.object members).keysOnce = true)

include hOnce

/-- Definitions with a single column that lists nodes. -/
theorem readListed_eq_ok {α : Type} {shape : Shape} {key : String} {readItem : Json → Except Fault α}
    {spells : Json → α → Prop} {make : List α → Entry}
    (hColumns : shape.columns = [.needed key (Json.readList readItem)]) (hKey : key ≠ "kind")
    (hItems : ∀ items, members.lookup key = some (.array items) → ∀ item ∈ items, ∀ a,
      readItem item = .ok a ↔ spells item a) :
    (shape.read .tagged (.object (members.filter (·.1 != "kind"))) >>= fun row => do
        return make (← row.need key (Json.readList readItem))) = .ok entry ↔
      ∃ as, entry = make as ∧ OnlyKeys ["kind", key] (.object members) ∧
        ∃ items, members.lookup key = some (.array items) ∧ List.Forall₂ spells items as := by
  -- the only column is the list, beside the kind
  have hKeyNames : "kind" :: shape.columns.map (·.key) = ["kind", key] := by
    rw [hColumns]
    rfl
  have hLookup : (members.filter (·.1 != "kind")).lookup key = members.lookup key :=
    lookup_filter_ne "kind" key hKey
  rw [read_bind_filter_eq_ok hOnce, hKeyNames]
  · simp only [bind_eq_ok, pure_eq_ok, need_list_eq_ok (hLookup.symm ▸ hItems), hLookup]
    constructor
    · intro h
      obtain ⟨hKeys, as, hSpells, rfl⟩ := h
      exact ⟨as, rfl, hKeys, hSpells⟩
    · intro h
      obtain ⟨as, rfl, hKeys, hSpells⟩ := h
      exact ⟨hKeys, as, hSpells, rfl⟩
  · intro members h
    simp only [bind_eq_ok, pure_eq_ok] at h
    obtain ⟨as, hRead, -⟩ := h
    rw [hColumns]
    simp only [List.forall_mem_cons]
    exact ⟨fun _ => Column.check_of_need hRead, by simp⟩

include hForm

/-- A record lists fields. -/
theorem readColumns_record_eq_ok
    (hKind : (Json.object members).member? "kind" = some (.string "record")) :
    Entry.readColumns (.string "record") (.object (members.filter (·.1 != "kind"))) = .ok entry ↔
      ∃ fields, entry = .record fields ∧ SpellsDefinition (.object members) (.record fields) := by
  have hItems : ∀ items, members.lookup "fields" = some (.array items) → ∀ item ∈ items, ∀ field,
      Field.read .tagged item = .ok field ↔ SpellsField item field := by
    intro items hItems item hItem field
    obtain ⟨hItemForm, hItemOnce⟩ :=
      inForm_listed .field hForm hOnce hItems (by rw [hKind]; rfl) hItem
    exact Field.read_eq_ok hItemForm hItemOnce
  rw [Entry.readColumns, readFields, readListed_eq_ok hOnce rfl (by decide) hItems]
  simp only [SpellsDefinition, hKind, true_and]
  exact Iff.rfl

/-- A variant type lists variants. -/
theorem readColumns_variant_eq_ok
    (hKind : (Json.object members).member? "kind" = some (.string "variant")) :
    Entry.readColumns (.string "variant") (.object (members.filter (·.1 != "kind"))) = .ok entry ↔
      ∃ variants, entry = .variant variants ∧
        SpellsDefinition (.object members) (.variant variants) := by
  have hItems : ∀ items, members.lookup "variants" = some (.array items) → ∀ item ∈ items,
      ∀ variant, Variant.read .tagged item = .ok variant ↔ SpellsVariant item variant := by
    intro items hItems item hItem variant
    obtain ⟨hItemForm, hItemOnce⟩ :=
      inForm_listed .variant hForm hOnce hItems (by rw [hKind]; rfl) hItem
    exact Variant.read_eq_ok hItemForm hItemOnce
  rw [Entry.readColumns, readVariants, readListed_eq_ok hOnce rfl (by decide) hItems]
  simp only [SpellsDefinition, hKind, true_and]
  exact Iff.rfl

omit hForm in
/-- A byte string may state its length, here still any number. -/
theorem readColumns_bytes_eq_ok :
    Entry.readColumns (.string "bytes") (.object (members.filter (·.1 != "kind"))) = .ok entry ↔
      ∃ count?, entry = .bytes count? ∧ OnlyKeys ["kind", "size"] (.object members) ∧
        SpellsOptional (fun value count => value = .number (.unsigned count))
          ((Json.object members).member? "size") count? := by
  have hSize : ∀ count?, Row.maybe (members.filter (·.1 != "kind")) "size" none readCount
        = .ok count? ↔
      SpellsOptional (fun value count => value = .number (.unsigned count))
        ((Json.object members).member? "size") count? := by
    intro count?
    rw [readCount, maybe_optional_eq_ok (fun _ _ _ _ => Json.readUnsignedNumber_eq_ok) (by simp),
      lookup_filter_ne "kind" "size" (by decide), Json.member?]
  -- the size is the only column; it is looked up among the members without the kind
  rw [Entry.readColumns, read_bind_filter_eq_ok hOnce]
  · simp only [bind_eq_ok, pure_eq_ok, hSize]
    constructor
    · intro h
      obtain ⟨hKeys, count?, hCount, rfl⟩ := h
      exact ⟨count?, rfl, hKeys, hCount⟩
    · intro h
      obtain ⟨count?, rfl, hKeys, hCount⟩ := h
      exact ⟨hKeys, count?, hCount, rfl⟩
  · intro members h
    simp only [bind_eq_ok, pure_eq_ok] at h
    obtain ⟨count?, hCount, -⟩ := h
    simp only [Entry.bytesShape, List.forall_mem_cons]
    exact ⟨fun _ => Column.check_of_maybe hCount, by simp⟩

end Definitions

/-- A length is settled if it is positive, and then it is the same number. -/
theorem Entry.settle_bytes_eq_ok {name : String} {count? : Option UInt64} {definition : TypeDef} :
    (Entry.bytes count?).settle name = .ok definition ↔
      ∃ settled?, definition = .bytes settled? ∧ settled?.map ByteCount.value = count? := by
  cases count? with
  | none =>
    constructor
    · intro h
      obtain rfl := Except.ok.inj h
      exact ⟨none, rfl, rfl⟩
    · intro h
      obtain ⟨settled?, rfl, hSettled⟩ := h
      obtain rfl := Option.map_eq_none_iff.mp hSettled
      rfl
  | some count =>
    rw [Entry.settle]
    split
    next hPositive =>
      constructor
      · intro h
        obtain rfl := Except.ok.inj h
        exact ⟨some ⟨count, hPositive⟩, rfl, rfl⟩
      · intro h
        obtain ⟨settled?, rfl, hSettled⟩ := h
        obtain ⟨⟨_, _⟩, rfl, rfl⟩ := Option.map_eq_some_iff.mp hSettled
        rfl
    -- no positive length is zero
    next hZero =>
      constructor
      · simp
      · intro h
        obtain ⟨settled?, rfl, hSettled⟩ := h
        obtain ⟨settled, rfl, rfl⟩ := Option.map_eq_some_iff.mp hSettled
        exact absurd settled.positive hZero

/-- A positive length is spelled as the number that it is. -/
theorem spellsOptional_map_value {value? : Option Json} {count? : Option ByteCount} :
    SpellsOptional (fun value count => value = .number (.unsigned count)) value?
        (count?.map ByteCount.value) ↔
      SpellsOptional (fun value count => value = .number (.unsigned count.value)) value? count? := by
  cases count? <;> rfl

/-- What is read and settled as a definition spells it. -/
theorem spellsDefinition_of_read {name : String} {d : Json} {entry : Entry} {definition : TypeDef}
    (hForm : inForm (.node .definition) d = true) (hOnce : d.keysOnce = true)
    (hRead : Entry.read d = .ok entry) (hSettle : entry.settle name = .ok definition) :
    SpellsDefinition d definition := by
  unfold Entry.read at hRead
  split at hRead
  next members =>
    split at hRead
    next tag hTag =>
      have hKind : (Json.object members).member? "kind" = some tag := hTag
      -- one case for each tag; there is something to settle for byte strings only
      unfold Entry.readColumns at hRead
      split at hRead
      next =>
        obtain ⟨fields, rfl, hSpells⟩ := (readColumns_record_eq_ok hForm hOnce hKind).mp hRead
        obtain rfl := Except.ok.inj hSettle
        exact hSpells
      next =>
        obtain ⟨variants, rfl, hSpells⟩ := (readColumns_variant_eq_ok hForm hOnce hKind).mp hRead
        obtain rfl := Except.ok.inj hSettle
        exact hSpells
      next =>
        obtain ⟨count?, rfl, hKeys, hSize⟩ := (readColumns_bytes_eq_ok hOnce).mp hRead
        obtain ⟨settled?, rfl, rfl⟩ := Entry.settle_bytes_eq_ok.mp hSettle
        exact ⟨hKeys, hKind, spellsOptional_map_value.mp hSize⟩
      all_goals simp at hRead
    next => simp at hRead
  all_goals simp [inForm] at hForm hRead

/-- What spells a definition is read, and settled as that definition. -/
theorem exists_entry_of_spells (name : String) {d : Json} {definition : TypeDef}
    (hForm : inForm (.node .definition) d = true) (hOnce : d.keysOnce = true)
    (hSpells : SpellsDefinition d definition) :
    ∃ entry, Entry.read d = .ok entry ∧ entry.settle name = .ok definition := by
  -- whatever is spelled, there is a tag, and so an object
  have hKind : ∃ kind, d.member? "kind" = some (.string kind) := by
    cases definition <;> exact ⟨_, hSpells.2.1⟩
  obtain ⟨kind, hKind⟩ := hKind
  obtain ⟨members, rfl, hLookup⟩ := Json.exists_members_of_member? hKind
  cases definition with
  | record fields =>
    obtain rfl : kind = "record" := by simpa [hSpells.2.1] using hKind.symm
    refine ⟨.record fields, ?_, rfl⟩
    rw [Entry.read, hLookup]
    exact (readColumns_record_eq_ok hForm hOnce hKind).mpr ⟨fields, rfl, hSpells⟩
  | variant variants =>
    obtain rfl : kind = "variant" := by simpa [hSpells.2.1] using hKind.symm
    refine ⟨.variant variants, ?_, rfl⟩
    rw [Entry.read, hLookup]
    exact (readColumns_variant_eq_ok hForm hOnce hKind).mpr ⟨variants, rfl, hSpells⟩
  | bytes count? =>
    obtain rfl : kind = "bytes" := by simpa [hSpells.2.1] using hKind.symm
    refine ⟨.bytes (count?.map ByteCount.value), ?_,
      Entry.settle_bytes_eq_ok.mpr ⟨count?, rfl, rfl⟩⟩
    rw [Entry.read, hLookup]
    exact (readColumns_bytes_eq_ok hOnce).mpr
      ⟨_, rfl, hSpells.1, spellsOptional_map_value.mpr hSpells.2.2⟩

/-- What is read and settled as a definition is what spells it. -/
theorem exists_entry_iff (name : String) {d : Json} {definition : TypeDef}
    (hForm : inForm (.node .definition) d = true) (hOnce : d.keysOnce = true) :
    (∃ entry, Entry.read d = .ok entry ∧ entry.settle name = .ok definition) ↔
      SpellsDefinition d definition := by
  constructor
  · intro h
    obtain ⟨entry, hRead, hSettle⟩ := h
    exact spellsDefinition_of_read hForm hOnce hRead hSettle
  · exact exists_entry_of_spells name hForm hOnce

/-! ## Documents -/

/-- A document is settled list by list. The methods are taken over, and each entry keeps its name. -/
theorem Document.settle_eq_ok {document : Document} {manifest : Manifest} :
    document.settle = .ok manifest ↔
      List.Forall₂ (fun entry type => entry.1 = type.1 ∧ entry.2.settle entry.1 = .ok type.2)
          document.entries manifest.types ∧
        manifest.methods = document.methods ∧
          List.Forall₂ (fun announcement event => announcement.settle = .ok event)
            document.announcements manifest.events := by
  -- an entry is settled under its name, and the name is kept
  have hEntry : ∀ (entry : String × Entry) (type : String × TypeDef),
      (entry.1, ·) <$> entry.2.settle entry.1 = .ok type ↔
        entry.1 = type.1 ∧ entry.2.settle entry.1 = .ok type.2 := by
    intro entry type
    obtain ⟨name, entry⟩ := entry
    obtain ⟨other, definition⟩ := type
    rw [map_eq_ok]
    constructor
    · intro h
      obtain ⟨settled, hSettle, hType⟩ := h
      obtain ⟨rfl, rfl⟩ := Prod.mk.inj hType
      exact ⟨rfl, hSettle⟩
    · intro h
      obtain ⟨rfl, hSettle⟩ := h
      exact ⟨definition, hSettle, rfl⟩
  -- settling is a row of steps over the entries and one over the announcements
  simp only [Document.settle, bind_eq_ok, pure_eq_ok, mapM_eq_ok_iff, hEntry]
  constructor
  · intro h
    obtain ⟨types, hTypes, events, hEvents, rfl⟩ := h
    exact ⟨hTypes, rfl, hEvents⟩
  · intro h
    obtain ⟨hTypes, hMethods, hEvents⟩ := h
    refine ⟨manifest.types, hTypes, manifest.events, hEvents, ?_⟩
    rw [← hMethods]

section Documents

variable {members : List (String × Json)}
  (hForm : inForm (.node .manifest) (.object members) = true)
  (hOnce : (Json.object members).keysOnce = true)

include hForm hOnce

/-- Entries that are read from a table and then settled are spelled by it, each under its name. -/
theorem exists_settled_entries_iff {table : List (String × Json)} {types : List (String × TypeDef)}
    (hTable : (Json.object members).member? "types" = some (.object table)) :
    (∃ entries : List (String × Entry),
      List.Forall₂ (fun member entry => member.1 = entry.1 ∧ Entry.read member.2 = .ok entry.2)
          table entries ∧
        List.Forall₂ (fun entry type => entry.1 = type.1 ∧ entry.2.settle entry.1 = .ok type.2)
          entries types) ↔
      List.Forall₂ SpellsEntry table types := by
  refine forall₂_comp_iff.trans (forall₂_congr_of_mem fun member hMember type => ?_)
  obtain ⟨name, definition⟩ := type
  have hTableForm := inForm_member (.table .definition) hForm hTable rfl
  have hTableOnce := Json.keysOnce_of_member? hOnce hTable
  rw [SpellsEntry, ← exists_entry_iff name (inForm_entry hTableForm hMember)
    (Json.keysOnce_of_mem_members hTableOnce hMember)]
  -- the name goes through: from the member to the entry, and from the entry to the definition
  constructor
  · intro h
    obtain ⟨⟨_, entry⟩, ⟨hName, hRead⟩, rfl, hSettle⟩ := h
    exact ⟨hName, entry, hRead, hSettle⟩
  · intro h
    obtain ⟨hName, entry, hRead, hSettle⟩ := h
    exact ⟨(name, entry), ⟨hName, hRead⟩, rfl, hSettle⟩

/-- The type table, read and settled. -/
theorem exists_entries_iff {types : List (String × TypeDef)} :
    (∃ entries, Row.need members "types" readEntries = .ok entries ∧
      List.Forall₂ (fun entry type => entry.1 = type.1 ∧ entry.2.settle entry.1 = .ok type.2)
        entries types) ↔
      ∃ table, (Json.object members).member? "types" = some (.object table) ∧
        List.Forall₂ SpellsEntry table types := by
  constructor
  · intro h
    obtain ⟨entries, hRead, hSettle⟩ := h
    obtain ⟨value, hValue, hTable⟩ := Row.need_eq_ok.mp hRead
    obtain ⟨table, rfl, hEntries⟩ := Json.readTable_eq_ok.mp hTable
    exact ⟨table, hValue, (exists_settled_entries_iff hForm hOnce hValue).mp ⟨entries, hEntries, hSettle⟩⟩
  · intro h
    obtain ⟨table, hValue, hSpells⟩ := h
    obtain ⟨entries, hEntries, hSettle⟩ := (exists_settled_entries_iff hForm hOnce hValue).mpr hSpells
    exact ⟨entries,
      Row.need_eq_ok.mpr ⟨_, hValue, Json.readTable_eq_ok.mpr ⟨table, rfl, hEntries⟩⟩, hSettle⟩

/-- The methods; nothing is left to settle in them. -/
theorem need_methods_eq_ok {methods : List Method} :
    Row.need members "methods" readMethods = .ok methods ↔
      ∃ items, (Json.object members).member? "methods" = some (.array items) ∧
        List.Forall₂ SpellsMethod items methods := by
  refine need_list_eq_ok fun items hItems item hItem method => ?_
  obtain ⟨hItemForm, hItemOnce⟩ := inForm_listed .method hForm hOnce hItems rfl hItem
  exact Method.read_eq_ok hItemForm hItemOnce

/-- Announcements that are read from an array and then settled are spelled by its items. -/
theorem exists_settled_announcements_iff {items : List Json} {events : List Event}
    (hItems : (Json.object members).member? "events" = some (.array items)) :
    (∃ announcements,
      List.Forall₂ (fun item announcement => Announcement.read item = .ok announcement)
          items announcements ∧
        List.Forall₂ (fun announcement event => announcement.settle = .ok event)
          announcements events) ↔
      List.Forall₂ SpellsEvent items events := by
  refine forall₂_comp_iff.trans (forall₂_congr_of_mem fun item hItem event => ?_)
  obtain ⟨hItemForm, hItemOnce⟩ := inForm_listed .event hForm hOnce hItems rfl hItem
  exact exists_announcement_iff hItemForm hItemOnce

/-- The events, read and settled. -/
theorem exists_announcements_iff {events : List Event} :
    (∃ announcements, Row.need members "events" readAnnouncements = .ok announcements ∧
      List.Forall₂ (fun announcement event => announcement.settle = .ok event)
        announcements events) ↔
      ∃ items, (Json.object members).member? "events" = some (.array items) ∧
        List.Forall₂ SpellsEvent items events := by
  constructor
  · intro h
    obtain ⟨announcements, hRead, hSettle⟩ := h
    obtain ⟨items, hValue, hItems⟩ := (need_list_eq_ok fun _ _ _ _ _ => Iff.rfl).mp hRead
    exact ⟨items, hValue,
      (exists_settled_announcements_iff hForm hOnce hValue).mp ⟨announcements, hItems, hSettle⟩⟩
  · intro h
    obtain ⟨items, hValue, hSpells⟩ := h
    obtain ⟨announcements, hItems, hSettle⟩ :=
      (exists_settled_announcements_iff hForm hOnce hValue).mpr hSpells
    exact ⟨announcements,
      (need_list_eq_ok fun _ _ _ _ _ => Iff.rfl).mpr ⟨items, hValue, hItems⟩, hSettle⟩

end Documents

/-- A document as it is spelled, its three lists apart. -/
theorem Document.read_eq_ok {d : Json} {document : Document} (hForm : objectForm d = true)
    (hOnce : d.keysOnce = true) :
    Document.read d = .ok document ↔
      ∃ members, d = .object members ∧
        OnlyKeys ["schema_version", "types", "methods", "events"] d ∧
          d.member? "schema_version" = some (.string document.version) ∧
            Row.need members "types" readEntries = .ok document.entries ∧
              Row.need members "methods" readMethods = .ok document.methods ∧
                Row.need members "events" readAnnouncements = .ok document.announcements := by
  rw [Document.read, Shape.read_bind_eq_ok (ne_array_of_inForm hForm) (nodup_of_eq_object hOnce)]
  · simp only [bind_eq_ok, pure_eq_ok, need_text_eq_ok]
    constructor
    · intro h
      obtain ⟨members, rfl, hKeys, version, hVersion, entries, hEntries, methods, hMethods,
        announcements, hAnnouncements, rfl⟩ := h
      exact ⟨members, rfl, hKeys, hVersion, hEntries, hMethods, hAnnouncements⟩
    · intro h
      obtain ⟨members, rfl, hKeys, hVersion, hEntries, hMethods, hAnnouncements⟩ := h
      exact ⟨members, rfl, hKeys, document.version, hVersion, document.entries, hEntries,
        document.methods, hMethods, document.announcements, hAnnouncements, rfl⟩
  -- of the four columns none has a default
  · intro members h
    simp only [bind_eq_ok, pure_eq_ok] at h
    obtain ⟨version, hVersion, entries, hEntries, methods, hMethods, announcements,
      hAnnouncements, -⟩ := h
    simp only [Document.shape, List.forall_mem_cons]
    exact ⟨fun _ => Column.check_of_need hVersion, fun _ => Column.check_of_need hEntries,
      fun _ => Column.check_of_need hMethods, fun _ => Column.check_of_need hAnnouncements, by simp⟩

/-- A document, read and settled, apart from which version it states. -/
theorem exists_document_iff {d : Json} {manifest : Manifest} (hForm : objectForm d = true)
    (hOnce : d.keysOnce = true)
    (hVersion : d.member? "schema_version" = some (.string "wasm-abi/1")) :
    (∃ document, Document.read d = .ok document ∧ document.settle = .ok manifest) ↔
      Spells d manifest := by
  constructor
  · intro h
    obtain ⟨document, hDocument, hSettle⟩ := h
    obtain ⟨members, rfl, hKeys, -, hEntries, hMethods, hAnnouncements⟩ :=
      (Document.read_eq_ok hForm hOnce).mp hDocument
    -- each list of the document is settled by itself
    obtain ⟨hTypes, hSame, hEvents⟩ := Document.settle_eq_ok.mp hSettle
    refine ⟨hKeys, hVersion, (exists_entries_iff hForm hOnce).mp ⟨_, hEntries, hTypes⟩, ?_,
      (exists_announcements_iff hForm hOnce).mp ⟨_, hAnnouncements, hEvents⟩⟩
    rw [hSame]
    exact (need_methods_eq_ok hForm hOnce).mp hMethods
  · intro h
    obtain ⟨members, rfl, -⟩ := Json.exists_members_of_member? hVersion
    obtain ⟨hKeys, -, hTypes, hMethods, hEvents⟩ := h
    obtain ⟨entries, hEntries, hTypes⟩ := (exists_entries_iff hForm hOnce).mpr hTypes
    obtain ⟨announcements, hAnnouncements, hEvents⟩ :=
      (exists_announcements_iff hForm hOnce).mpr hEvents
    refine ⟨⟨"wasm-abi/1", entries, manifest.methods, announcements⟩, ?_,
      Document.settle_eq_ok.mpr ⟨hTypes, rfl, hEvents⟩⟩
    exact (Document.read_eq_ok hForm hOnce).mpr ⟨members, rfl, hKeys, hVersion, hEntries,
      (need_methods_eq_ok hForm hOnce).mpr hMethods, hAnnouncements⟩

/-- In object form, the version is the one that the document states under its key. -/
theorem checkVersion_eq_ok {d : Json} (hForm : objectForm d = true) :
    checkVersion d = .ok () ↔ d.member? "schema_version" = some (.string "wasm-abi/1") := by
  cases d with
  | object members =>
    rw [checkVersion, statedVersion, Json.member?]
    -- the key may be absent, or carry something that is no string, or another version
    cases members.lookup "schema_version" with
    | some value =>
      cases value with
      | string version =>
        by_cases hVersion : version = "wasm-abi/1"
        · simp [hVersion, schemaVersion, bind, Except.bind, pure, Except.pure]
        · simp [hVersion, schemaVersion, bind, Except.bind, throw, throwThe, MonadExceptOf.throw]
      | _ => simp [bind, Except.bind, throw, throwThe, MonadExceptOf.throw]
    | none => simp [bind, Except.bind, throw, throwThe, MonadExceptOf.throw]
  | array items => exact absurd rfl (ne_array_of_inForm hForm items)
  | _ => simp [checkVersion, statedVersion, Json.member?, bind, Except.bind]

/-- **Acceptance.** A document in object form, each of its objects with each of its keys once, is read
as a manifest exactly if it spells that manifest and the manifest is valid. -/
theorem ofJson_eq_ok_iff {d : Json} (hForm : objectForm d = true) (hOnce : d.keysOnce = true)
    (manifest : Manifest) :
    ofJson d = .ok manifest ↔ Spells d manifest ∧ manifest.Valid := by
  rw [ofJson_eq_ok, checkVersion_eq_ok hForm]
  constructor
  · intro h
    obtain ⟨hVersion, hDocument, hValid⟩ := h
    exact ⟨(exists_document_iff hForm hOnce hVersion).mp hDocument, hValid⟩
  · intro h
    obtain ⟨hSpells, hValid⟩ := h
    exact ⟨hSpells.version, (exists_document_iff hForm hOnce hSpells.version).mpr hSpells, hValid⟩

/-- A document with a type that refers to itself and an event without payload. -/
def nodeDocument : Json := .object [
  ("types", .object [
    ("Node", .object [
      ("fields", .array [
        .object [("name", .string "next"), ("nullable", .bool true),
          ("type", .object [("$ref", .string "Node")])]]),
      ("kind", .string "record")]),
    ("Tag", .object [("kind", .string "bytes"), ("size", .number (.unsigned 4))])]),
  ("methods", .array [
    .object [("name", .string "first"), ("returns", .object [("$ref", .string "Node")]),
      ("errors", .null)]]),
  ("events", .array [
    .object [("name", .string "Cleared"), ("payload", .object [("kind", .string "unit")])]]),
  ("schema_version", .string "wasm-abi/1")]

/-- The manifest that it spells. -/
def nodeManifest : Manifest where
  types := [("Node", .record [⟨"next", .named "Node", true⟩]), ("Tag", .bytes (some ⟨4, by decide⟩))]
  methods := [⟨"first", [], some (.named "Node"), false, none⟩]
  events := [⟨"Cleared", none⟩]

/-- It spells a valid manifest: the type may refer to itself, and the payload `unit` is none. -/
theorem ofJson_nodeDocument :
    objectForm nodeDocument = true ∧ nodeDocument.keysOnce = true ∧
      Spells nodeDocument nodeManifest ∧ nodeManifest.Valid :=
  ⟨by decide, by decide, (ofJson_eq_ok_iff (by decide) (by decide) nodeManifest).mp rfl⟩

end AbiBindings.Manifest
