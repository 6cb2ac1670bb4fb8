import AbiBindings.Proofs.Json.ArrayRows
import AbiBindings.Proofs.Manifest.Acceptance

/-!
# Manifest — which violation is reported

A document may break several rules in several places. Which violation is reported is fixed by the order of
the rules and then by the order of the document: the rules on sizes and on events come before those on types,
and among the types the nodes are taken in the order in which they are written, each node before what is
nested inside it.

* `First`, `Reports` — the first element of a list that is bad, and steps that report what is bad;
* `Document.nodes` — the nodes of all types that a document spells, each with its location;
* `Document.Violates`, `Document.Sound` — the violation to report, rule by rule, or none;
* `settle_eq_error`, `visitTypes_checkMapKey_eq_error`, `resolve_eq_error` — what each check reports;
* `ofJson_first_violation` — what is reported of an object.
-/

namespace AbiBindings.Manifest

/-! ## The first element -/

section First

variable {α : Type} {bad : α → Bool} {items : List α} {item : α}

/-- `item` is the first of `items` that `bad` holds of. -/
def First (bad : α → Bool) (items : List α) (item : α) : Prop :=
  ∃ before after, items = before ++ item :: after ∧ (∀ other ∈ before, bad other = false) ∧ bad item = true

/-- Only the elements that `bad` holds of matter. -/
theorem first_iff_filter : First bad items item ↔ ∃ rest, items.filter bad = item :: rest := by
  simp only [First, List.filter_eq_cons_iff, Bool.not_eq_true]
  constructor
  · intro h
    obtain ⟨before, after, hItems, hBefore, hItem⟩ := h
    exact ⟨_, before, after, hItems, hBefore, hItem, rfl⟩
  · intro h
    obtain ⟨_, before, after, hItems, hBefore, hItem, -⟩ := h
    exact ⟨before, after, hItems, hBefore, hItem⟩

/-- The first bad element is the same in two lists that differ only in good elements. -/
theorem first_congr {others : List α} (h : items.filter bad = others.filter bad) :
    First bad items item ↔ First bad others item := by
  rw [first_iff_filter, first_iff_filter, h]

theorem forall_good_congr {others : List α} (h : items.filter bad = others.filter bad) :
    (∀ item ∈ items, bad item = false) ↔ ∀ item ∈ others, bad item = false := by
  simp only [← Bool.not_eq_true]
  rw [← List.filter_eq_nil_iff, ← List.filter_eq_nil_iff, h]

theorem not_first_nil : ¬ First bad [] item := by
  simp [first_iff_filter]

/-- Either the head is bad and the first, or it is good and the first is further down. -/
theorem first_cons {head : α} : First bad (head :: items) item ↔
    (bad head = true ∧ item = head) ∨ (bad head = false ∧ First bad items item) := by
  simp only [first_iff_filter, List.filter_cons]
  cases bad head <;> simp [eq_comm]

section Steps

variable {ε β : Type} {fault : α → ε → Prop} {e : ε}

/-- A step that fails on what is bad, with a fault of it, and on nothing else. -/
structure Reports (bad : α → Bool) (fault : α → ε → Prop) (step : α → Except ε β) : Prop where
  error : ∀ a e, step a = .error e ↔ bad a = true ∧ fault a e
  fault : ∀ a, bad a = true → ∃ e, fault a e

/-- Such a step succeeds exactly on what is not bad: on what is bad there is always a fault to report. -/
theorem Reports.exists_ok {step : α → Except ε β} (h : Reports bad fault step) (a : α) :
    (∃ b, step a = .ok b) ↔ bad a = false := by
  cases hStep : step a with
  | ok b =>
    refine iff_of_true ⟨b, rfl⟩ (Bool.eq_false_iff.mpr fun hBad => ?_)
    obtain ⟨e, hFault⟩ := h.fault a hBad
    have hError := (h.error a e).mpr ⟨hBad, hFault⟩
    simp [hStep] at hError
  | error e =>
    have hBad := ((h.error a e).mp hStep).1
    exact iff_of_false (by simp) (by simp [hBad])

/-- Steps in a row report a fault of the first element that is bad. -/
theorem Reports.mapM_eq_error {step : α → Except ε β} (h : Reports bad fault step) :
    items.mapM step = .error e ↔ ∃ item, First bad items item ∧ fault item e := by
  rw [mapM_eq_error_iff]
  simp only [h.exists_ok, h.error]
  constructor
  · intro hError
    obtain ⟨before, item, after, hItems, hBefore, hBad, hFault⟩ := hError
    exact ⟨item, ⟨before, after, hItems, hBefore, hBad⟩, hFault⟩
  · intro hFirst
    obtain ⟨item, ⟨before, after, hItems, hBefore, hBad⟩, hFault⟩ := hFirst
    exact ⟨before, item, after, hItems, hBefore, hBad, hFault⟩

theorem Reports.exists_mapM_eq_ok {step : α → Except ε β} (h : Reports bad fault step) :
    (∃ bs, items.mapM step = .ok bs) ↔ ∀ item ∈ items, bad item = false := by
  simp only [AbiBindings.exists_mapM_eq_ok, h.exists_ok]

/-- Steps that give nothing back report a fault of the first bad element too. -/
theorem Reports.forM_eq_error {step : α → Except ε Unit} (h : Reports bad fault step) :
    forM items step = .error e ↔ ∃ item, First bad items item ∧ fault item e := by
  induction items with
  | nil => simp [not_first_nil, pure, Except.pure]
  | cons head items ih =>
    -- a step that gives nothing back has only one way to succeed
    have hOk : step head = .ok () ↔ bad head = false := by
      rw [← h.exists_ok]
      exact ⟨fun hStep => ⟨(), hStep⟩, fun ⟨(), hStep⟩ => hStep⟩
    rw [List.forM_cons, check_bind_eq_error, ih, h.error, hOk]
    simp only [first_cons, or_and_right, exists_or, and_assoc, exists_and_left]
    simp

end Steps

end First

/-! ## What a document spells -/

/-- A byte string of length zero. -/
def Entry.isEmptyBytes : Entry → Bool
  | .bytes (some count) => count = 0
  | _ => false

/-- The nodes of a definition as it is spelled. -/
def Entry.nodes (location : String) : Entry → List (TypeRef × String)
  | .record fields => fieldNodes location fields
  | .variant variants => variants.flatMap fun variant =>
    payloadNodes (location ++ "." ++ variant.name) variant.payload?
  | .bytes _ => []

/-- The nodes of an event as it is spelled. -/
def Announcement.nodes (event : Announcement) : List (TypeRef × String) :=
  payloadNodes ("events." ++ event.name ++ ".payload") event.payload?

/-- The nodes of a document: those of the type table, of the methods, and of the events. -/
def Document.nodes (document : Document) : List (TypeRef × String) :=
  document.entries.flatMap (fun (name, entry) => entry.nodes ("types." ++ name))
    ++ (document.methods.flatMap Method.nodes ++ document.announcements.flatMap Announcement.nodes)

/-- The names in the type table of a document. -/
def Document.names (document : Document) : List String := document.entries.map (·.1)

/-- A map whose keys are not strings. -/
def TypeRef.hasForeignKeys : TypeRef → Bool
  | .map key _ => key ≠ .primitive .string
  | _ => false

/-- A reference to none of these names. -/
def TypeRef.danglesIn (names : List String) : TypeRef → Bool
  | .named name => !names.contains name
  | _ => false

/-- What a document must not contain, in the order of the rules: the error to report is that of the first
violation of the first rule that is broken. -/
inductive Document.Violates (document : Document) : LoadError → Prop
  | zeroSize {name : String} {entry : Entry}
      (hFirst : First (·.2.isEmptyBytes) document.entries (name, entry)) :
      Violates document (.schema (.zeroSizeBytes name))
  | eventType {event : Announcement}
      (hSizes : ∀ entry ∈ document.entries, entry.2.isEmptyBytes = false)
      (hFirst : First (·.hasType) document.announcements event) :
      Violates document (.schema (.eventTypeField event.name))
  | mapKey {key value : TypeRef} {location : String}
      (hSizes : ∀ entry ∈ document.entries, entry.2.isEmptyBytes = false)
      (hEvents : ∀ event ∈ document.announcements, event.hasType = false)
      (hFirst : First (·.1.hasForeignKeys) document.nodes (.map key value, location)) :
      Violates document (.schema (.nonStringMapKey location key.kindName))
  | dangling {name location : String}
      (hSizes : ∀ entry ∈ document.entries, entry.2.isEmptyBytes = false)
      (hEvents : ∀ event ∈ document.announcements, event.hasType = false)
      (hKeys : ∀ node ∈ document.nodes, node.1.hasForeignKeys = false)
      (hFirst : First (·.1.danglesIn document.names) document.nodes (.named name, location)) :
      Violates document (.dangling ⟨name, location⟩)

/-- A document that breaks none of the rules. -/
structure Document.Sound (document : Document) : Prop where
  sizes : ∀ entry ∈ document.entries, entry.2.isEmptyBytes = false
  events : ∀ event ∈ document.announcements, event.hasType = false
  keys : ∀ node ∈ document.nodes, node.1.hasForeignKeys = false
  references : ∀ node ∈ document.nodes, node.1.danglesIn document.names = false

/-! ## Sizes and events -/

/-- Only a byte string can be refused, and only for the length zero. -/
theorem Entry.settle_eq_error {name : String} {entry : Entry} {e : SchemaError} :
    entry.settle name = .error e ↔ entry.isEmptyBytes = true ∧ e = .zeroSizeBytes name := by
  -- the records, the variants, the byte strings without a length, and those with one
  unfold Entry.settle Entry.isEmptyBytes
  split
  next => simp
  next => simp
  next => simp
  next count => by_cases hZero : count = 0 <;> simp [hZero, eq_comm]

/-- Settling an entry reports a length of zero. -/
theorem reports_settleEntry : Reports (·.2.isEmptyBytes)
    (fun (entry : String × Entry) e => e = SchemaError.zeroSizeBytes entry.1)
    fun entry => (entry.1, ·) <$> entry.2.settle entry.1 where
  error entry e := by
    rw [← Entry.settle_eq_error]
    cases entry.2.settle entry.1 <;> simp [Functor.map, Except.map]
  fault entry _ := ⟨_, rfl⟩

/-- Settling an event reports the member `type`. -/
theorem reports_settleEvent : Reports (·.hasType)
    (fun event e => e = SchemaError.eventTypeField event.name) Announcement.settle where
  error event e := by
    unfold Announcement.settle
    cases event.hasType <;> simp [eq_comm]
  fault event _ := ⟨_, rfl⟩

section Settle

variable {document : Document} {manifest : Manifest}

/-- What settling a document reports: the first byte string of length zero, or else the first event with the
member `type`. -/
theorem Document.settle_eq_error {e : SchemaError} :
    document.settle = .error e ↔
      (∃ entry, First (·.2.isEmptyBytes) document.entries entry ∧ e = .zeroSizeBytes entry.1) ∨
        (∀ entry ∈ document.entries, entry.2.isEmptyBytes = false) ∧
          ∃ event, First (·.hasType) document.announcements event ∧ e = .eventTypeField event.name := by
  rw [Document.settle, bind_eq_error, reports_settleEntry.mapM_eq_error]
  simp only [bind_pure_eq_error, reports_settleEvent.mapM_eq_error, exists_and_right,
    reports_settleEntry.exists_mapM_eq_ok]

/-- A document can be settled if it has no byte string of length zero and no event with the member `type`. -/
theorem Document.exists_settle_eq_ok : (∃ manifest, document.settle = .ok manifest) ↔
    (∀ entry ∈ document.entries, entry.2.isEmptyBytes = false) ∧
      ∀ event ∈ document.announcements, event.hasType = false := by
  -- the entries can be settled if none is refused, and so can the announcements
  rw [← reports_settleEntry.exists_mapM_eq_ok, ← reports_settleEvent.exists_mapM_eq_ok]
  simp only [Document.settle, bind_eq_ok, pure_eq_ok]
  constructor
  · intro h
    obtain ⟨_, types, hTypes, events, hEvents, -⟩ := h
    exact ⟨⟨types, hTypes⟩, events, hEvents⟩
  · intro h
    obtain ⟨⟨types, hTypes⟩, events, hEvents⟩ := h
    exact ⟨_, types, hTypes, events, hEvents, rfl⟩

/-! ## Nodes of a document and of its manifest -/

/-- The table keeps its names, since settling an entry does not touch its name. -/
theorem Document.names_of_settle (h : document.settle = .ok manifest) :
    manifest.types.map (·.1) = document.names := by
  obtain ⟨hTypes, -, -⟩ := Document.settle_eq_ok.mp h
  exact (map_eq_map_of_forall₂ hTypes fun _ _ hEntry => hEntry.1).symm

/-- A definition has the nodes of the entry it is settled from: what settling looks at, the length of a byte
string, is no node. -/
theorem Entry.nodes_of_settle {name location : String} {entry : Entry} {definition : TypeDef}
    (h : entry.settle name = .ok definition) : definition.nodes location = entry.nodes location := by
  cases entry with
  | record fields =>
    obtain rfl := Except.ok.inj h
    rfl
  | variant variants =>
    obtain rfl := Except.ok.inj h
    rfl
  | bytes count? =>
    obtain ⟨settled?, rfl, -⟩ := Entry.settle_bytes_eq_ok.mp h
    rfl

/-- An event loses a `unit` when it is settled, and no other node. -/
theorem Announcement.filter_nodes_of_settle {bad : TypeRef × String → Bool}
    (hUnit : ∀ location, bad (.primitive .unit, location) = false) {event : Announcement} {settled : Event}
    (h : event.settle = .ok settled) : settled.nodes.filter bad = event.nodes.filter bad := by
  obtain ⟨-, rfl⟩ := Announcement.settle_eq_ok.mp h
  rw [Event.nodes, Announcement.nodes, payload_ofPayload]
  -- a `unit` as the payload is dropped, and `bad` does not hold of it
  split
  next hPayload => simp [hPayload, payloadNodes, TypeRef.nodes, hUnit]
  next => rfl

/-- Related lists have the same bad nodes, if related elements have. -/
theorem filter_flatMap_congr {α β γ : Type} {R : α → β → Prop} {bad : γ → Bool} {f : α → List γ}
    {g : β → List γ} {as : List α} {bs : List β} (h : List.Forall₂ R as bs)
    (hNodes : ∀ a b, R a b → (g b).filter bad = (f a).filter bad) :
    (bs.flatMap g).filter bad = (as.flatMap f).filter bad := by
  rw [List.filter_flatMap, List.filter_flatMap, List.flatMap_def, List.flatMap_def,
    map_eq_map_of_forall₂ h fun a b hab => (hNodes a b hab).symm]

/-- A document and its manifest have the same nodes, but for a `unit` as the payload of an event. -/
theorem Document.filter_nodes_of_settle (h : document.settle = .ok manifest)
    {bad : TypeRef × String → Bool} (hUnit : ∀ location, bad (.primitive .unit, location) = false) :
    manifest.nodes.filter bad = document.nodes.filter bad := by
  obtain ⟨hTypes, hMethods, hEvents⟩ := Document.settle_eq_ok.mp h
  have hEventNodes : (manifest.events.flatMap Event.nodes).filter bad
      = (document.announcements.flatMap Announcement.nodes).filter bad :=
    filter_flatMap_congr hEvents fun event settled hEvent =>
      Announcement.filter_nodes_of_settle hUnit hEvent
  rw [Manifest.nodes, Document.nodes, hMethods, List.filter_append, List.filter_append, List.filter_append,
    List.filter_append, hEventNodes, filter_flatMap_congr hTypes]
  -- what is left: an entry and its definition, which have the same name
  intro entry settled hEntry
  obtain ⟨name, entry⟩ := entry
  obtain ⟨other, definition⟩ := settled
  obtain rfl : name = other := hEntry.1
  exact congrArg (List.filter bad) (Entry.nodes_of_settle hEntry.2)

end Settle

/-! ## Keys and references -/

section Types

variable {manifest : Manifest}

/-- The check of one node fails on a map whose keys are not strings and on nothing else; the error carries
the location of the map and the kind of its keys. -/
theorem checkMapKey_eq_error {type : TypeRef} {location : String} {e : SchemaError} :
    checkMapKey type location = .error e ↔
      type.hasForeignKeys = true ∧
        ∃ key value, type = .map key value ∧ e = .nonStringMapKey location key.kindName := by
  cases type with
  | map key value =>
    by_cases hKey : key = .primitive .string
    · simp [hKey, checkMapKey, TypeRef.hasForeignKeys]
    -- the key is some other type, so the first branch is out, and with it the last
    · unfold checkMapKey
      split
      next hEq => exact absurd (TypeRef.map.inj hEq).1 hKey
      next _ _ hEq =>
        obtain ⟨rfl, rfl⟩ := TypeRef.map.inj hEq
        simp [hKey, TypeRef.hasForeignKeys, eq_comm]
      next hOther => exact absurd rfl (hOther key value)
  | _ => simp [checkMapKey, TypeRef.hasForeignKeys]

/-- The check of keys reports a map whose keys are not strings, with its location and the kind of the keys. -/
theorem reports_checkMapKey : Reports (·.1.hasForeignKeys)
    (fun (node : TypeRef × String) e =>
      ∃ key value, node.1 = .map key value ∧ e = SchemaError.nonStringMapKey node.2 key.kindName)
    fun node => checkMapKey node.1 node.2 where
  error _ _ := checkMapKey_eq_error
  fault node hBad := by
    obtain ⟨type, location⟩ := node
    cases type with
    | map key value => exact ⟨_, key, value, rfl, rfl⟩
    | _ => simp [TypeRef.hasForeignKeys] at hBad

/-- What the check of keys reports of a manifest: the first map whose keys are not strings. -/
theorem visitTypes_checkMapKey_eq_error {e : SchemaError} :
    manifest.visitTypes checkMapKey = .error e ↔
      ∃ node, First (·.1.hasForeignKeys) manifest.nodes node ∧
        ∃ key value, node.1 = .map key value ∧ e = .nonStringMapKey node.2 key.kindName := by
  rw [visitTypes_eq_forM, reports_checkMapKey.forM_eq_error]

theorem hasTextKeys_iff {type : TypeRef} : HasTextKeys type ↔ type.hasForeignKeys = false := by
  cases type <;> simp [HasTextKeys, TypeRef.hasForeignKeys]

theorem resolved_iff {type : TypeRef} :
    manifest.Resolved type ↔ type.danglesIn (manifest.types.map (·.1)) = false := by
  cases type <;> simp [Resolved, TypeRef.danglesIn]

/-- One step of the count fails on a reference that names nothing, whatever has been counted. -/
theorem countReference_eq_error {node : TypeRef} {location : String} {n : Nat} {e : Dangling} :
    (countReference manifest node location).run n = .error e ↔
      node.danglesIn (manifest.types.map (·.1)) = true ∧ ∃ name, node = .named name ∧ e = ⟨name, location⟩ := by
  cases node with
  | named name =>
    -- a name dangles if the table does not have it
    have hDangles : (TypeRef.named name).danglesIn (manifest.types.map (·.1)) = true ↔
        ¬ (manifest.findType? name).isSome := by
      rw [findType?_isSome]
      simp [TypeRef.danglesIn]
    rw [hDangles, countReference]
    split
    next hFound =>
      simp [hFound, StateT.run, modify, modifyGet, MonadStateOf.modifyGet, StateT.modifyGet, pure,
        Except.pure]
    next hMissing =>
      simp [hMissing, throw, throwThe, MonadExceptOf.throw, StateT.lift, StateT.run, bind, Except.bind,
        eq_comm]
  | _ => simp [countReference, TypeRef.danglesIn, pure_ne_error]

/-- Going through the nodes, the count fails on the first reference that names nothing. The count itself
plays no part in that. -/
theorem forM_countReference_eq_error {nodes : List (TypeRef × String)} {n : Nat} {e : Dangling} :
    (forM nodes fun node => countReference manifest node.1 node.2).run n = .error e ↔
      ∃ node, First (·.1.danglesIn (manifest.types.map (·.1))) nodes node ∧
        ∃ name, node.1 = .named name ∧ e = ⟨name, node.2⟩ := by
  -- on the nodes; the number counted so far differs from step to step
  induction nodes generalizing n with
  | nil => simp [not_first_nil, pure_ne_error]
  | cons head nodes ih =>
    rw [List.forM_cons, StateT.run_bind, bind_eq_error, countReference_eq_error]
    constructor
    · rintro (⟨hBad, hFault⟩ | ⟨⟨⟨⟩, k⟩, hHead, hTail⟩)
      -- the head names nothing, or the failure is further down
      · exact ⟨head, first_cons.mpr (Or.inl ⟨hBad, rfl⟩), hFault⟩
      · obtain ⟨hResolved, -⟩ := countReference_eq_ok.mp hHead
        obtain ⟨node, hFirst, hFault⟩ := ih.mp hTail
        exact ⟨node, first_cons.mpr (Or.inr ⟨resolved_iff.mp hResolved, hFirst⟩), hFault⟩
    · intro h
      obtain ⟨node, hFirst, hFault⟩ := h
      rcases first_cons.mp hFirst with ⟨hBad, rfl⟩ | ⟨hGood, hFirst⟩
      · exact Or.inl ⟨hBad, hFault⟩
      · exact Or.inr ⟨((), n + if head.1.isNamed then 1 else 0),
          countReference_eq_ok.mpr ⟨resolved_iff.mpr hGood, rfl⟩, ih.mpr ⟨node, hFirst, hFault⟩⟩

/-- What resolving reports: the first reference that names nothing, and where it stands. -/
theorem resolve_eq_error {e : Dangling} :
    resolve manifest = .error e ↔
      ∃ node, First (·.1.danglesIn (manifest.types.map (·.1))) manifest.nodes node ∧
        ∃ name, node.1 = .named name ∧ e = ⟨name, node.2⟩ := by
  rw [resolve, visitTypes_eq_forM, bind_pure_eq_error, forM_countReference_eq_error]

/-! The checks on a manifest, said of the document that it is settled from. -/

section Transfer

variable {document : Document} (hSettle : document.settle = .ok manifest)

include hSettle

/-- A `unit` is no map, so the first map that is refused can be looked up in the document. -/
theorem first_hasForeignKeys {node : TypeRef × String} :
    First (·.1.hasForeignKeys) manifest.nodes node ↔ First (·.1.hasForeignKeys) document.nodes node :=
  first_congr (Document.filter_nodes_of_settle hSettle fun _ => rfl)

/-- A `unit` is no reference either, and the names to look for are those of the document. -/
theorem first_danglesIn {node : TypeRef × String} :
    First (·.1.danglesIn (manifest.types.map (·.1))) manifest.nodes node ↔
      First (·.1.danglesIn document.names) document.nodes node := by
  rw [Document.names_of_settle hSettle]
  exact first_congr (Document.filter_nodes_of_settle hSettle fun _ => rfl)

/-- All maps of the manifest have strings as keys if those of the document have. -/
theorem visitTypes_checkMapKey_settle : manifest.visitTypes checkMapKey = .ok () ↔
    ∀ node ∈ document.nodes, node.1.hasForeignKeys = false := by
  rw [visitTypes_checkMapKey,
    ← forall_good_congr (Document.filter_nodes_of_settle hSettle fun _ => rfl)]
  simp only [hasTextKeys_iff]

/-- All references of the manifest name something if those of the document do. -/
theorem resolved_settle : (∀ node ∈ manifest.nodes, manifest.Resolved node.1) ↔
    ∀ node ∈ document.nodes, node.1.danglesIn document.names = false := by
  rw [← forall_good_congr (Document.filter_nodes_of_settle hSettle fun _ => rfl),
    ← Document.names_of_settle hSettle]
  simp only [resolved_iff]

end Transfer

end Types

/-! ## Reading an object -/

section Objects

variable {members : List (String × Json)} {document : Document}

/-- Any version but the known one is refused, and the error carries it. -/
theorem checkVersion_of_lookup {version : String}
    (h : members.lookup "schema_version" = some (.string version)) :
    checkVersion (.object members)
      = if version = "wasm-abi/1" then .ok () else .error (.unsupportedVersion version) := by
  rw [checkVersion, statedVersion, h]
  by_cases hVersion : version = "wasm-abi/1"
  · simp [hVersion, schemaVersion, bind, Except.bind, pure, Except.pure]
  · simp [hVersion, schemaVersion, bind, Except.bind, throw, throwThe, MonadExceptOf.throw]

/-- Version and events of a document stand in the members of the object it is read from. -/
theorem Document.members_of_read (h : Document.read (.object members) = .ok document) :
    members.lookup "schema_version" = some (.string document.version) ∧
      ∃ items, members.lookup "events" = some (.array items) ∧
        List.Forall₂ (fun item event => Announcement.read item = .ok event) items document.announcements := by
  simp only [Document.read, bind_eq_ok, pure_eq_ok] at h
  obtain ⟨row, hRow, version, hVersion, -, -, -, -, announcements, hAnnouncements, rfl⟩ := h
  obtain ⟨rfl, -⟩ := Json.Shape.onlyKeys_of_read hRow
  obtain ⟨value, hEvents, hRead⟩ := Json.Row.need_eq_ok.mp hAnnouncements
  obtain ⟨items, rfl, hItems⟩ := Json.readList_eq_ok.mp hRead
  exact ⟨need_text_eq_ok.mp hVersion, items, hEvents, hItems⟩

/-- Whether an event as it stands in a document carries the member `type`, whatever its value: under its key,
or in the third place of an array. -/
def carriesType : Json → Bool
  | .object members => (members.lookup "type").isSome
  | .array items => items.length = 3
  | _ => false

/-- What is kept of the member `type` is whether it is there, so it can be seen before the event is decoded. -/
theorem Announcement.hasType_of_read {item : Json} {event : Announcement}
    (h : Announcement.read item = .ok event) : event.hasType = carriesType item := by
  simp only [Announcement.read, bind_eq_ok, pure_eq_ok, maybe_presence_eq_ok] at h
  obtain ⟨row, hRow, _, -, _, -, hasType, rfl, rfl⟩ := h
  -- the object has the key or not; the array is looked at by its length
  cases item with
  | object members =>
    obtain ⟨rfl, -⟩ := Json.Shape.onlyKeys_of_read hRow
    rfl
  | array items =>
    obtain ⟨hLength, rfl⟩ := Json.Shape.row_of_array hRow
    simp only [Announcement.shape, List.length_cons, List.length_nil] at hLength
    -- there are three columns, so the third item is the one behind the payload, if there is one
    rcases items with _ | ⟨_, _ | ⟨_, _ | ⟨_, _ | ⟨_, rest⟩⟩⟩⟩
    · rfl
    · rfl
    · rfl
    · rfl
    · simp only [List.length_cons] at hLength
      omega
  | _ => simp [Json.Shape.read] at hRow

variable (hVersion : checkVersion (.object members) = .ok ())
  (hRead : Document.read (.object members) = .ok document)

include hVersion hRead

/-- With the version checked and the document decoded, the sizes, the events and the keys are left to check. -/
theorem validate_eq_settle : validate (.object members) = do
    let manifest ← document.settle
    manifest.visitTypes checkMapKey
    return manifest := by
  rw [validate, hVersion, hRead]
  rfl

/-- Sizes, events and keys are checked first, references last. -/
theorem ofJson_eq_error {e : LoadError} : ofJson (.object members) = .error e ↔
    (∃ cause, document.settle = .error cause ∧ e = .schema cause) ∨
      ∃ manifest, document.settle = .ok manifest ∧
        ((∃ cause, manifest.visitTypes checkMapKey = .error cause ∧ e = .schema cause) ∨
          manifest.visitTypes checkMapKey = .ok () ∧
            ∃ cause, resolve manifest = .error cause ∧ e = .dangling cause) := by
  rw [ofJson, validate_eq_settle hVersion hRead]
  -- case by case in the order of the checks; behind the first that fails none is made
  cases document.settle with
  | error cause => simp [bind, Except.bind, Except.mapError, eq_comm]
  | ok manifest =>
    cases hKeys : manifest.visitTypes checkMapKey with
    | error cause => simp [bind, Except.bind, Except.mapError, eq_comm, hKeys]
    | ok =>
      cases hResolve : resolve manifest <;>
        simp [bind, Except.bind, Except.mapError, eq_comm, hKeys, hResolve, pure, Except.pure]

/-- What is reported of an object that decodes: the first violation, rule by rule. -/
theorem ofJson_object_eq_error {e : LoadError} :
    ofJson (.object members) = .error e ↔ document.Violates e := by
  rw [ofJson_eq_error hVersion hRead]
  constructor
  · rintro (⟨cause, hSettle, rfl⟩ | ⟨manifest, hSettle, hTypes⟩)
    -- a size or an event is refused
    · rcases Document.settle_eq_error.mp hSettle with ⟨entry, hFirst, rfl⟩ | ⟨hSizes, event, hFirst, rfl⟩
      · exact .zeroSize hFirst
      · exact .eventType hSizes hFirst
    -- the document settles, so the error comes from a key or from a reference
    · obtain ⟨hSizes, hEvents⟩ := Document.exists_settle_eq_ok.mp ⟨manifest, hSettle⟩
      rcases hTypes with ⟨cause, hKeys, rfl⟩ | ⟨hKeys, cause, hResolve, rfl⟩
      · obtain ⟨⟨type, location⟩, hFirst, key, value, hType, rfl⟩ := visitTypes_checkMapKey_eq_error.mp hKeys
        obtain rfl : type = .map key value := hType
        exact .mapKey hSizes hEvents ((first_hasForeignKeys hSettle).mp hFirst)
      · obtain ⟨⟨type, location⟩, hFirst, name, hType, rfl⟩ := resolve_eq_error.mp hResolve
        obtain rfl : type = .named name := hType
        exact .dangling hSizes hEvents ((visitTypes_checkMapKey_settle hSettle).mp hKeys)
          ((first_danglesIn hSettle).mp hFirst)
  · intro h
    -- each rule is only reached with the rules before it kept, which is what lets the document settle
    cases h with
    | zeroSize hFirst =>
      exact Or.inl ⟨_, Document.settle_eq_error.mpr (Or.inl ⟨_, hFirst, rfl⟩), rfl⟩
    | eventType hSizes hFirst =>
      exact Or.inl ⟨_, Document.settle_eq_error.mpr (Or.inr ⟨hSizes, _, hFirst, rfl⟩), rfl⟩
    | mapKey hSizes hEvents hFirst =>
      obtain ⟨manifest, hSettle⟩ := Document.exists_settle_eq_ok.mpr ⟨hSizes, hEvents⟩
      have hKeys := visitTypes_checkMapKey_eq_error.mpr
        ⟨_, (first_hasForeignKeys hSettle).mpr hFirst, _, _, rfl, rfl⟩
      exact Or.inr ⟨manifest, hSettle, Or.inl ⟨_, hKeys, rfl⟩⟩
    | dangling hSizes hEvents hKeys hFirst =>
      obtain ⟨manifest, hSettle⟩ := Document.exists_settle_eq_ok.mpr ⟨hSizes, hEvents⟩
      have hResolve := resolve_eq_error.mpr ⟨_, (first_danglesIn hSettle).mpr hFirst, _, rfl, rfl⟩
      exact Or.inr ⟨manifest, hSettle, Or.inr
        ⟨(visitTypes_checkMapKey_settle hSettle).mpr hKeys, _, hResolve, rfl⟩⟩

/-- An object that decodes is read exactly if its document breaks none of the rules. -/
theorem exists_ofJson_eq_ok : (∃ manifest, ofJson (.object members) = .ok manifest) ↔ document.Sound := by
  simp only [ofJson_eq_ok, hVersion, hRead, Except.ok.injEq, true_and, exists_eq_left']
  constructor
  -- each rule is one of the parts of settling or of being valid
  · intro h
    obtain ⟨manifest, hSettle, hValid⟩ := h
    obtain ⟨hSizes, hEvents⟩ := Document.exists_settle_eq_ok.mp ⟨manifest, hSettle⟩
    exact ⟨hSizes, hEvents, (visitTypes_checkMapKey_settle hSettle).mp
      (visitTypes_checkMapKey.mpr hValid.textKeys), (resolved_settle hSettle).mp hValid.resolved⟩
  · intro h
    obtain ⟨hSizes, hEvents, hKeys, hReferences⟩ := h
    obtain ⟨manifest, hSettle⟩ := Document.exists_settle_eq_ok.mpr ⟨hSizes, hEvents⟩
    exact ⟨manifest, hSettle, (resolved_settle hSettle).mpr hReferences,
      visitTypes_checkMapKey.mp ((visitTypes_checkMapKey_settle hSettle).mpr hKeys)⟩

end Objects

/-- **The first violation.** An object that states another version is refused for that alone. Any other object
that decodes is refused for the first violation in the order of the rules, sizes, events, keys of maps,
references, and of the document, with the location of the node; if there is none, it is read. Which events
carry the member `type` can be seen in the object. -/
theorem ofJson_first_violation (members : List (String × Json)) :
    (∀ version, members.lookup "schema_version" = some (.string version) → version ≠ "wasm-abi/1" →
      ofJson (.object members) = .error (.schema (.unsupportedVersion version))) ∧
    ∀ document, Document.read (.object members) = .ok document → document.version = "wasm-abi/1" →
      (∀ e, ofJson (.object members) = .error e ↔ document.Violates e) ∧
      ((∃ manifest, ofJson (.object members) = .ok manifest) ↔ document.Sound) ∧
      ∃ items, members.lookup "events" = some (.array items) ∧
        document.announcements.map (·.hasType) = items.map carriesType := by
  -- the version is stated in the object itself, before anything is decoded
  constructor
  · intro version hLookup hVersion
    rw [ofJson, validate, checkVersion_of_lookup hLookup, if_neg hVersion]
    rfl
  · intro document hRead hVersion
    obtain ⟨hLookup, items, hEvents, hItems⟩ := Document.members_of_read hRead
    have hChecked : checkVersion (.object members) = .ok () := by
      rw [checkVersion_of_lookup hLookup, if_pos hVersion]
    exact ⟨fun e => ofJson_object_eq_error hChecked hRead, exists_ofJson_eq_ok hChecked hRead, items, hEvents,
      (map_eq_map_of_forall₂ hItems fun _ _ hItem => (Announcement.hasType_of_read hItem).symm).symm⟩

/-- An object with a map whose keys are maps, with numbers as keys in turn, and two references to nothing. -/
def tangledMembers : List (String × Json) := [
  ("schema_version", .string "wasm-abi/1"),
  ("types", .object [
    ("Index", .object [("kind", .string "record"), ("fields", .array [
      .object [("name", .string "next"), ("type", .object [("$ref", .string "Gone")])],
      .object [("name", .string "pages"), ("type", .object [("kind", .string "list"),
        ("items", .object [("kind", .string "map"),
          ("value", .object [("$ref", .string "Gone")]),
          ("key", .object [("kind", .string "map"), ("key", .object [("kind", .string "u32")]),
            ("value", .object [("kind", .string "string")])])])])]])])]),
  ("methods", .array []),
  ("events", .array [.object [("name", .string "Moved")]])]

/-- The document that it decodes into. -/
def tangledDocument : Document where
  version := "wasm-abi/1"
  entries := [("Index", .record [⟨"next", .named "Gone", false⟩,
    ⟨"pages", .list (.map (.map (.primitive .u32) (.primitive .string)) (.named "Gone")), false⟩])]
  methods := []
  announcements := [⟨"Moved", none, false⟩]

/-- The outer map is reported, although a reference before it names nothing. -/
theorem tangledMembers_first_violation :
    (Document.read (.object tangledMembers) = .ok tangledDocument ∧
      tangledDocument.version = "wasm-abi/1" ∧
      tangledDocument.Violates (.schema (.nonStringMapKey "types.Index.pages.items" "map"))) ∧
    ofJson (.object [("schema_version", .string "wasm-abi/2")])
      = .error (.schema (.unsupportedVersion "wasm-abi/2")) := by
  obtain ⟨hVersion, -⟩ := ofJson_first_violation [("schema_version", .string "wasm-abi/2")]
  obtain ⟨-, hRules⟩ := ofJson_first_violation tangledMembers
  obtain ⟨hErrors, -⟩ := hRules tangledDocument rfl rfl
  exact ⟨⟨rfl, rfl, (hErrors _).mp rfl⟩, hVersion "wasm-abi/2" rfl (by decide)⟩

end AbiBindings.Manifest
