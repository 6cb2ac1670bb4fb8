import AbiBindings.Manifest.Validation
import AbiBindings.Proofs.Manifest.Nodes
import AbiBindings.Proofs.Success

/-!
# Manifest — which documents are accepted

Reading a manifest checks one rule after the other. What survives is a document of the right version
and shape, and a manifest in which the types make sense together. The second half does not speak of
the document any more, so it is a predicate on manifests:

* `Valid` — every reference names an entry of the type table, and the keys of every map are strings,
  at every node of every type;
* `resolve_eq_ok_iff` — references are resolved exactly if all of them name an entry, and then they
  have been counted;
* `ofJson_eq_ok` — reading succeeds exactly if version, shape and declarations are right and the
  manifest is valid;
* `valid_of_ofJson` — every manifest that was read is valid.
-/

namespace AbiBindings.Manifest

/-! ## Manifests whose types make sense together -/

/-- A reference that names an entry of the type table; other nodes are as they should be. -/
def Resolved (manifest : Manifest) (node : TypeRef) : Prop :=
  ∀ name, node = .named name → name ∈ manifest.types.map (·.1)

/-- A map whose keys are strings; other nodes are as they should be. -/
def HasTextKeys (node : TypeRef) : Prop :=
  ∀ key value, node = .map key value → key = .primitive .string

/-- A manifest in which every reference names a type and the keys of every map are strings, however
deep they stand. Types may refer to each other in a circle. -/
structure Valid (manifest : Manifest) : Prop where
  resolved : ∀ node ∈ manifest.nodes, manifest.Resolved node.1
  textKeys : ∀ node ∈ manifest.nodes, HasTextKeys node.1

/-! ## Map keys -/

theorem checkMapKey_eq_ok {node : TypeRef} {location : String} :
    checkMapKey node location = .ok () ↔ HasTextKeys node := by
  unfold checkMapKey HasTextKeys
  split <;> simp_all

theorem visitTypes_checkMapKey {manifest : Manifest} :
    manifest.visitTypes checkMapKey = .ok () ↔ ∀ node ∈ manifest.nodes, HasTextKeys node.1 := by
  rw [visitTypes_eq_forM, forM_eq_ok_iff]
  simp only [checkMapKey_eq_ok]

/-! ## References -/

/-- Whether a node is a reference to an entry of the type table. -/
def TypeRef.isNamed : TypeRef → Bool
  | .named _ => true
  | _ => false

/-- What is found in the type table is what has an entry in it. -/
theorem findType?_isSome {manifest : Manifest} {name : String} :
    (manifest.findType? name).isSome ↔ name ∈ manifest.types.map (·.1) := by
  rw [findType?, List.lookup_isSome_iff, List.mem_map]
  constructor
  · intro h
    obtain ⟨entry, hEntry, hName⟩ := h
    exact ⟨entry, hEntry, (beq_iff_eq.mp hName).symm⟩
  · intro h
    obtain ⟨entry, hEntry, rfl⟩ := h
    exact ⟨entry, hEntry, beq_iff_eq.mpr rfl⟩

theorem resolved_named {manifest : Manifest} {name : String} :
    manifest.Resolved (.named name) ↔ (manifest.findType? name).isSome := by
  rw [findType?_isSome]
  exact ⟨fun h => h name rfl, fun h other hOther => TypeRef.named.inj hOther ▸ h⟩

/-- One step of the count: a reference that names nothing ends it. -/
theorem countReference_eq_ok {manifest : Manifest} {node : TypeRef} {location : String} {n k : Nat} :
    (countReference manifest node location).run n = .ok ((), k) ↔
      manifest.Resolved node ∧ k = n + if node.isNamed then 1 else 0 := by
  cases node with
  | named name =>
    rw [resolved_named, countReference]
    split
    next hFound =>
      simp [hFound, TypeRef.isNamed, StateT.run, modify, modifyGet, MonadStateOf.modifyGet,
        StateT.modifyGet, pure, Except.pure, eq_comm]
    next hFound =>
      simp [hFound, throw, throwThe, MonadExceptOf.throw, StateT.lift, StateT.run, bind, Except.bind]
  -- anything but a reference is passed over and counts nothing
  | _ =>
    rw [countReference, run_pure_eq_ok]
    · simp [Resolved, TypeRef.isNamed, eq_comm]
    · simp

/-- The whole count, from any number on: every node must be resolved, and each reference adds one. -/
theorem forM_countReference_eq_ok {manifest : Manifest} {nodes : List (TypeRef × String)} {n k : Nat} :
    (forM nodes fun node => countReference manifest node.1 node.2).run n = .ok ((), k) ↔
      (∀ node ∈ nodes, manifest.Resolved node.1) ∧ k = n + nodes.countP (·.1.isNamed) := by
  -- on the nodes; the number counted so far differs from step to step
  induction nodes generalizing n with
  | nil =>
    rw [List.forM_nil, run_pure_eq_ok]
    simp [eq_comm]
  | cons node nodes ih =>
    rw [List.forM_cons, StateT.run_bind, bind_eq_ok, List.forall_mem_cons, List.countP_cons]
    constructor
    · intro h
      obtain ⟨⟨⟨⟩, m⟩, hHead, hTail⟩ := h
      obtain ⟨hResolved, rfl⟩ := countReference_eq_ok.mp hHead
      obtain ⟨hRest, rfl⟩ := ih.mp hTail
      exact ⟨⟨hResolved, hRest⟩, by omega⟩
    · intro h
      obtain ⟨⟨hResolved, hRest⟩, rfl⟩ := h
      refine ⟨((), n + if node.1.isNamed then 1 else 0),
        countReference_eq_ok.mpr ⟨hResolved, rfl⟩, ih.mpr ⟨hRest, ?_⟩⟩
      omega

/-- References are resolved exactly if each of them names an entry of the type table; the answer is
how many there are. -/
theorem resolve_eq_ok_iff {manifest : Manifest} {count : Nat} :
    resolve manifest = .ok count ↔
      (∀ node ∈ manifest.nodes, manifest.Resolved node.1) ∧
        count = manifest.nodes.countP (·.1.isNamed) := by
  rw [resolve, visitTypes_eq_forM, bind_eq_ok]
  constructor
  · intro h
    obtain ⟨⟨⟨⟩, k⟩, hRun, hCount⟩ := h
    obtain ⟨hResolved, rfl⟩ := forM_countReference_eq_ok.mp hRun
    exact ⟨hResolved, by simpa using (pure_eq_ok.mp hCount).symm⟩
  · intro h
    obtain ⟨hResolved, rfl⟩ := h
    exact ⟨((), 0 + manifest.nodes.countP (·.1.isNamed)),
      forM_countReference_eq_ok.mpr ⟨hResolved, rfl⟩, pure_eq_ok.mpr (Nat.zero_add _)⟩

/-! ## Reading -/

/-- **Reading, taken apart.** A value is read as a manifest exactly if it states the version, has the
shape of a document that declares the manifest, and the manifest is valid. -/
theorem ofJson_eq_ok {value : Json} {manifest : Manifest} :
    ofJson value = .ok manifest ↔
      checkVersion value = .ok () ∧
        (∃ document, Document.read value = .ok document ∧ document.settle = .ok manifest) ∧
          manifest.Valid := by
  simp only [ofJson, validate, bind_eq_ok, mapError_eq_ok, pure_eq_ok]
  constructor
  · intro h
    -- version, shape, settling, map keys and references, in the order of the checks
    obtain ⟨checked, ⟨⟨⟩, hVersion, document, hRead, settled, hSettle, ⟨⟩, hKeys, rfl⟩, count,
      hResolve, rfl⟩ := h
    exact ⟨hVersion, ⟨document, hRead, hSettle⟩,
      ⟨(resolve_eq_ok_iff.mp hResolve).1, visitTypes_checkMapKey.mp hKeys⟩⟩
  · intro h
    obtain ⟨hVersion, ⟨document, hRead, hSettle⟩, hValid⟩ := h
    exact ⟨manifest, ⟨(), hVersion, document, hRead, manifest, hSettle, (),
      visitTypes_checkMapKey.mpr hValid.textKeys, rfl⟩,
      manifest.nodes.countP (·.1.isNamed), resolve_eq_ok_iff.mpr ⟨hValid.resolved, rfl⟩, rfl⟩

theorem valid_of_ofJson {value : Json} {manifest : Manifest} (h : ofJson value = .ok manifest) :
    manifest.Valid :=
  (ofJson_eq_ok.mp h).2.2

end AbiBindings.Manifest
