import AbiBindings.Proofs.Bindings.NamesUsed
import AbiBindings.Proofs.Manifest.Valid
import AbiBindings.Proofs.Manifest.Visits

/-!
# Bindings — references are visited one by one

References are checked and counted in a visit of a manifest, and the names that a client imports are
collected in visits of types. Since a visit goes through all nodes, none of them misses a reference that
stands in a type, and none counts one twice.

* `Manifest.refs` — the names that a manifest refers to, wherever they stand;
* `resolve_eq_ok_iff_refs` — references are resolved exactly if each of them names a type, and are as many;
* `visit_complete` — visits, with what is counted and collected in them.
-/

namespace AbiBindings.Manifest

/-! ## The references of a manifest -/

/-- The names that a payload refers to, if there is one. -/
def payloadRefs (payload? : Option TypeRef) : List String := payload?.elim [] TypeRef.refs

/-- The names that a definition refers to. -/
def TypeDef.refs : TypeDef → List String
  | .record fields => fieldRefs fields
  | .variant variants => variants.flatMap fun variant => payloadRefs variant.payload?
  | .bytes _ => []

/-- The names that a method refers to. -/
def Method.refs (method : Method) : List String :=
  fieldRefs method.params
    ++ (payloadRefs method.returns? ++ method.errors.flatMap fun error => payloadRefs error.payload?)

/-- The names that a manifest refers to: in the type table, in the methods and in the events. -/
def refs (manifest : Manifest) : List String :=
  manifest.types.flatMap (fun (_, definition) => definition.refs)
    ++ (manifest.methods.flatMap Method.refs ++ manifest.events.flatMap fun event => payloadRefs event.payload?)

theorem filterMap_payloadNodes (payload? : Option TypeRef) (location : String) :
    (payloadNodes location payload?).filterMap (·.1.named?) = payloadRefs payload? := by
  cases payload? with
  | none => rfl
  | some type => exact filterMap_nodes type location

theorem filterMap_definitionNodes (definition : TypeDef) (location : String) :
    (definition.nodes location).filterMap (·.1.named?) = definition.refs := by
  cases definition with
  | record fields => exact filterMap_fieldNodes fields location
  | variant variants => simp only [TypeDef.nodes, TypeDef.refs, List.filterMap_flatMap, filterMap_payloadNodes]
  | bytes _ => rfl

/-- The references in a method are those of its nodes, in parameters, return value and errors. -/
theorem filterMap_methodNodes (method : Method) :
    method.nodes.filterMap (·.1.named?) = method.refs := by
  simp only [Method.nodes, Method.refs, List.filterMap_append, List.filterMap_flatMap, filterMap_fieldNodes,
    filterMap_payloadNodes]

/-- The references among the nodes of a manifest are those of the manifest, in the same order. -/
theorem filterMap_manifestNodes (manifest : Manifest) :
    manifest.nodes.filterMap (·.1.named?) = manifest.refs := by
  simp only [nodes, refs, Event.nodes, List.filterMap_append, List.filterMap_flatMap,
    filterMap_definitionNodes, filterMap_methodNodes, filterMap_payloadNodes]

/-! ## Counting them -/

/-- A node is resolved if the name that it refers to, if any, is found. -/
theorem resolved_iff_named? {manifest : Manifest} {node : TypeRef} :
    manifest.Resolved node ↔ ∀ name, node.named? = some name → (manifest.findType? name).isSome := by
  cases node with
  | named name =>
    rw [resolved_named]
    simp [TypeRef.named?]
  | _ => simp [Resolved, TypeRef.named?]

/-- References are resolved exactly if each of them names an entry of the type table; the answer is how
many there are. -/
theorem resolve_eq_ok_iff_refs {manifest : Manifest} {count : Nat} :
    resolve manifest = .ok count ↔
      (∀ name ∈ manifest.refs, (manifest.findType? name).isSome) ∧ count = manifest.refs.length := by
  have hNamed : ∀ node : TypeRef, node.isNamed = node.named?.isSome := by
    intro node
    cases node <;> rfl
  -- to resolve the nodes and to resolve the names that they refer to by are the same
  have hResolved : (∀ node ∈ manifest.nodes, manifest.Resolved node.1)
      ↔ ∀ name ∈ manifest.refs, (manifest.findType? name).isSome := by
    simp only [← filterMap_manifestNodes, List.mem_filterMap, resolved_iff_named?]
    exact ⟨fun h name ⟨node, hNode, hName⟩ => h node hNode name hName,
      fun h node hNode name hName => h name ⟨node, hNode, hName⟩⟩
  rw [resolve_eq_ok_iff, hResolved, ← filterMap_manifestNodes, List.length_filterMap_eq_countP]
  simp only [hNamed]

end AbiBindings.Manifest

namespace AbiBindings.Bindings

open Manifest (TypeRef VisitsInOrder)
open TypeScript (safeIdent)

/-! ## Collecting them -/

/-- **Visits.** A visit of a type calls what it is given at every node, each before what is nested inside it
and once, with its location, and stops behind the first failure, which it returns; so does a visit of a
manifest with all of its types. Therefore the references of a manifest that resolves have been counted one
by one, and a client collects exactly the identifiers for the references of a type, in ascending order,
beside what it has collected before. -/
theorem visit_complete (type : TypeRef) (location : String) (manifest : Manifest) :
    VisitsInOrder (fun _ _ act => type.visit act location) (type.nodes location)
      ∧ VisitsInOrder (fun _ _ act => manifest.visitTypes act) manifest.nodes
      ∧ (∀ count, Manifest.resolve manifest = .ok count ↔
        (∀ name ∈ manifest.refs, (manifest.findType? name).isSome) ∧ count = manifest.refs.length)
      ∧ ∀ noted : List String, noted.Pairwise (· < ·) →
        ((noteNames type).run noted).2.Pairwise (· < ·)
          ∧ ∀ name, name ∈ ((noteNames type).run noted).2 ↔
            name ∈ noted ∨ ∃ ref ∈ type.refs, safeIdent ref = name := by
  refine ⟨Manifest.visitsInOrder_type type location, Manifest.visitsInOrder_types manifest,
    fun _ => Manifest.resolve_eq_ok_iff_refs, fun noted hNoted => ?_⟩
  -- the identifiers for references are the names of the type
  simp only [← List.mem_map]
  exact notes_noteNames type noted hNoted

end AbiBindings.Bindings
