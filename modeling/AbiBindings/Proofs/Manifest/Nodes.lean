import AbiBindings.Manifest.Basic
import Mathlib.Tactic.Common

/-!
# Manifest — the nodes of types

The types of a manifest are trees. `TypeRef.nodes` lists the nodes of a type, each node before what
is nested inside it, together with its location, and `Manifest.nodes` does so for a whole manifest: the type
table, then the methods, then the events. A visit acts on exactly these nodes in exactly this order,
so that what holds of a visit can be said of a list.

* `TypeRef.visit_eq_forM` — visiting a type is going through its nodes;
* `visitTypes_eq_forM` — visiting a manifest is going through its nodes.
-/

namespace AbiBindings.Manifest

/-! ## Listing the nodes -/

mutual

/-- The nodes of a type that stands at `location`, each with its own location. -/
def TypeRef.nodes (location : String) : TypeRef → List (TypeRef × String)
  | .named name => [(.named name, location)]
  | .primitive type => [(.primitive type, location)]
  | .list items => (.list items, location) :: items.nodes (location ++ ".items")
  | .map key value =>
    (.map key value, location)
      :: (key.nodes (location ++ ".key") ++ value.nodes (location ++ ".value"))
  | .record fields => (.record fields, location) :: fieldNodes location fields

/-- The nodes of a field of the record at `location`. -/
def Field.nodes (location : String) : Field → List (TypeRef × String)
  | ⟨name, type, _⟩ => type.nodes (location ++ "." ++ name)

/-- The nodes of several fields of the record at `location`. -/
def fieldNodes (location : String) : List Field → List (TypeRef × String)
  | [] => []
  | field :: rest => field.nodes location ++ fieldNodes location rest

end

/-- The nodes of a payload, if there is one. -/
def payloadNodes (location : String) : Option TypeRef → List (TypeRef × String)
  | some type => type.nodes location
  | none => []

/-- The nodes of a definition. -/
def TypeDef.nodes (location : String) : TypeDef → List (TypeRef × String)
  | .record fields => fieldNodes location fields
  | .variant variants => variants.flatMap fun variant =>
    payloadNodes (location ++ "." ++ variant.name) variant.payload?
  | .bytes _ => []

/-- The nodes of a method: parameters, then the return type, then error payloads. -/
def Method.nodes (method : Method) : List (TypeRef × String) :=
  fieldNodes ("methods." ++ method.name ++ ".params") method.params
    ++ (payloadNodes ("methods." ++ method.name ++ ".returns") method.returns?
      ++ method.errors.flatMap fun error =>
        payloadNodes ("methods." ++ method.name ++ ".errors." ++ error.code) error.payload?)

/-- The nodes of an event. -/
def Event.nodes (event : Event) : List (TypeRef × String) :=
  payloadNodes ("events." ++ event.name ++ ".payload") event.payload?

/-- Every node of every type of a manifest. -/
def nodes (manifest : Manifest) : List (TypeRef × String) :=
  manifest.types.flatMap (fun (name, definition) => definition.nodes ("types." ++ name))
    ++ (manifest.methods.flatMap Method.nodes ++ manifest.events.flatMap Event.nodes)

/-! ## Visiting them -/

/-- Going through lists one after the other is going through all of their elements. -/
theorem forM_flatMap {m : Type → Type} [Monad m] [LawfulMonad m] {α β : Type} (as : List α)
    (f : α → List β) (g : β → m Unit) :
    (forM as fun a => forM (f a) g) = forM (as.flatMap f) g := by
  induction as with
  | nil => rfl
  | cons a as ih => rw [List.forM_cons, List.flatMap_cons, List.forM_append, ih]

mutual

/-- **Types.** The recursion over a type is the list of its nodes; on the type and its fields. -/
theorem TypeRef.visit_eq_forM {m : Type → Type} [Monad m] [LawfulMonad m]
    (act : TypeRef → String → m Unit) : ∀ (type : TypeRef) (location : String),
    type.visit act location = forM (type.nodes location) fun node => act node.1 node.2
  | .named _, _ => by simp [TypeRef.visit, TypeRef.nodes]
  | .primitive _, _ => by simp [TypeRef.visit, TypeRef.nodes]
  | .list items, location => by
    rw [TypeRef.visit, TypeRef.nodes, List.forM_cons, items.visit_eq_forM act]
  -- the map itself, then its keys, then its values
  | .map key value, location => by
    rw [TypeRef.visit, TypeRef.nodes, List.forM_cons, List.forM_append, key.visit_eq_forM act,
      value.visit_eq_forM act]
  | .record fields, location => by
    rw [TypeRef.visit, TypeRef.nodes, List.forM_cons, visitFields_eq_forM act fields]

theorem Field.visit_eq_forM {m : Type → Type} [Monad m] [LawfulMonad m]
    (act : TypeRef → String → m Unit) : ∀ (field : Field) (location : String),
    field.visit act location = forM (field.nodes location) fun node => act node.1 node.2
  | ⟨name, type, _⟩, location => by rw [Field.visit, Field.nodes, type.visit_eq_forM act]

/-- Fields are visited one after the other, under the location of their record. -/
theorem visitFields_eq_forM {m : Type → Type} [Monad m] [LawfulMonad m]
    (act : TypeRef → String → m Unit) : ∀ (fields : List Field) (location : String),
    visitFields act location fields
      = forM (fieldNodes location fields) fun node => act node.1 node.2
  | [], _ => rfl
  | field :: rest, location => by
    rw [visitFields, fieldNodes, List.forM_append, field.visit_eq_forM act,
      visitFields_eq_forM act rest]

end

section Visit

variable {m : Type → Type} [Monad m] [LawfulMonad m] (act : TypeRef → String → m Unit)

/-- A payload is visited if there is one. -/
theorem visitPayload_eq_forM (payload? : Option TypeRef) (location : String) :
    visitPayload act location payload?
      = forM (payloadNodes location payload?) fun node => act node.1 node.2 := by
  cases payload? with
  | none => rfl
  | some type => exact type.visit_eq_forM act location

/-- A definition is visited along its fields or its variants; bytes have no nodes. -/
theorem TypeDef.visit_eq_forM (definition : TypeDef) (location : String) :
    definition.visit act location
      = forM (definition.nodes location) fun node => act node.1 node.2 := by
  cases definition with
  | record fields => exact visitFields_eq_forM act fields location
  | variant variants =>
    simp only [TypeDef.visit, TypeDef.nodes, List.forM_eq_forM, ← forM_flatMap,
      visitPayload_eq_forM]
  | bytes _ => rfl

/-- A method is visited in the order of its parts: parameters, result, errors. -/
theorem Method.visit_eq_forM (method : Method) :
    method.visit act = forM method.nodes fun node => act node.1 node.2 := by
  simp only [Method.visit, Method.nodes, List.forM_eq_forM, List.forM_append, ← forM_flatMap,
    visitFields_eq_forM, visitPayload_eq_forM]

theorem Event.visit_eq_forM (event : Event) :
    event.visit act = forM event.nodes fun node => act node.1 node.2 :=
  visitPayload_eq_forM act event.payload? _

/-- **A visit goes through the nodes.** Acting on every type of a manifest is acting on its nodes, one
after the other. -/
theorem visitTypes_eq_forM (manifest : Manifest) :
    manifest.visitTypes act = forM manifest.nodes fun node => act node.1 node.2 := by
  -- as functions, since they are visited by a function inside of the list
  have hMethod : Method.visit act = fun method => forM method.nodes fun node => act node.1 node.2 :=
    funext fun method => method.visit_eq_forM act
  have hEvent : Event.visit act = fun event => forM event.nodes fun node => act node.1 node.2 :=
    funext fun event => event.visit_eq_forM act
  simp only [visitTypes, nodes, List.forM_eq_forM, List.forM_append, ← forM_flatMap,
    TypeDef.visit_eq_forM, hMethod, hEvent]

end Visit

end AbiBindings.Manifest
