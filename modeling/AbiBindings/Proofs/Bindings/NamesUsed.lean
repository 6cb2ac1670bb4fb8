import AbiBindings.Proofs.Bindings.Written
import AbiBindings.Proofs.Manifest.Nodes

/-!
# Bindings — the declarations that a client names

A client that sees the type declarations under their own names imports those that its methods name. It
finds them by visiting the types of the methods, in another walk than the one that writes the types.
Here the list that this walk comes to is tied to the references as they are written.

* `filterMap_nodes` — the references of a type are found among its nodes;
* `typeNames`, `methodNames`, `clientNames` — the names that the methods refer to, type by type;
* `pairwise_namesUsed`, `mem_namesUsed` — the list that is imported is ascending without repetition, and
  holds exactly these names.
-/

namespace AbiBindings.Manifest

/-- The name that a node refers to. -/
def TypeRef.named? : TypeRef → Option String
  | .named name => some name
  | _ => none

mutual

/-- The references among the nodes of a type are those of the type, in the same order. -/
theorem filterMap_nodes : ∀ (type : TypeRef) (location : String),
    (type.nodes location).filterMap (·.1.named?) = type.refs
  | .named _, _ => rfl
  | .primitive _, _ => rfl
  | .list items, location => by
    rw [TypeRef.nodes, List.filterMap_cons_none rfl, filterMap_nodes items, TypeRef.refs]
  | .map key value, location => by
    rw [TypeRef.nodes, List.filterMap_cons_none rfl, List.filterMap_append, filterMap_nodes key,
      filterMap_nodes value, TypeRef.refs]
  | .record fields, location => by
    rw [TypeRef.nodes, List.filterMap_cons_none rfl, filterMap_fieldNodes fields, TypeRef.refs]

theorem filterMap_fieldNode : ∀ (field : Field) (location : String),
    (field.nodes location).filterMap (·.1.named?) = field.refs
  | ⟨_, type, _⟩, _ => by rw [Field.nodes, filterMap_nodes type, Field.refs]

theorem filterMap_fieldNodes : ∀ (fields : List Field) (location : String),
    (fieldNodes location fields).filterMap (·.1.named?) = fieldRefs fields
  | [], _ => rfl
  | field :: rest, location => by
    rw [fieldNodes, List.filterMap_append, filterMap_fieldNode field, filterMap_fieldNodes rest, fieldRefs]

end

end AbiBindings.Manifest

namespace AbiBindings.Bindings

open Manifest (TypeRef Method)
open TypeScript (safeIdent)

/-! ## The names themselves -/

/-- The identifiers that are written for the references in a type. -/
def typeNames (type : TypeRef) : List String := type.refs.map safeIdent

/-- The declarations that the client method for a method names: in its parameters, in the value that
it returns, and in the exception that it throws. -/
def methodNames (method : Method) : List String :=
  method.params.flatMap (fun param => typeNames param.type)
    ++ method.valueReturn?.elim [] typeNames
    ++ if method.errors.isEmpty then [] else [errorName method]

/-- The declarations that the client methods of a manifest name. -/
def clientNames (manifest : Manifest) : List String := manifest.methods.flatMap methodNames

/-- What a node of a type contributes. -/
def nodeNames (node : TypeRef × String) : List String :=
  match node.1 with
  | .named name => [safeIdent name]
  | _ => []

/-- What the nodes of a type contribute are the identifiers of its references. -/
theorem flatMap_nodeNames (type : TypeRef) (location : String) :
    (type.nodes location).flatMap nodeNames = typeNames type := by
  have hNames : ∀ nodes : List (TypeRef × String),
      -- nodes that are no references add nothing on either side
      nodes.flatMap nodeNames = (nodes.filterMap (·.1.named?)).map safeIdent := by
    intro nodes
    induction nodes with
    | nil => rfl
    | cons node nodes ih =>
      rw [List.flatMap_cons, ih, nodeNames]
      cases hNode : node.1 <;> simp [TypeRef.named?, hNode]
  rw [hNames, Manifest.filterMap_nodes, typeNames]

/-! ## Inserting in order -/

section Insert

variable {name other : String} {names : List String}

/-- Inserting a name adds that name, if it is not there, and nothing else. -/
theorem mem_insertName : other ∈ insertName name names ↔ other = name ∨ other ∈ names := by
  induction names with
  | nil => simp [insertName]
  -- before the first name, in its place, or further behind
  | cons first rest ih =>
    rw [insertName]
    split
    next => simp
    next =>
      split
      next hEq => simp [hEq]
      next =>
        simp only [List.mem_cons, ih]
        exact or_left_comm

/-- Inserting keeps an ascending list ascending. -/
theorem pairwise_insertName (h : names.Pairwise (· < ·)) : (insertName name names).Pairwise (· < ·) := by
  induction names with
  | nil => exact List.pairwise_singleton _ _
  | cons first rest ih =>
    obtain ⟨hFirst, hRest⟩ := List.pairwise_cons.mp h
    rw [insertName]
    split
    next hLess =>
      -- what is less than the first name is less than all
      refine List.pairwise_cons.mpr ⟨List.forall_mem_cons.mpr ⟨hLess, fun other hOther => ?_⟩, h⟩
      exact String.lt_trans hLess (hFirst other hOther)
    next hNotLess =>
      split
      next => exact h
      next hNe =>
        -- what is put further behind is greater than the first name
        have hGreater : first < name := by
          rcases Std.lt_trichotomy name first with hLess | hEq | hGreater
          · exact absurd hLess hNotLess
          · exact absurd hEq hNe
          · exact hGreater
        refine List.pairwise_cons.mpr ⟨fun other hOther => ?_, ih hRest⟩
        rcases mem_insertName.mp hOther with rfl | hOther
        · exact hGreater
        · exact hFirst other hOther

end Insert

/-! ## Noting names -/

/-- Noting adds exactly these names to what is noted, in ascending order. -/
def Notes (note : StateM (List String) Unit) (names : List String) : Prop :=
  ∀ noted : List String, noted.Pairwise (· < ·) →
    (note.run noted).2.Pairwise (· < ·) ∧
      ∀ name, name ∈ (note.run noted).2 ↔ name ∈ noted ∨ name ∈ names

section Notes

theorem notes_pure : Notes (pure ()) [] := fun _ h =>
  ⟨h, fun _ => (or_iff_left List.not_mem_nil).symm⟩

/-- One name is noted by inserting it. -/
theorem notes_insertName (name : String) : Notes (modify (insertName name)) [name] := by
  intro noted h
  refine ⟨pairwise_insertName h, fun other => ?_⟩
  rw [List.mem_singleton]
  exact mem_insertName.trans or_comm

/-- What two walks note is what the first notes and what the second notes. -/
theorem Notes.bind {first : StateM (List String) Unit} {second : Unit → StateM (List String) Unit}
    {names more : List String} (hFirst : Notes first names) (hSecond : ∀ u, Notes (second u) more) :
    Notes (first >>= second) (names ++ more) := by
  intro noted h
  obtain ⟨hNoted, hNames⟩ := hFirst noted h
  obtain ⟨hMore, hAll⟩ := hSecond (first.run noted).1 (first.run noted).2 hNoted
  refine ⟨hMore, fun name => ?_⟩
  rw [List.mem_append, ← or_assoc, ← hNames]
  exact hAll name

/-- A walk through a list notes what it notes at each of the elements. -/
theorem notes_forM {α : Type} {note : α → StateM (List String) Unit} {names : α → List String}
    (as : List α) (h : ∀ a, Notes (note a) (names a)) : Notes (forM as note) (as.flatMap names) := by
  induction as with
  | nil => exact notes_pure
  | cons a rest ih =>
    rw [List.forM_cons, List.flatMap_cons]
    exact (h a).bind fun _ => ih

/-- Visiting a type notes its references. -/
theorem notes_noteNames (type : TypeRef) : Notes (noteNames type) (typeNames type) := by
  rw [noteNames, TypeRef.visit_eq_forM, ← flatMap_nodeNames type ""]
  refine notes_forM _ fun (node, location) => ?_
  -- only the nodes that are references note anything
  cases node with
  | named name => exact notes_insertName (safeIdent name)
  | _ => exact notes_pure

/-- What is noted of a method are the names in its parameters, in its return value and in its exception. -/
theorem notes_noteMethod (method : Method) : Notes (noteMethod method) (methodNames method) := by
  have hParams : Notes (method.params.forM fun param => noteNames param.type)
      (method.params.flatMap fun param => typeNames param.type) :=
    notes_forM _ fun param => notes_noteNames param.type
  have hErrors : Notes (if method.errors.isEmpty then pure () else modify (insertName (errorName method)))
      (if method.errors.isEmpty then [] else [errorName method]) := by
    split
    · exact notes_pure
    · exact notes_insertName _
  rw [methodNames, List.append_assoc]
  refine hParams.bind fun _ => ?_
  -- the parameters, then the value that is returned, then the errors
  cases method.valueReturn? with
  | none => exact hErrors
  | some type => exact (notes_noteNames type).bind fun _ => hErrors

end Notes

/-! ## The list that is imported -/

theorem notes_namesUsed (manifest : Manifest) :
    Notes (manifest.methods.forM noteMethod) (clientNames manifest) :=
  notes_forM _ notes_noteMethod

/-- The list that is imported is ascending, so no name is in it twice. -/
theorem pairwise_namesUsed (manifest : Manifest) : (namesUsed manifest).Pairwise (· < ·) :=
  (notes_namesUsed manifest [] List.Pairwise.nil).1

/-- **Imports.** The walk that collects names finds exactly those that the methods refer to. -/
theorem mem_namesUsed {manifest : Manifest} {name : String} :
    name ∈ namesUsed manifest ↔ name ∈ clientNames manifest :=
  ((notes_namesUsed manifest [] List.Pairwise.nil).2 name).trans (or_iff_right List.not_mem_nil)

/-- What the methods refer to is an identifier for a name, or for the errors of a method. -/
theorem bindable_clientNames (manifest : Manifest) :
    ∀ name ∈ clientNames manifest, TypeScript.Bindable name := by
  have hType : ∀ type, ∀ name ∈ typeNames type, TypeScript.Bindable name := by
    intro type
    exact List.forall_mem_map.mpr fun name _ => TypeScript.bindable_safeIdent name
  intro name hName
  obtain ⟨method, -, hName⟩ := List.mem_flatMap.mp hName
  rw [methodNames, List.mem_append, List.mem_append] at hName
  -- a type of a parameter, the type that is returned, or the exception
  rcases hName with (hParam | hReturn) | hError
  · obtain ⟨param, -, hParam⟩ := List.mem_flatMap.mp hParam
    exact hType param.type name hParam
  · cases hValue : method.valueReturn? with
    | none =>
      rw [hValue] at hReturn
      exact absurd hReturn List.not_mem_nil
    | some type =>
      rw [hValue] at hReturn
      exact hType type name hReturn
  · split at hError
    · exact absurd hError List.not_mem_nil
    · obtain rfl := List.mem_singleton.mp hError
      exact bindable_errorName method

end AbiBindings.Bindings
