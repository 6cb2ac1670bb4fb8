import AbiBindings.Bindings.Style
import AbiBindings.Proofs.Success
import AbiBindings.Proofs.TypeScript.Identifiers
import AbiBindings.Proofs.TypeScript.TypeReading

/-!
# Bindings — names and types as they are written

A type is written in a scope, and what comes out depends on the type and on the namespace of the scope
alone; the scope only decides whether anything comes out. So there is one expression for every type,
which is spelled out here without a scope, together with the names that occur in it.

* `bindable_paramIdent`, `bindable_bindingName`, `bindable_claimName` — derived names can name a
  declaration;
* `writtenType` — the expression for a type;
* `Scope.type_eq` — what a scope writes is that expression;
* `TypeRef.refs` — the names that a type refers to, at any depth;
* `references_writtenType` — they are what the expression refers to, each through the namespace.
-/

namespace AbiBindings.Manifest

mutual

/-- The names that a type refers to, at any depth. -/
def TypeRef.refs : TypeRef → List String
  | .named name => [name]
  | .primitive _ => []
  | .list items => items.refs
  | .map key value => key.refs ++ value.refs
  | .record fields => fieldRefs fields

/-- The names that the type of a field refers to. -/
def Field.refs : Field → List String
  | ⟨_, type, _⟩ => type.refs

/-- The names that the types of several fields refer to. -/
def fieldRefs : List Field → List String
  | [] => []
  | field :: rest => field.refs ++ fieldRefs rest

end

end AbiBindings.Manifest

namespace AbiBindings.Bindings

open Manifest (TypeRef Field Method Event fieldRefs)
open TypeScript (Bindable Member Reference TypeExpr bindable_safeIdent isIdentifier isIdentPart isTypeChar
  safeIdent)

/-! ## Derived names -/

section Names

/-- A fixed suffix behind the identifier for a name. -/
theorem bindable_derived (name : String) {suffix : String}
    (hSuffix : suffix.toList.all isIdentPart = true)
    (hCase : suffix.toList.all Char.isLower = false) : Bindable (safeIdent name ++ suffix) :=
  Bindable.append (bindable_safeIdent name).identifier (List.all_eq_true.mp hSuffix) hCase

theorem bindable_errorCodesName (method : Method) : Bindable (errorCodesName method) :=
  bindable_derived method.name rfl rfl

theorem bindable_errorName (method : Method) : Bindable (errorName method) :=
  bindable_derived method.name rfl rfl

theorem bindable_payloadName (event : Event) : Bindable (payloadName event) :=
  bindable_derived event.name rfl rfl

/-- The name of a method of the client: in camel case or as it is, it is made an identifier. -/
theorem bindable_bindingName (style : Style) (method : Method) : Bindable (style.bindingName method) := by
  cases style with
  | positional =>
    rw [Style.bindingName, methodIdent]
    exact bindable_safeIdent _
  | namespaced => exact bindable_safeIdent method.name

/-- The name of a parameter, with its suffix or without. -/
theorem bindable_paramIdent (name : String) : Bindable (paramIdent name) := by
  rw [paramIdent]
  split
  · exact bindable_derived name rfl rfl
  · exact bindable_safeIdent name

/-- A parameter never hides a name that the body of a method uses. -/
theorem paramIdent_not_mem_bodyNames (name : String) : paramIdent name ∉ bodyNames := by
  -- the suffix leads out of the few names that the body uses
  have hSuffix : ∀ ident ∈ bodyNames, ident ++ "_" ∉ bodyNames := by decide
  rw [paramIdent]
  split
  next hBody => exact hSuffix _ (List.contains_iff_mem.mp hBody)
  next hOther => exact fun hMem => hOther (List.contains_iff_mem.mpr hMem)

/-- Every name that the type declarations claim can name a declaration. -/
theorem bindable_claimName (manifest : Manifest) : ∀ claim ∈ typeClaims manifest, Bindable claim.name := by
  intro claim hClaim
  simp only [typeClaims, List.mem_append, List.mem_map, List.mem_flatMap, List.mem_cons,
    List.not_mem_nil, or_false] at hClaim
  -- entries, codes and errors of methods, payloads, and the union of all events
  rcases hClaim with ((⟨entry, -, rfl⟩ | ⟨method, -, rfl | rfl⟩) | ⟨event, -, rfl⟩) | hUnion
  · exact bindable_safeIdent entry.1
  · exact bindable_errorCodesName method
  · exact bindable_errorName method
  · exact bindable_payloadName event
  · split at hUnion
    · exact absurd hUnion List.not_mem_nil
    · obtain rfl := List.mem_singleton.mp hUnion
      exact ⟨rfl, rfl⟩

end Names

/-! ## Types -/

mutual

/-- The type expression for a type, with references through a namespace if one is given. -/
def writtenType (space? : Option String) : TypeRef → TypeExpr
  | .named name => .reference ⟨space?, safeIdent name⟩
  | .primitive type => .builtin (builtin type)
  | .list items => .array (writtenType space? items)
  | .map key value => .dictionary (writtenType space? key) (writtenType space? value)
  | .record fields => .object (writtenMembers space? fields)

/-- The member for a field. -/
def writtenMember (space? : Option String) : Field → Member
  | ⟨name, type, nullable⟩ => ⟨name, writtenType space? type, nullable⟩

/-- The members for several fields. -/
def writtenMembers (space? : Option String) : List Field → List Member
  | [] => []
  | field :: rest => writtenMember space? field :: writtenMembers space? rest

end

section Scope

variable {scope : Scope}

mutual

/-- What a scope writes for a type is the expression for the type. -/
theorem Scope.type_eq : ∀ {type : TypeRef} {expr : TypeExpr}, scope.type type = .ok expr →
    expr = writtenType scope.space? type
  | .named name, expr, h => by
    rw [Scope.type] at h
    split at h
    next => exact (Except.ok.inj h).symm
    -- a name that is not known is an error
    next => simp at h
  | .primitive type, expr, h => (Except.ok.inj h).symm
  | .list items, expr, h => by
    rw [Scope.type, bind_eq_ok] at h
    obtain ⟨itemsExpr, hItems, hExpr⟩ := h
    obtain rfl := pure_eq_ok.mp hExpr
    rw [writtenType, Scope.type_eq hItems]
  | .map key value, expr, h => by
    rw [Scope.type, bind_eq_ok] at h
    obtain ⟨keyExpr, hKey, h⟩ := h
    obtain ⟨valueExpr, hValue, hExpr⟩ := bind_eq_ok.mp h
    obtain rfl := pure_eq_ok.mp hExpr
    rw [writtenType, Scope.type_eq hKey, Scope.type_eq hValue]
  | .record fields, expr, h => by
    rw [Scope.type, bind_eq_ok] at h
    obtain ⟨members, hMembers, hExpr⟩ := h
    obtain rfl := pure_eq_ok.mp hExpr
    rw [writtenType, Scope.members_eq hMembers]

theorem Scope.member_eq : ∀ {field : Field} {member : Member}, scope.member field = .ok member →
    member = writtenMember scope.space? field
  | ⟨name, type, nullable⟩, member, h => by
    rw [Scope.member, bind_eq_ok] at h
    obtain ⟨expr, hType, hMember⟩ := h
    obtain rfl := pure_eq_ok.mp hMember
    rw [writtenMember, Scope.type_eq hType]

/-- Fields one after the other, each written in the same scope. -/
theorem Scope.members_eq : ∀ {fields : List Field} {members : List Member},
    scope.members fields = .ok members → members = writtenMembers scope.space? fields
  | [], members, h => (Except.ok.inj h).symm
  | field :: rest, members, h => by
    rw [Scope.members, bind_eq_ok] at h
    obtain ⟨member, hMember, h⟩ := h
    obtain ⟨others, hOthers, hMembers⟩ := bind_eq_ok.mp h
    obtain rfl := pure_eq_ok.mp hMembers
    rw [writtenMembers, Scope.member_eq hMember, Scope.members_eq hOthers]

end

theorem Scope.payload_eq {payload? : Option TypeRef} {written? : Option TypeExpr}
    (h : scope.payload payload? = .ok written?) : written? = payload?.map (writtenType scope.space?) := by
  cases payload? with
  | none => exact (Except.ok.inj h).symm
  | some type =>
    obtain ⟨expr, hType, rfl⟩ := map_eq_ok.mp h
    rw [Option.map_some, Scope.type_eq hType]

end Scope

theorem writtenMembers_eq_map (space? : Option String) (fields : List Field) :
    writtenMembers space? fields = fields.map (writtenMember space?) := by
  induction fields with
  | nil => rfl
  | cons field rest ih => rw [writtenMembers, ih, List.map_cons]

/-- The slot of the member for a field. -/
theorem slot_writtenMember (space? : Option String) (field : Field) :
    (writtenMember space? field).slot = ⟨field.name, (writtenType space? field.type).shape, field.nullable⟩ := by
  obtain ⟨name, type, nullable⟩ := field
  rw [writtenMember, Member.slot]

/-! ## References in types -/

section References

variable {space? : Option String}

mutual

/-- The references in the expression for a type are to the names that the type refers to. -/
theorem references_writtenType : ∀ (type : TypeRef),
    (writtenType space? type).references = type.refs.map fun name => ⟨space?, safeIdent name⟩
  | .named _ => rfl
  | .primitive _ => rfl
  | .list items => by
    rw [writtenType, TypeExpr.references, TypeRef.refs, references_writtenType items]
  | .map key value => by
    rw [writtenType, TypeExpr.references, TypeRef.refs, List.map_append, references_writtenType key,
      references_writtenType value]
  | .record fields => by
    rw [writtenType, TypeExpr.references, TypeRef.refs, references_writtenMembers fields]

theorem references_writtenMember : ∀ (field : Field),
    (writtenMember space? field).references = field.refs.map fun name => ⟨space?, safeIdent name⟩
  | ⟨name, type, nullable⟩ => by
    rw [writtenMember, Member.references, Field.refs, references_writtenType type]

theorem references_writtenMembers : ∀ (fields : List Field),
    TypeScript.memberReferences (writtenMembers space? fields)
      = (fieldRefs fields).map fun name => ⟨space?, safeIdent name⟩
  | [] => rfl
  | field :: rest => by
    rw [writtenMembers, TypeScript.memberReferences, fieldRefs, List.map_append,
      references_writtenMember field, references_writtenMembers rest]

end

/-- A namespace is an identifier, if there is one. -/
def Namespace (space? : Option String) : Prop := ∀ space ∈ space?, isIdentifier space = true

/-- A reference to an identifier is one word, with its namespace or without. -/
theorem Namespace.isWord (hSpace : Namespace space?) {name : String} (hName : isIdentifier name = true) :
    (⟨space?, name⟩ : Reference).IsWord := by
  have hPart : ∀ {text : String}, isIdentifier text = true → ∀ c ∈ text.toList, isTypeChar c = true := by
    intro text hText c hc
    rw [isTypeChar, TypeScript.isIdentPart_of_isIdentifier hText c hc, Bool.true_or]
  -- an empty text is no identifier
  have hSome : name ≠ "" := by
    rintro rfl
    exact absurd hName (by decide)
  cases space? with
  | none => exact ⟨hSome, hPart hName⟩
  | some space =>
    rw [Reference.IsWord, Reference.text]
    refine ⟨fun hEmpty => hSome (String.append_eq_empty_iff.mp hEmpty).2, ?_⟩
    rw [String.toList_append, String.toList_append, List.forall_mem_append, List.forall_mem_append]
    exact ⟨⟨hPart (hSpace space rfl), List.all_eq_true.mp rfl⟩, hPart hName⟩

/-- So the expression for a type can be told from what is around it. -/
theorem Namespace.worded (hSpace : Namespace space?) (type : TypeRef) :
    (writtenType space? type).Worded := by
  intro ref hRef
  rw [references_writtenType] at hRef
  obtain ⟨name, -, rfl⟩ := List.mem_map.mp hRef
  exact hSpace.isWord (bindable_safeIdent name).identifier

end References

end AbiBindings.Bindings
