import AbiBindings.Bindings.TypeModule
import AbiBindings.Proofs.Success
import AbiBindings.Proofs.TypeScript.LexedModules

/-!
# Bindings — types and declarations are closed

The names of a manifest may be any text. In a declaration, each of them is turned into an identifier
or becomes a literal, wherever it stands and however deep in a type. So whatever is declared consists
of closed parts.

* `closed_type`, `closed_members` — types as they are written in a scope;
* `typeDeclarations_closed` — the declarations of a manifest.
-/

namespace AbiBindings.Bindings

open Manifest (TypeRef TypeDef Field Method Event)
open TypeScript (Arm Closed Declaration Discriminant Member TypeExpr safeIdent closed_safeIdent
  lexes_literal)

/-! ## Derived names -/

/-- A suffix that is closed by itself leaves an identifier closed; so it is for all derived names. -/
theorem closed_errorCodesName (method : Method) : Closed (errorCodesName method) :=
  (closed_safeIdent method.name).append (lexes_literal rfl)

theorem closed_errorName (method : Method) : Closed (errorName method) :=
  (closed_safeIdent method.name).append (lexes_literal rfl)

theorem closed_payloadName (event : Event) : Closed (payloadName event) :=
  (closed_safeIdent event.name).append (lexes_literal rfl)

/-! ## Types in a scope -/

/-- A scope in which references come out closed: its namespace is, if it has one. -/
def Scope.SpaceClosed (scope : Scope) : Prop := ∀ space ∈ scope.space?, Closed space

/-- The module of types sees itself without a namespace. -/
theorem Scope.spaceClosed_ofManifest (manifest : Manifest) :
    (Scope.ofManifest manifest).SpaceClosed := by
  intro space hSpace
  simp [Scope.ofManifest] at hSpace

variable {scope : Scope}

/-- A reference is a name, or a name behind a namespace and a dot. -/
theorem closed_reference (hScope : scope.SpaceClosed) {ident : String} (h : Closed ident) :
    Closed (scope.reference ident).text := by
  rw [Scope.reference, TypeScript.Reference.text]
  cases hSpace : scope.space? with
  | none => exact h
  | some space =>
    have hDot : Closed (space ++ ".") := Closed.append (hScope space hSpace) (lexes_literal rfl)
    exact hDot.append h

mutual

/-- Whatever is written for a type is closed; by recursion on the type, together with its fields. -/
theorem closed_type (hScope : scope.SpaceClosed) : ∀ {type : TypeRef} {expr : TypeExpr},
    scope.type type = .ok expr → Closed expr.text
  | .named name, expr, h => by
    rw [Scope.type] at h
    split at h
    next =>
      obtain rfl := Except.ok.inj h
      rw [TypeExpr.text]
      -- the name may be any text, but what is written is an identifier for it
      exact closed_reference hScope (closed_safeIdent name)
    next => simp at h
  | .primitive type, expr, h => by
    rw [Scope.type] at h
    obtain rfl := Except.ok.inj h
    rw [TypeExpr.text]
    -- each primitive is written as a fixed text
    cases type <;> exact lexes_literal rfl
  | .list items, expr, h => by
    rw [Scope.type, bind_eq_ok] at h
    obtain ⟨itemsExpr, hItems, hExpr⟩ := h
    obtain rfl := pure_eq_ok.mp hExpr
    rw [TypeExpr.text]
    exact (closed_type hScope hItems).append (lexes_literal rfl)
  | .map key value, expr, h => by
    rw [Scope.type, bind_eq_ok] at h
    obtain ⟨keyExpr, hKey, h⟩ := h
    obtain ⟨valueExpr, hValue, hExpr⟩ := bind_eq_ok.mp h
    obtain rfl := pure_eq_ok.mp hExpr
    rw [TypeExpr.text]
    -- built up from the left, as the text is
    have hKeyText : Closed ("Record<" ++ keyExpr.text) :=
      Closed.append (lexes_literal rfl) (closed_type hScope hKey)
    have hComma : Closed ("Record<" ++ keyExpr.text ++ ", ") := hKeyText.append (lexes_literal rfl)
    exact (hComma.append (closed_type hScope hValue)).append (lexes_literal rfl)
  | .record fields, expr, h => by
    rw [Scope.type, bind_eq_ok] at h
    obtain ⟨members, hMembers, hExpr⟩ := h
    obtain rfl := pure_eq_ok.mp hExpr
    rw [TypeExpr.text]
    exact TypeScript.closed_objectText (TypeScript.closed_memberTexts (closed_members hScope hMembers))

/-- A member is closed: its key is an identifier or a literal, whatever the field is called. -/
theorem closed_member (hScope : scope.SpaceClosed) : ∀ {field : Field} {member : Member},
    scope.member field = .ok member → Closed member.text
  | ⟨name, type, nullable⟩, member, h => by
    rw [Scope.member, bind_eq_ok] at h
    obtain ⟨expr, hType, hMember⟩ := h
    obtain rfl := pure_eq_ok.mp hMember
    rw [Member.text]
    have hKey := (TypeScript.closed_propertyKey name).append (lexes_literal rfl : Closed ": ")
    exact hKey.append (TypeScript.closed_orNull (closed_type hScope hType) nullable)

/-- All members of a record are closed. -/
theorem closed_members (hScope : scope.SpaceClosed) : ∀ {fields : List Field} {members : List Member},
    scope.members fields = .ok members → ∀ member ∈ members, Closed member.text
  | [], members, h => by
    obtain rfl := Except.ok.inj h
    simp
  | field :: rest, members, h => by
    rw [Scope.members, bind_eq_ok] at h
    obtain ⟨member, hMember, h⟩ := h
    obtain ⟨others, hOthers, hMembers⟩ := bind_eq_ok.mp h
    obtain rfl := pure_eq_ok.mp hMembers
    exact List.forall_mem_cons.mpr ⟨closed_member hScope hMember, closed_members hScope hOthers⟩

end

/-- So is a payload, if there is one. -/
theorem closed_payload (hScope : scope.SpaceClosed) {payload? : Option TypeRef}
    {written? : Option TypeExpr} (h : scope.payload payload? = .ok written?) :
    ∀ written ∈ written?, Closed written.text := by
  cases payload? with
  | none =>
    obtain rfl := Except.ok.inj h
    simp
  | some type =>
    obtain ⟨expr, hType, rfl⟩ := map_eq_ok.mp h
    intro written hWritten
    obtain rfl := Option.some.inj hWritten
    exact closed_type hScope hType

/-! ## Declarations -/

section Declarations

variable (hScope : scope.SpaceClosed)

include hScope

/-- Whatever an arm stands for, it is built from its payload in the same way. -/
theorem closed_armPayload {discriminant : Discriminant} {label : String} {payload? : Option TypeRef}
    {arm : Arm} (h : (return ⟨discriminant, label, ← scope.payload payload?⟩) = Except.ok arm) :
    ∀ payload ∈ arm.payload?, Closed payload.text := by
  obtain ⟨written?, hPayload, hArm⟩ := bind_eq_ok.mp h
  obtain rfl := pure_eq_ok.mp hArm
  exact closed_payload hScope hPayload

/-- An entry of the table is declared by closed parts, whatever it is defined as. -/
theorem entryDeclaration_closed {entry : String × TypeDef} {declaration : Declaration}
    (h : entryDeclaration scope entry = .ok declaration) : declaration.PartsClosed := by
  obtain ⟨name, definition⟩ := entry
  -- the name of the entry becomes an identifier in each case
  cases definition with
  | record fields =>
    obtain ⟨members, hMembers, hDeclaration⟩ := bind_eq_ok.mp h
    obtain rfl := pure_eq_ok.mp hDeclaration
    exact ⟨closed_safeIdent name, closed_members hScope hMembers⟩
  | variant variants =>
    obtain ⟨arms, hArms, hDeclaration⟩ := bind_eq_ok.mp h
    obtain rfl := pure_eq_ok.mp hDeclaration
    exact ⟨closed_safeIdent name,
      forall_mem_of_mapM_eq_ok hArms fun variant _ arm hArm => closed_armPayload hScope hArm⟩
  | bytes count? =>
    obtain rfl := pure_eq_ok.mp h
    exact ⟨closed_safeIdent name, lexes_literal rfl⟩

/-- So are the two unions for the errors of a method, if it declares any. -/
theorem errorDeclarations_closed {method : Method} {declarations : List Declaration}
    (h : errorDeclarations scope method = .ok declarations) :
    ∀ declaration ∈ declarations, declaration.PartsClosed := by
  rw [errorDeclarations] at h
  split at h
  -- without errors nothing is declared
  next =>
    obtain rfl := pure_eq_ok.mp h
    simp
  next =>
    obtain ⟨arms, hArms, hDeclarations⟩ := bind_eq_ok.mp h
    obtain rfl := pure_eq_ok.mp hDeclarations
    have hUnion : (Declaration.union (errorName method) arms).PartsClosed :=
      ⟨closed_errorName method,
        forall_mem_of_mapM_eq_ok hArms fun error _ arm hArm => closed_armPayload hScope hArm⟩
    exact List.forall_mem_cons.mpr
      ⟨closed_errorCodesName method, List.forall_mem_singleton.mpr hUnion⟩

/-- So is the payload of an event that has one. -/
theorem payloadDeclarations_closed {event : Event} {declarations : List Declaration}
    (h : payloadDeclarations scope event = .ok declarations) :
    ∀ declaration ∈ declarations, declaration.PartsClosed := by
  rw [payloadDeclarations] at h
  split at h
  -- only an event that carries something has a declaration of its own
  next payload _ =>
    obtain ⟨expr, hType, hDeclarations⟩ := bind_eq_ok.mp h
    obtain rfl := pure_eq_ok.mp hDeclarations
    exact List.forall_mem_singleton.mpr ⟨closed_payloadName event, closed_type hScope hType⟩
  next =>
    obtain rfl := pure_eq_ok.mp h
    simp

/-- So is the union of all events, whose arms carry the names of the events as literals. -/
theorem eventDeclarations_closed {events : List Event} {declarations : List Declaration}
    (h : eventDeclarations scope events = .ok declarations) :
    ∀ declaration ∈ declarations, declaration.PartsClosed := by
  rw [eventDeclarations] at h
  split at h
  -- without events there is no union
  next =>
    obtain rfl := pure_eq_ok.mp h
    simp
  next =>
    obtain ⟨arms, hArms, hDeclarations⟩ := bind_eq_ok.mp h
    obtain rfl := pure_eq_ok.mp hDeclarations
    have hUnion : (Declaration.union eventUnion arms).PartsClosed :=
      ⟨lexes_literal rfl,
        forall_mem_of_mapM_eq_ok hArms fun event _ arm hArm => closed_armPayload hScope hArm⟩
    exact List.forall_mem_singleton.mpr hUnion

end Declarations

/-- The declarations of a manifest consist of closed parts. -/
theorem typeDeclarations_closed {manifest : Manifest} {declarations : List Declaration}
    (h : typeDeclarations manifest = .ok declarations) :
    ∀ declaration ∈ declarations, declaration.PartsClosed := by
  have hScope := Scope.spaceClosed_ofManifest manifest
  -- the check of the claims comes first and says nothing of what is declared
  obtain ⟨-, -, h⟩ := bind_eq_ok.mp h
  obtain ⟨entries, hEntries, h⟩ := bind_eq_ok.mp h
  obtain ⟨errors, hErrors, h⟩ := bind_eq_ok.mp h
  obtain ⟨payloads, hPayloads, h⟩ := bind_eq_ok.mp h
  obtain ⟨union, hUnion, h⟩ := bind_eq_ok.mp h
  obtain rfl := pure_eq_ok.mp h
  have hEntry : ∀ declaration ∈ entries, declaration.PartsClosed :=
    forall_mem_of_mapM_eq_ok hEntries fun entry _ declaration hDeclaration =>
      entryDeclaration_closed hScope hDeclaration
  have hError : ∀ ofMethod ∈ errors, ∀ declaration ∈ ofMethod, declaration.PartsClosed :=
    forall_mem_of_mapM_eq_ok hErrors fun method _ ofMethod hMethod =>
      errorDeclarations_closed hScope hMethod
  have hPayload : ∀ ofEvent ∈ payloads, ∀ declaration ∈ ofEvent, declaration.PartsClosed :=
    forall_mem_of_mapM_eq_ok hPayloads fun event _ ofEvent hEvent =>
      payloadDeclarations_closed hScope hEvent
  -- a declaration is one of these four kinds, in this order
  simp only [List.forall_mem_append, List.forall_mem_flatten]
  exact ⟨⟨⟨hEntry, hError⟩, hPayload⟩, eventDeclarations_closed hScope hUnion⟩

end AbiBindings.Bindings
