import AbiBindings.Proofs.Fingerprint.Framing

/-!
# Fingerprint — what an encoding tells

Every node of a manifest has a framed encoding: the tag in front of a type says which parts follow,
and lists stand behind their length. The encoding of a manifest therefore gives back the type table
in its order, the methods and the events. Only one thing is lost: a method that says nothing about
errors and a method that declares an empty list of them are encoded alike.

The proof needs the lengths to fit into their eight bytes, which is what `Manifest.Fits` says; nothing
is asked of the digest.

* `Method.settled` — a method that says outright which errors it has;
* `TypeRef.encode_append_inj` — types, fields and lists of fields, by recursion on the type;
* `encoding_eq_iff` — two manifests have the same encoding exactly if they declare the same.
-/

namespace AbiBindings.Manifest

/-! ## Manifests whose lengths can be written -/

/-- A text whose length in bytes can be written. -/
def FitsText (s : String) : Prop := FitsCount s.utf8ByteSize

mutual

/-- Every text and every list inside the type has a length that can be written. -/
def TypeRef.Fits : TypeRef → Prop
  | .named name => FitsText name
  | .primitive _ => True
  | .list items => items.Fits
  | .map key value => key.Fits ∧ value.Fits
  | .record fields => FitsCount fields.length ∧ FieldsFit fields

/-- The same for a field. -/
def Field.Fits : Field → Prop
  | ⟨name, type, _⟩ => FitsText name ∧ type.Fits

/-- The same for each of several fields. -/
def FieldsFit : List Field → Prop
  | [] => True
  | field :: rest => field.Fits ∧ FieldsFit rest

end

/-- The same for a payload, if there is one. -/
def FitsPayload (payload? : Option TypeRef) : Prop := ∀ type ∈ payload?, type.Fits

/-- The same for an arm of a variant. -/
def Variant.Fits (variant : Variant) : Prop := FitsText variant.name ∧ FitsPayload variant.payload?

/-- The same for an entry of the type table. -/
def FitsEntry : String × TypeDef → Prop
  | (name, .record fields) => FitsText name ∧ FitsList Field.Fits fields
  | (name, .variant variants) => FitsText name ∧ FitsList Variant.Fits variants
  | (name, .bytes _) => FitsText name

/-- The same for an error case. -/
def ErrorCase.Fits (error : ErrorCase) : Prop := FitsText error.code ∧ FitsPayload error.payload?

/-- The same for a method. -/
structure Method.Fits (method : Method) : Prop where
  name : FitsText method.name
  params : FitsList Field.Fits method.params
  returns : FitsPayload method.returns?
  errors : FitsList ErrorCase.Fits method.errors

/-- The same for an event. -/
def Event.Fits (event : Event) : Prop := FitsText event.name ∧ FitsPayload event.payload?

/-- Every text and every list of the manifest has a length below `2 ^ 64`. -/
structure Fits (manifest : Manifest) : Prop where
  types : FitsList FitsEntry manifest.types
  methods : FitsList Method.Fits manifest.methods
  events : FitsList Event.Fits manifest.events

/-! ## Types -/

/-- The primitive types have bytes of their own. -/
theorem Primitive.byte_inj {a b : Primitive} (h : a.byte = b.byte) : a = b := by
  revert h
  cases a <;> cases b <;> decide

mutual

/-- A type can be read back from the front of its encoding: the tag tells its kind, and with it which
parts follow. -/
theorem TypeRef.encode_append_inj : ∀ {a b : TypeRef} {s t : List UInt8}, a.Fits → b.Fits →
    a.encode ++ s = b.encode ++ t → a = b ∧ s = t
  | .named name, b, s, t, ha, hb, h => by
    cases b with
    | named other =>
      simp only [TypeRef.encode, List.cons_append, List.cons.injEq, true_and] at h
      obtain ⟨hName, hRest⟩ := framed_encodeText ha hb h
      exact ⟨congrArg TypeRef.named hName, hRest⟩
    -- a type of another kind begins with another tag
    | _ => simp [TypeRef.encode, NodeTag.byte] at h
  | .primitive type, b, s, t, _, _, h => by
    cases b with
    | primitive other =>
      simp only [TypeRef.encode, List.cons_append, List.nil_append, List.cons.injEq, true_and] at h
      exact ⟨congrArg TypeRef.primitive (Primitive.byte_inj h.1), h.2⟩
    | _ => simp [TypeRef.encode, NodeTag.byte] at h
  | .list items, b, s, t, ha, hb, h => by
    cases b with
    | list others =>
      rw [TypeRef.Fits] at ha hb
      simp only [TypeRef.encode, List.cons_append, List.cons.injEq, true_and] at h
      obtain ⟨hItems, hRest⟩ := items.encode_append_inj ha hb h
      exact ⟨congrArg TypeRef.list hItems, hRest⟩
    | _ => simp [TypeRef.encode, NodeTag.byte] at h
  | .map key value, b, s, t, ha, hb, h => by
    cases b with
    | map key' value' =>
      simp only [TypeRef.encode, List.cons_append, List.append_assoc, List.cons.injEq,
        true_and] at h
      obtain ⟨hKey, h⟩ := key.encode_append_inj ha.1 hb.1 h
      obtain ⟨hValue, hRest⟩ := value.encode_append_inj ha.2 hb.2 h
      exact ⟨by rw [hKey, hValue], hRest⟩
    | _ => simp [TypeRef.encode, NodeTag.byte] at h
  | .record fields, b, s, t, ha, hb, h => by
    cases b with
    | record others =>
      simp only [TypeRef.encode, List.cons_append, List.append_assoc, List.cons.injEq,
        true_and] at h
      obtain ⟨hLength, h⟩ := framed_encodeCount ha.1 hb.1 h
      obtain ⟨hFields, hRest⟩ := encodeFields_append_inj hLength ha.2 hb.2 h
      exact ⟨congrArg TypeRef.record hFields, hRest⟩
    | _ => simp [TypeRef.encode, NodeTag.byte] at h

/-- A field can be read back: its name, its flag, then its type. -/
theorem Field.encode_append_inj : ∀ {a b : Field} {s t : List UInt8}, a.Fits → b.Fits →
    a.encode ++ s = b.encode ++ t → a = b ∧ s = t
  | ⟨name, type, nullable⟩, ⟨name', type', nullable'⟩, s, t, ha, hb, h => by
    simp only [Field.encode, List.append_assoc] at h
    obtain ⟨hName, h⟩ := framed_encodeText ha.1 hb.1 h
    obtain ⟨hNullable, h⟩ := framed_encodeFlag trivial trivial h
    obtain ⟨hType, hRest⟩ := type.encode_append_inj ha.2 hb.2 h
    simp only [id] at hName hNullable
    exact ⟨by rw [hName, hNullable, hType], hRest⟩

/-- Equally many fields can be read back, one after the other. -/
theorem encodeFields_append_inj : ∀ {as bs : List Field} {s t : List UInt8},
    as.length = bs.length → FieldsFit as → FieldsFit bs →
    encodeFields as ++ s = encodeFields bs ++ t → as = bs ∧ s = t
  | [], [], _, _, _, _, _, h => ⟨rfl, h⟩
  | [], _ :: _, _, _, hLength, _, _, _ => by simp at hLength
  | _ :: _, [], _, _, hLength, _, _, _ => by simp at hLength
  | a :: as, b :: bs, s, t, hLength, ha, hb, h => by
    simp only [encodeFields, List.append_assoc] at h
    obtain ⟨hHead, h⟩ := a.encode_append_inj ha.1 hb.1 h
    obtain ⟨hTail, hRest⟩ := encodeFields_append_inj (by simpa using hLength) ha.2 hb.2 h
    exact ⟨by rw [hHead, hTail], hRest⟩

end

theorem framed_field : Framed Field.Fits id Field.encode := fun _ _ _ _ ha hb h =>
  Field.encode_append_inj ha hb h

/-- A payload can be read back, and so can the fact that there is none. -/
theorem framed_payload : Framed FitsPayload id encodePayload := by
  intro a b s t ha hb h
  -- the flag in front tells whether there is a payload
  cases a with
  | none =>
    cases b with
    | none => exact ⟨rfl, by simpa [encodePayload, encodeFlag] using h⟩
    | some type => simp [encodePayload, encodeFlag] at h
  | some type =>
    cases b with
    | none => simp [encodePayload, encodeFlag] at h
    | some other =>
      simp only [encodePayload, List.append_assoc] at h
      obtain ⟨-, h⟩ := framed_encodeFlag trivial trivial h
      obtain ⟨hType, hRest⟩ := type.encode_append_inj (ha type rfl) (hb other rfl) h
      exact ⟨congrArg some hType, hRest⟩

/-! ## Declarations -/

/-- A variant can be read back: its name, then its payload. -/
theorem framed_variant : Framed Variant.Fits id Variant.encode := by
  intro a b s t ha hb h
  obtain ⟨name, payload?⟩ := a
  obtain ⟨name', payload?'⟩ := b
  simp only [Variant.encode, List.append_assoc] at h
  obtain ⟨hName, h⟩ := framed_encodeText ha.1 hb.1 h
  obtain ⟨hPayload, hRest⟩ := framed_payload ha.2 hb.2 h
  simp only [id] at hName hPayload
  exact ⟨by rw [hName, hPayload], hRest⟩

/-- The length zero is free to stand for any length, because no byte string has it. -/
theorem ByteCount.code_inj {a b : Option ByteCount}
    (h : a.elim 0 (·.value.toNat) = b.elim 0 (·.value.toNat)) : a = b := by
  -- no length is zero, so a length that is there is never encoded as none
  have hPositive (count : ByteCount) : count.value.toNat ≠ 0 := fun hZero =>
    count.positive (UInt64.toNat_inj.mp (by simpa using hZero))
  cases a with
  | none =>
    cases b with
    | none => rfl
    | some count => exact absurd h.symm (hPositive count)
  | some count =>
    cases b with
    | none => exact absurd h (hPositive count)
    | some other =>
      have hValue : count.value = other.value := UInt64.toNat_inj.mp h
      cases count
      cases other
      simp_all

/-- The code for a length fits, as the length does. -/
theorem fitsCount_code (count? : Option ByteCount) :
    FitsCount (count?.elim 0 (·.value.toNat)) := by
  cases count? with
  | none => exact Nat.two_pow_pos 64
  | some count => exact count.value.toNat_lt

/-- An entry of the type table can be read back, its name and its definition. -/
theorem framed_entry : Framed FitsEntry id encodeEntry := by
  intro a b s t ha hb h
  obtain ⟨name, definition⟩ := a
  obtain ⟨name', definition'⟩ := b
  -- the tag in front of an entry tells which kind of definition follows
  cases definition with
  | record fields =>
    cases definition' with
    | record fields' =>
      simp only [encodeEntry, List.cons_append, List.append_assoc, List.cons.injEq, true_and] at h
      obtain ⟨hName, h⟩ := framed_encodeText ha.1 hb.1 h
      obtain ⟨hFields, hRest⟩ := framed_encodeList framed_field ha.2 hb.2 h
      simp only [id, List.map_id_fun] at hName hFields
      exact ⟨by rw [hName, hFields], hRest⟩
    | _ => simp [encodeEntry, NodeTag.byte] at h
  | variant variants =>
    cases definition' with
    | variant variants' =>
      simp only [encodeEntry, List.cons_append, List.append_assoc, List.cons.injEq, true_and] at h
      obtain ⟨hName, h⟩ := framed_encodeText ha.1 hb.1 h
      obtain ⟨hVariants, hRest⟩ := framed_encodeList framed_variant ha.2 hb.2 h
      simp only [id, List.map_id_fun] at hName hVariants
      exact ⟨by rw [hName, hVariants], hRest⟩
    | _ => simp [encodeEntry, NodeTag.byte] at h
  | bytes count? =>
    cases definition' with
    | bytes count?' =>
      simp only [encodeEntry, List.cons_append, List.append_assoc, List.cons.injEq, true_and] at h
      obtain ⟨hName, h⟩ := framed_encodeText ha hb h
      obtain ⟨hCode, hRest⟩ := framed_encodeCount (fitsCount_code _) (fitsCount_code _) h
      simp only [id] at hName hCode
      exact ⟨by rw [hName, ByteCount.code_inj hCode], hRest⟩
    | _ => simp [encodeEntry, NodeTag.byte] at h

/-- An error case can be read back: its code, then its payload. -/
theorem framed_errorCase : Framed ErrorCase.Fits id ErrorCase.encode := by
  intro a b s t ha hb h
  obtain ⟨code, payload?⟩ := a
  obtain ⟨code', payload?'⟩ := b
  simp only [ErrorCase.encode, List.append_assoc] at h
  obtain ⟨hCode, h⟩ := framed_encodeText ha.1 hb.1 h
  obtain ⟨hPayload, hRest⟩ := framed_payload ha.2 hb.2 h
  simp only [id] at hCode hPayload
  exact ⟨by rw [hCode, hPayload], hRest⟩

/-- The method as it is when it says outright which errors it has. -/
def Method.settled (method : Method) : Method :=
  { method with declaredErrors? := some method.errors }

/-- Of a method everything can be read back but whether it says that there are no errors. -/
theorem framed_method : Framed Method.Fits Method.settled Method.encode := by
  intro a b s t ha hb h
  simp only [Method.encode, List.cons_append, List.append_assoc, List.cons.injEq, true_and] at h
  obtain ⟨hName, h⟩ := framed_encodeText ha.name hb.name h
  obtain ⟨hParams, h⟩ := framed_encodeList framed_field ha.params hb.params h
  obtain ⟨hReturns, h⟩ := framed_payload ha.returns hb.returns h
  obtain ⟨hNullable, h⟩ := framed_encodeFlag trivial trivial h
  obtain ⟨hErrors, hRest⟩ := framed_encodeList framed_errorCase ha.errors hb.errors h
  simp only [id, List.map_id_fun] at hName hParams hReturns hNullable hErrors
  exact ⟨by rw [Method.settled, Method.settled, hName, hParams, hReturns, hNullable, hErrors], hRest⟩

/-- An event can be read back: its name, then its payload. -/
theorem framed_event : Framed Event.Fits id Event.encode := by
  intro a b s t ha hb h
  obtain ⟨name, payload?⟩ := a
  obtain ⟨name', payload?'⟩ := b
  simp only [Event.encode, List.cons_append, List.append_assoc, List.cons.injEq, true_and] at h
  obtain ⟨hName, h⟩ := framed_encodeText ha.1 hb.1 h
  obtain ⟨hPayload, hRest⟩ := framed_payload ha.2 hb.2 h
  simp only [id] at hName hPayload
  exact ⟨by rw [hName, hPayload], hRest⟩

/-! ## Manifests -/

/-- What a method does not say about errors leaves no trace in its encoding. -/
theorem Method.encode_settled (method : Method) : method.settled.encode = method.encode := rfl

/-- Methods that are settled are encoded as they are without it. -/
theorem encodeList_settled (methods : List Method) :
    encodeList Method.encode (methods.map Method.settled) = encodeList Method.encode methods := by
  rw [encodeList, encodeList, List.length_map, List.flatMap_map]
  simp only [Method.encode_settled]

/-- **The encoding of a manifest tells what the manifest declares.** Two manifests whose lengths can
be written have the same encoding exactly if their type tables are equal as lists, their methods are
equal once it is settled which errors each has, and their events are equal. -/
theorem encoding_eq_iff {a b : Manifest} (ha : a.Fits) (hb : b.Fits) :
    a.encoding = b.encoding ↔
      a.types = b.types ∧ a.methods.map Method.settled = b.methods.map Method.settled ∧
        a.events = b.events := by
  constructor
  · intro h
    -- framing speaks of what follows, and nothing follows here
    have h := congrArg (· ++ ([] : List UInt8)) h
    simp only [encoding, List.cons_append, List.append_assoc, List.cons.injEq, true_and] at h
    obtain ⟨hTypes, h⟩ := framed_encodeList framed_entry ha.types hb.types h
    obtain ⟨hMethods, h⟩ := framed_encodeList framed_method ha.methods hb.methods h
    obtain ⟨hEvents, -⟩ := framed_encodeList framed_event ha.events hb.events h
    simp only [List.map_id_fun, id] at hTypes hEvents
    exact ⟨hTypes, hMethods, hEvents⟩
  · intro h
    obtain ⟨hTypes, hMethods, hEvents⟩ := h
    -- the encoding sees no more of a method than what is settled
    rw [encoding, encoding, ← encodeList_settled a.methods, ← encodeList_settled b.methods, hTypes,
      hMethods, hEvents]

/-- A type with one arm and a method: what the arm carries and what the method says about errors are
left open. -/
def armAndMethod (payload? : Option TypeRef) (errors? : Option (List ErrorCase)) : Manifest :=
  ⟨[("T", .variant [⟨"x", payload?⟩])], [⟨"m", [], none, false, errors?⟩], []⟩

/-- All lengths in such a manifest are small. -/
theorem fits_armAndMethod {payload? : Option TypeRef} {errors? : Option (List ErrorCase)}
    (hPayload : FitsPayload payload?) (hErrors : errors?.getD [] = []) :
    (armAndMethod payload? errors?).Fits := by
  have hText : FitsText "T" ∧ FitsText "x" ∧ FitsText "m" := by
    unfold FitsText FitsCount
    decide
  have hMethod : Method.Fits ⟨"m", [], none, false, errors?⟩ := by
    refine ⟨hText.2.2, ?_, ?_, ?_⟩
    · simp [FitsList, FitsCount]
    · simp [FitsPayload]
    · simp [Method.errors, hErrors, FitsList, FitsCount]
  constructor
  · simp [armAndMethod, FitsList, FitsCount, FitsEntry, Variant.Fits, hText, hPayload]
  · simp [armAndMethod, FitsList, FitsCount, hMethod]
  · simp [armAndMethod, FitsList, FitsCount]

/-- An absent payload is told apart from a `unit` payload; silence about errors is not told apart
from an empty list of them. -/
theorem encoding_armAndMethod :
    (armAndMethod none none).Fits ∧ (armAndMethod none (some [])).Fits ∧
      (armAndMethod (some (.primitive .unit)) none).Fits ∧
      (armAndMethod none none).encoding = (armAndMethod none (some [])).encoding ∧
      (armAndMethod none none).encoding ≠ (armAndMethod (some (.primitive .unit)) none).encoding := by
  have hNone : FitsPayload none := by simp [FitsPayload]
  have hUnit : FitsPayload (some (.primitive .unit)) := by simp [FitsPayload, TypeRef.Fits]
  have hSilent : (armAndMethod none none).Fits := fits_armAndMethod hNone rfl
  have hEmpty : (armAndMethod none (some [])).Fits := fits_armAndMethod hNone rfl
  have hCarries : (armAndMethod (some (.primitive .unit)) none).Fits := fits_armAndMethod hUnit rfl
  refine ⟨hSilent, hEmpty, hCarries, ?_, ?_⟩
  -- a method with an empty list of errors settles to one without errors
  · exact (encoding_eq_iff hSilent hEmpty).mpr ⟨rfl, rfl, rfl⟩
  -- a payload that is absent and one of type `unit` do not
  · intro h
    have hTypes := ((encoding_eq_iff hSilent hCarries).mp h).1
    simp [armAndMethod] at hTypes

end AbiBindings.Manifest
