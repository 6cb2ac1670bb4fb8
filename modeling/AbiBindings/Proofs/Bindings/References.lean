import AbiBindings.Proofs.Bindings.ClientSources
import AbiBindings.Proofs.Bindings.Outcome
import AbiBindings.Proofs.Bindings.TypeBlocks

/-!
# Bindings — the references of a client

The types in a client class refer to the declarations of the module of types. Each word of these types,
as they are read from the text, is a built-in type or such a reference; and the references are closed:
what is referred to is exported, and a client that sees the declarations under their own names imports
exactly these.

* `Word`, `typeWords`, `methodWords` — what the words in the types of a method stand for;
* `words_source` — they are written in this order, through the namespace of the style;
* `claimed_clientNames` — every declaration that a client refers to is claimed by the module of types;
* `generate_references` — references, exports and imports of both modules together.
-/

namespace AbiBindings.TypeScript

/-! ## Words in shapes -/

mutual

/-- The words in a type, from left to right. -/
def Shape.words : Shape → List String
  | .word text => [text]
  | .literal _ => []
  | .array items => items.words
  | .dictionary key value => key.words ++ value.words
  | .object members => slotWords members

/-- The words in the type of a slot. -/
def Slot.words : Slot → List String
  | ⟨_, shape, _⟩ => shape.words

/-- The words in the types of several slots. -/
def slotWords : List Slot → List String
  | [] => []
  | slot :: rest => slot.words ++ slotWords rest

end

/-- The words in the type of an exception. -/
def Raised.words : Raised → List String
  | .message => []
  | .declared type _ => type.words

/-- The words in the types of a method, line by line. -/
def MethodSource.words (source : MethodSource) : List String :=
  source.formals.flatMap Slot.words ++ source.promised.shape.words ++ source.raised.words
    ++ source.returned?.elim [] (·.type.shape.words)

theorem slotWords_eq_flatMap (slots : List Slot) : slotWords slots = slots.flatMap Slot.words := by
  induction slots with
  | nil => rfl
  | cons slot rest ih => rw [slotWords, ih, List.flatMap_cons]

end AbiBindings.TypeScript

namespace AbiBindings.Bindings

open Manifest (TypeRef Field Method)
open TypeScript (Builtin Import MethodSource Reference codeLines exportedNames moduleImports readMethods
  safeIdent)

/-! ## What words stand for -/

/-- What a word in a type stands for. -/
inductive Word where
  | builtin (type : Builtin)
  | declaration (name : String)
  deriving DecidableEq, Repr

/-- How it is written. A declaration inside a namespace has the name of that before its own. -/
def Word.text (space? : Option String) : Word → String
  | .builtin type => type.text
  | .declaration name => space?.elim name (· ++ "." ++ name)

/-- A declaration is written as any reference to it is. -/
theorem Word.text_declaration (space? : Option String) (name : String) :
    (Word.declaration name).text space? = Reference.text ⟨space?, name⟩ := by
  cases space? <;> rfl

/-- The declaration that a word refers to. -/
def Word.declaration? : Word → Option String
  | .builtin _ => none
  | .declaration name => some name

mutual

/-- What the words in a type stand for. -/
def typeWords : TypeRef → List Word
  | .named name => [.declaration (safeIdent name)]
  | .primitive type => [.builtin (builtin type)]
  | .list items => typeWords items
  | .map key value => typeWords key ++ typeWords value
  | .record fields => fieldsWords fields

/-- What the words in the type of a field stand for. -/
def fieldWords : Field → List Word
  | ⟨_, type, _⟩ => typeWords type

/-- What the words in the types of several fields stand for. -/
def fieldsWords : List Field → List Word
  | [] => []
  | field :: rest => fieldWords field ++ fieldsWords rest

end

/-- What the words in the types of a method stand for: in its parameters, in what it promises, in what it
throws, and in what it returns. -/
def methodWords (method : Method) : List Word :=
  method.params.flatMap fieldWords
    ++ method.valueReturn?.elim [.builtin .void] typeWords
    ++ (if method.errors.isEmpty then [] else [.declaration (errorName method)])
    ++ method.valueReturn?.elim [] typeWords

/-- What the words in the types of a client stand for. -/
def clientWords (manifest : Manifest) : List Word := manifest.methods.flatMap methodWords

section Written

variable (space? : Option String)

mutual

/-- The words of a written type. -/
theorem words_writtenType : ∀ (type : TypeRef),
    (writtenType space? type).shape.words = (typeWords type).map (Word.text space?)
  | .named name => by
    rw [typeWords, List.map_singleton, Word.text_declaration]
    rfl
  | .primitive _ => rfl
  | .list items => by
    rw [writtenType, TypeScript.TypeExpr.shape, TypeScript.Shape.words, typeWords, words_writtenType items]
  | .map key value => by
    rw [writtenType, TypeScript.TypeExpr.shape, TypeScript.Shape.words, typeWords, List.map_append,
      words_writtenType key, words_writtenType value]
  | .record fields => by
    rw [writtenType, TypeScript.TypeExpr.shape, TypeScript.Shape.words, typeWords,
      words_writtenMembers fields]

theorem words_writtenMember : ∀ (field : Field),
    (writtenMember space? field).slot.words = (fieldWords field).map (Word.text space?)
  | ⟨_, type, _⟩ => by
    rw [writtenMember, TypeScript.Member.slot, TypeScript.Slot.words, fieldWords, words_writtenType type]

theorem words_writtenMembers : ∀ (fields : List Field),
    TypeScript.slotWords (TypeScript.memberSlots (writtenMembers space? fields))
      = (fieldsWords fields).map (Word.text space?)
  | [] => rfl
  | field :: rest => by
    rw [writtenMembers, TypeScript.memberSlots, TypeScript.slotWords, fieldsWords, List.map_append,
      words_writtenMember field, words_writtenMembers rest]

end

end Written

/-- **Words.** In either style, the words in the types of a method are written in the same order. -/
theorem words_source (style : Style) (method : Method) :
    (style.source method).words = (methodWords method).map (Word.text style.space?) := by
  have hField : ∀ field : Field, (style.shape field.type).words = (fieldWords field).map (Word.text style.space?) := by
    intro field
    obtain ⟨name, type, nullable⟩ := field
    exact words_writtenType style.space? type
  have hFormals : (style.formals method).flatMap TypeScript.Slot.words
      = (method.params.flatMap fieldWords).map (Word.text style.space?) := by
    rw [List.map_flatMap]
    -- field by field, in parameters of their own or in members of one
    cases style with
    | positional =>
      rw [Style.formals, List.flatMap_map]
      exact congrArg (List.flatMap · method.params) (funext hField)
    | namespaced =>
      rw [Style.formals]
      split
      next hNone => rw [List.isEmpty_iff.mp hNone]; rfl
      next =>
        rw [List.flatMap_singleton, TypeScript.Slot.words, TypeScript.Shape.words,
          TypeScript.slotWords_eq_flatMap, List.flatMap_map]
        exact congrArg (List.flatMap · method.params) (funext hField)
  have hRaised : (style.raised method).words
      = (if method.errors.isEmpty then [] else [.declaration (errorName method)]).map (Word.text style.space?) := by
    rw [Style.raised]
    split
    next => rfl
    next => rw [List.map_singleton, Word.text_declaration]; rfl
  -- in a method the words stand in four places, one after the other
  rw [TypeScript.MethodSource.words, methodWords, List.map_append, List.map_append, List.map_append]
  show (style.formals method).flatMap _ ++ ((style.returned? method).getD _).shape.words
    ++ (style.raised method).words ++ ((style.returned? method).map _).elim [] _ = _
  rw [hFormals, hRaised, Style.returned?]
  -- without a value there is the word `void` in what is promised, and nothing is returned
  cases method.valueReturn? with
  | none => rfl
  | some type =>
    have hType := words_writtenType style.space? type
    simp only [Option.map_some, Option.getD_some, Option.elim_some, Style.shape, hType]

/-! ## References -/

section References

mutual

/-- The references in a type are the names that it refers to. -/
theorem declarations_typeWords : ∀ (type : TypeRef),
    (typeWords type).filterMap Word.declaration? = typeNames type
  | .named _ => rfl
  | .primitive _ => rfl
  | .list items => by
    rw [typeWords, declarations_typeWords items, typeNames, typeNames, TypeRef.refs]
  | .map key value => by
    rw [typeWords, List.filterMap_append, declarations_typeWords key, declarations_typeWords value,
      typeNames, typeNames, typeNames, TypeRef.refs, List.map_append]
  | .record fields => by
    rw [typeWords, declarations_fieldsWords fields, typeNames, TypeRef.refs]

theorem declarations_fieldWords : ∀ (field : Field),
    (fieldWords field).filterMap Word.declaration? = typeNames field.type
  | ⟨_, type, _⟩ => by rw [fieldWords, declarations_typeWords type]

/-- The references in the types of fields, field by field. -/
theorem declarations_fieldsWords : ∀ (fields : List Field),
    (fieldsWords fields).filterMap Word.declaration? = (Manifest.fieldRefs fields).map safeIdent
  | [] => rfl
  | field :: rest => by
    obtain ⟨name, type, nullable⟩ := field
    rw [fieldsWords, List.filterMap_append, declarations_fieldWords ⟨name, type, nullable⟩,
      declarations_fieldsWords rest, Manifest.fieldRefs, Field.refs, List.map_append]
    rfl

end

/-- A reference is among words if it is left when the built-in types are taken away. -/
theorem declaration_mem {name : String} {words : List Word} :
    .declaration name ∈ words ↔ name ∈ words.filterMap Word.declaration? := by
  rw [List.mem_filterMap]
  constructor
  · exact fun h => ⟨.declaration name, h, rfl⟩
  · intro h
    obtain ⟨word, hWord, hName⟩ := h
    -- a built-in word is no name of a declaration
    cases word with
    | builtin type => cases hName
    | declaration other =>
      obtain rfl := Option.some.inj hName
      exact hWord

/-- The references in the types of a client are the names that its methods refer to. -/
theorem declaration_mem_clientWords {manifest : Manifest} {name : String} :
    .declaration name ∈ clientWords manifest ↔ name ∈ clientNames manifest := by
  have hMethod : ∀ method : Method, .declaration name ∈ methodWords method ↔ name ∈ methodNames method := by
    intro method
    have hParams : (method.params.flatMap fieldWords).filterMap Word.declaration?
        = method.params.flatMap fun param => typeNames param.type := by
      rw [List.filterMap_flatMap]
      exact congrArg (List.flatMap · method.params) (funext declarations_fieldWords)
    have hErrors : (if method.errors.isEmpty then [] else [Word.declaration (errorName method)]).filterMap
        Word.declaration? = if method.errors.isEmpty then [] else [errorName method] := by
      split <;> rfl
    have hPromised : (method.valueReturn?.elim [.builtin .void] typeWords).filterMap Word.declaration?
        = method.valueReturn?.elim [] typeNames := by
      cases method.valueReturn? with
      | none => rfl
      | some type => exact declarations_typeWords type
    have hReturned : (method.valueReturn?.elim [] typeWords).filterMap Word.declaration?
        = method.valueReturn?.elim [] typeNames := by
      cases method.valueReturn? with
      | none => rfl
      | some type => exact declarations_typeWords type
    rw [declaration_mem, methodWords, methodNames, List.filterMap_append, List.filterMap_append,
      List.filterMap_append, hParams, hErrors, hPromised, hReturned]
    -- the value that is returned is written twice
    simp only [List.mem_append]
    tauto
  rw [clientWords, clientNames, List.mem_flatMap, List.mem_flatMap]
  exact exists_congr fun method => and_congr_right fun _ => hMethod method

end References

/-! ## Exports -/

section Exports

variable {manifest : Manifest}

/-- Each entry of the table is claimed under the identifier for its name. -/
theorem claimed_entry {name : String} (h : name ∈ manifest.types.map (·.1)) :
    safeIdent name ∈ (typeClaims manifest).map Claim.name := by
  obtain ⟨entry, hEntry, rfl⟩ := List.mem_map.mp h
  refine List.mem_map.mpr ⟨⟨safeIdent entry.1, .type entry.1⟩, ?_, rfl⟩
  simp only [typeClaims, List.append_assoc]
  exact List.mem_append_left _ (List.mem_map.mpr ⟨entry, hEntry, rfl⟩)

/-- The errors of a method are claimed if there are any. -/
theorem claimed_errorName {method : Method} (hMethod : method ∈ manifest.methods)
    (hErrors : method.errors.isEmpty = false) :
    errorName method ∈ (typeClaims manifest).map Claim.name := by
  have hFailures : Declared.failures method.name method.errors ∈ declared manifest := by
    have hMem : Declared.failures method.name method.errors ∈ declaredErrors method := by
      rw [declaredErrors, hErrors]
      exact List.mem_cons_of_mem _ (List.mem_singleton_self _)
    simp only [declared, List.mem_append]
    exact Or.inl (Or.inl (Or.inr (List.mem_flatMap.mpr ⟨method, hMethod, hMem⟩)))
  rw [← claim_declared, List.map_map]
  exact List.mem_map.mpr ⟨_, hFailures, rfl⟩

/-- A type whose references are known refers to names that are claimed. -/
theorem claimed_typeNames {type : TypeRef} {location : String}
    (h : (Scope.ofManifest manifest).Knows (type.nodes location)) :
    ∀ name ∈ typeNames type, name ∈ (typeClaims manifest).map Claim.name := by
  intro name hName
  rw [← flatMap_nodeNames type location] at hName
  obtain ⟨node, hNode, hName⟩ := List.mem_flatMap.mp hName
  rw [nodeNames] at hName
  split at hName
  next ref hRef =>
    obtain rfl := List.mem_singleton.mp hName
    exact claimed_entry (h node hNode ref hRef)
  next => exact absurd hName List.not_mem_nil

/-- The same for the types of fields, which are known one by one. -/
theorem claimed_fields {fields : List Field} {location : String}
    (h : (Scope.ofManifest manifest).Knows (Manifest.fieldNodes location fields)) :
    ∀ field ∈ fields, ∀ name ∈ typeNames field.type, name ∈ (typeClaims manifest).map Claim.name := by
  induction fields with
  | nil => exact fun field hField => absurd hField List.not_mem_nil
  | cons field rest ih =>
    rw [Manifest.fieldNodes, Scope.knows_append] at h
    refine List.forall_mem_cons.mpr ⟨?_, ih h.2⟩
    obtain ⟨name, type, nullable⟩ := field
    rw [Field.nodes] at h
    exact claimed_typeNames h.1

/-- **Closed references.** In a valid manifest, whatever a client refers to is claimed by the module of
types. -/
theorem claimed_clientNames (hValid : manifest.Valid) :
    ∀ name ∈ clientNames manifest, name ∈ (typeClaims manifest).map Claim.name := by
  intro name hName
  obtain ⟨method, hMethod, hName⟩ := List.mem_flatMap.mp hName
  -- all references in a method of a valid manifest are to entries of the type table
  have hKnows : (Scope.ofManifest manifest).Knows method.nodes := Scope.knows_method hValid rfl hMethod
  rw [Method.nodes, Scope.knows_append, Scope.knows_append] at hKnows
  obtain ⟨hParams, hReturns, -⟩ := hKnows
  rw [methodNames, List.mem_append, List.mem_append] at hName
  -- the name comes from a parameter, from the value that is returned, or from the errors of the method
  rcases hName with (hParam | hReturn) | hError
  · obtain ⟨param, hMem, hParam⟩ := List.mem_flatMap.mp hParam
    exact claimed_fields hParams param hMem name hParam
  -- a value of the unit type is not returned, and has no references
  · have hValue := hReturns.filter (!·.isUnit)
    cases hType : method.returns?.filter (!·.isUnit) with
    | none =>
      rw [Method.valueReturn?, hType] at hReturn
      exact absurd hReturn List.not_mem_nil
    | some type =>
      rw [Method.valueReturn?, hType] at hReturn
      rw [hType] at hValue
      exact claimed_typeNames hValue name hReturn
  · split at hError
    next => exact absurd hError List.not_mem_nil
    next hSome =>
      obtain rfl := List.mem_singleton.mp hError
      exact claimed_errorName hMethod (Bool.eq_false_iff.mpr hSome)

end Exports

/-! ## Both modules -/

/-- **References.** In both modules that are generated for a manifest that was read, the words in the types
of the client methods are, in order, built-in types and the declarations that the methods refer to. Each of
these declarations is exported by the module of types. A positional client writes them under their own
names and imports exactly them, in ascending order, with no line for it if there are none; a namespaced
client has no such line and writes them inside the namespace. -/
theorem generate_references {document : Json} {manifest : Manifest}
    (hRead : Manifest.ofJson document = .ok manifest) {clientName : String} {style : Style}
    {generated : Generated} (h : generate manifest clientName style = .ok generated) :
    ∃ exported sources,
      exportedNames (Layout.textLines generated.types) = some exported ∧
      (∀ name, .declaration name ∈ clientWords manifest → name ∈ exported) ∧
      readMethods (codeLines generated.client) = some sources ∧
      sources.map MethodSource.words
        = manifest.methods.map (fun method => (methodWords method).map (Word.text style.space?)) ∧
      match style with
      | .positional => ∃ names,
        moduleImports (codeLines generated.client)
          = some (.passOn :: if names.isEmpty then [] else [.types names]) ∧
        names.Pairwise (· < ·) ∧ ∀ name, name ∈ names ↔ .declaration name ∈ clientWords manifest
      | .namespaced =>
        moduleImports (codeLines generated.client) = some [.wildcard typesNamespace, .passOn] := by
  have hValid := Manifest.valid_of_ofJson hRead
  obtain ⟨types, hTypes, h⟩ := bind_eq_ok.mp h
  obtain ⟨client, hClient, h⟩ := bind_eq_ok.mp h
  obtain rfl := pure_eq_ok.mp h
  have hLines := clientText_lines hClient
  refine ⟨_, _, exportedNames_typesText hTypes, fun name hName => ?_, hLines.methods, ?_, ?_⟩
  · exact claimed_clientNames hValid name (declaration_mem_clientWords.mp hName)
  -- each method is read with the words that its types have
  · rw [List.map_map]
    exact List.map_congr_left fun method _ => words_source style method
  · have hImports := hLines.imports
    cases style with
    | positional =>
      refine ⟨namesUsed manifest, hImports, pairwise_namesUsed manifest, fun name => ?_⟩
      exact mem_namesUsed.trans declaration_mem_clientWords.symm
    | namespaced => exact hImports

/-- A document with references at several depths, one of them to the type of an error. -/
def shelfDocument : Json := .object [
  ("schema_version", .string "wasm-abi/1"),
  ("types", .object [
    ("book", .object [("kind", .string "bytes")]),
    ("a shelf", .object [("kind", .string "record"), ("fields", .array [])])]),
  ("methods", .array [
    .object [("name", .string "find"), ("params", .array [
      .object [("name", .string "on"), ("type", .object [("kind", .string "list"),
        ("items", .object [("$ref", .string "a shelf")])])]]),
      ("returns", .object [("kind", .string "map"), ("key", .object [("kind", .string "string")]),
        ("value", .object [("$ref", .string "book")])]),
      ("errors", .array [.object [("code", .string "lost")]])]]),
  ("events", .array [])]

/-- The manifest that is read from it. -/
def shelfManifest : Manifest where
  types := [("book", .bytes none), ("a shelf", .record [])]
  methods := [⟨"find", [⟨"on", .list (.named "a shelf"), false⟩],
    some (.map (.primitive .string) (.named "book")), false, some [⟨"lost", none⟩]⟩]
  events := []

/-- Here both styles refer to the same declarations, which only the positional client imports by name. -/
theorem shelfManifest_references :
    Manifest.ofJson shelfDocument = .ok shelfManifest ∧
      ∃ positional namespaced names,
        generate shelfManifest "Shelf" .positional = .ok positional ∧
        generate shelfManifest "Shelf" .namespaced = .ok namespaced ∧
        moduleImports (codeLines positional.client)
          = some (.passOn :: if names.isEmpty then [] else [.types names]) ∧
        (∀ name, name ∈ names ↔ .declaration name ∈ clientWords shelfManifest) ∧
        moduleImports (codeLines namespaced.client) = some [.wildcard typesNamespace, .passOn] ∧
        clientWords shelfManifest = [.declaration "a_shelf", .builtin .string, .declaration "book",
          .declaration "findError", .builtin .string, .declaration "book"] := by
  have hRead : Manifest.ofJson shelfDocument = .ok shelfManifest := rfl
  have hPositional : ∃ generated, generate shelfManifest "Shelf" .positional = .ok generated := ⟨_, rfl⟩
  have hNamespaced : ∃ generated, generate shelfManifest "Shelf" .namespaced = .ok generated := ⟨_, rfl⟩
  obtain ⟨positional, hPositional⟩ := hPositional
  obtain ⟨namespaced, hNamespaced⟩ := hNamespaced
  obtain ⟨-, -, -, -, -, -, names, hImports, -, hNames⟩ := generate_references hRead hPositional
  obtain ⟨-, -, -, -, -, -, hNoImports⟩ := generate_references hRead hNamespaced
  exact ⟨hRead, positional, namespaced, names, hPositional, hNamespaced, hImports, hNames, hNoImports, rfl⟩

end AbiBindings.Bindings
