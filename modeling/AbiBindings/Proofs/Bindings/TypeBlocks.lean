import AbiBindings.Proofs.Bindings.Containment
import AbiBindings.Proofs.Bindings.Outcome
import AbiBindings.Proofs.TypeScript.DeclarationReading

/-!
# Bindings — the blocks of the type declarations

The module of types is checked for clashes in one pass over the manifest, which claims names, and
written in another, which makes declarations. Here both are tied to one list of what is declared. The
text of the module is its header and one block of lines for each entry of the list, and what stands in a
block depends on nothing but the entry.

* `Declared`, `declared` — what the module of types declares, in order;
* `Declared.claim`, `Declared.block`, `Declared.lines` — the name that is claimed for it, what is to be
  read of it, and the lines that it stands on;
* `claim_declared`, `typeDeclarations_eq` — the claims and the declarations are those for the list;
* `typesText_lines`, `exportedNames_typesText` — what is read from the text of the module;
* `redefine` — another definition for one type changes the block of this type.
-/

namespace AbiBindings.Bindings

open Manifest (TypeRef TypeDef Field Variant ErrorCase Method Event)
open TypeScript (Arm Bindable Block Declaration Discriminant Exports Laid OneLine Shape Slot bindable_safeIdent declaredIn
  exportedNames isExport isIdentifier readBlock safeIdent)

/-! ## What is declared -/

/-- What there is one declaration for: an entry of the type table, the codes and the errors of a method,
the payload of an event, or all events. -/
inductive Declared where
  | entry (name : String) (definition : TypeDef)
  | codes (method : String) (errors : List ErrorCase)
  | failures (method : String) (errors : List ErrorCase)
  | payload (event : String) (type : TypeRef)
  | anyEvent (events : List Event)

/-- What is declared for a method. -/
def declaredErrors (method : Method) : List Declared :=
  if method.errors.isEmpty then []
  else [.codes method.name method.errors, .failures method.name method.errors]

/-- What is declared for an event of its own. -/
def declaredPayload (event : Event) : List Declared := (event.payload?.map (.payload event.name)).toList

/-- What is declared for all events, if there are any. -/
def declaredUnion (events : List Event) : List Declared := if events.isEmpty then [] else [.anyEvent events]

/-- What the module of types declares, in order. -/
def declared (manifest : Manifest) : List Declared :=
  manifest.types.map (fun (name, definition) => .entry name definition)
    ++ manifest.methods.flatMap declaredErrors
    ++ manifest.events.flatMap declaredPayload
    ++ declaredUnion manifest.events

/-! ## What is to be read -/

/-- The shape of a type. -/
def typeShape (type : TypeRef) : Shape := (writtenType none type).shape

/-- The slot for a field. -/
def fieldSlot (field : Field) : Slot := ⟨field.name, typeShape field.type, field.nullable⟩

/-- The slot for a payload. -/
def payloadSlot (type : TypeRef) : Slot := ⟨"payload", typeShape type, false⟩

/-- The arm for a variant: an object with its name, and with its payload unless that is a `unit`. -/
def variantShapes (variant : Variant) : List Shape :=
  [.object (⟨"kind", .literal variant.name, false⟩
    :: ((variant.payload?.filter (!·.isUnit)).map payloadSlot).toList)]

/-- The arm for an error: an object with its code, and one with its payload. -/
def errorShapes (error : ErrorCase) : List Shape :=
  .object [⟨"code", .literal error.code, false⟩]
    :: (error.payload?.map fun type => .object [payloadSlot type]).toList

/-- The arm for an event: an object with its name and its payload. -/
def eventShapes (event : Event) : List Shape :=
  [.object (⟨"name", .literal event.name, false⟩ :: (event.payload?.map payloadSlot).toList)]

/-- The block of a union. Without arms it has no values. -/
def unionBlock (name : String) (arms : List (List Shape)) : Block :=
  if arms.isEmpty then .alternatives name [.word "never"] else .union name arms

namespace Declared

/-- The claim on a name. -/
def claim : Declared → Claim
  | .entry name _ => ⟨safeIdent name, .type name⟩
  | .codes method _ => ⟨safeIdent method ++ "ErrorCode", .errors method⟩
  | .failures method _ => ⟨safeIdent method ++ "Error", .errors method⟩
  | .payload event _ => ⟨safeIdent event ++ "Payload", .payload event⟩
  | .anyEvent _ => ⟨eventUnion, .eventUnion⟩

/-- The block that is to be read. -/
def block (declared : Declared) : Block :=
  match declared with
  | .entry _ (.record fields) => .interface declared.claim.name (fields.map fieldSlot)
  | .entry _ (.variant variants) => unionBlock declared.claim.name (variants.map variantShapes)
  | .entry _ (.bytes _) => .alternatives declared.claim.name [.word "Uint8Array"]
  | .codes _ errors => .alternatives declared.claim.name (errors.map (.literal ·.code))
  | .failures _ errors => unionBlock declared.claim.name (errors.map errorShapes)
  | .payload _ type => .alternatives declared.claim.name [typeShape type]
  | .anyEvent events => unionBlock declared.claim.name (events.map eventShapes)

/-- The declaration. -/
def declaration (declared : Declared) : Declaration :=
  match declared with
  | .entry _ (.record fields) => .interface declared.claim.name (writtenMembers none fields)
  | .entry _ (.variant variants) => .union declared.claim.name (variants.map fun variant =>
    ⟨.kind, variant.name, (variant.payload?.filter (!·.isUnit)).map (writtenType none)⟩)
  | .entry _ (.bytes count?) =>
    let doc := count?.toList.map fun count => "Fixed-length: " ++ toString count.value.toNat ++ " bytes."
    .synonym doc declared.claim.name (.builtin .byteArray)
  | .codes _ errors => .literals declared.claim.name (errors.map (·.code))
  | .failures _ errors => .union declared.claim.name (errors.map fun error =>
    ⟨.code, error.code, error.payload?.map (writtenType none)⟩)
  | .payload _ type => .synonym [] declared.claim.name (writtenType none type)
  | .anyEvent events => .union declared.claim.name (events.map fun event =>
    ⟨.name, event.name, event.payload?.map (writtenType none)⟩)

/-- The lines of the declaration. -/
def lines (declared : Declared) : List String := declared.declaration.lines

theorem name_declaration (declared : Declared) : declared.declaration.name = declared.claim.name := by
  cases declared with
  | entry name definition => cases definition <;> rfl
  | codes | failures | payload | anyEvent => rfl

/-- A union of arms is read as the types of the arms. -/
theorem block_union {α : Type} (name : String) (arm : α → Arm) (items : List α) :
    (Declaration.union name (items.map arm)).block = unionBlock name (items.map fun item => (arm item).types) := by
  cases items with
  | nil => rfl
  | cons item items =>
    show Block.union name ((arm item :: items.map arm).map Arm.types) = _
    rw [List.map_cons, List.map_map]
    rfl

/-- What is written for is what is to be read. -/
theorem block_declaration (declared : Declared) : declared.declaration.block = declared.block := by
  -- arm by arm, the three kinds of unions
  have hVariant : ∀ variant : Variant, Arm.types ⟨.kind, variant.name,
      (variant.payload?.filter (!·.isUnit)).map (writtenType none)⟩ = variantShapes variant := by
    intro variant
    rw [variantShapes]
    cases variant.payload?.filter (!·.isUnit) <;> rfl
  have hError : ∀ error : ErrorCase,
      Arm.types ⟨.code, error.code, error.payload?.map (writtenType none)⟩ = errorShapes error := by
    intro error
    rw [errorShapes]
    cases error.payload? <;> rfl
  have hEvent : ∀ event : Event,
      Arm.types ⟨.name, event.name, event.payload?.map (writtenType none)⟩ = eventShapes event := by
    intro event
    rw [eventShapes]
    cases event.payload? <;> rfl
  cases declared with
  | entry name definition =>
    cases definition with
    | record fields =>
      rw [declaration, Declaration.block, block, writtenMembers_eq_map, List.map_map]
      exact congrArg _ (List.map_congr_left fun field _ => slot_writtenMember none field)
    | variant variants =>
      rw [declaration, block, block_union]
      exact congrArg _ (List.map_congr_left fun variant _ => hVariant variant)
    | bytes count? => rfl
  | codes method errors =>
    rw [declaration, Declaration.block, block, List.map_map]
    rfl
  | failures method errors =>
    rw [declaration, block, block_union]
    exact congrArg _ (List.map_congr_left fun error _ => hError error)
  | payload event type => rfl
  | anyEvent events =>
    rw [declaration, block, block_union]
    exact congrArg _ (List.map_congr_left fun event _ => hEvent event)

end Declared

/-! ## Claims and declarations -/

section Passes

variable {manifest : Manifest}

/-- **Claims.** The names that are claimed are those of what is declared, in the same order. -/
theorem claim_declared (manifest : Manifest) :
    (declared manifest).map Declared.claim = typeClaims manifest := by
  have hErrors : ∀ method : Method, (declaredErrors method).map Declared.claim
      = if method.errors.isEmpty then [] else
          [⟨safeIdent method.name ++ "ErrorCode", .errors method.name⟩,
            ⟨safeIdent method.name ++ "Error", .errors method.name⟩] := by
    intro method
    rw [declaredErrors]
    split <;> rfl
  have hPayload : ∀ event : Event, (declaredPayload event).map Declared.claim
      = if event.payload?.isNone then [] else [⟨safeIdent event.name ++ "Payload", .payload event.name⟩] := by
    intro event
    rw [declaredPayload]
    cases event.payload? <;> rfl
  have hUnion : (declaredUnion manifest.events).map Declared.claim
      = if manifest.events.isEmpty then [] else [⟨"AbiEvent", .eventUnion⟩] := by
    rw [declaredUnion]
    split <;> rfl
  -- part by part, in the order of the manifest
  rw [declared, typeClaims_eq, List.map_append, List.map_append, List.map_append, List.map_map,
    List.map_flatMap, List.map_flatMap, hUnion]
  simp only [hErrors, hPayload]
  rfl

/-- An arm with a discriminant, a label and a payload, as every arm is made. -/
theorem arm_eq {scope : Scope} (hSpace : scope.space? = none) {discriminant : Discriminant} {label : String}
    {payload? : Option TypeRef} {arm : Arm}
    (h : (do return ⟨discriminant, label, ← scope.payload payload?⟩ : Except GenerateError Arm) = .ok arm) :
    arm = ⟨discriminant, label, payload?.map (writtenType none)⟩ := by
  obtain ⟨written?, hPayload, h⟩ := bind_eq_ok.mp h
  obtain rfl := pure_eq_ok.mp h
  rw [Scope.payload_eq hPayload, hSpace]

/-- What is made of an entry of the table is its declaration. -/
theorem entryDeclaration_eq {scope : Scope} (hSpace : scope.space? = none) {name : String}
    {definition : TypeDef} {declaration : Declaration}
    (h : entryDeclaration scope (name, definition) = .ok declaration) :
    declaration = (Declared.entry name definition).declaration := by
  cases definition with
  | record fields =>
    obtain ⟨members, hMembers, h⟩ := bind_eq_ok.mp h
    obtain rfl := pure_eq_ok.mp h
    rw [Scope.members_eq hMembers, hSpace]
    rfl
  | variant variants =>
    obtain ⟨arms, hArms, h⟩ := bind_eq_ok.mp h
    obtain rfl := pure_eq_ok.mp h
    rw [eq_map_of_mapM_eq_ok hArms fun _ _ hArm => arm_eq hSpace hArm]
    rfl
  | bytes count? => exact (pure_eq_ok.mp h).symm

/-- What is made of a method are the declarations of its errors. -/
theorem errorDeclarations_eq {scope : Scope} (hSpace : scope.space? = none) {method : Method}
    {declarations : List Declaration} (h : errorDeclarations scope method = .ok declarations) :
    declarations = (declaredErrors method).map Declared.declaration := by
  rw [errorDeclarations] at h
  rw [declaredErrors]
  split at h
  next hNone =>
    rw [if_pos hNone]
    exact (pure_eq_ok.mp h).symm
  next hSome =>
    obtain ⟨arms, hArms, h⟩ := bind_eq_ok.mp h
    obtain rfl := pure_eq_ok.mp h
    rw [if_neg hSome, eq_map_of_mapM_eq_ok hArms fun _ _ hArm => arm_eq hSpace hArm]
    rfl

/-- What is made of an event by itself is the declaration of its payload. -/
theorem payloadDeclarations_eq {scope : Scope} (hSpace : scope.space? = none) {event : Event}
    {declarations : List Declaration} (h : payloadDeclarations scope event = .ok declarations) :
    declarations = (declaredPayload event).map Declared.declaration := by
  rw [payloadDeclarations] at h
  rw [declaredPayload]
  split at h
  next type hType =>
    obtain ⟨expr, hExpr, h⟩ := bind_eq_ok.mp h
    obtain rfl := pure_eq_ok.mp h
    rw [hType, Scope.type_eq hExpr, hSpace]
    rfl
  next hNone =>
    rw [hNone]
    exact (pure_eq_ok.mp h).symm

/-- What is made of all events is the declaration of their union. -/
theorem eventDeclarations_eq {scope : Scope} (hSpace : scope.space? = none) {events : List Event}
    {declarations : List Declaration} (h : eventDeclarations scope events = .ok declarations) :
    declarations = (declaredUnion events).map Declared.declaration := by
  rw [eventDeclarations] at h
  rw [declaredUnion]
  split at h
  next hNone =>
    rw [if_pos hNone]
    exact (pure_eq_ok.mp h).symm
  next hSome =>
    obtain ⟨arms, hArms, h⟩ := bind_eq_ok.mp h
    obtain rfl := pure_eq_ok.mp h
    rw [if_neg hSome, eq_map_of_mapM_eq_ok hArms fun _ _ hArm => arm_eq hSpace hArm]
    rfl

/-- **Declarations.** The declarations that are made are those of what is declared, in the same order;
and the names that are claimed differ. -/
theorem typeDeclarations_eq {declarations : List Declaration}
    (h : typeDeclarations manifest = .ok declarations) :
    declarations = (declared manifest).map Declared.declaration ∧
      ((typeClaims manifest).map Claim.name).Nodup := by
  have hSpace : (Scope.ofManifest manifest).space? = none := rfl
  -- the claims are checked first, then the declarations are made in four parts
  obtain ⟨_, hClaims, h⟩ := bind_eq_ok.mp h
  obtain ⟨entries, hEntries, h⟩ := bind_eq_ok.mp h
  obtain ⟨errors, hErrors, h⟩ := bind_eq_ok.mp h
  obtain ⟨payloads, hPayloads, h⟩ := bind_eq_ok.mp h
  obtain ⟨union, hUnion, h⟩ := bind_eq_ok.mp h
  obtain rfl := pure_eq_ok.mp h
  refine ⟨?_, checkClaims_eq_ok.mp hClaims⟩
  have hEntry : ∀ (entry : String × TypeDef) declaration,
      entryDeclaration (.ofManifest manifest) entry = .ok declaration →
        declaration = (Declared.entry entry.1 entry.2).declaration :=
    fun _ _ hDeclaration => entryDeclaration_eq hSpace hDeclaration
  rw [eq_map_of_mapM_eq_ok hEntries hEntry,
    eq_map_of_mapM_eq_ok hErrors fun _ _ hDeclarations => errorDeclarations_eq hSpace hDeclarations,
    eq_map_of_mapM_eq_ok hPayloads fun _ _ hDeclarations => payloadDeclarations_eq hSpace hDeclarations,
    eventDeclarations_eq hSpace hUnion]
  rw [declared, List.map_append, List.map_append, List.map_append, List.map_map, List.map_flatMap,
    List.map_flatMap, List.flatMap_def, List.flatMap_def]
  rfl

end Passes

/-! ## The text -/

section Text

variable {manifest : Manifest} {text : String}

/-- The first line of every module. -/
def originLine : String :=
  "// Code generated by abi-codegen from a " ++ Manifest.schemaVersion ++ " manifest. DO NOT EDIT."

/-- The second line of every module, with the fingerprint of the manifest. -/
def hashLine (manifest : Manifest) : String := "// abi-hash: " ++ manifest.fingerprint.hex

theorem newline_not_mem_of_oneLine {comment : String} (h : OneLine comment) : '\n' ∉ comment.toList :=
  fun hMem => absurd (h '\n' hMem) (by decide)

/-- Both lines of the header are comments. -/
theorem exists_headerLines_eq (manifest : Manifest) :
    ∃ origin hash, OneLine origin ∧ OneLine hash ∧
      originLine = "//" ++ origin ∧ hashLine manifest = "//" ++ hash := by
  obtain ⟨origin, hash, hOrigin, hHash, hSteps⟩ := exists_headerSteps_eq manifest
  have hLines : headerSteps manifest = [.line originLine, .line (hashLine manifest)] := rfl
  rw [hLines] at hSteps
  obtain ⟨hFirst, hRest⟩ := List.cons.inj hSteps
  exact ⟨origin, hash, hOrigin, hHash, Layout.Step.line.inj hFirst,
    Layout.Step.line.inj (List.cons.inj hRest).1⟩

/-- The header is laid out on its two lines. -/
theorem laid_headerSteps (manifest : Manifest) :
    Laid 0 (headerSteps manifest) [originLine, hashLine manifest] := by
  -- what begins with slashes is not empty, so it has a line of its own
  have hLaid : ∀ {comment : String}, OneLine comment → Laid 0 [.line ("//" ++ comment)] ["//" ++ comment] := by
    intro comment hComment
    have hSlashes : '\n' ∉ "//".toList := by decide
    refine TypeScript.laid_top ⟨fun hEmpty => ?_, ?_⟩
    · exact absurd (String.append_eq_empty_iff.mp hEmpty).1 (by decide)
    · rw [String.toList_append]
      exact List.not_mem_append hSlashes (newline_not_mem_of_oneLine hComment)
  have hSteps : headerSteps manifest = [.line originLine, .line (hashLine manifest)] := rfl
  obtain ⟨origin, hash, hOrigin, hHash, hFirst, hSecond⟩ := exists_headerLines_eq manifest
  rw [hSteps, hFirst, hSecond]
  exact (hLaid hOrigin).cons (hLaid hHash)

/-- The header exports nothing. -/
theorem not_export_header (manifest : Manifest) :
    ∀ line ∈ [originLine, hashLine manifest], isExport line = false := by
  have hComment : ∀ comment, isExport ("//" ++ comment) = false := by
    intro comment
    have hHead : ("//" ++ comment).toList.head? = some '/' := by
      rw [String.toList_append]
      rfl
    exact TypeScript.isExport_eq_false hHead (by decide)
  obtain ⟨origin, hash, -, -, hFirst, hSecond⟩ := exists_headerLines_eq manifest
  rw [hFirst, hSecond]
  exact List.forall_mem_cons.mpr ⟨hComment origin, List.forall_mem_singleton.mpr (hComment hash)⟩

/-- Codes are declared for methods that declare errors. -/
theorem ne_nil_of_codes {method : String} {errors : List ErrorCase}
    (h : Declared.codes method errors ∈ declared manifest) : errors ≠ [] := by
  rw [declared, List.mem_append, List.mem_append, List.mem_append] at h
  -- only a method has codes declared for it
  rcases h with ((hEntry | hMethod) | hEvent) | hUnion
  · obtain ⟨entry, -, hEq⟩ := List.mem_map.mp hEntry
    cases hEq
  · obtain ⟨other, -, hMem⟩ := List.mem_flatMap.mp hMethod
    rw [declaredErrors] at hMem
    split at hMem
    next => exact absurd hMem List.not_mem_nil
    next hSome =>
      rcases List.mem_cons.mp hMem with hEq | hMem
      · cases hEq
        exact fun hNone => hSome (List.isEmpty_iff.mpr hNone)
      · cases List.mem_singleton.mp hMem
  · obtain ⟨event, -, hMem⟩ := List.mem_flatMap.mp hEvent
    rw [declaredPayload, Option.mem_toList, Option.map_eq_some_iff] at hMem
    obtain ⟨type, -, hEq⟩ := hMem
    cases hEq
  · rw [declaredUnion] at hUnion
    split at hUnion
    · exact absurd hUnion List.not_mem_nil
    · cases List.mem_singleton.mp hUnion

/-- What is declared can be told from what is around it. -/
theorem readable_declaration {entry : Declared} (h : entry ∈ declared manifest) :
    entry.declaration.Readable := by
  have hSpace : Namespace none := fun _ hSpace => absurd hSpace (by simp)
  -- the payload of an arm is a written type, whatever the arm is made of
  have hArms : ∀ {α : Type} {arm : α → Arm} {payload? : α → Option TypeRef} (items : List α),
      (∀ item, (arm item).payload? = (payload? item).map (writtenType none)) →
        ∀ written ∈ items.map arm, ∀ payload ∈ written.payload?, payload.Worded := by
    intro α arm payload? items hPayload
    refine List.forall_mem_map.mpr fun item _ payload hMem => ?_
    rw [hPayload, Option.mem_def, Option.map_eq_some_iff] at hMem
    obtain ⟨type, -, rfl⟩ := hMem
    exact hSpace.worded type
  have hName : isIdentifier entry.claim.name = true := by
    refine (bindable_claimName manifest entry.claim ?_).identifier
    rw [← claim_declared]
    exact List.mem_map_of_mem h
  cases entry with
  | entry name definition =>
    cases definition with
    | record fields =>
      refine ⟨hName, ?_⟩
      rw [writtenMembers_eq_map]
      refine List.forall_mem_map.mpr fun field _ => ?_
      obtain ⟨key, type, nullable⟩ := field
      exact hSpace.worded type
    | variant variants => exact ⟨hName, hArms variants fun _ => rfl⟩
    | bytes count? =>
      refine ⟨hName, hSpace.worded (.primitive .bytes), ?_, ?_⟩
      · cases count? <;> simp
      · refine List.forall_mem_map.mpr fun count _ => ?_
        -- the comment has nothing but digits in it that is not fixed
        have hDigits : '\n' ∉ (toString count.value.toNat).toList := by
          rw [Nat.toString_eq_repr, Nat.toList_repr]
          intro hMem
          exact absurd (Nat.isDigit_of_mem_toDigits (by decide) (by decide) hMem) (by decide)
        rw [String.toList_append, String.toList_append]
        exact List.not_mem_append (List.not_mem_append (by decide) hDigits) (by decide)
  | codes method errors => exact ⟨hName, fun hNone => ne_nil_of_codes h (List.map_eq_nil_iff.mp hNone)⟩
  | failures method errors => exact ⟨hName, hArms errors fun _ => rfl⟩
  | payload event type => exact ⟨hName, hSpace.worded type, by simp, by simp⟩
  | anyEvent events => exact ⟨hName, hArms events fun _ => rfl⟩

/-- What is read from the text of the module of types. -/
structure TypesLines (manifest : Manifest) (text : String) : Prop where
  lines : Layout.textLines text = [originLine, hashLine manifest]
    ++ ((declared manifest).map Declared.lines).flatMap ("" :: ·)
  sections : Layout.sections text = [originLine, hashLine manifest] :: (declared manifest).map Declared.lines
  blocks : ∀ entry ∈ declared manifest, readBlock entry.lines = some entry.block
  exports : ∀ entry ∈ declared manifest, Exports entry.lines entry.claim.name

/-- **Types.** The text of the module of types is its header and a block for each thing that is declared,
which is read as what is to be read of it. -/
theorem typesText_lines (h : typesText manifest = .ok text) : TypesLines manifest text := by
  obtain ⟨declarations, hDeclarations, h⟩ := bind_eq_ok.mp h
  obtain rfl := pure_eq_ok.mp h
  obtain ⟨rfl, -⟩ := typeDeclarations_eq hDeclarations
  have hLinewise := linewise_moduleSteps manifest
    (TypeScript.closedStep_declarationSteps (typeDeclarations_closed hDeclarations))
  have hLaid : ∀ entry ∈ declared manifest, Laid 0 entry.declaration.steps entry.lines :=
    fun entry hEntry => (readable_declaration hEntry).laid
  -- an empty line before each declaration is what separates the blocks
  have hBody : Layout.Lays 2 0 (TypeScript.declarationSteps ((declared manifest).map Declared.declaration))
      (((declared manifest).map Declared.lines).flatMap ("" :: ·)) := by
    rw [TypeScript.declarationSteps, List.flatMap_map, List.flatMap_map]
    exact Layout.lays_flatMap fun entry hEntry => Layout.lays_blank.cons (hLaid entry hEntry).lays
  have hLines := Layout.textLines_render hLinewise ((laid_headerSteps manifest).lays.append hBody)
  -- the sections, then block by block what is read and what is exported
  refine ⟨hLines, ?_, fun entry hEntry => ?_, fun entry hEntry => ?_⟩
  · rw [Layout.sections, moduleText, hLines, Layout.sections_flatMap (laid_headerSteps manifest).filled]
    exact List.forall_mem_map.mpr fun entry hEntry => (hLaid entry hEntry).filled
  · rw [← entry.block_declaration]
    exact (readable_declaration hEntry).readBlock
  · rw [← entry.name_declaration]
    exact (readable_declaration hEntry).exports

/-- The names that the module of types exports are the ones that are claimed. -/
theorem exportedNames_typesText (h : typesText manifest = .ok text) :
    exportedNames (Layout.textLines text) = some ((typeClaims manifest).map Claim.name) := by
  have hLines := typesText_lines h
  have hHeader : [originLine, hashLine manifest].filter isExport = [] :=
    List.filter_eq_nil_iff.mpr fun line hLine => Bool.eq_false_iff.mp (not_export_header manifest line hLine)
  -- every block adds one line, and that declares one name
  have hBlocks : ∀ entries : List Declared, (∀ entry ∈ entries, Exports entry.lines entry.claim.name) →
      (((entries.map Declared.lines).flatMap ("" :: ·)).filter isExport).mapM declaredIn
        = some (entries.map fun entry => [entry.claim.name]) := by
    intro entries hEntries
    induction entries with
    | nil => rfl
    | cons entry entries ih =>
      obtain ⟨⟨line, hFilter, hName⟩, hOthers⟩ := List.forall_mem_cons.mp hEntries
      have hBlank : isExport "" = false := rfl
      rw [List.map_cons, List.flatMap_cons, List.filter_append, List.filter_cons_of_neg (by simp [hBlank]),
        hFilter, List.singleton_append, List.mapM_cons, hName, ih hOthers]
      rfl
  rw [exportedNames, hLines.lines, List.filter_append, hHeader, List.nil_append, hBlocks _ hLines.exports,
    ← claim_declared, List.map_map, Option.map_some, ← List.flatMap_def]
  exact congrArg some List.map_eq_flatMap.symm

end Text

/-! ## Another definition -/

section Redefine

variable {manifest : Manifest} {name : String} {definition : TypeDef}

/-- The manifest with another definition of a type. -/
def redefine (manifest : Manifest) (name : String) (definition : TypeDef) : Manifest where
  types := manifest.types.map fun entry => if entry.1 = name then (name, definition) else entry
  methods := manifest.methods
  events := manifest.events

/-- An entry for the type is replaced. -/
def Declared.redefine (name : String) (definition : TypeDef) (entry : Declared) : Declared :=
  if entry.claim.origin = .type name then .entry name definition else entry

/-- Nothing but the entry for the type is another one. -/
theorem declared_redefine (manifest : Manifest) (name : String) (definition : TypeDef) :
    declared (redefine manifest name definition) = (declared manifest).map (.redefine name definition) := by
  -- the origin of a claim tells the entry for the type from all others
  have hEntry : ∀ entry : String × TypeDef,
      (fun (other, old) => Declared.entry other old) (if entry.1 = name then (name, definition) else entry)
        = (Declared.entry entry.1 entry.2).redefine name definition := by
    intro entry
    simp only [Declared.redefine, Declared.claim, Origin.type.injEq]
    split <;> rfl
  have hErrors : ∀ method : Method,
      (declaredErrors method).map (.redefine name definition) = declaredErrors method := by
    intro method
    rw [declaredErrors]
    split <;> rfl
  have hPayload : ∀ event : Event,
      (declaredPayload event).map (.redefine name definition) = declaredPayload event := by
    intro event
    rw [declaredPayload]
    cases event.payload? <;> rfl
  have hUnion : ∀ events : List Event,
      (declaredUnion events).map (.redefine name definition) = declaredUnion events := by
    intro events
    rw [declaredUnion]
    split <;> rfl
  simp only [declared, Bindings.redefine, List.map_append, List.map_map, List.map_flatMap, hErrors, hPayload,
    hUnion]
  congr 3
  exact List.map_congr_left fun entry _ => hEntry entry

end Redefine

/-! ## The module of types -/

/-- **Blocks.** Between its empty lines, the module of types is a header of two lines and a block for each
name that is claimed, in the order of the claims. Each block declares its name, in the one line of it
that exports something, and is read as what the manifest declares there, a line for each member or arm.
No name is claimed twice, and each can name a declaration. With another definition of a type, the block of
this type and the line of the fingerprint are the only ones that may differ. -/
theorem typesText_blocks {manifest : Manifest} {text : String} (h : typesText manifest = .ok text) :
    (Layout.sections text = [originLine, hashLine manifest] :: (declared manifest).map Declared.lines ∧
        (declared manifest).map Declared.claim = typeClaims manifest) ∧
      (∀ line ∈ [originLine, hashLine manifest], isExport line = false) ∧
      (∀ entry ∈ declared manifest,
        readBlock entry.lines = some entry.block ∧ Exports entry.lines entry.claim.name) ∧
      (((typeClaims manifest).map Claim.name).Nodup ∧ ∀ claim ∈ typeClaims manifest, Bindable claim.name) ∧
      ∀ name definition other, typesText (redefine manifest name definition) = .ok other →
        Layout.sections other = [originLine, hashLine (redefine manifest name definition)]
          :: (declared manifest).map fun entry =>
            if entry.claim.origin = .type name then Declared.lines (.entry name definition) else entry.lines := by
  have hLines := typesText_lines h
  obtain ⟨declarations, hDeclarations, -⟩ := bind_eq_ok.mp h
  refine ⟨⟨hLines.sections, claim_declared manifest⟩, not_export_header manifest,
    fun entry hEntry => ⟨hLines.blocks entry hEntry, hLines.exports entry hEntry⟩,
    ⟨(typeDeclarations_eq hDeclarations).2, bindable_claimName manifest⟩, ?_⟩
  -- the redefined manifest declares the same entries but for one, so its sections are those of the new list
  intro name definition other hOther
  rw [(typesText_lines hOther).sections, declared_redefine, List.map_map]
  exact congrArg _ (List.map_congr_left fun entry _ => apply_ite Declared.lines _ _ _)

/-- A manifest with a declaration of every kind. -/
def deviceManifest : Manifest where
  types := [
    ("device", .record [⟨"export ", .named "state", true⟩, ⟨"tags", .list (.primitive .string), false⟩]),
    ("state", .variant [⟨"on;", some (.primitive .u32)⟩, ⟨"off", some (.primitive .unit)⟩]),
    ("nothing", .variant []),
    ("address", .bytes (some ⟨6, by decide⟩))]
  methods := [⟨"reset", [], none, false, some [⟨"busy", none⟩, ⟨"lost", some (.named "device")⟩]⟩]
  events := [⟨"found", some (.named "device")⟩, ⟨"gone", none⟩]

/-- With another definition of `state`, the other blocks of this manifest stay as they are. -/
theorem deviceManifest_blocks :
    ∃ text other, typesText deviceManifest = .ok text ∧
      typesText (redefine deviceManifest "state" (.record [])) = .ok other ∧
      Layout.sections text
        = [originLine, hashLine deviceManifest] :: (declared deviceManifest).map Declared.lines ∧
      Layout.sections other = [originLine, hashLine (redefine deviceManifest "state" (.record []))]
        :: (declared deviceManifest).map fun entry =>
          if entry.claim.origin = .type "state" then Declared.lines (.entry "state" (.record []))
          else entry.lines := by
  have hText : ∃ text, typesText deviceManifest = .ok text := ⟨_, rfl⟩
  have hOther : ∃ other, typesText (redefine deviceManifest "state" (.record [])) = .ok other := ⟨_, rfl⟩
  obtain ⟨text, hText⟩ := hText
  obtain ⟨other, hOther⟩ := hOther
  obtain ⟨⟨hSections, -⟩, -, -, -, hRedefine⟩ := typesText_blocks hText
  exact ⟨text, other, hText, hOther, hSections, hRedefine "state" (.record []) other hOther⟩

end AbiBindings.Bindings
