import AbiBindings.Proofs.Bindings.FirstRepeat
import AbiBindings.Proofs.Bindings.Rendering

/-!
# Bindings — when generation succeeds

Whether bindings can be generated for a manifest that was read is decided by names alone. There are
four layers of names, looked at one after the other: the claims of the type declarations, the claims
of the client, the bindings of the methods, and the parameters of each method. The first repetition in
the first layer that has one is what is reported.

* `Refusal` — the error for each layer, with what must hold of the layers before;
* `generate_eq_error`, `generate_eq_ok` — errors are refusals, and without a repetition there are
  bindings;
* `typeClaims_eq`, `clientClaims_eq` — the claims one by one, with what each name is made of;
* `generate_outcome` — all of it, for every manifest that was read.
-/

namespace AbiBindings.Bindings

open Manifest (Method)
open TypeScript (safeIdent)

/-! ## Claims -/

section Claims

/-- What is made of the elements that are kept is made of all, with nothing for the others. -/
theorem flatMap_filter {α β : Type} (as : List α) (keep : α → Bool) (f : α → List β) :
    (as.filter keep).flatMap f = as.flatMap fun a => if keep a then f a else [] := by
  induction as with
  | nil => rfl
  | cons a as ih =>
    rw [List.filter_cons, List.flatMap_cons, ← ih]
    split
    · exact List.flatMap_cons
    · exact (List.nil_append _).symm

/-- The names that the type declarations claim: those of the types, two for each method that declares
errors, one for each event that carries something, and that of the union of all events. -/
theorem typeClaims_eq (manifest : Manifest) : typeClaims manifest =
    manifest.types.map (fun entry => ⟨safeIdent entry.1, .type entry.1⟩)
      ++ manifest.methods.flatMap (fun method => if method.errors.isEmpty then [] else
        [⟨safeIdent method.name ++ "ErrorCode", .errors method.name⟩,
          ⟨safeIdent method.name ++ "Error", .errors method.name⟩])
      ++ manifest.events.flatMap (fun event => if event.payload?.isNone then [] else
        [⟨safeIdent event.name ++ "Payload", .payload event.name⟩])
      ++ if manifest.events.isEmpty then [] else [⟨"AbiEvent", .eventUnion⟩] := by
  -- the lists ask whether there is something, and the statement whether there is nothing
  have hMethods : ∀ method : Method, ∀ claims : List Claim,
      (if (!method.errors.isEmpty) = true then claims else []) = if method.errors.isEmpty then [] else claims := by
    intro method claims
    cases method.errors.isEmpty <;> rfl
  have hEvents : ∀ event : Manifest.Event, ∀ claims : List Claim,
      (if event.payload?.isSome = true then claims else []) = if event.payload?.isNone then [] else claims := by
    intro event claims
    cases event.payload? <;> rfl
  rw [typeClaims, List.map_eq_flatMap (l := manifest.events.filter _), flatMap_filter, flatMap_filter]
  simp only [hMethods, hEvents]
  rfl

/-- The names of the client: those of the type declarations, which it passes on, the namespace for them if
it has one, its support code, the exception that its methods throw, and the class. -/
theorem clientClaims_eq (manifest : Manifest) (clientName : String) (style : Style) :
    clientClaims manifest clientName style = typeClaims manifest
      ++ (if style = .namespaced then [⟨"types", .typesImport⟩] else [])
      ++ [⟨"AbiCallFailure", .support⟩, ⟨"AbiCallResult", .support⟩, ⟨"AbiCall", .support⟩,
        ⟨"AbiMethodError", .support⟩, ⟨"methodError", .support⟩]
      ++ [⟨"Error", .globalError⟩, ⟨safeIdent clientName, .clientClass⟩] := by
  cases style <;> rfl

end Claims

/-! ## Refusals -/

/-- Why no bindings are generated for a manifest, by layers of names. -/
inductive Refusal (manifest : Manifest) (clientName : String) (style : Style) : GenerateError → Prop
  /-- The first name that the type declarations claim twice. -/
  | typeName {earlier later : Claim}
    (hRepeat : FirstRepeat Claim.name (typeClaims manifest) earlier later) :
    Refusal manifest clientName style
      (.duplicateDeclaration typesFile ⟨later.name, earlier.origin, later.origin⟩)
  /-- The first name that the client claims twice. -/
  | clientName {earlier later : Claim} (hTypes : ((typeClaims manifest).map Claim.name).Nodup)
    (hRepeat : FirstRepeat Claim.name (clientClaims manifest clientName style) earlier later) :
    Refusal manifest clientName style
      (.duplicateDeclaration clientFile ⟨later.name, earlier.origin, later.origin⟩)
  /-- The first method whose binding is that of an earlier one. -/
  | binding {earlier later : Method}
    (hClaims : ((clientClaims manifest clientName style).map Claim.name).Nodup)
    (hRepeat : FirstRepeat style.bindingName manifest.methods earlier later) :
    Refusal manifest clientName style (.duplicateBinding (style.bindingName later) later.name)
  /-- The first parameter with the name of an earlier one, in the first method that has one. -/
  | parameter {before after : List Method} {method : Method} {earlier later : String}
    (hClaims : ((clientClaims manifest clientName style).map Claim.name).Nodup)
    (hBindings : (manifest.methods.map style.bindingName).Nodup)
    (hMethods : manifest.methods = before ++ method :: after)
    (hBefore : ∀ other ∈ before, (style.parameterNames other).Nodup)
    (hRepeat : FirstRepeat id (style.parameterNames method) earlier later) :
    Refusal manifest clientName style (.duplicateParameter method.name later)

/-- The client passes the type declarations on, so its claims begin with theirs. -/
theorem nodup_typeClaims {manifest : Manifest} {clientName : String} {style : Style}
    (h : ((clientClaims manifest clientName style).map Claim.name).Nodup) :
    ((typeClaims manifest).map Claim.name).Nodup := by
  rw [clientClaims, List.append_assoc, List.append_assoc, List.map_append] at h
  exact (List.nodup_append.mp h).1

/-! ## The client module -/

section Client

variable {manifest : Manifest} (hValid : manifest.Valid) {style : Style}

include hValid

/-- Of a method of the manifest, nothing is left but the check of its parameters. -/
theorem exists_method_eq {method : Method} (hMethod : method ∈ manifest.methods) :
    ∃ written, clientMethod style (style.scope manifest) method
      = (fun _ => written) <$> checkParameters method (style.parameterNames method) := by
  have hDeclared : (style.scope manifest).declared = manifest.types.map (·.1) := by
    cases style <;> rfl
  exact exists_clientMethod_eq style (Scope.knows_method hValid hDeclared hMethod)

/-- So a method can be written exactly if its parameters differ. -/
theorem clientMethod_eq_ok {method : Method} (hMethod : method ∈ manifest.methods) :
    (∃ written, clientMethod style (style.scope manifest) method = .ok written) ↔
      (style.parameterNames method).Nodup := by
  obtain ⟨written, hWritten⟩ := exists_method_eq hValid hMethod
  rw [hWritten, ← @checkParameters_eq_ok method]
  cases checkParameters method (style.parameterNames method) <;> simp [Functor.map, Except.map]

/-- And if it cannot, that is because of the first parameter that repeats. -/
theorem clientMethod_eq_error {method : Method} (hMethod : method ∈ manifest.methods)
    {e : GenerateError} :
    clientMethod style (style.scope manifest) method = .error e ↔
      ∃ earlier later, FirstRepeat id (style.parameterNames method) earlier later ∧
        e = .duplicateParameter method.name later := by
  obtain ⟨written, hWritten⟩ := exists_method_eq hValid hMethod
  rw [hWritten, ← checkParameters_eq_error]
  cases checkParameters method (style.parameterNames method) <;> simp [Functor.map, Except.map]

/-- All methods can be written if each of them can. -/
theorem exists_methods_eq_ok :
    (∃ written, manifest.methods.mapM (clientMethod style (style.scope manifest)) = .ok written) ↔
      ∀ method ∈ manifest.methods, (style.parameterNames method).Nodup := by
  rw [exists_mapM_eq_ok]
  exact forall₂_congr fun method hMethod => clientMethod_eq_ok hValid hMethod

/-- The methods are written in order, so the first of them that repeats a parameter is reported. -/
theorem methods_eq_error {e : GenerateError} :
    manifest.methods.mapM (clientMethod style (style.scope manifest)) = .error e ↔
      ∃ before method after, manifest.methods = before ++ method :: after ∧
        (∀ other ∈ before, (style.parameterNames other).Nodup) ∧
          ∃ earlier later, FirstRepeat id (style.parameterNames method) earlier later ∧
            e = .duplicateParameter method.name later := by
  rw [mapM_eq_error_iff]
  -- the first method that fails, and the ones before it that do not
  refine exists_congr fun before => exists_congr fun method => exists_congr fun after => ?_
  refine and_congr_right fun hMethods => ?_
  have hMem : ∀ other ∈ before, other ∈ manifest.methods := by
    intro other hOther
    rw [hMethods]
    exact List.mem_append_left _ hOther
  rw [clientMethod_eq_error hValid (by simp [hMethods])]
  refine and_congr_left fun _ => forall₂_congr fun other hOther => ?_
  exact clientMethod_eq_ok hValid (hMem other hOther)

/-- A client can be written if nothing repeats: no claim, no binding, no parameter of a method. -/
theorem exists_clientText_eq_ok {clientName : String} :
    (∃ text, clientText manifest clientName style = .ok text) ↔
      ((clientClaims manifest clientName style).map Claim.name).Nodup ∧
        (manifest.methods.map style.bindingName).Nodup ∧
          ∀ method ∈ manifest.methods, (style.parameterNames method).Nodup := by
  rw [← @checkClaims_eq_ok clientFile, ← checkBindings_eq_ok, ← exists_methods_eq_ok hValid]
  simp only [clientText, clientModule, bind_eq_ok, pure_eq_ok]
  constructor
  · intro h
    -- both checks have passed before the methods are written
    obtain ⟨_, _, ⟨⟨⟩, hClaims, ⟨⟩, hBindings, methods, hMethods, -⟩, -⟩ := h
    exact ⟨hClaims, hBindings, methods, hMethods⟩
  · intro h
    obtain ⟨hClaims, hBindings, methods, hMethods⟩ := h
    exact ⟨_, _, ⟨(), hClaims, (), hBindings, methods, hMethods, rfl⟩, rfl⟩

omit hValid in
/-- The three are looked at in this order, each only if nothing has been found before. -/
theorem clientText_eq_error {clientName : String} {e : GenerateError} :
    clientText manifest clientName style = .error e ↔
      checkClaims clientFile (clientClaims manifest clientName style) = .error e ∨
        ((clientClaims manifest clientName style).map Claim.name).Nodup ∧
          (checkBindings style manifest.methods = .error e ∨
            (manifest.methods.map style.bindingName).Nodup ∧
              manifest.methods.mapM (clientMethod style (style.scope manifest)) = .error e) := by
  rw [← @checkClaims_eq_ok clientFile, ← checkBindings_eq_ok, clientText, bind_pure_eq_error,
    clientModule, check_bind_eq_error, check_bind_eq_error, bind_pure_eq_error]

end Client

/-! ## Both modules -/

section Generate

variable {manifest : Manifest} (hValid : manifest.Valid)

include hValid

/-- The module of types can be written if its claims differ. -/
theorem exists_typesText_eq_ok :
    (∃ text, typesText manifest = .ok text) ↔ ((typeClaims manifest).map Claim.name).Nodup := by
  obtain ⟨text, hText⟩ := exists_typesText_eq hValid
  rw [hText, ← @checkClaims_eq_ok typesFile]
  cases checkClaims typesFile (typeClaims manifest) <;> simp [Functor.map, Except.map]

/-- And if it cannot, that is because of the first of its claims that repeats. -/
theorem typesText_eq_error {e : GenerateError} :
    typesText manifest = .error e ↔
      ∃ earlier later, FirstRepeat Claim.name (typeClaims manifest) earlier later ∧
        e = .duplicateDeclaration typesFile ⟨later.name, earlier.origin, later.origin⟩ := by
  obtain ⟨text, hText⟩ := exists_typesText_eq hValid
  rw [hText, ← checkClaims_eq_error]
  cases checkClaims typesFile (typeClaims manifest) <;> simp [Functor.map, Except.map]

/-- An error is a refusal: the first layer of names with a repetition decides. -/
theorem generate_eq_error {clientName : String} {style : Style} {e : GenerateError} :
    generate manifest clientName style = .error e ↔ Refusal manifest clientName style e := by
  -- the client is looked at only if the type declarations are fine
  have hSplit : generate manifest clientName style = .error e ↔
      typesText manifest = .error e ∨
        ((typeClaims manifest).map Claim.name).Nodup ∧
          clientText manifest clientName style = .error e := by
    rw [generate, bind_eq_error, ← exists_typesText_eq_ok hValid]
    simp only [bind_pure_eq_error, exists_and_right]
  rw [hSplit, typesText_eq_error hValid, clientText_eq_error, checkClaims_eq_error,
    checkBindings_eq_error, methods_eq_error hValid]
  constructor
  · intro h
    -- one case for each layer
    rcases h with ⟨earlier, later, hRepeat, rfl⟩ | ⟨hTypes, ⟨earlier, later, hRepeat, rfl⟩ |
      ⟨hClaims, ⟨earlier, later, hRepeat, rfl⟩ | ⟨hBindings, before, method, after, hMethods, hBefore,
        earlier, later, hRepeat, rfl⟩⟩⟩
    · exact .typeName hRepeat
    · exact .clientName hTypes hRepeat
    · exact .binding hClaims hRepeat
    · exact .parameter hClaims hBindings hMethods hBefore hRepeat
  · intro h
    cases h with
    | typeName hRepeat => exact Or.inl ⟨_, _, hRepeat, rfl⟩
    | clientName hTypes hRepeat => exact Or.inr ⟨hTypes, Or.inl ⟨_, _, hRepeat, rfl⟩⟩
    | binding hClaims hRepeat =>
      exact Or.inr ⟨nodup_typeClaims hClaims, Or.inr ⟨hClaims, Or.inl ⟨_, _, hRepeat, rfl⟩⟩⟩
    | parameter hClaims hBindings hMethods hBefore hRepeat =>
      exact Or.inr ⟨nodup_typeClaims hClaims, Or.inr ⟨hClaims, Or.inr
        ⟨hBindings, _, _, _, hMethods, hBefore, _, _, hRepeat, rfl⟩⟩⟩

/-- Without a repetition there are bindings. -/
theorem exists_generate_eq_ok {clientName : String} {style : Style} :
    (∃ generated, generate manifest clientName style = .ok generated) ↔
      ((clientClaims manifest clientName style).map Claim.name).Nodup ∧
        (manifest.methods.map style.bindingName).Nodup ∧
          ∀ method ∈ manifest.methods, (style.parameterNames method).Nodup := by
  rw [← exists_clientText_eq_ok hValid]
  simp only [generate, bind_eq_ok, pure_eq_ok]
  constructor
  · intro h
    obtain ⟨_, _, -, client, hClient, -⟩ := h
    exact ⟨client, hClient⟩
  · intro h
    obtain ⟨client, hClient⟩ := h
    -- whoever can write the client can write the type declarations
    have hClaims := ((exists_clientText_eq_ok hValid).mp ⟨client, hClient⟩).1
    obtain ⟨types, hTypes⟩ := (exists_typesText_eq_ok hValid).mpr (nodup_typeClaims hClaims)
    exact ⟨_, types, hTypes, client, hClient, rfl⟩

end Generate

/-- **Names decide.** For a manifest that was read, generation fails exactly with the first repetition
in the first layer of names that has one, and succeeds exactly if no layer has any. The first two layers are
the names that the modules declare, in the order of what they are declared for. -/
theorem generate_outcome {value : Json} {manifest : Manifest}
    (hRead : Manifest.ofJson value = .ok manifest) (clientName : String) (style : Style) :
    (∀ e, generate manifest clientName style = .error e ↔ Refusal manifest clientName style e) ∧
      ((∃ generated, generate manifest clientName style = .ok generated) ↔
        ((clientClaims manifest clientName style).map Claim.name).Nodup ∧
          (manifest.methods.map style.bindingName).Nodup ∧
            ∀ method ∈ manifest.methods, (style.parameterNames method).Nodup) ∧
      (typeClaims manifest =
        manifest.types.map (fun entry => ⟨safeIdent entry.1, .type entry.1⟩)
          ++ manifest.methods.flatMap (fun method => if method.errors.isEmpty then [] else
            [⟨safeIdent method.name ++ "ErrorCode", .errors method.name⟩,
              ⟨safeIdent method.name ++ "Error", .errors method.name⟩])
          ++ manifest.events.flatMap (fun event => if event.payload?.isNone then [] else
            [⟨safeIdent event.name ++ "Payload", .payload event.name⟩])
          ++ if manifest.events.isEmpty then [] else [⟨"AbiEvent", .eventUnion⟩]) ∧
      (clientClaims manifest clientName style = typeClaims manifest
        ++ (if style = .namespaced then [⟨"types", .typesImport⟩] else [])
        ++ [⟨"AbiCallFailure", .support⟩, ⟨"AbiCallResult", .support⟩, ⟨"AbiCall", .support⟩,
          ⟨"AbiMethodError", .support⟩, ⟨"methodError", .support⟩]
        ++ [⟨"Error", .globalError⟩, ⟨safeIdent clientName, .clientClass⟩]) := by
  have hValid := Manifest.valid_of_ofJson hRead
  exact ⟨fun e => generate_eq_error hValid, exists_generate_eq_ok hValid, typeClaims_eq manifest,
    clientClaims_eq manifest clientName style⟩

/-- A document with a method two of whose parameters come to the same identifier. -/
def areaDocument : Json := .object [
  ("schema_version", .string "wasm-abi/1"),
  ("types", .object []),
  ("methods", .array [
    .object [("name", .string "area"), ("params", .array [
      .object [("name", .string "side-a"), ("type", .object [("kind", .string "f64")])],
      .object [("name", .string "side_a"), ("type", .object [("kind", .string "f64")])]])]]),
  ("events", .array [])]

/-- The manifest that is read from it. -/
def areaManifest : Manifest where
  types := []
  methods := [⟨"area", [⟨"side-a", .primitive .f64, false⟩, ⟨"side_a", .primitive .f64, false⟩],
    none, false, none⟩]
  events := []

/-- Both parameters come to `side_a`, so the second is refused. -/
theorem areaManifest_refused :
    Manifest.ofJson areaDocument = .ok areaManifest ∧
      Refusal areaManifest "Client" .positional (.duplicateParameter "area" "side_a") := by
  have hRead : Manifest.ofJson areaDocument = .ok areaManifest := rfl
  obtain ⟨hErrors, -⟩ := generate_outcome hRead "Client" .positional
  exact ⟨hRead, (hErrors (.duplicateParameter "area" "side_a")).mp rfl⟩

end AbiBindings.Bindings
