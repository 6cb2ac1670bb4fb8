import AbiBindings.Proofs.Bindings.ClientSources
import AbiBindings.Proofs.Bindings.Outcome

/-!
# Bindings — arguments are forwarded as declared

What a method of a client sends is worked out from its text: each name in an argument is looked up
among what the caller has handed over, unless it is a name that the body of the method uses itself.
Whatever the names in a manifest are, reserved, empty or equal to those of the body, the values arrive
in the order of the declaration, and under the name that was declared.

* `sent?` — the call that the text of a method performs for what a caller hands over;
* `Style.givens` — what a caller hands over for values of the parameters;
* `clientText_forwards` — every method sends its own name and the values in order, in both styles.
-/

namespace AbiBindings.Bindings

open Manifest (Method)
open TypeScript (Argument MethodSource Shape codeLines readMethods)

/-! ## What a method sends -/

section Sending

variable {V : Type}

/-- What a caller hands over for a parameter: a value, or an object with values as its properties. -/
inductive Given (V : Type) where
  | value (v : V)
  | object (properties : List (String × V))

/-- What a name stands for in the body of a method: something of the body itself, or what the caller
has handed over. -/
inductive Entity (V : Type) where
  | own
  | given (what : Given V)

/-- What names stand for in the body of a method. The body's own names come first. -/
def bodyScope (source : MethodSource) (givens : List (Given V)) : List (String × Entity V) :=
  bodyNames.map (·, .own) ++ (source.formals.map (·.name)).zip (givens.map .given)

/-- The value of an argument. -/
def argumentValue? (scope : List (String × Entity V)) : Argument → Option V
  | .parameter name =>
    match scope.lookup name with
    | some (.given (.value v)) => some v
    | _ => none
  | .property target name =>
    match scope.lookup target with
    | some (.given (.object properties)) => properties.lookup name
    | _ => none

/-- The call that a method performs: what is called, with which values. A method whose parameters have
the same name is none, and each of them must be handed over. -/
def sent? (source : MethodSource) (givens : List (Given V)) : Option (String × List V) :=
  if (source.formals.map (·.name)).Nodup ∧ source.formals.length = givens.length then do
    return (source.callee, ← source.arguments.mapM (argumentValue? (bodyScope source givens)))
  else none

/-- The keys that an object type declares. -/
def keys : Shape → List String
  | .object members => members.map (·.name)
  | _ => []

/-- What a caller hands over for values of the parameters: one by one, or as an object in which the
declared keys hold them. -/
def Style.givens (style : Style) (source : MethodSource) (values : List V) : List (Given V) :=
  match style with
  | .positional => values.map .value
  | .namespaced => source.formals.map fun formal => .object ((keys formal.shape).zip values)

end Sending

/-! ## Methods -/

section Methods

variable {V : Type} {method : Method} {values : List V}

/-- A method of a client forwards what it is given: it calls what was declared, and each value arrives
in the place of its parameter. In an object the parameters stand under their own names. -/
structure Forwards (V : Type) (style : Style) (method : Method) (source : MethodSource) : Prop where
  callee : source.callee = method.name
  keys : style = .namespaced →
    source.formals.flatMap (fun formal => keys formal.shape) = method.params.map (·.name)
  sends : ∀ values : List V, values.length = method.params.length →
    sent? source (style.givens source values) = some (method.name, values)

/-- What is not one of the body's own names stands for what the caller has handed over. -/
theorem lookup_bodyScope {source : MethodSource} {givens : List (Given V)} {name : String}
    (hName : name ∉ bodyNames) :
    (bodyScope source givens).lookup name
      = ((source.formals.map (·.name)).zip (givens.map Entity.given)).lookup name := by
  refine lookup_append_of_not_mem ?_
  rw [List.map_map]
  show name ∉ bodyNames.map id
  rw [List.map_id]
  exact hName

/-- One by one, each argument is the value that has been handed over in its place. -/
theorem arguments_positional (hNodup : (Style.positional.parameterNames method).Nodup)
    (hLength : values.length = method.params.length) :
    (Style.positional.source method).arguments.mapM
        (argumentValue? (bodyScope (Style.positional.source method) (values.map .value)))
      = some values := by
  have hNames : (Style.positional.source method).formals.map (·.name)
      = Style.positional.parameterNames method := Style.names_formals method
  have hArguments : (Style.positional.source method).arguments
      = (Style.positional.parameterNames method).map .parameter := List.map_map.symm
  have hValues := @forall₂_lookup_zip _ _ _ _ _ ((values.map Given.value).map Entity.given) hNodup
    (by simp [Style.parameterNames, hLength])
  rw [List.map_map, List.forall₂_map_right_iff] at hValues
  rw [mapM_eq_some_iff, hArguments, List.forall₂_map_left_iff]
  refine forall₂_imp_of_mem hValues fun name hName value hValue => ?_
  -- no parameter has a name that the body uses itself
  have hOwn : name ∉ bodyNames := by
    obtain ⟨param, -, rfl⟩ := List.mem_map.mp hName
    exact paramIdent_not_mem_bodyNames param.name
  rw [argumentValue?, lookup_bodyScope hOwn, hNames, List.map_map, hValue]
  rfl

/-- In an object, each argument is the value that stands under the name of its parameter. -/
theorem arguments_namespaced {source : MethodSource} {slot : TypeScript.Slot}
    (hFormals : source.formals = [slot]) (hSlot : slot.name = paramsObject)
    (hArguments : source.arguments = method.params.map (.property paramsObject ·.name))
    (hNodup : (Style.namespaced.parameterNames method).Nodup)
    (hLength : values.length = method.params.length) :
    source.arguments.mapM
        (argumentValue? (bodyScope source [.object ((method.params.map (·.name)).zip values)]))
      = some values := by
  -- the object is found under its name, which is none of the body's
  have hObject : (bodyScope source [.object ((method.params.map (·.name)).zip values)]).lookup paramsObject
      = some (.given (.object ((method.params.map (·.name)).zip values))) := by
    rw [lookup_bodyScope (by decide), hFormals, List.map_singleton, hSlot]
    rfl
  have hValues := @forall₂_lookup_zip _ _ _ _ _ values hNodup (by simp [Style.parameterNames, hLength])
  rw [Style.parameterNames, List.forall₂_map_left_iff] at hValues
  rw [mapM_eq_some_iff, hArguments, List.forall₂_map_left_iff]
  refine hValues.imp fun param value hValue => ?_
  rw [argumentValue?, hObject]
  exact hValue

/-- **Methods.** What a style makes of a method forwards what it is given. -/
theorem Style.forwards (style : Style) (hNodup : (style.parameterNames method).Nodup) :
    Forwards V style method (style.source method) := by
  cases style with
  | positional =>
    refine ⟨rfl, nofun, fun values hLength => ?_⟩
    have hFormals : ((Style.positional.source method).formals.map (·.name)).Nodup ∧
        (Style.positional.source method).formals.length = (values.map Given.value).length := by
      refine ⟨?_, by simp [Style.source, Style.formals, hLength]⟩
      rw [Style.source, Style.names_formals]
      exact hNodup
    rw [sent?, Style.givens, if_pos hFormals, arguments_positional hNodup hLength]
    rfl
  | namespaced =>
    have hArguments : (Style.namespaced.source method).arguments
        = method.params.map (.property paramsObject ·.name) := rfl
    -- without parameters there is no object
    by_cases hNone : method.params.isEmpty = true
    · have hParams := List.isEmpty_iff.mp hNone
      have hFormals : (Style.namespaced.source method).formals = [] := if_pos hNone
      refine ⟨rfl, fun _ => by rw [hFormals, hParams]; rfl, fun values hLength => ?_⟩
      rw [hParams] at hLength
      -- nor are there values to hand over
      obtain rfl := List.length_eq_zero_iff.mp hLength
      rw [sent?, Style.givens, hFormals, hArguments, hParams]
      rfl
    · have hFormals : (Style.namespaced.source method).formals
          = [⟨paramsObject, .object (method.params.map Style.namespaced.slot), false⟩] := if_neg hNone
      have hKeys : keys (.object (method.params.map Style.namespaced.slot))
          = method.params.map (·.name) := List.map_map
      refine ⟨rfl, fun _ => ?_, fun values hLength => ?_⟩
      · rw [hFormals, List.flatMap_singleton, hKeys]
      · have hOne : ([⟨paramsObject, .object (method.params.map Style.namespaced.slot), false⟩]
            : List TypeScript.Slot).length
            = [Given.object ((method.params.map (·.name)).zip values)].length := rfl
        rw [sent?, Style.givens, hFormals, List.map_singleton, List.map_singleton, hKeys,
          if_pos ⟨List.nodup_singleton _, hOne⟩,
          arguments_namespaced hFormals rfl hArguments hNodup hLength]
        rfl

end Methods

/-! ## Clients -/

/-- **Forwarding.** In the text of a client, each method calls the name that was declared, letter for
letter, with the values of its parameters in the order of the declaration, whatever their names are. So
clients of both styles send the same call for the same method and values. -/
theorem clientText_forwards {document : Json} {manifest : Manifest}
    (hRead : Manifest.ofJson document = .ok manifest) (V : Type) :
    (∀ {clientName : String} {style : Style} {text : String},
      clientText manifest clientName style = .ok text →
        ∃ sources, readMethods (codeLines text) = some sources ∧
          List.Forall₂ (Forwards V style) manifest.methods sources) ∧
      ∀ {positionalName namespacedName positional namespaced : String},
        clientText manifest positionalName .positional = .ok positional →
        clientText manifest namespacedName .namespaced = .ok namespaced →
          ∃ sources others, readMethods (codeLines positional) = some sources ∧
            readMethods (codeLines namespaced) = some others ∧
            ∀ (i : Nat) (method : Method) (source other : MethodSource), manifest.methods[i]? = some method →
              sources[i]? = some source → others[i]? = some other →
                ∀ values : List V, values.length = method.params.length →
                  sent? source (Style.positional.givens source values)
                    = sent? other (Style.namespaced.givens other values) := by
  have hValid := Manifest.valid_of_ofJson hRead
  have hForwards : ∀ {clientName : String} {style : Style} {text : String},
      clientText manifest clientName style = .ok text →
        ∀ method ∈ manifest.methods, Forwards V style method (style.source method) := by
    -- a client is only generated if no method repeats a parameter
    intro clientName style text hText method hMethod
    obtain ⟨-, -, hParameters⟩ := (exists_clientText_eq_ok hValid).mp ⟨text, hText⟩
    exact style.forwards (hParameters method hMethod)
  constructor
  · intro clientName style text hText
    refine ⟨_, (clientText_lines hText).methods, ?_⟩
    rw [List.forall₂_map_right_iff, List.forall₂_same]
    exact hForwards hText
  · intro positionalName namespacedName positional namespaced hPositional hNamespaced
    refine ⟨_, _, (clientText_lines hPositional).methods, (clientText_lines hNamespaced).methods, ?_⟩
    intro i method source other hMethod hSource hOther values hLength
    rw [List.getElem?_map, hMethod] at hSource hOther
    obtain rfl := Option.some.inj hSource
    obtain rfl := Option.some.inj hOther
    have hMem := List.mem_of_getElem? hMethod
    rw [(hForwards hPositional method hMem).sends values hLength,
      (hForwards hNamespaced method hMem).sends values hLength]

/-- A document with a method whose parameters have names that are hard to forward: one that the body
uses, one that is empty, a reserved word, and one that is no identifier. -/
def echoDocument : Json := .object [
  ("schema_version", .string "wasm-abi/1"),
  ("types", .object []),
  ("methods", .array [
    .object [("name", .string "echo \"all\""), ("params", .array [
      .object [("name", .string "response"), ("type", .object [("kind", .string "string")])],
      .object [("name", .string ""), ("type", .object [("kind", .string "string")])],
      .object [("name", .string "class"), ("type", .object [("kind", .string "string")])],
      .object [("name", .string "größe"), ("type", .object [("kind", .string "u32")])]])]]),
  ("events", .array [])]

/-- The manifest that is read from it. -/
def echoManifest : Manifest where
  types := []
  methods := [⟨"echo \"all\"", [
    ⟨"response", .primitive .string, false⟩,
    ⟨"", .primitive .string, false⟩,
    ⟨"class", .primitive .string, false⟩,
    ⟨"größe", .primitive .u32, false⟩], none, false, none⟩]
  events := []

/-- Both clients forward these parameters, so they send the same call. -/
theorem echoManifest_forwarded :
    Manifest.ofJson echoDocument = .ok echoManifest ∧
      ∃ positional namespaced sources others,
        clientText echoManifest "Echo" .positional = .ok positional ∧
        clientText echoManifest "Echo" .namespaced = .ok namespaced ∧
        readMethods (codeLines positional) = some sources ∧
        readMethods (codeLines namespaced) = some others ∧
        List.Forall₂ (Forwards Nat .positional) echoManifest.methods sources ∧
        List.Forall₂ (Forwards Nat .namespaced) echoManifest.methods others := by
  have hRead : Manifest.ofJson echoDocument = .ok echoManifest := rfl
  have hPositional : ∃ text, clientText echoManifest "Echo" .positional = .ok text := ⟨_, rfl⟩
  have hNamespaced : ∃ text, clientText echoManifest "Echo" .namespaced = .ok text := ⟨_, rfl⟩
  obtain ⟨positional, hPositional⟩ := hPositional
  obtain ⟨namespaced, hNamespaced⟩ := hNamespaced
  obtain ⟨sources, hSources, hForwards⟩ := (clientText_forwards hRead Nat).1 hPositional
  obtain ⟨others, hOthers, hOtherForwards⟩ := (clientText_forwards hRead Nat).1 hNamespaced
  exact ⟨hRead, positional, namespaced, sources, others, hPositional, hNamespaced, hSources, hOthers,
    hForwards, hOtherForwards⟩

end AbiBindings.Bindings
