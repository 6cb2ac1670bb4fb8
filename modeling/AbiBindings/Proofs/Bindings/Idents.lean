import AbiBindings.Proofs.Bindings.Written

/-!
# Bindings — identifiers for names

What a generated module binds for a name of the manifest, it binds under an identifier for the name. A name
that can be bound is its own identifier, so that nothing is changed without need, and nothing twice.

* `safeIdent_eq_iff`, `paramIdent_eq_iff` — the names that stand for themselves;
* `camelIdent` — the identifier for a name, whatever the name is in camel case;
* `idents_bindable` — all identifiers for a name.
-/

namespace AbiBindings.Bindings

open Manifest (Method Event)
open TypeScript (Bindable bindable_safeIdent safeIdent)

/-- Exactly the names that can be bound stand for themselves. -/
theorem safeIdent_eq_iff {name : String} : safeIdent name = name ↔ Bindable name := by
  constructor
  · intro h
    have hBindable := bindable_safeIdent name
    rwa [h] at hBindable
  · exact Bindable.safeIdent_eq

/-- As a parameter, such a name stands for itself unless the body of a method uses it. -/
theorem paramIdent_eq_iff {name : String} : paramIdent name = name ↔ Bindable name ∧ name ∉ bodyNames := by
  constructor
  · intro h
    have hBindable := bindable_paramIdent name
    have hOther := paramIdent_not_mem_bodyNames name
    rw [h] at hBindable hOther
    exact ⟨hBindable, hOther⟩
  · rintro ⟨hBindable, hOther⟩
    rw [paramIdent, hBindable.safeIdent_eq, if_neg]
    rwa [List.contains_iff_mem]

/-- The identifier for a name that is put in camel case in this way; a name of which nothing is left then
is kept as it is. -/
def camelIdent (camelCase : String → String) (name : String) : String :=
  safeIdent (if (camelCase name).isEmpty then name else camelCase name)

/-- **Identifiers.** Whatever a name is, each identifier for it is one that can be bound: by itself, as a
method in any camel case, with the suffix of a derived declaration behind it, and as a parameter, which also
is no name that the body of a method uses. Only a name that cannot be bound is changed, and only once. -/
theorem idents_bindable (name : String) :
    (Bindable (safeIdent name) ∧ (safeIdent name = name ↔ Bindable name)
        ∧ safeIdent (safeIdent name) = safeIdent name)
      ∧ ((∀ camelCase : String → String, Bindable (camelIdent camelCase name))
        ∧ methodIdent name = camelIdent Text.lowerCamel name)
      ∧ ((∀ method : Method, Bindable (errorCodesName method) ∧ Bindable (errorName method))
        ∧ ∀ method : Method, errorCodesName method = safeIdent method.name ++ "ErrorCode"
          ∧ errorName method = safeIdent method.name ++ "Error")
      ∧ ((∀ event : Event, Bindable (payloadName event))
        ∧ ∀ event : Event, payloadName event = safeIdent event.name ++ "Payload")
      ∧ Bindable (paramIdent name) ∧ paramIdent name ∉ bodyNames
      ∧ (paramIdent name = name ↔ Bindable name ∧ name ∉ bodyNames)
      ∧ paramIdent (paramIdent name) = paramIdent name := by
  have hIdent := bindable_safeIdent name
  have hParam := bindable_paramIdent name
  have hOther := paramIdent_not_mem_bodyNames name
  -- what can be bound already is its own identifier, which is why a second pass changes nothing
  refine ⟨⟨hIdent, safeIdent_eq_iff, safeIdent_eq_iff.mpr hIdent⟩, ⟨fun _ => bindable_safeIdent _, rfl⟩,
    ⟨fun method => ⟨bindable_errorCodesName method, bindable_errorName method⟩, fun _ => ⟨rfl, rfl⟩⟩,
    ⟨bindable_payloadName, fun _ => rfl⟩, hParam, hOther, paramIdent_eq_iff, paramIdent_eq_iff.mpr ⟨hParam, hOther⟩⟩

/-- A digit at the beginning, a sign, a reserved word, and a name that the body of a method uses. -/
example : (safeIdent "2fa", safeIdent "content-type", safeIdent "default", paramIdent "Error")
    = ("_2fa", "content_type", "default_", "Error_") := by decide

end AbiBindings.Bindings
