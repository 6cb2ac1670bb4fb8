import AbiBindings.Proofs.Bindings.TypeBlocks

/-!
# Bindings — modules that differ in their fingerprint

Every module begins with a line that says where it comes from and a line with the fingerprint of the
manifest. What follows is laid out from declarations, in which the manifest is not seen any more. So two
manifests with the same declarations, or with the same client class, have modules that differ in one line.

* `generate_eq_ok` — bindings are the two modules, each generated on its own;
* `moduleText_eq` — a module is its header, followed by the text of its body;
* `SameBody` — two modules that differ in the line of the fingerprint alone;
* `exists_typesText_sameBody`, `exists_clientText_sameBody` — same declarations, same body.
-/

namespace AbiBindings.Bindings

open Layout (Step)
open TypeScript (ClientModule ClosedStep Declaration)

/-- Bindings consist of the two modules. -/
theorem generate_eq_ok {manifest : Manifest} {clientName : String} {style : Style} {generated : Generated} :
    generate manifest clientName style = .ok generated ↔
      typesText manifest = .ok generated.types ∧ clientText manifest clientName style = .ok generated.client := by
  constructor
  · intro h
    obtain ⟨types, hTypes, h⟩ := bind_eq_ok.mp h
    obtain ⟨client, hClient, h⟩ := bind_eq_ok.mp h
    obtain rfl := pure_eq_ok.mp h
    exact ⟨hTypes, hClient⟩
  · intro h
    obtain ⟨hTypes, hClient⟩ := h
    rw [generate, hTypes, hClient]
    rfl

/-! ## Header and body -/

/-- A line without margin. -/
theorem lineText_top (width : Nat) {text : String} (h : text ≠ "") :
    Layout.lineText width 0 text = text ++ "\n" := by
  have hMargin : Layout.marginText width 0 = "" := by
    rw [Layout.marginText, Nat.zero_mul]
    rfl
  rw [Layout.lineText, if_neg (by rwa [String.isEmpty_iff]), hMargin, String.empty_append]

/-- Both lines of the header have something on them. -/
theorem headerLines_ne_empty (manifest : Manifest) : originLine ≠ "" ∧ hashLine manifest ≠ "" := by
  have hComment : ∀ comment, "//" ++ comment ≠ "" :=
    fun comment hEmpty => absurd (String.append_eq_empty_iff.mp hEmpty).1 (by decide)
  -- each of the two lines is a comment
  obtain ⟨origin, hash, -, -, hOrigin, hHash⟩ := exists_headerLines_eq manifest
  rw [hOrigin, hHash]
  exact ⟨hComment origin, hComment hash⟩

/-- A module is the two lines of its header, followed by the text of its body. -/
theorem moduleText_eq (manifest : Manifest) {body : List Step} (h : ∀ step ∈ body, ClosedStep step) :
    moduleText manifest body
      = originLine ++ "\n" ++ (hashLine manifest ++ "\n") ++ Layout.stepsText 2 0 body := by
  obtain ⟨hOrigin, hHash⟩ := headerLines_ne_empty manifest
  have hHeader : Layout.stepsText 2 0 (headerSteps manifest)
      = originLine ++ "\n" ++ (hashLine manifest ++ "\n") := by
    show Layout.lineText 2 0 originLine ++ (Layout.lineText 2 0 (hashLine manifest) ++ "") = _
    rw [lineText_top 2 hOrigin, lineText_top 2 hHash, String.append_empty]
  rw [moduleText, Layout.render_eq (linewise_moduleSteps manifest h), Layout.stepsText_append, hHeader]

/-! ## Two modules -/

/-- Two modules, for two manifests, that differ in the line of the fingerprint alone. -/
def SameBody (a b : Manifest) (text other : String) : Prop :=
  ∃ body, text = originLine ++ "\n" ++ (hashLine a ++ "\n") ++ body ∧
    other = originLine ++ "\n" ++ (hashLine b ++ "\n") ++ body

section TwoRuns

variable {a b : Manifest}

theorem sameBody_moduleText (a b : Manifest) {body : List Step} (h : ∀ step ∈ body, ClosedStep step) :
    SameBody a b (moduleText a body) (moduleText b body) :=
  ⟨Layout.stepsText 2 0 body, moduleText_eq a h, moduleText_eq b h⟩

/-- Manifests with the same declarations have modules of types with the same body. -/
theorem exists_typesText_sameBody {declarations : List Declaration}
    (hA : typeDeclarations a = .ok declarations) (hB : typeDeclarations b = .ok declarations) {text : String}
    (hText : typesText a = .ok text) : ∃ other, typesText b = .ok other ∧ SameBody a b text other := by
  obtain ⟨written, hWritten, hText⟩ := bind_eq_ok.mp hText
  obtain rfl := Except.ok.inj (hA.symm.trans hWritten)
  obtain rfl := pure_eq_ok.mp hText
  refine ⟨moduleText b (TypeScript.declarationSteps declarations), ?_, sameBody_moduleText a b ?_⟩
  · rw [typesText, hB]
    rfl
  · exact TypeScript.closedStep_declarationSteps (typeDeclarations_closed hA)

/-- Manifests with the same client class have clients with the same body. -/
theorem exists_clientText_sameBody {clientName : String} {style : Style} {client : ClientModule}
    (hA : clientModule a clientName style = .ok client) (hB : clientModule b clientName style = .ok client)
    {text : String} (hText : clientText a clientName style = .ok text) :
    ∃ other, clientText b clientName style = .ok other ∧ SameBody a b text other := by
  obtain ⟨written, hWritten, hText⟩ := bind_eq_ok.mp hText
  obtain rfl := Except.ok.inj (hA.symm.trans hWritten)
  obtain rfl := pure_eq_ok.mp hText
  refine ⟨moduleText b client.steps, ?_, sameBody_moduleText a b ?_⟩
  · rw [clientText, hB]
    rfl
  · exact ClientModule.closedSteps (clientModule_closed hA)

end TwoRuns

end AbiBindings.Bindings
