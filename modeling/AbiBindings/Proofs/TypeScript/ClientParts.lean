import AbiBindings.Proofs.TypeScript.ClientReading

/-!
# TypeScript — client modules in parts

The text of a client module is what stands before the methods, a part for each method, and the brace that
closes the class. A part is an empty line, a comment for tools, and the method that the comment is on.

* `ClientModule.opening`, `ClientMethod.part` — what stands before the methods, and the part of a method;
* `ClientModule.stepsText_steps` — a client module is these parts, in the order of its methods;
* `ClientMethod.part_eq` — the comment stands in front of the name of the method;
* `Readable.readMethods_part`, `Readable.readMethods_opening` — a part is read as one method, and no method
  stands before the parts.
-/

namespace AbiBindings.TypeScript

open Layout (Step docText lineText marginText stepsText)

/-! ## Texts -/

/-- The part of a method in the text of its class: the method and its documentation, behind an empty line. -/
def ClientMethod.part (width : Nat) (method : ClientMethod) : String :=
  stepsText width 1 (.blank :: method.steps)

/-- The text of a client module up to its methods. -/
def ClientModule.opening (width : Nat) (client : ClientModule) : String :=
  stepsText width 0 (client.support ++ [.blank, .line ("export class " ++ client.className ++ " \x7b")])
    ++ stepsText width 1 ClientModule.classHead

/-- Steps for each of several things make a text of parts, one for each thing. -/
theorem stepsText_flatMap {α : Type} (width level : Nat) (f : α → List Step) (as : List α) :
    stepsText width level (as.flatMap f) = String.join (as.map fun a => stepsText width level (f a)) := by
  induction as with
  | nil => rfl
  | cons a as ih => rw [List.flatMap_cons, Layout.stepsText_append, ih, List.map_cons, String.join_cons]

/-- **Parts.** A client module is what stands before its methods, a part for each of them in order, and the
brace that closes the class. -/
theorem ClientModule.stepsText_steps (width : Nat) (client : ClientModule) :
    stepsText width 0 client.steps
      = client.opening width ++ String.join (client.methods.map (ClientMethod.part width))
        ++ lineText width 0 "\x7d" := by
  have hSteps : client.steps
      = client.support ++ [.blank, .block ("export class " ++ client.className) client.classSteps] := rfl
  have hClass : client.classSteps
      = classHead ++ client.methods.flatMap fun method => .blank :: method.steps := rfl
  -- the methods come last in the class, which comes last in the module
  rw [hSteps, opening, hClass, Layout.stepsText_append, Layout.stepsText_append]
  simp only [stepsText, Step.text, Layout.stepsText_append, stepsText_flatMap, String.append_empty,
    String.append_assoc]
  rfl

/-- In its part, the documentation of a method stands in front of its name. -/
theorem ClientMethod.exists_part_eq (width : Nat) (method : ClientMethod) :
    ∃ more, method.part width = "\n" ++ docText width 1 method.doc
      ++ (marginText width 1 ++ "async " ++ method.binding ++ "(" ++ more) := by
  have hFull : ¬ (method.header ++ " \x7b").isEmpty = true := by simp [String.isEmpty_iff]
  have hHeader : lineText width 1 (method.header ++ " \x7b")
      = marginText width 1 ++ "async " ++ method.binding ++ "("
        ++ (method.signature.parameters.text ++ "): Promise<" ++ method.promised ++ ">" ++ " \x7b" ++ "\n") := by
    rw [lineText, if_neg hFull, header]
    simp only [String.append_assoc]
  rw [part, steps]
  simp only [stepsText, Step.text, hHeader, String.append_empty, String.append_assoc]
  exact ⟨_, rfl⟩

/-! ## Reading -/

section Reading

variable {client : ClientModule} {method : ClientMethod}

/-- A part is read as its method alone. -/
theorem ClientMethod.Readable.readMethods_part (h : method.Readable) (width : Nat) :
    readMethods (codeLines (method.part width)) = some [method.source] := by
  have hShows : Shows (.blank :: method.steps) method.lines := Shows.cons showsStep_blank h.shows
  have hRead := readMethods_append (List.forall_mem_singleton.mpr h) []
  rw [List.flatMap_singleton, List.append_nil] at hRead
  rw [part, hShows.codeLines_eq, hRead]
  rfl

/-- No method stands before the parts, whatever there is before the module. -/
theorem ClientModule.Readable.readMethods_opening (h : client.Readable) {header : List Step}
    (hHeader : Shows header []) (width : Nat) :
    readMethods (codeLines (stepsText width 0 header ++ client.opening width)) = some [] := by
  obtain ⟨supportLines, hSupport⟩ := h.exists_support
  obtain ⟨headLines, hHead⟩ := exists_enclosed_classHead
  have hClass : Shows [.blank, .line ("export class " ++ client.className ++ " \x7b")]
      ["export class " ++ client.className ++ " \x7b"] :=
    Shows.cons showsStep_blank
      (shows_singleton (showsStep_line (h.heads_class.codeLine.append (verbatim_literal rfl))))
  have hNone := readMethods_of_forall (h.noMethod_opening hSupport hHead) []
  rw [List.append_nil] at hNone
  rw [opening, hHeader, List.nil_append, hSupport.shows.append hClass, hHead.shows.codeLines_eq, hNone]
  rfl

end Reading

end AbiBindings.TypeScript
