import AbiBindings.Proofs.TypeScript.LexedLayout
import AbiBindings.TypeScript.Client
import AbiBindings.TypeScript.Declaration

/-!
# TypeScript — declarations and clients in code

Declarations and client classes are put together from fixed code and from parts. Everything else about
them is fixed, so it is enough that the parts are closed: names, members, types. Labels, codes and wire
names may be anything, since they become literals or stand in comments.

* `Declaration.PartsClosed`, `Declaration.closedSteps` — exported type declarations;
* `ClientMethod.PartsClosed`, `ClientMethod.closedSteps` — client methods;
* `ClientModule.PartsClosed`, `ClientModule.closedSteps` — client modules.
-/

namespace AbiBindings.TypeScript

open Layout

/-! ## Declarations -/

/-- An arm is closed, whatever its label is, since that becomes a literal. -/
theorem closed_armText {arm : Arm} (h : ∀ payload ∈ arm.payload?, Closed payload.text) :
    Closed arm.text := by
  -- the key is one of two words
  have hLabel : Closed (arm.discriminant.key ++ ": " ++ stringLiteral arm.label) := by
    have hKey : Closed arm.discriminant.key := by
      cases arm.discriminant <;> exact lexes_literal rfl
    exact (hKey.append (lexes_literal rfl)).append (closed_stringLiteral arm.label)
  have hSingle : ∀ text : String, Closed text → Closed (objectText [text]) :=
    fun text hClosed => closed_objectText (List.forall_mem_singleton.mpr hClosed)
  rw [Arm.text]
  cases hPayload : arm.payload? with
  | none => exact hSingle _ hLabel
  | some payload =>
    have hText : Closed ("payload: " ++ payload.text) :=
      Closed.append (lexes_literal rfl) (h payload hPayload)
    have hBoth : Closed (objectText [arm.discriminant.key ++ ": " ++ stringLiteral arm.label,
        "payload: " ++ payload.text]) :=
      closed_objectText (List.forall_mem_cons.mpr ⟨hLabel, List.forall_mem_singleton.mpr hText⟩)
    dsimp only
    -- the payload of a failure is an object of its own
    split
    · exact ((hSingle _ hLabel).append (lexes_literal rfl)).append (hSingle _ hText)
    all_goals exact hBoth

/-- So is each line of a union. -/
theorem closedStep_armLines {arms : List Arm} (h : ∀ arm ∈ arms, Closed arm.text) :
    ∀ step ∈ armLines arms, ClosedStep step := by
  have hLine : ∀ arm ∈ arms, Closed ("| " ++ arm.text) :=
    fun arm hArm => Closed.append (lexes_literal rfl) (h arm hArm)
  induction arms with
  | nil => simp [armLines]
  | cons arm rest ih =>
    obtain ⟨hArm, hRest⟩ := List.forall_mem_cons.mp hLine
    -- the last arm ends the declaration
    cases rest with
    | nil =>
      rw [armLines]
      exact List.forall_mem_singleton.mpr (closedStep_line (hArm.append (lexes_literal rfl)))
    | cons other rest =>
      rw [armLines]
      · exact List.forall_mem_cons.mpr ⟨closedStep_line hArm,
          ih (List.forall_mem_cons.mp h).2 hRest⟩
      · simp

/-- The parts of a declaration that are not fixed code. -/
def Declaration.PartsClosed : Declaration → Prop
  | .interface name members => Closed name ∧ ∀ member ∈ members, Closed member.text
  | .union name arms => Closed name ∧ ∀ arm ∈ arms, ∀ payload ∈ arm.payload?, Closed payload.text
  | .literals name _ => Closed name
  | .synonym _ name type => Closed name ∧ Closed type.text

theorem closed_exportType {name type : String} (hName : Closed name) (hType : Closed type) :
    Closed (exportType name type) :=
  have hHeader : Closed ("export type " ++ name) := Closed.append (lexes_literal rfl) hName
  ((hHeader.append (lexes_literal rfl)).append hType).append (lexes_literal rfl)

/-- A declaration of closed parts. -/
theorem Declaration.closedSteps {declaration : Declaration} (h : declaration.PartsClosed) :
    ∀ step ∈ declaration.steps, ClosedStep step := by
  -- interfaces and unions without members have a form of their own
  unfold Declaration.steps
  split
  -- an interface without members is one line
  next name =>
    have hHeader : Closed ("export interface " ++ name) := Closed.append (lexes_literal rfl) h.1
    exact List.forall_mem_singleton.mpr (closedStep_line (hHeader.append (lexes_literal rfl)))
  -- an interface with members has a block
  next name members _ =>
    have hHeader : Closed ("export interface " ++ name) := Closed.append (lexes_literal rfl) h.1
    refine List.forall_mem_singleton.mpr (closedStep_block hHeader fun step hStep => ?_)
    obtain ⟨member, hMember, rfl⟩ := List.mem_map.mp hStep
    exact closedStep_line ((h.2 member hMember).append (lexes_literal rfl))
  -- a union without arms is the type without values
  next name =>
    exact List.forall_mem_singleton.mpr
      (closedStep_line (closed_exportType h.1 (lexes_literal rfl)))
  -- a union has a line for each arm, one level deeper
  next name arms _ =>
    have hHeader : Closed ("export type " ++ name) := Closed.append (lexes_literal rfl) h.1
    have hArms := closedStep_armLines fun arm hArm => closed_armText (h.2 arm hArm)
    exact List.forall_mem_cons.mpr ⟨closedStep_line (hHeader.append (lexes_literal rfl)),
      List.forall_mem_singleton.mpr (closedStep_nested hArms)⟩
  -- codes become literals with bars between them
  next name labels =>
    refine List.forall_mem_singleton.mpr (closedStep_line (closed_exportType h ?_))
    refine closed_intercalate (lexes_literal rfl) fun text hText => ?_
    obtain ⟨label, -, rfl⟩ := List.mem_map.mp hText
    exact closed_stringLiteral label
  -- the comment may say anything
  next doc name type =>
    exact List.forall_mem_cons.mpr ⟨closedStep_doc doc,
      List.forall_mem_singleton.mpr (closedStep_line (closed_exportType h.1 h.2))⟩

/-- So are several declarations, with an empty line before each. -/
theorem closedStep_declarationSteps {declarations : List Declaration}
    (h : ∀ declaration ∈ declarations, declaration.PartsClosed) :
    ∀ step ∈ declarationSteps declarations, ClosedStep step := by
  intro step hStep
  obtain ⟨declaration, hDeclaration, hStep⟩ := List.mem_flatMap.mp hStep
  rcases List.mem_cons.mp hStep with rfl | hStep
  · exact closedStep_blank
  · exact Declaration.closedSteps (h declaration hDeclaration) step hStep

/-! ## Client methods -/

theorem memberTexts_eq_map (members : List Member) : memberTexts members = members.map Member.text := by
  induction members with
  | nil => rfl
  | cons member rest ih => rw [memberTexts, ih, List.map_cons]

theorem closed_memberTexts {members : List Member} (h : ∀ member ∈ members, Closed member.text) :
    ∀ text ∈ memberTexts members, Closed text := by
  rw [memberTexts_eq_map]
  exact List.forall_mem_map.mpr h

/-- The parts of parameters that are not fixed code. -/
def Parameters.PartsClosed : Parameters → Prop
  | .separate parameters =>
    ∀ parameter ∈ parameters, Closed parameter.name ∧ Closed parameter.type.text
  | .bundled name members => Closed name ∧ ∀ member ∈ members, Closed member.text

/-- Parameters are closed, be they one by one or members of an object. -/
theorem closed_parametersText {parameters : Parameters} (h : parameters.PartsClosed) :
    Closed parameters.text := by
  cases parameters with
  | separate parameters =>
    refine closed_intercalate (lexes_literal rfl) (List.forall_mem_map.mpr ?_)
    intro parameter hParameter
    obtain ⟨hName, hType⟩ := h parameter hParameter
    exact (hName.append (lexes_literal rfl)).append (closed_orNull hType parameter.nullable)
  | bundled name members =>
    -- the brace of the object is open where the members stand
    have hOpen : Lexes [] (name ++ ": \x7b ") ['}'] := Lexes.append h.1 (lexes_literal rfl)
    have hMembers := closed_intercalate (lexes_literal rfl : Closed "; ") (closed_memberTexts h.2)
    exact hMembers.between hOpen (lexes_literal rfl)

namespace ClientMethod

/-- The parts of a client method that are not fixed code. -/
structure PartsClosed (method : ClientMethod) : Prop where
  binding : Closed method.binding
  parameters : method.signature.parameters.PartsClosed
  arguments : ∀ argument ∈ method.signature.arguments, Closed argument.text
  result : ∀ result ∈ method.result?, Closed result.type.text
  failureType : Closed method.failureType.text

variable {method : ClientMethod} (h : method.PartsClosed)

include h

theorem closed_resultText : ∀ result ∈ method.result?, Closed result.text :=
  fun result hResult => closed_orNull (h.result result hResult) result.nullable

/-- The first line of a method is closed: its parentheses match. -/
theorem closed_header : Closed method.header := by
  have hPromised : Closed method.promised := by
    rw [promised]
    cases hResult : method.result? with
    | none => exact (lexes_literal rfl : Closed "void")
    | some result => exact closed_resultText h result hResult
  have hBinding : Closed ("async " ++ method.binding) := Closed.append (lexes_literal rfl) h.binding
  -- a parenthesis is open where the parameters stand
  have hOpen : Lexes [] ("async " ++ method.binding ++ "(") [')'] :=
    Lexes.append hBinding (lexes_literal rfl)
  have hClose : Lexes [')'] "): Promise<" [] := lexes_literal rfl
  have hParameters := (closed_parametersText h.parameters).between hOpen hClose
  exact (hParameters.append hPromised).append (lexes_literal rfl)

theorem closed_callLine : Closed method.callLine := by
  -- two brackets are open where the arguments stand
  have hCall : Lexes [] ("const response = await this.#call(" ++ stringLiteral method.wireName) [')'] :=
    Lexes.append (lexes_literal rfl) ((closed_stringLiteral method.wireName).lexes [')'])
  have hOpen : Lexes [')'] ", [" [']', ')'] := lexes_literal rfl
  have hArguments : Closed (", ".intercalate (method.signature.arguments.map Argument.text)) :=
    closed_intercalate (lexes_literal rfl) (List.forall_mem_map.mpr h.arguments)
  exact hArguments.between (hCall.append hOpen) (lexes_literal rfl)

/-- The line that throws is closed; the name of the method stands in it as a literal. -/
theorem closed_throwLine : Closed method.throwLine := by
  rw [throwLine]
  split
  · exact lexes_literal rfl
  · have hType : Closed ("throw methodError<" ++ method.failureType.text) :=
      Closed.append (lexes_literal rfl) h.failureType
    have hOpen : Lexes [] ("throw methodError<" ++ method.failureType.text ++ ">(") [')'] :=
      Lexes.append hType (lexes_literal rfl)
    exact (closed_stringLiteral method.wireName).between hOpen (lexes_literal rfl)

/-- So is the line that returns, if there is one. -/
theorem closed_returnLines : ∀ line ∈ method.returnLines, Closed line := by
  intro line hLine
  obtain ⟨result, hResult, rfl⟩ := exists_result_of_mem_returnLines hLine
  have hValue : Closed (if result.nullable then "(response.value ?? null)" else "response.value") := by
    split <;> exact lexes_literal rfl
  have hReturn := (lexes_literal rfl : Closed "return ").append hValue
  have hAs := hReturn.append (lexes_literal rfl : Closed " as ")
  exact (hAs.append (closed_resultText h result hResult)).append (lexes_literal rfl)

/-- A client method of closed parts. -/
theorem closedSteps : ∀ step ∈ method.steps, ClosedStep step := by
  -- the check of the response is a block around the line that throws
  have hThrow : ClosedStep (.block "if (!response.ok)" [.line method.throwLine]) :=
    closedStep_block (lexes_literal rfl)
      (List.forall_mem_singleton.mpr (closedStep_line (closed_throwLine h)))
  have hBody : ∀ step ∈ [.line method.callLine, .block "if (!response.ok)" [.line method.throwLine]]
      ++ method.returnLines.map Step.line, ClosedStep step := by
    refine List.forall_mem_append.mpr ⟨?_, List.forall_mem_map.mpr fun line hLine => ?_⟩
    · simp only [List.forall_mem_cons]
      exact ⟨closedStep_line (closed_callLine h), hThrow, by simp⟩
    · exact closedStep_line (closed_returnLines h line hLine)
  simp only [steps, List.forall_mem_cons]
  exact ⟨closedStep_doc method.doc, closedStep_block (closed_header h) hBody, by simp⟩

end ClientMethod

/-! ## Client modules -/

/-- The fixed description of the function that performs calls is closed, line by line. -/
theorem closedStep_transportSteps : ∀ step ∈ transportSteps, ClosedStep step := by
  have hFailure : ClosedStep (.block "export interface AbiCallFailure"
      [.line "code?: string;", .line "message: string;", .line "payload?: unknown;"]) := by
    refine closedStep_block (lexes_literal rfl) ?_
    simp only [List.forall_mem_cons]
    exact ⟨closedStep_literal rfl, closedStep_literal rfl, closedStep_literal rfl, by simp⟩
  have hArms : ClosedStep (.nested [
      .line "| \x7b ok: true; value: unknown \x7d",
      .line "| \x7b ok: false; error: AbiCallFailure \x7d;"]) := by
    refine closedStep_nested ?_
    simp only [List.forall_mem_cons]
    exact ⟨closedStep_literal rfl, closedStep_literal rfl, by simp⟩
  have hConstructor : ClosedStep (.block "constructor(method: string, error: E, message: string)" [
      .line "super(message);",
      .line "this.name = \"AbiMethodError\";",
      .line "this.method = method;",
      .line "this.error = error;"]) := by
    refine closedStep_block (lexes_literal rfl) ?_
    simp only [List.forall_mem_cons]
    exact ⟨closedStep_literal rfl, closedStep_literal rfl, closedStep_literal rfl,
      closedStep_literal rfl, by simp⟩
  -- a text in backticks and two type parameters are fixed too, so evaluation decides
  simp only [transportSteps, List.forall_mem_cons]
  refine ⟨closedStep_literal rfl, hFailure, closedStep_blank, closedStep_literal rfl, hArms,
    closedStep_blank, closedStep_literal rfl, closedStep_literal (by decide), closedStep_blank,
    closedStep_literal rfl, closedStep_block (lexes_literal rfl) ?_, by simp⟩
  simp only [List.forall_mem_cons]
  exact ⟨closedStep_literal rfl, closedStep_literal rfl, closedStep_blank, hConstructor, by simp⟩

/-- The helper has a parenthesis that is open over three lines, so its lines are not closed one by
one. -/
theorem closedStep_failureHelperSteps : ∀ step ∈ failureHelperSteps, ClosedStep step := by
  intro step hStep
  obtain rfl := List.mem_singleton.mp hStep
  have hHeader :
      Lexes [] "function methodError<E extends \x7b code: string \x7d>(method: string, " [')'] :=
    lexes_literal rfl
  have hFirst : Lexes [] "const error = (failure.payload === undefined" [')'] := lexes_literal rfl
  have hSecond : Lexes [')'] "? \x7b code: failure.code \x7d" [')'] := lexes_literal rfl
  have hThird : Lexes [')']
      ": \x7b code: failure.code, payload: failure.payload \x7d) as unknown as E;" [] :=
    lexes_literal rfl
  have hLast : Closed "return new AbiMethodError<E>(method, error, failure.message);" :=
    lexes_literal rfl
  -- the parenthesis goes through the three lines, one level deeper for two of them
  refine ⟨rfl, fun width level => closed_block (hHeader.append (lexes_literal rfl)) ?_⟩
  have hNested := (lexes_lineText width (level + 2) hSecond).append
    ((lexes_lineText width (level + 2) hThird).append closed_empty)
  exact (lexes_lineText width (level + 1) hFirst).append
    (hNested.append ((closed_lineText width (level + 1) hLast).append closed_empty))

/-- The parts of an import that are not fixed code. -/
def Import.PartsClosed : Import → Prop
  | .passOn => True
  | .wildcard name => Closed name
  | .types names => ∀ name ∈ names, Closed name

/-- An import is closed, whatever it brings in. -/
theorem closed_importText {line : Import} (h : line.PartsClosed) : Closed line.text := by
  have hModule := closed_stringLiteral typesModule
  cases line with
  | passOn =>
    have hFrom := (lexes_literal rfl : Closed "export * from ").append hModule
    exact hFrom.append (lexes_literal rfl)
  | wildcard name =>
    have hName := (lexes_literal rfl : Closed "import * as ").append (h : Closed name)
    exact ((hName.append (lexes_literal rfl)).append hModule).append (lexes_literal rfl)
  | types names =>
    -- the braces around the names belong to each other
    have hOpen : Lexes [] "import type \x7b " ['}'] := lexes_literal rfl
    have hClose : Lexes ['}'] " \x7d from " [] := lexes_literal rfl
    have hNames := (closed_intercalate (lexes_literal rfl : Closed ", ") h).between hOpen hClose
    exact (hNames.append hModule).append (lexes_literal rfl)

namespace ClientModule

/-- The parts of a client module that are not fixed code. -/
structure PartsClosed (client : ClientModule) : Prop where
  imports : ∀ line ∈ client.imports, line.PartsClosed
  className : Closed client.className
  methods : ∀ method ∈ client.methods, method.PartsClosed

variable {client : ClientModule} (h : client.PartsClosed)

include h

/-- The steps of the class are closed. -/
theorem closedStep_classSteps : ∀ step ∈ client.classSteps, ClosedStep step := by
  have hConstructor :
      ClosedStep (.block "constructor(call: AbiCall)" [.line "this.#call = call;"]) :=
    closedStep_block (lexes_literal rfl)
      (List.forall_mem_singleton.mpr (closedStep_line (lexes_literal rfl)))
  rw [classSteps]
  refine List.forall_mem_append.mpr ⟨?_, fun step hStep => ?_⟩
  · simp only [List.forall_mem_cons]
    exact ⟨closedStep_line (lexes_literal rfl), closedStep_blank, hConstructor, by simp⟩
  · obtain ⟨method, hMethod, hStep⟩ := List.mem_flatMap.mp hStep
    rcases List.mem_cons.mp hStep with rfl | hStep
    · exact closedStep_blank
    · exact ClientMethod.closedSteps (h.methods method hMethod) step hStep

/-- A client module of closed parts. -/
theorem closedSteps : ∀ step ∈ client.steps, ClosedStep step := by
  have hImports : ∀ step ∈ client.imports.map (Step.line ·.text), ClosedStep step :=
    List.forall_mem_map.mpr fun line hLine => closedStep_line (closed_importText (h.imports line hLine))
  -- the helper is there only if some method fails
  have hHelper : ∀ step ∈ if client.hasFailures then .blank :: failureHelperSteps else [],
      ClosedStep step := by
    split
    · exact List.forall_mem_cons.mpr ⟨closedStep_blank, closedStep_failureHelperSteps⟩
    · simp
  have hHeader : Closed ("export class " ++ client.className) :=
    Closed.append (lexes_literal rfl) h.className
  have hClass : ClosedStep (.block ("export class " ++ client.className) client.classSteps) :=
    closedStep_block hHeader (closedStep_classSteps h)
  rw [steps]
  simp only [List.forall_mem_append, List.forall_mem_cons]
  exact ⟨⟨⟨⟨closedStep_blank, hImports⟩, closedStep_blank, closedStep_transportSteps⟩, hHelper⟩,
    closedStep_blank, hClass, by simp⟩

end ClientModule

end AbiBindings.TypeScript
