import AbiBindings.Proofs.TypeScript.CodeLines
import AbiBindings.Proofs.TypeScript.TypeReading
import Mathlib.Data.List.Forall2

/-!
# TypeScript — reading methods back

What a method of a client class takes, calls, throws and returns stands in its lines of code and is
read back from them line by line: `MethodSource`.

* `readMethod`, `readMethods` — a method with its lines, and all methods among lines of code;
* `ClientMethod.source` — the source that a method is written for;
* `readMethods_append` — the lines of a method are read as its source, whatever lines are behind them.
-/

namespace AbiBindings.TypeScript

open Layout (Step)

/-! ## Sources -/

/-- What a method throws after a failed call: an exception with the message alone, or one for a failure
of a declared type. -/
inductive Raised where
  | message
  | declared (type : Shape) (callee : String)

/-- What a method returns: the value that came back, or the same with `null` for no value. -/
structure Returned where
  coalesced : Bool
  type : Annotated

/-- What is in the lines of a method. -/
structure MethodSource where
  binding : String
  formals : List Slot
  promised : Annotated
  callee : String
  arguments : List Argument
  raised : Raised
  returned? : Option Returned

/-! ## Reading -/

/-- Read the first line of a method: its name, what it takes and what it promises. -/
def readHeader : Reader (String × List Slot × Annotated) := do
  expect "async "
  let binding ← readIdentifier
  expect "("
  let formals ← readListBefore ")" ", " (readSlot readIdentifier readType)
  expect "): Promise<"
  let promised ← readAnnotated readType
  expect "> \x7b"
  return (binding, formals, promised)

/-- Read the line that performs the call: what is called, with which arguments. -/
def readCall : Reader (String × List Argument) := do
  expect "const response = await this.#call("
  let callee ← readLiteral
  expect ", ["
  let arguments ← readListBefore "]" ", " readArgument
  expect "]);"
  return (callee, arguments)

/-- Read the line that throws. -/
def readThrow : Reader Raised := do
  if ← accept "throw new Error(response.error.message);" then return .message
  else
    expect "throw methodError<"
    let type ← readType
    expect ">("
    let callee ← readLiteral
    expect ", response.error);"
    return .declared type callee

/-- Read the line that returns. -/
def readReturn : Reader Returned := do
  expect "return "
  let coalesced ← accept "(response.value ?? null)"
  expect (if coalesced then " as " else "response.value as ")
  let type ← readAnnotated readType
  expect ";"
  return ⟨coalesced, type⟩

/-- The last lines of a method: nothing, or a line that returns, before the brace. -/
def readEnd : List String → Option (Option Returned)
  | "\x7d" :: _ => some none
  | line :: "\x7d" :: _ => do return some (← readWhole readReturn line)
  | _ => none

/-- Read a method from its first line and the lines behind that. -/
def readMethod (header : String) : List String → Option MethodSource
  | call :: "if (!response.ok) \x7b" :: throw :: "\x7d" :: rest => do
    let (binding, formals, promised) ← readWhole readHeader header
    let (callee, arguments) ← readWhole readCall call
    let raised ← readWhole readThrow throw
    let returned? ← readEnd rest
    return { binding, formals, promised, callee, arguments, raised, returned? }
  | _ => none

/-- Whether a line is the first one of a method. -/
def startsMethod (line : String) : Bool := "async ".toList.isPrefixOf line.toList

/-- Read all methods among lines of code. -/
def readMethods : List String → Option (List MethodSource)
  | [] => some []
  | line :: rest =>
    if startsMethod line then do return (← readMethod line rest) :: (← readMethods rest)
    else readMethods rest

/-! ## What methods are written for -/

/-- The parameters of a method as they are written; an object of members is one parameter. -/
def Parameters.written : Parameters → List Parameter
  | .separate parameters => parameters
  | .bundled name members => [⟨name, .object members, false⟩]

/-- The slot that a parameter is written for. -/
def Parameter.slot (parameter : Parameter) : Slot :=
  ⟨parameter.name, parameter.type.shape, parameter.nullable⟩

/-- What a result is annotated with. -/
def Result.annotated (result : Result) : Annotated := ⟨result.type.shape, result.nullable⟩

namespace ClientMethod

/-- What a method throws. -/
def raised (method : ClientMethod) : Raised :=
  if method.failures.isEmpty then .message
  else .declared (.word method.failureType.text) method.wireName

/-- The source that a method is written for. -/
def source (method : ClientMethod) : MethodSource where
  binding := method.binding
  formals := method.signature.parameters.written.map Parameter.slot
  promised := method.result?.elim ⟨.word Builtin.void.text, false⟩ Result.annotated
  callee := method.wireName
  arguments := method.signature.arguments
  raised := method.raised
  returned? := method.result?.map fun result => ⟨result.nullable, result.annotated⟩

/-- The lines of code of a method. -/
def lines (method : ClientMethod) : List String :=
  (method.header ++ " \x7b") ::
    ([method.callLine, "if (!response.ok) \x7b", method.throwLine, "\x7d"] ++ method.returnLines
      ++ ["\x7d"])

end ClientMethod

/-- A parameter that can be told from what is around it. -/
structure Parameter.Readable (parameter : Parameter) : Prop where
  name : isIdentifier parameter.name = true
  type : parameter.type.Worded

/-- A method whose parts can be told from what is around them. -/
structure ClientMethod.Readable (method : ClientMethod) : Prop where
  binding : isIdentifier method.binding = true
  members : ∀ name, method.signature.parameters ≠ .bundled name []
  parameters : ∀ parameter ∈ method.signature.parameters.written, parameter.Readable
  arguments : ∀ argument ∈ method.signature.arguments, argument.Named
  result : ∀ result ∈ method.result?, result.type.Worded
  failureType : method.failureType.IsWord

/-! ## Line by line -/

/-- An annotation is read up to what ends a type. -/
theorem readAs_annotated {expr : TypeExpr} (hWorded : expr.Worded) (nullable : Bool) :
    ReadAs (readAnnotated readType) EndsType (orNull expr.text nullable) ⟨expr.shape, nullable⟩ :=
  readAnnotated_append nullable fun _ hMore => hWorded.spells.readType hMore

theorem Result.readAs {result : Result} (h : result.type.Worded) :
    ReadAs (readAnnotated readType) EndsType result.text result.annotated :=
  readAs_annotated h result.nullable

theorem Parameter.Readable.readAs {parameter : Parameter} (h : parameter.Readable) :
    ReadAs (readSlot readIdentifier readType) EndsType parameter.text parameter.slot :=
  readSlot_append parameter.nullable (fun more => readIdentifier_append h.name (stops_text rfl rfl more))
    fun _ hMore => h.type.spells.readType hMore

/-- A text that begins with an identifier does not begin with another character. -/
theorem not_prefix_of_identifier {name closing : String} {first : Char} {others : List Char}
    (hName : isIdentifier name = true) (hClosing : closing.toList = first :: others)
    (hFirst : isIdentStart first = false) (more : List Char) :
    ¬ closing.toList <+: name.toList ++ more := by
  intro hPrefix
  obtain ⟨behind, hBehind⟩ := hPrefix
  -- the first character would both start an identifier and be the one that does not
  obtain ⟨start, hHead, hStart⟩ := head?_of_isIdentifier hName more
  rw [← hBehind, head?_text hClosing] at hHead
  obtain rfl := Option.some.inj hHead
  exact absurd hStart (Bool.eq_false_iff.mp hFirst)

/-- The line that returns is read back: whether `null` stands for no value, and the type. -/
theorem readReturn_append {result : Result} (h : result.type.Worded) :
    readWhole readReturn
        ("return " ++ (if result.nullable then "(response.value ?? null)" else "response.value")
          ++ " as " ++ result.text ++ ";")
      = some ⟨result.nullable, result.annotated⟩ := by
  -- nothing is behind the semicolon, which ends the type
  have hEnds : EndsType (";".toList ++ []) := ⟨stops_text rfl rfl [], by decide⟩
  have hType := Result.readAs h _ hEnds
  have hClose := expect_append ";" []
  rw [List.append_nil] at hType hClose
  apply readWhole_eq
  cases hNullable : result.nullable with
  | false =>
    -- the parenthesis tells the two ways to return a value apart
    have hValue : ¬ "(response.value ?? null)".toList
        <+: "response.value as ".toList ++ (result.text.toList ++ ";".toList) :=
      @not_prefix_of_stops (· == '(') _ _ _ _ rfl rfl (stops_text rfl rfl _)
    have hText : ("return " ++ (if false then "(response.value ?? null)" else "response.value")
          ++ " as " ++ result.text ++ ";").toList
        = "return ".toList ++ ("response.value as ".toList ++ (result.text.toList ++ ";".toList)) := by
      simp [String.toList_append]
    rw [if_neg Bool.false_ne_true] at hText ⊢
    rw [hText, readReturn, Reader.bind_eq (expect_append "return " _),
      Reader.bind_eq (accept_eq_false hValue), if_neg Bool.false_ne_true,
      Reader.bind_eq (expect_append "response.value as " _), Reader.bind_eq hType, Reader.bind_eq hClose]
    rfl
  | true =>
    rw [if_pos rfl]
    simp only [String.toList_append, List.append_assoc]
    rw [readReturn, Reader.bind_eq (expect_append "return " _),
      Reader.bind_eq (accept_append "(response.value ?? null)" _), if_pos rfl,
      Reader.bind_eq (expect_append " as " _), Reader.bind_eq hType, Reader.bind_eq hClose]
    rfl

/-- Parameters are written as a list of what they are read as. An object without members would be written
in another way than its type is, but a method without parameters takes no object. -/
theorem Parameters.text_eq {parameters : Parameters} (h : ∀ name, parameters ≠ .bundled name []) :
    parameters.text = ", ".intercalate (parameters.written.map Parameter.text) := by
  cases parameters with
  | separate parameters => rfl
  | bundled name members =>
    -- one parameter, the type of which is an object
    cases members with
    | nil => exact absurd rfl (h name)
    | cons member members =>
      rw [Parameters.text, Parameters.written, List.map_singleton, String.intercalate_singleton,
        Parameter.text, orNull, if_neg Bool.false_ne_true, TypeExpr.text, objectText, memberTexts,
        if_neg (by simp)]
      simp only [String.append_assoc]
      rfl

namespace ClientMethod

variable {method : ClientMethod}

/-- What a method promises is read back, `void` if it returns nothing. -/
theorem Readable.readAs_promised (h : method.Readable) :
    ReadAs (readAnnotated readType) EndsType method.promised method.source.promised := by
  rw [promised, source]
  cases hResult : method.result? with
  | none =>
    have hVoid : (TypeExpr.builtin .void).Worded := fun _ hRef => absurd hRef List.not_mem_nil
    exact readAs_annotated hVoid false
  | some result => exact Result.readAs (h.result result hResult)

/-- The first line of a method is read back. -/
theorem Readable.readHeader (h : method.Readable) :
    readWhole readHeader (method.header ++ " \x7b")
      = some (method.binding, method.source.formals, method.source.promised) := by
  have hFormals : List.Forall₂ (ReadAs (readSlot readIdentifier readType) EndsType)
      (method.signature.parameters.written.map Parameter.text) method.source.formals := by
    rw [source, List.forall₂_map_left_iff, List.forall₂_map_right_iff, List.forall₂_same]
    exact fun parameter hParameter => (h.parameters parameter hParameter).readAs
  -- a parameter begins with its name, so it is not taken for the end of the list
  have hOpen : ∀ text ∈ method.signature.parameters.written.map Parameter.text, ∀ more,
      ¬ ")".toList <+: text.toList ++ more := by
    intro text hText more
    obtain ⟨parameter, hParameter, rfl⟩ := List.mem_map.mp hText
    rw [Parameter.text, String.toList_append, String.toList_append, List.append_assoc,
      List.append_assoc]
    exact not_prefix_of_identifier (h.parameters parameter hParameter).name rfl rfl _
  have hText : (method.header ++ " \x7b").toList
      = "async ".toList ++ (method.binding.toList ++ ("(".toList
        ++ ((", ".intercalate (method.signature.parameters.written.map Parameter.text)).toList
          ++ ("): Promise<".toList ++ (method.promised.toList ++ ("> \x7b".toList ++ [])))))) := by
    rw [header, Parameters.text_eq h.members]
    simp [String.toList_append]
  -- the parenthesis belongs to what is behind the parameters
  have hList : ∀ more, readListBefore ")" ", " (readSlot readIdentifier readType)
        ((", ".intercalate (method.signature.parameters.written.map Parameter.text)).toList
          ++ ("): Promise<".toList ++ more))
      = some (method.source.formals, "): Promise<".toList ++ more) := fun more =>
    @readListBefore_append _ ", " _ EndsType _ _ (": Promise<".toList ++ more) ")" hFormals (by decide)
      (fun _ => endsType_text rfl rfl (by decide) _)
      (@endsType_text "): Promise<" _ _ _ rfl rfl (by decide) more)
      (@not_prefix_of_stops (· == ',') _ _ _ _ rfl rfl (@stops_text _ "): Promise<" _ _ rfl rfl more))
      hOpen
  -- token by token
  apply readWhole_eq
  rw [hText, TypeScript.readHeader, Reader.bind_eq (expect_append "async " _),
    Reader.bind_eq (readIdentifier_append h.binding (stops_text rfl rfl _)),
    Reader.bind_eq (expect_append "(" _), Reader.bind_eq (hList _),
    Reader.bind_eq (expect_append "): Promise<" _),
    Reader.bind_eq (h.readAs_promised _ (endsType_text rfl rfl (by decide) _)),
    Reader.bind_eq (expect_append "> \x7b" _)]
  rfl

/-- The line that performs the call is read back: the name of the method in the ABI, and the arguments. -/
theorem Readable.readCall (h : method.Readable) :
    readWhole readCall method.callLine = some (method.wireName, method.signature.arguments) := by
  have hArguments : List.Forall₂ (ReadAs readArgument (Stops stopsArgument))
      (method.signature.arguments.map Argument.text) method.signature.arguments := by
    rw [List.forall₂_map_left_iff, List.forall₂_same]
    exact fun argument hArgument _ hRest => readArgument_append (h.arguments argument hArgument) hRest
  -- an argument begins with a name as well
  have hOpen : ∀ text ∈ method.signature.arguments.map Argument.text, ∀ more,
      ¬ "]".toList <+: text.toList ++ more := by
    intro text hText more
    obtain ⟨argument, hArgument, rfl⟩ := List.mem_map.mp hText
    have hNamed := h.arguments argument hArgument
    cases argument with
    | parameter name => exact not_prefix_of_identifier hNamed rfl rfl more
    | property target name =>
      -- a property is accessed by a dot or by brackets, behind the name in both cases
      rw [Argument.text, propertyAccess]
      split
      all_goals
        simp only [String.toList_append, List.append_assoc]
        exact not_prefix_of_identifier hNamed rfl rfl _
  -- the bracket that ends the list is no comma, so no further argument is tried
  have hEnd : ¬ ", ".toList <+: "]".toList ++ ");".toList := by decide
  have hList := readListBefore_append hArguments (by decide) (fun _ => stops_text rfl rfl _)
    (stops_text rfl rfl ");".toList) hEnd hOpen
  have hText : method.callLine.toList
      = "const response = await this.#call(".toList ++ ((stringLiteral method.wireName).toList
        ++ (", [".toList ++ ((", ".intercalate (method.signature.arguments.map Argument.text)).toList
          ++ ("]".toList ++ ");".toList)))) := by
    have hClose : "]);".toList = "]".toList ++ ");".toList := rfl
    unfold callLine
    simp only [String.toList_append, List.append_assoc, hClose]
  apply readWhole_eq
  rw [hText, TypeScript.readCall, Reader.bind_eq (expect_append "const response = await this.#call(" _),
    Reader.bind_eq (readLiteral_append _ _), Reader.bind_eq (expect_append ", [" _),
    Reader.bind_eq hList]
  rfl

/-- The line that throws is read back. -/
theorem Readable.readThrow (h : method.Readable) :
    readWhole readThrow method.throwLine = some method.raised := by
  apply readWhole_eq
  rw [throwLine, raised]
  split
  -- no errors are declared
  next =>
    have hRead := accept_append "throw new Error(response.error.message);" []
    rw [List.append_nil] at hRead
    rw [TypeScript.readThrow, Reader.bind_eq hRead, if_pos rfl]
    rfl
  -- errors are declared, and their type is a word
  next =>
    have hType : (TypeExpr.reference method.failureType).Worded := by
      intro ref hRef
      obtain rfl := List.mem_singleton.mp hRef
      exact h.failureType
    -- a word could go on as an array, but what is behind it does not
    have hShape : ∀ more, readType (method.failureType.text.toList ++ (">(".toList ++ more))
        = some (.word method.failureType.text, ">(".toList ++ more) := by
      intro more
      have hEnds : EndsType (">(".toList ++ more) := endsType_text rfl rfl (by decide) more
      have hRead := hType.spells.readType hEnds.goesOn
      rw [hEnds.stops.closeArrays_eq] at hRead
      exact hRead
    -- the two lines differ behind their first word
    have hMessage : ∀ more, ¬ "throw new Error(response.error.message);".toList
        <+: "throw methodError<".toList ++ more := by
      intro more hPrefix
      have hShort : "throw new".toList <+: "throw methodError<".toList ++ more :=
        List.IsPrefix.trans ⟨_, rfl⟩ hPrefix
      exact absurd (List.prefix_of_prefix_length_le hShort (List.prefix_append _ _) (by decide))
        (by decide)
    have hText : ("throw methodError<" ++ method.failureType.text ++ ">(" ++ stringLiteral method.wireName
          ++ ", response.error);").toList
        = "throw methodError<".toList ++ (method.failureType.text.toList ++ (">(".toList
          ++ ((stringLiteral method.wireName).toList ++ (", response.error);".toList ++ [])))) := by
      simp [String.toList_append]
    rw [hText, TypeScript.readThrow, Reader.bind_eq (accept_eq_false (hMessage _)),
      if_neg Bool.false_ne_true, Reader.bind_eq (expect_append "throw methodError<" _),
      Reader.bind_eq (hShape _), Reader.bind_eq (expect_append ">(" _),
      Reader.bind_eq (readLiteral_append _ _), Reader.bind_eq (expect_append ", response.error);" _)]
    rfl

/-- The last lines are read back: a line that returns, or the brace at once. -/
theorem Readable.readEnd (h : method.Readable) (more : List String) :
    readEnd (method.returnLines ++ ["\x7d"] ++ more) = some method.source.returned? := by
  rw [returnLines, source]
  cases hResult : method.result? with
  | none => rfl
  | some result =>
    have hRead := readReturn_append (h.result result hResult)
    -- a line that returns is no brace
    generalize hLine : "return " ++ (if result.nullable then "(response.value ?? null)"
      else "response.value") ++ " as " ++ result.text ++ ";" = line at hRead
    show TypeScript.readEnd (_ :: "\x7d" :: more) = _
    rw [hLine, TypeScript.readEnd.eq_def]
    split
    -- the line is taken for the brace
    next hBrace =>
      obtain ⟨rfl, -⟩ := List.cons.inj hBrace
      -- if it were one, it would not have been read
      have hNone : readWhole readReturn "\x7d" = none := rfl
      rw [hNone] at hRead
      cases hRead
    -- the line is read as one that returns
    next hLines =>
      obtain ⟨rfl, -⟩ := List.cons.inj hLines
      rw [hRead]
      rfl
    next hOther => exact absurd rfl (hOther _ _)

/-! ## Method by method -/

/-- A method is read from its lines of code, whatever lines are behind them. -/
theorem Readable.readMethod (h : method.Readable) (more : List String) :
    readMethod (method.header ++ " \x7b")
        ([method.callLine, "if (!response.ok) \x7b", method.throwLine, "\x7d"] ++ method.returnLines
          ++ ["\x7d"] ++ more)
      = some method.source := by
  have hEnd := h.readEnd more
  rw [List.append_assoc, List.append_assoc] at *
  show TypeScript.readMethod _ (method.callLine :: "if (!response.ok) \x7b" :: method.throwLine
    :: "\x7d" :: (method.returnLines ++ (["\x7d"] ++ more))) = _
  rw [TypeScript.readMethod, h.readHeader, h.readCall, h.readThrow, hEnd]
  rfl

end ClientMethod

/-! ## Lines of code -/

section Verbatim

/-- A word is quiet: no character in it opens a string or a comment. -/
theorem Reference.IsWord.verbatim {ref : Reference} (h : ref.IsWord) : Verbatim ref.text := by
  refine verbatim_of_quiet fun c hc => ?_
  have hChar := h.2 c hc
  rw [isTypeChar, Bool.or_eq_true, beq_iff_eq] at hChar
  rcases hChar with hPart | rfl
  · exact isQuiet_of_isIdentPart hPart
  · decide

/-- A mark for `null` adds nothing that would be read otherwise. -/
theorem verbatim_orNull {text : String} (h : Verbatim text) (nullable : Bool) :
    Verbatim (orNull text nullable) := by
  rw [orNull]
  split
  · exact h.append (verbatim_literal rfl)
  · exact h

/-- An object of verbatim members is verbatim. -/
theorem verbatim_objectText {texts : List String} (h : ∀ text ∈ texts, Verbatim text) :
    Verbatim (objectText texts) := by
  rw [objectText]
  split
  · exact verbatim_literal rfl
  · have hMembers : Verbatim ("; ".intercalate texts) := verbatim_intercalate (verbatim_literal rfl) h
    exact ((verbatim_literal rfl : Verbatim "\x7b ").append hMembers).append (verbatim_literal rfl)

mutual

/-- A written type is verbatim. -/
theorem TypeExpr.Worded.verbatim : ∀ {expr : TypeExpr}, expr.Worded → Verbatim expr.text
  | .builtin type, _ => by
    rw [TypeExpr.text]
    cases type <;> exact verbatim_literal rfl
  | .reference ref, h => by
    -- the scope writes a reference as a word
    rw [TypeExpr.text]
    exact (h ref (List.mem_singleton_self ref)).verbatim
  | .array items, h => by
    have hItems : items.Worded := h
    rw [TypeExpr.text]
    exact hItems.verbatim.append (verbatim_literal rfl)
  | .dictionary key value, h => by
    have hKey : key.Worded := fun ref hRef => h ref (List.mem_append_left _ hRef)
    have hValue : value.Worded := fun ref hRef => h ref (List.mem_append_right _ hRef)
    have hOpen : Verbatim ("Record<" ++ key.text) := Verbatim.append (verbatim_literal rfl) hKey.verbatim
    have hBetween : Verbatim ("Record<" ++ key.text ++ ", ") := hOpen.append (verbatim_literal rfl)
    rw [TypeExpr.text]
    exact (hBetween.append hValue.verbatim).append (verbatim_literal rfl)
  | .object members, h => by
    rw [TypeExpr.text]
    exact verbatim_objectText (verbatim_memberTexts h)

/-- So is a member, whose key is an identifier or a literal. -/
theorem Member.verbatim : ∀ {member : Member}, (∀ ref ∈ member.references, ref.IsWord) →
    Verbatim member.text
  | ⟨key, type, nullable⟩, h => by
    have hType : type.Worded := h
    have hKey : Verbatim (propertyKey key ++ ": ") :=
      (verbatim_propertyKey key).append (verbatim_literal rfl)
    rw [Member.text]
    exact hKey.append (verbatim_orNull hType.verbatim nullable)

theorem verbatim_memberTexts : ∀ {members : List Member}, (∀ ref ∈ memberReferences members, ref.IsWord) →
    ∀ text ∈ memberTexts members, Verbatim text
  | [], _ => fun _ hText => absurd hText List.not_mem_nil
  | member :: members, h => by
    obtain ⟨hFirst, hOthers⟩ := List.forall_mem_append.mp h
    exact List.forall_mem_cons.mpr ⟨Member.verbatim hFirst, verbatim_memberTexts hOthers⟩

end

theorem Argument.Named.verbatim {argument : Argument} (h : argument.Named) : Verbatim argument.text := by
  cases argument with
  | parameter name => exact verbatim_of_isIdentifier h
  | property target name => exact verbatim_propertyAccess (verbatim_of_isIdentifier h) name

/-- A parameter is verbatim: a name, a colon and a type. -/
theorem Parameter.Readable.verbatim {parameter : Parameter} (h : parameter.Readable) :
    Verbatim parameter.text := by
  have hName : Verbatim (parameter.name ++ ": ") :=
    (verbatim_of_isIdentifier h.name).append (verbatim_literal rfl)
  exact hName.append (verbatim_orNull h.type.verbatim parameter.nullable)

end Verbatim

namespace ClientMethod.Readable

variable {method : ClientMethod} (h : method.Readable)
include h

/-- The first line of a method is a line of code. Names are identifiers, so no comment begins in it. -/
theorem codeLine_header : CodeLine method.header := by
  have hParameters : Verbatim method.signature.parameters.text := by
    rw [Parameters.text_eq h.members]
    refine verbatim_intercalate (verbatim_literal rfl) (List.forall_mem_map.mpr fun parameter hParameter => ?_)
    exact (h.parameters parameter hParameter).verbatim
  have hPromised : Verbatim method.promised := by
    rw [promised]
    cases hResult : method.result? with
    | none => exact verbatim_literal rfl
    | some result => exact verbatim_orNull (h.result result hResult).verbatim result.nullable
  have hName : CodeLine ("async " ++ method.binding) :=
    (codeLine_literal (by decide) rfl : CodeLine "async ").append (verbatim_of_isIdentifier h.binding)
  have hOpen : CodeLine ("async " ++ method.binding ++ "(") := hName.append (verbatim_literal rfl)
  -- from the left, one part after the other, as the line is built
  have hBetween := (hOpen.append hParameters).append (verbatim_literal rfl : Verbatim "): Promise<")
  exact (hBetween.append hPromised).append (verbatim_literal rfl)

/-- So is the line that performs the call; the name in it may be any text, as a literal. -/
theorem codeLine_callLine : CodeLine method.callLine := by
  have hArguments : Verbatim (", ".intercalate (method.signature.arguments.map Argument.text)) := by
    refine verbatim_intercalate (verbatim_literal rfl) (List.forall_mem_map.mpr fun argument hArgument => ?_)
    exact (h.arguments argument hArgument).verbatim
  have hCall : CodeLine ("const response = await this.#call(" ++ stringLiteral method.wireName) :=
    (codeLine_literal (by decide) rfl : CodeLine "const response = await this.#call(").append
      (verbatim_stringLiteral method.wireName)
  have hOpen := hCall.append (verbatim_literal rfl : Verbatim ", [")
  exact (hOpen.append hArguments).append (verbatim_literal rfl)

/-- So is the line that throws. -/
theorem codeLine_throwLine : CodeLine method.throwLine := by
  rw [throwLine]
  split
  · exact codeLine_literal (by decide) rfl
  · have hType : CodeLine ("throw methodError<" ++ method.failureType.text) :=
      (codeLine_literal (by decide) rfl : CodeLine "throw methodError<").append h.failureType.verbatim
    have hOpen := hType.append (verbatim_literal rfl : Verbatim ">(")
    exact (hOpen.append (verbatim_stringLiteral method.wireName)).append (verbatim_literal rfl)

/-- So is the line that returns, if there is one. -/
theorem codeLine_returnLines : ∀ line ∈ method.returnLines, CodeLine line := by
  intro line hLine
  obtain ⟨result, hResult, rfl⟩ := exists_result_of_mem_returnLines hLine
  -- a value that may be absent is written with its default
  have hValue : Verbatim (if result.nullable then "(response.value ?? null)" else "response.value") := by
    split <;> exact verbatim_literal rfl
  have hReturn := (codeLine_literal (by decide) rfl : CodeLine "return ").append hValue
  have hAs := hReturn.append (verbatim_literal rfl : Verbatim " as ")
  have hType := verbatim_orNull (h.result result hResult).verbatim result.nullable
  exact (hAs.append hType).append (verbatim_literal rfl)

/-- **A method** comes to its lines of code, in whatever layout. -/
theorem shows : Shows method.steps method.lines := by
  -- the check of the response is a block of its own
  have hCheck : Shows [.block "if (!response.ok)" [.line method.throwLine]]
      ["if (!response.ok) \x7b", method.throwLine, "\x7d"] :=
    shows_singleton (showsStep_block (codeLine_literal (by decide) rfl)
      (shows_singleton (showsStep_line h.codeLine_throwLine)))
  have hCall := Shows.cons (showsStep_line h.codeLine_callLine) hCheck
  have hBlock := showsStep_block h.codeLine_header (hCall.append (shows_lines h.codeLine_returnLines))
  exact Shows.cons (showsStep_doc method.doc) (shows_singleton hBlock)

end ClientMethod.Readable

/-! ## All methods -/

/-- A line that begins with another character than `a` is not the first one of a method. -/
theorem startsMethod_eq_false {fixed : String} {c : Char} {others : List Char}
    (hFixed : fixed.toList = c :: others) (h : c ≠ 'a') (text : String) :
    startsMethod (fixed ++ text) = false := by
  rw [startsMethod, Bool.eq_false_iff, ne_eq, List.isPrefixOf_iff_prefix, String.toList_append]
  rintro ⟨behind, hBehind⟩
  have hFirst : some 'a' = some c := by
    rw [← head?_text hFixed text.toList, ← hBehind]
    rfl
  exact h (Option.some.inj hFirst).symm

/-- Lines that start no method are skipped. -/
theorem readMethods_of_forall {lines : List String} (h : ∀ line ∈ lines, startsMethod line = false)
    (more : List String) : readMethods (lines ++ more) = readMethods more := by
  induction lines with
  | nil => rfl
  | cons line lines ih =>
    obtain ⟨hFirst, hOthers⟩ := List.forall_mem_cons.mp h
    rw [List.cons_append, readMethods, hFirst, if_neg Bool.false_ne_true, ih hOthers]

/-- No line of a method but the first one looks like the beginning of another. -/
theorem ClientMethod.startsMethod_body (method : ClientMethod) :
    ∀ line ∈ [method.callLine, "if (!response.ok) \x7b", method.throwLine, "\x7d"]
        ++ method.returnLines ++ ["\x7d"], startsMethod line = false := by
  have hCall : startsMethod method.callLine = false := by
    unfold callLine
    simp only [String.append_assoc]
    exact startsMethod_eq_false rfl (by decide) _
  have hThrow : startsMethod method.throwLine = false := by
    rw [throwLine]
    split
    · rfl
    · simp only [String.append_assoc]
      exact startsMethod_eq_false rfl (by decide) _
  have hReturn : ∀ line ∈ method.returnLines, startsMethod line = false := by
    intro line hLine
    obtain ⟨result, -, rfl⟩ := exists_result_of_mem_returnLines hLine
    simp only [String.append_assoc]
    exact startsMethod_eq_false rfl (by decide) _
  simp only [List.forall_mem_append, List.forall_mem_cons, List.not_mem_nil,
    IsEmpty.forall_iff, implies_true, and_true]
  -- the fixed lines are decided by evaluation
  exact ⟨⟨⟨hCall, rfl, hThrow, rfl⟩, hReturn⟩, rfl⟩

/-- **Methods.** The lines of methods are read as their sources, whatever lines are behind them. -/
theorem readMethods_append {methods : List ClientMethod} (h : ∀ method ∈ methods, method.Readable)
    (more : List String) :
    readMethods (methods.flatMap ClientMethod.lines ++ more)
      = (readMethods more).map (methods.map ClientMethod.source ++ ·) := by
  induction methods with
  | nil => simp
  | cons method methods ih =>
    obtain ⟨hFirst, hOthers⟩ := List.forall_mem_cons.mp h
    have hStarts : startsMethod (method.header ++ " \x7b") = true := by
      rw [startsMethod, List.isPrefixOf_iff_prefix, ClientMethod.header]
      simp only [String.toList_append, List.append_assoc]
      exact List.prefix_append _ _
    rw [List.flatMap_cons, List.append_assoc, ClientMethod.lines, List.cons_append, readMethods,
      -- the lines behind the header are read with the method, and then skipped as lines that start none
      if_pos hStarts, hFirst.readMethod, readMethods_of_forall method.startsMethod_body, ih hOthers]
    cases readMethods more <;> rfl

end AbiBindings.TypeScript
