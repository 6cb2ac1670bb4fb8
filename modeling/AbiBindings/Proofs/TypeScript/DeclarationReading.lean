import AbiBindings.Proofs.TypeScript.ModuleReading
import AbiBindings.TypeScript.Declaration

/-!
# TypeScript — reading type declarations back

In a module of types every declaration is a block of lines of its own. Such a block is read here line by
line: what it declares stands on its first line, and behind that there is one line for each member of an
interface and for each arm of a union.

* `Block`, `readBlock` — what a block declares, as it is read from its lines;
* `Declaration.lines`, `Declaration.Readable.lays` — the lines that a declaration is laid out on;
* `Declaration.Readable.readBlock` — they are read as the block that the declaration is written for;
* `exportedNames`, `Declaration.Readable.exports` — the names that lines export; a block exports one, in
  one line.
-/

namespace AbiBindings.TypeScript

open Layout

/-! ## Reading -/

/-- What a block of lines declares: an interface with its members, a union with the types that each of
its arms joins, or a type on one line with its alternatives. -/
inductive Block where
  | interface (name : String) (members : List Slot)
  | union (name : String) (arms : List (List Shape))
  | alternatives (name : String) (types : List Shape)

/-- Read the line of a member of an interface. -/
def readMember : Reader Slot := do
  expect "  "
  let slot ← readSlot readKey readType
  expect ";"
  return slot

/-- Read the members of an interface: one on each line, up to the last line, which closes it. -/
def readMembers : List String → Option (List Slot)
  | [] => none
  | [last] => if last = "\x7d" then some [] else none
  | line :: rest => do return (← readWhole readMember line) :: (← readMembers rest)

/-- Read the line of an arm with this ending. -/
def readArm (ending : String) : Reader (List Shape) := do
  expect "  | "
  let types ← readList " & " readType
  expect ending
  return types

/-- Read the arms of a union: one on each line, of which the last one and no other ends the
declaration. -/
def readArms : List String → Option (List (List Shape))
  | [] => none
  | [last] => do return [← readWhole (readArm ";") last]
  | line :: rest => do return (← readWhole (readArm "") line) :: (← readArms rest)

/-- The first line of a block: the whole of it, or one that others belong to. -/
inductive Head where
  | whole (block : Block)
  | members (name : String)
  | arms (name : String)

/-- Read the first line of a block. -/
def readHead : Reader Head := do
  expect "export "
  if ← accept "interface " then
    let name ← readIdentifier
    if ← accept " \x7b\x7d" then return .whole (.interface name [])
    else
      expect " \x7b"
      return .members name
  else
    expect "type "
    let name ← readIdentifier
    expect " ="
    if ← accept " " then
      let types ← readList " | " readType
      expect ";"
      return .whole (.alternatives name types)
    else return .arms name

/-- The block with this first line and these other lines. -/
def Head.complete (rest : List String) : Head → Option Block
  | .whole block => if rest.isEmpty then some block else none
  | .members name => (readMembers rest).map (.interface name)
  | .arms name => (readArms rest).map (.union name)

/-- Whether a line is a comment for tools. -/
def isDoc (line : String) : Bool :=
  "/** ".toList.isPrefixOf line.toList && " */".toList.isSuffixOf line.toList

/-- Read a block behind the comments before it. -/
def readBlock (lines : List String) : Option Block :=
  match lines.dropWhile isDoc with
  | [] => none
  | line :: rest => (readWhole readHead line).bind (Head.complete rest)

/-- Whether a line exports something. -/
def isExport (line : String) : Bool := "export ".toList.isPrefixOf line.toList

/-- The names that lines export. -/
def exportedNames (lines : List String) : Option (List String) :=
  ((lines.filter isExport).mapM declaredIn).map List.flatten

/-- Exactly one of the lines exports something, and that is a declaration of this name. -/
def Exports (lines : List String) (name : String) : Prop :=
  ∃ line, lines.filter isExport = [line] ∧ declaredIn line = some [name]

/-! ## What is written -/

/-- The types that an arm joins. -/
def Arm.types (arm : Arm) : List Shape :=
  let label : Slot := ⟨arm.discriminant.key, .literal arm.label, false⟩
  match arm.payload? with
  | none => [.object [label]]
  | some payload =>
    let payload : Slot := ⟨"payload", payload.shape, false⟩
    match arm.discriminant with
    -- the payload of a failure joins its code, that of a variant or an event stands beside its label
    | .code => [.object [label], .object [payload]]
    | .kind | .name => [.object [label, payload]]

/-- The lines of arms. -/
def armRows : List Arm → List String
  | [] => []
  | [last] => ["  | " ++ last.text ++ ";"]
  | arm :: rest => ("  | " ++ arm.text) :: armRows rest

/-- A comment for tools on one line. -/
def docLine (text : String) : String := "/** " ++ commentText text ++ " */"

namespace Declaration

/-- The lines that a declaration is laid out on. -/
def lines : Declaration → List String
  | .interface name [] => ["export interface " ++ name ++ " \x7b\x7d"]
  | .interface name members =>
    ("export interface " ++ name ++ " \x7b") :: (members.map ("  " ++ ·.text ++ ";") ++ ["\x7d"])
  | .union name [] => [exportType name "never"]
  | .union name arms => ("export type " ++ name ++ " =") :: armRows arms
  | .literals name labels => [exportType name (" | ".intercalate (labels.map stringLiteral))]
  | .synonym doc name type => doc.map docLine ++ [exportType name type.text]

/-- The block that a declaration is written for. -/
def block : Declaration → Block
  | .interface name members => .interface name (members.map Member.slot)
  | .union name [] => .alternatives name [.word "never"]
  | .union name arms => .union name (arms.map Arm.types)
  | .literals name labels => .alternatives name (labels.map .literal)
  | .synonym _ name type => .alternatives name [type.shape]

/-- A declaration whose parts can be told from what is around them. -/
def Readable : Declaration → Prop
  | .interface name members =>
    isIdentifier name = true ∧ ∀ member ∈ members, ∀ ref ∈ member.references, ref.IsWord
  | .union name arms => isIdentifier name = true ∧ ∀ arm ∈ arms, ∀ payload ∈ arm.payload?, payload.Worded
  | .literals name labels => isIdentifier name = true ∧ labels ≠ []
  | .synonym doc name type =>
    isIdentifier name = true ∧ type.Worded ∧ doc.length ≤ 1 ∧ ∀ text ∈ doc, '\n' ∉ text.toList

end Declaration

/-! ## Lines -/

/-- The lines that steps come to, none of which is empty. -/
structure Laid (level : Nat) (steps : List Step) (lines : List String) : Prop where
  lays : Lays 2 level steps lines
  filled : "" ∉ lines

section Laid

variable {level : Nat} {step : Step} {steps others : List Step} {lines more : List String} {text : String}

theorem Verbatim.unbroken (h : Verbatim text) (hSome : text ≠ "") : Unbroken text := ⟨hSome, h.oneLine⟩

/-- A line of code is filled and not broken. -/
theorem CodeLine.unbroken (h : CodeLine text) : Unbroken text := by
  refine h.verbatim.unbroken ?_
  rintro rfl
  obtain ⟨c, hHead, -⟩ := h.filled
  exact absurd hHead (by simp)

theorem Verbatim.unbroken_append {a b : String} (ha : Verbatim a) (hb : Verbatim b) (hSome : b ≠ "") :
    Unbroken (a ++ b) :=
  (ha.append hb).unbroken fun hEmpty => hSome (String.append_eq_empty_iff.mp hEmpty).2

theorem laid_line (h : Unbroken text) : Laid level [.line text] [marginText 2 level ++ text] := by
  refine ⟨lays_line h, fun hEmpty => h.nonempty ?_⟩
  exact (String.append_eq_empty_iff.mp (List.mem_singleton.mp hEmpty).symm).2

theorem laid_top (h : Unbroken text) : Laid 0 [.line text] [text] := by
  have hLine := @laid_line 0 _ h
  have hMargin : marginText 2 0 = "" := rfl
  rw [hMargin, String.empty_append] at hLine
  exact hLine

/-- A comment of one line comes to one line. -/
theorem laid_doc (hLine : '\n' ∉ text.toList) : Laid 0 [.doc [text]] [docLine text] := by
  have hLays := @lays_doc 2 0 _ hLine
  have hMargin : marginText 2 0 = "" := rfl
  rw [hMargin, String.empty_append] at hLays
  refine ⟨hLays, fun hEmpty => ?_⟩
  exact absurd (String.append_eq_empty_iff.mp (List.mem_singleton.mp hEmpty).symm).2 (by decide)

theorem Laid.append (h : Laid level steps lines) (hOthers : Laid level others more) :
    Laid level (steps ++ others) (lines ++ more) :=
  ⟨h.lays.append hOthers.lays, List.not_mem_append h.filled hOthers.filled⟩

theorem Laid.cons (h : Laid level [step] lines) (hOthers : Laid level others more) :
    Laid level (step :: others) (lines ++ more) := by
  rw [← List.singleton_append]
  exact h.append hOthers

theorem Laid.nested (h : Laid (level + 1) steps lines) : Laid level [.nested steps] lines :=
  ⟨h.lays.nested, h.filled⟩

/-- A block outside of others comes to its first line, its body one level deeper, and the brace. -/
theorem Laid.block {header : String} (hHeader : Verbatim header) (h : Laid 1 steps lines) :
    Laid 0 [.block header steps] ((header ++ " \x7b") :: (lines ++ ["\x7d"])) := by
  have hMargin : marginText 2 0 = "" := rfl
  have hLays := Lays.block hHeader.oneLine h.lays
  rw [hMargin, String.empty_append, String.empty_append] at hLays
  refine ⟨hLays, List.not_mem_cons_of_ne_of_not_mem ?_ (List.not_mem_append h.filled (by decide))⟩
  exact fun hEmpty => absurd (String.append_eq_empty_iff.mp hEmpty.symm).2 (by decide)

end Laid

/-- Each member of an interface comes to a line. -/
theorem laid_members {members : List Member} (h : ∀ member ∈ members, Verbatim member.text) :
    Laid 1 (members.map fun member => .line (member.text ++ ";")) (members.map ("  " ++ ·.text ++ ";")) := by
  induction members with
  | nil => exact ⟨lays_nil, List.not_mem_nil⟩
  | cons member members ih =>
    obtain ⟨hFirst, hOthers⟩ := List.forall_mem_cons.mp h
    have hLine : Laid 1 _ _ := laid_line (hFirst.unbroken_append (verbatim_literal rfl) (by decide : ";" ≠ ""))
    -- one level deep, a margin is two blanks
    have hMargin : marginText 2 1 = "  " := rfl
    rw [hMargin, ← String.append_assoc] at hLine
    exact hLine.cons (ih hOthers)

/-- Each arm of a union comes to a line. -/
theorem laid_arms {arms : List Arm} (h : ∀ arm ∈ arms, Verbatim arm.text) :
    Laid 1 (armLines arms) (armRows arms) := by
  have hMargin : marginText 2 1 ++ "| " = "  | " := rfl
  have hRow : ∀ {text : String}, Verbatim text → Laid 1 [.line ("| " ++ text)] ["  | " ++ text] := by
    intro text hText
    have hOpen : CodeLine "| " := codeLine_literal (by decide) rfl
    have hLine : Laid 1 _ _ := laid_line (hOpen.append hText).unbroken
    rw [← String.append_assoc, hMargin] at hLine
    exact hLine
  induction arms with
  | nil => exact ⟨lays_nil, List.not_mem_nil⟩
  | cons arm arms ih =>
    obtain ⟨hFirst, hOthers⟩ := List.forall_mem_cons.mp h
    -- the last arm ends the declaration
    cases arms with
    | nil =>
      rw [armLines, armRows, String.append_assoc, String.append_assoc]
      exact hRow (hFirst.append (verbatim_literal rfl))
    | cons other arms =>
      have hArms := (hRow hFirst).cons (ih hOthers)
      rw [armLines, armRows]
      · exact hArms
      · simp
      · simp

/-! ## Arms -/

section Arms

variable {arm : Arm}

/-- The texts of the types that an arm joins. -/
theorem Arm.exists_text_eq (h : ∀ payload ∈ arm.payload?, payload.Worded) :
    ∃ texts, arm.text = " & ".intercalate texts ∧ texts ≠ [] ∧ List.Forall₂ Spells texts arm.types := by
  have hLabel : SpellsSlot (arm.discriminant.key ++ ": " ++ stringLiteral arm.label)
      -- the keys of labels are identifiers, so they are written as they are
      ⟨arm.discriminant.key, .literal arm.label, false⟩ := by
    have hKey : propertyKey arm.discriminant.key = arm.discriminant.key := by
      cases arm.discriminant <;> rfl
    have hSlot := (spells_literal arm.label).slot arm.discriminant.key false
    rw [hKey] at hSlot
    exact hSlot
  -- an object with one member
  have hSingle : ∀ {text slot}, SpellsSlot text slot → Spells (objectText [text]) (.object [slot]) :=
    fun hSlot => spells_object (.cons hSlot .nil)
  rw [Arm.text, Arm.types]
  cases hPayload : arm.payload? with
  | none => exact ⟨[_], String.intercalate_singleton.symm, by simp, .cons (hSingle hLabel) .nil⟩
  | some payload =>
    have hPayload : SpellsSlot ("payload: " ++ payload.text) ⟨"payload", payload.shape, false⟩ := by
      have hKey : propertyKey "payload" ++ ": " = "payload: " := rfl
      have hSlot := (h payload hPayload).spells.slot "payload" false
      rw [hKey] at hSlot
      exact hSlot
    have hBoth := spells_object (.cons hLabel (.cons hPayload .nil))
    -- the payload of a failure is an object of its own
    cases hDiscriminant : arm.discriminant with
    | code =>
      rw [hDiscriminant] at hLabel
      refine ⟨[_, _], ?_, by simp, .cons (hSingle hLabel) (.cons (hSingle hPayload) .nil)⟩
      rw [String.intercalate_cons_cons, String.intercalate_singleton]
    | kind | name =>
      rw [hDiscriminant] at hBoth
      exact ⟨[_], String.intercalate_singleton.symm, by simp, .cons hBoth .nil⟩

/-- An arm is verbatim, with its label as a literal. -/
theorem Arm.verbatim (h : ∀ payload ∈ arm.payload?, payload.Worded) : Verbatim arm.text := by
  have hLabel : Verbatim (arm.discriminant.key ++ ": " ++ stringLiteral arm.label) := by
    have hKey : Verbatim arm.discriminant.key := by
      cases arm.discriminant <;> exact verbatim_literal rfl
    exact (hKey.append (verbatim_literal rfl)).append (verbatim_stringLiteral arm.label)
  -- an object of one member is verbatim if the member is
  have hSingle : ∀ {text}, Verbatim text → Verbatim (objectText [text]) :=
    fun hText => verbatim_objectText (List.forall_mem_singleton.mpr hText)
  rw [Arm.text]
  cases hPayload : arm.payload? with
  | none => exact hSingle hLabel
  | some payload =>
    have hText : Verbatim ("payload: " ++ payload.text) :=
      Verbatim.append (verbatim_literal rfl) (h payload hPayload).verbatim
    dsimp only
    split
    · exact ((hSingle hLabel).append (verbatim_literal rfl)).append (hSingle hText)
    all_goals
      exact verbatim_objectText (List.forall_mem_cons.mpr ⟨hLabel, List.forall_mem_singleton.mpr hText⟩)

/-- The line of an arm is read as the types that the arm joins. -/
theorem readArm_line (h : ∀ payload ∈ arm.payload?, payload.Worded) {ending : String}
    (hEnding : ending = "" ∨ ending = ";") :
    readWhole (readArm ending) ("  | " ++ arm.text ++ ending) = some arm.types := by
  obtain ⟨texts, hText, hSome, hTypes⟩ := Arm.exists_text_eq h
  have hItems := hTypes.imp fun _ _ hSpells => hSpells.readAs
  -- with or without a semicolon, the last type ends where the line does
  have hStops : Stops (fun c => goesOn c || c == '[') (ending.toList ++ []) := by
    rcases hEnding with rfl | rfl
    · exact fun _ hc => absurd hc (by simp)
    · exact stops_text rfl rfl []
  have hEnd : ¬ " & ".toList <+: ending.toList ++ [] := by
    rcases hEnding with rfl | rfl <;> decide
  have hList := readList_append hItems hSome (by decide) (fun more => stops_text rfl rfl more) hStops hEnd
  have hLine : ("  | " ++ arm.text ++ ending).toList
      = "  | ".toList ++ ((" & ".intercalate texts).toList ++ (ending.toList ++ [])) := by
    rw [hText, String.toList_append, String.toList_append, List.append_assoc, List.append_nil]
  apply readWhole_eq
  rw [hLine, readArm, Reader.bind_eq (expect_append "  | " _), Reader.bind_eq hList,
    Reader.bind_eq (expect_append ending [])]
  rfl

/-- The lines of arms are read as the arms, up to the one that ends the declaration. -/
theorem readArms_rows {arms : List Arm} (hSome : arms ≠ [])
    (h : ∀ arm ∈ arms, ∀ payload ∈ arm.payload?, payload.Worded) :
    readArms (armRows arms) = some (arms.map Arm.types) := by
  induction arms with
  | nil => exact absurd rfl hSome
  | cons arm arms ih =>
    obtain ⟨hFirst, hOthers⟩ := List.forall_mem_cons.mp h
    cases arms with
    -- the last row has the semicolon
    | nil =>
      have hRead := readArm_line hFirst (Or.inr rfl)
      rw [armRows, readArms, hRead]
      rfl
    | cons other arms =>
      -- there are rows behind this one, so it is not read as the last
      have hRead := readArm_line hFirst (Or.inl rfl)
      have hRows : armRows (other :: arms) ≠ [] := by
        cases arms <;> simp [armRows]
      rw [String.append_empty] at hRead
      rw [armRows, readArms, hRead, ih (by simp) hOthers]
      · rfl
      · exact hRows
      · simp

end Arms

/-! ## Members -/

section Members

variable {member : Member} {members : List Member}

/-- The line of a member is read as its slot. -/
theorem readMember_line (h : ∀ ref ∈ member.references, ref.IsWord) :
    readWhole readMember ("  " ++ member.text ++ ";") = some member.slot := by
  obtain ⟨key, type, nullable⟩ := member
  have hType : type.Worded := h
  have hSlot := readSlot_append nullable (fun more => readKey_append key (stops_text rfl rfl more))
    (fun more hMore => hType.spells.readType hMore) (";".toList ++ [])
    ⟨stops_text rfl rfl [], not_prefix_of_head rfl rfl (by decide) []⟩
  -- the pieces of the line, in the order in which they are read
  have hLine : ("  " ++ (Member.mk key type nullable).text ++ ";").toList
      = "  ".toList ++ ((propertyKey key ++ ": " ++ orNull type.text nullable).toList
        ++ (";".toList ++ [])) := by
    rw [Member.text, String.toList_append, String.toList_append, List.append_assoc, List.append_nil]
  apply readWhole_eq
  rw [hLine, readMember, Reader.bind_eq (expect_append "  " _), Reader.bind_eq hSlot,
    Reader.bind_eq (expect_append ";" [])]
  rfl

/-- The lines of members are read as their slots, up to the brace. -/
theorem readMembers_lines (h : ∀ member ∈ members, ∀ ref ∈ member.references, ref.IsWord) :
    readMembers (members.map ("  " ++ ·.text ++ ";") ++ ["\x7d"]) = some (members.map Member.slot) := by
  induction members with
  | nil => rfl
  | cons member members ih =>
    obtain ⟨hFirst, hOthers⟩ := List.forall_mem_cons.mp h
    rw [List.map_cons, List.cons_append, readMembers, readMember_line hFirst, ih hOthers]
    · rfl
    · simp

end Members

/-! ## Blocks -/

section Blocks

variable {name line : String} {rest : List String}

/-- What is behind the beginning of a line does not matter for whether it exports something. -/
theorem isExport_append {front : String} (h : isExport front = true) (behind : String) :
    isExport (front ++ behind) = true := by
  rw [isExport, List.isPrefixOf_iff_prefix] at h ⊢
  rw [String.toList_append]
  exact h.trans (List.prefix_append _ _)

/-- A line that begins with another character than `export` does, exports nothing. -/
theorem isExport_eq_false {first : Char} (hHead : line.toList.head? = some first) (h : first ≠ 'e') :
    isExport line = false := by
  have hPrefix : ¬ "export ".toList <+: line.toList ++ [] := not_prefix_of_head rfl hHead h.symm []
  rw [List.append_nil] at hPrefix
  exact Bool.eq_false_iff.mpr fun hExport => hPrefix (List.isPrefixOf_iff_prefix.mp hExport)

/-- A line that exports something is no comment. -/
theorem isDoc_eq_false (h : isExport line = true) : isDoc line = false := by
  obtain ⟨behind, hLine⟩ := List.isPrefixOf_iff_prefix.mp h
  -- the two begin with different characters
  have hOpen : ¬ "/** ".toList.isPrefixOf line.toList = true := by
    rw [List.isPrefixOf_iff_prefix, ← hLine]
    exact not_prefix_of_head rfl rfl (by decide) behind
  rw [isDoc, Bool.and_eq_false_iff]
  exact Or.inl (Bool.eq_false_iff.mpr hOpen)

/-- A block is read by its first line, which is no comment. -/
theorem readBlock_head {head : Head} (hExport : isExport line = true)
    (hHead : readWhole readHead line = some head) : readBlock (line :: rest) = head.complete rest := by
  rw [readBlock, List.dropWhile_cons_of_neg (Bool.eq_false_iff.mp (isDoc_eq_false hExport))]
  show (readWhole readHead line).bind _ = _
  rw [hHead, Option.bind_some]

/-- Comments before a block do not count. -/
theorem readBlock_docs (docs : List String) (lines : List String) :
    readBlock (docs.map docLine ++ lines) = readBlock lines := by
  have hDocs : ∀ line ∈ docs.map docLine, isDoc line = true := by
    refine List.forall_mem_map.mpr fun text _ => ?_
    have hClose : docLine text = "/** " ++ (commentText text ++ " */") := String.append_assoc
    rw [isDoc, Bool.and_eq_true, List.isPrefixOf_iff_prefix, List.isSuffixOf_iff_suffix]
    refine ⟨?_, ?_⟩
    · rw [hClose, String.toList_append]
      exact List.prefix_append _ _
    · rw [docLine, String.toList_append]
      exact List.suffix_append _ _
  rw [readBlock, readBlock, List.dropWhile_append_of_pos hDocs]

/-- The first line of an interface. -/
theorem readHead_interface (hName : isIdentifier name = true) :
    readWhole readHead ("export interface " ++ name ++ " \x7b") = some (.members name) ∧
      readWhole readHead ("export interface " ++ name ++ " \x7b\x7d") = some (.whole (.interface name [])) := by
  have hOpen : "export interface ".toList = "export ".toList ++ "interface ".toList := rfl
  have hText : ∀ behind : String, ("export interface " ++ name ++ behind).toList
      = "export ".toList ++ ("interface ".toList ++ (name.toList ++ (behind.toList ++ []))) := by
    intro behind
    rw [String.toList_append, String.toList_append, hOpen]
    simp only [List.append_assoc, List.append_nil]
  -- a brace at the end of the line is not the pair of an interface without members
  have hNoBrace : ¬ " \x7b\x7d".toList <+: " \x7b".toList ++ [] := by decide
  -- token by token, up to where the two forms differ
  constructor <;> apply readWhole_eq
  · rw [hText, readHead, Reader.bind_eq (expect_append "export " _),
      Reader.bind_eq (accept_append "interface " _), if_pos rfl,
      Reader.bind_eq (readIdentifier_append hName (stops_text rfl rfl _)),
      Reader.bind_eq (accept_eq_false hNoBrace), if_neg Bool.false_ne_true,
      Reader.bind_eq (expect_append " \x7b" [])]
    rfl
  · rw [hText, readHead, Reader.bind_eq (expect_append "export " _),
      Reader.bind_eq (accept_append "interface " _), if_pos rfl,
      Reader.bind_eq (readIdentifier_append hName (stops_text rfl rfl _)),
      Reader.bind_eq (accept_append " \x7b\x7d" []), if_pos rfl]
    rfl

/-- The first line of a union. -/
theorem readHead_union (hName : isIdentifier name = true) :
    readWhole readHead ("export type " ++ name ++ " =") = some (.arms name) := by
  have hOpen : "export type ".toList = "export ".toList ++ "type ".toList := rfl
  have hText : ("export type " ++ name ++ " =").toList
      = "export ".toList ++ ("type ".toList ++ (name.toList ++ (" =".toList ++ []))) := by
    rw [String.toList_append, String.toList_append, hOpen]
    simp only [List.append_assoc, List.append_nil]
  -- nothing is behind the sign, so the arms are on lines of their own
  have hNoType : ¬ " ".toList <+: [] := by decide
  apply readWhole_eq
  rw [hText, readHead, Reader.bind_eq (expect_append "export " _),
    Reader.bind_eq (accept_eq_false (not_prefix_of_head rfl rfl (by decide) _)),
    if_neg Bool.false_ne_true, Reader.bind_eq (expect_append "type " _),
    Reader.bind_eq (readIdentifier_append hName (stops_text rfl rfl _)),
    Reader.bind_eq (expect_append " =" []), Reader.bind_eq (accept_eq_false hNoType),
    if_neg Bool.false_ne_true]
  rfl

/-- A type on one line. -/
theorem readHead_exportType {texts : List String} {types : List Shape} (hName : isIdentifier name = true)
    (hSome : texts ≠ []) (hTypes : List.Forall₂ Spells texts types) :
    readWhole readHead (exportType name (" | ".intercalate texts))
      = some (.whole (.alternatives name types)) := by
  have hOpen : "export type ".toList = "export ".toList ++ "type ".toList := rfl
  have hEquals : " = ".toList = " =".toList ++ " ".toList := rfl
  -- the text is split into its tokens, and they are taken one by one
  have hText : (exportType name (" | ".intercalate texts)).toList
      = "export ".toList ++ ("type ".toList ++ (name.toList ++ (" =".toList ++ (" ".toList
        ++ ((" | ".intercalate texts).toList ++ (";".toList ++ [])))))) := by
    unfold exportType
    simp only [String.toList_append, hOpen, hEquals, List.append_assoc, List.append_nil]
  have hItems := hTypes.imp fun _ _ hSpells => hSpells.readAs
  have hList := readList_append hItems hSome (by decide : 0 < " | ".length)
    (fun more => stops_text rfl rfl more) (@stops_text _ ";" _ _ rfl rfl [])
    (not_prefix_of_head rfl rfl (by decide) [])
  apply readWhole_eq
  rw [hText, readHead, Reader.bind_eq (expect_append "export " _),
    Reader.bind_eq (accept_eq_false (not_prefix_of_head rfl rfl (by decide) _)),
    if_neg Bool.false_ne_true, Reader.bind_eq (expect_append "type " _),
    Reader.bind_eq (readIdentifier_append hName (stops_text rfl rfl _)),
    Reader.bind_eq (expect_append " =" _), Reader.bind_eq (accept_append " " _), if_pos rfl,
    Reader.bind_eq hList, Reader.bind_eq (expect_append ";" [])]
  rfl

end Blocks

/-! ## Declarations -/

section Exports

variable {name line : String} {docs rest : List String}

/-- Neither comments before the first line nor the lines behind it export anything. -/
theorem exports_append (hExport : isExport line = true) (hName : declaredIn line = some [name])
    (hRest : ∀ other ∈ rest, isExport other = false) :
    Exports (docs.map docLine ++ line :: rest) name := by
  -- a line of a comment begins with a slash, so it exports nothing
  have hDocs : ∀ doc ∈ docs.map docLine, isExport doc = false := by
    refine List.forall_mem_map.mpr fun text _ => ?_
    have hHead : (docLine text).toList.head? = some '/' := by
      rw [docLine, String.toList_append, String.toList_append]
      rfl
    exact isExport_eq_false hHead (by decide)
  have hNone : ∀ {others : List String}, (∀ other ∈ others, isExport other = false) →
      others.filter isExport = [] := fun hOthers =>
    List.filter_eq_nil_iff.mpr fun other hOther => Bool.eq_false_iff.mp (hOthers other hOther)
  refine ⟨line, ?_, hName⟩
  rw [List.filter_append, hNone hDocs, List.filter_cons_of_pos hExport, hNone hRest, List.nil_append]

/-- Without comments before it, the first line is the one that exports. -/
theorem exports_line (hExport : isExport line = true) (hName : declaredIn line = some [name])
    (hRest : ∀ other ∈ rest, isExport other = false) : Exports (line :: rest) name :=
  @exports_append name line [] rest hExport hName hRest

theorem isExport_interface (name behind : String) :
    isExport ("export interface " ++ name ++ behind) = true :=
  isExport_append (isExport_append rfl name) behind

theorem isExport_type (name behind : String) : isExport ("export type " ++ name ++ behind) = true :=
  isExport_append (isExport_append rfl name) behind

theorem declaredIn_interface (hName : isIdentifier name = true) {behind : String}
    (hBehind : Stops isIdentPart behind.toList) :
    declaredIn ("export interface " ++ name ++ behind) = some [name] :=
  (Declares.export_interface hName hBehind).names

theorem declaredIn_type (hName : isIdentifier name = true) {behind : String}
    (hBehind : Stops isIdentPart behind.toList) :
    declaredIn ("export type " ++ name ++ behind) = some [name] :=
  (Declares.export_type hName hBehind).names

/-- A type on one line is its name and what is behind it. -/
theorem exportType_eq (name type : String) :
    exportType name type = "export type " ++ name ++ (" = " ++ type ++ ";") := by
  unfold exportType
  simp only [String.append_assoc]

/-- A type on one line, behind comments. -/
theorem exports_exportType (hName : isIdentifier name = true) (type : String) :
    Exports (docs.map docLine ++ [exportType name type]) name := by
  have hStops : Stops isIdentPart (" = " ++ type ++ ";").toList := by
    rw [String.toList_append, String.toList_append, List.append_assoc]
    exact stops_text rfl rfl _
  rw [exportType_eq]
  exact exports_append (isExport_type _ _) (declaredIn_type hName hStops)
    fun other hOther => absurd hOther List.not_mem_nil

end Exports

section Rows

variable {arms : List Arm}

/-- The lines of arms export nothing: they begin with a blank. -/
theorem not_export_rows : ∀ row ∈ armRows arms, isExport row = false := by
  -- a row begins with blanks, so it exports nothing
  have hRow : ∀ text : String, isExport ("  | " ++ text) = false := by
    intro text
    have hHead : ("  | " ++ text).toList.head? = some ' ' := by
      rw [String.toList_append]
      rfl
    exact isExport_eq_false hHead (by decide)
  induction arms with
  | nil => exact fun row hMem => absurd hMem List.not_mem_nil
  | cons arm arms ih =>
    cases arms with
    | nil =>
      rw [armRows, String.append_assoc]
      exact List.forall_mem_singleton.mpr (hRow _)
    | cons other arms =>
      rw [armRows]
      · exact List.forall_mem_cons.mpr ⟨hRow _, ih⟩
      · simp

/-- Nor do the lines of members and the brace behind them. -/
theorem not_export_members (members : List Member) :
    ∀ line ∈ members.map ("  " ++ ·.text ++ ";") ++ ["\x7d"], isExport line = false := by
  refine List.forall_mem_append.mpr ⟨List.forall_mem_map.mpr fun member _ => ?_, ?_⟩
  · have hHead : ("  " ++ member.text ++ ";").toList.head? = some ' ' := by
      rw [String.toList_append, String.toList_append]
      rfl
    exact isExport_eq_false hHead (by decide)
  · have hHead : "\x7d".toList.head? = some '}' := rfl
    exact List.forall_mem_singleton.mpr (isExport_eq_false hHead (by decide))

end Rows

namespace Declaration

variable {declaration : Declaration}

/-- **Exports.** A declaration exports its name, in one of its lines. -/
theorem Readable.exports (h : declaration.Readable) : Exports declaration.lines declaration.name := by
  cases declaration with
  -- with or without members, the first line declares the interface
  | interface name members =>
    cases members with
    | nil =>
      exact exports_line (isExport_interface _ _) (declaredIn_interface h.1 (stops_fixed rfl rfl))
        fun other hOther => absurd hOther List.not_mem_nil
    | cons member members =>
      exact exports_line (isExport_interface _ _) (declaredIn_interface h.1 (stops_fixed rfl rfl))
        (not_export_members (member :: members))
  | union name arms =>
    cases arms with
    -- without arms, or with a label for each code, there is one line
    | nil => exact @exports_exportType name [] h.1 "never"
    | cons arm arms =>
      exact exports_line (isExport_type _ _) (declaredIn_type h.1 (stops_fixed rfl rfl)) not_export_rows
  | literals name labels => exact @exports_exportType name [] h.1 _
  | synonym doc name type => exact exports_exportType h.1 type.text

/-- **Blocks.** The lines of a declaration are read as the block that it is written for. -/
theorem Readable.readBlock (h : declaration.Readable) :
    readBlock declaration.lines = some declaration.block := by
  cases declaration with
  | interface name members =>
    cases members with
    | nil => exact readBlock_head (isExport_interface _ _) (readHead_interface h.1).2
    | cons member members =>
      -- the other lines are those of the members
      have hMembers := readMembers_lines h.2
      refine (readBlock_head (isExport_interface _ _) (readHead_interface h.1).1).trans ?_
      rw [Head.complete, hMembers]
      rfl
  | union name arms =>
    cases arms with
    | nil =>
      -- a union without arms is one word on the first line
      have hNever : Spells "never" (.word "never") := spells_word (by decide) (List.all_eq_true.mp rfl)
      have hHead := readHead_exportType h.1 (by simp) (.cons hNever .nil)
      rw [String.intercalate_singleton] at hHead
      refine readBlock_head ?_ hHead
      rw [exportType_eq]
      exact isExport_type _ _
    | cons arm arms =>
      -- the other lines are those of the arms
      have hArms := readArms_rows (by simp) h.2
      refine (readBlock_head (isExport_type _ _) (readHead_union h.1)).trans ?_
      rw [Head.complete, hArms]
      rfl
  -- all labels stand on the first line
  | literals name labels =>
    have hLabels : List.Forall₂ Spells (labels.map stringLiteral) (labels.map .literal) := by
      rw [List.forall₂_map_left_iff, List.forall₂_map_right_iff, List.forall₂_same]
      exact fun label _ => spells_literal label
    have hHead := readHead_exportType h.1 (by simp [h.2]) hLabels
    refine readBlock_head ?_ hHead
    rw [exportType_eq]
    exact isExport_type _ _
  -- the comments are skipped, and the line behind them is the declaration
  | synonym doc name type =>
    have hHead := readHead_exportType h.1 (by simp) (.cons h.2.1.spells .nil)
    rw [String.intercalate_singleton] at hHead
    refine (readBlock_docs doc _).trans (readBlock_head ?_ hHead)
    rw [exportType_eq]
    exact isExport_type _ _

/-- A type on one line is a line: neither name nor type breaks it. -/
theorem unbroken_exportType {name type : String} (hName : isIdentifier name = true) (hType : Verbatim type) :
    Unbroken (exportType name type) := by
  have hOpen : CodeLine "export type " := codeLine_literal (by decide) rfl
  have hLine := (hOpen.append (verbatim_of_isIdentifier hName)).append
    (((verbatim_literal rfl : Verbatim " = ").append hType).append (verbatim_literal rfl : Verbatim ";"))
  rw [exportType_eq]
  exact hLine.unbroken

/-- **Lines.** A declaration is laid out on its lines, and none of them is empty. -/
theorem Readable.laid (h : declaration.Readable) : Laid 0 declaration.steps declaration.lines := by
  cases declaration with
  | interface name members =>
    have hOpen : CodeLine "export interface " := codeLine_literal (by decide) rfl
    have hHeader := hOpen.append (verbatim_of_isIdentifier h.1)
    cases members with
    | nil => exact laid_top (hHeader.append (verbatim_literal rfl)).unbroken
    | cons member members =>
      -- the members are laid out one level deeper
      have hMembers := laid_members fun other hOther => Member.verbatim (h.2 other hOther)
      exact Laid.block hHeader.verbatim hMembers
  | union name arms =>
    cases arms with
    | nil => exact laid_top (unbroken_exportType h.1 (verbatim_literal rfl))
    | cons arm arms =>
      have hOpen : CodeLine "export type " := codeLine_literal (by decide) rfl
      have hHeader := (hOpen.append (verbatim_of_isIdentifier h.1)).append (verbatim_literal rfl : Verbatim " =")
      have hArms := laid_arms fun other hOther => Arm.verbatim (h.2 other hOther)
      exact (laid_top hHeader.unbroken).cons hArms.nested
  | literals name labels =>
    have hLabels : Verbatim (" | ".intercalate (labels.map stringLiteral)) :=
      verbatim_intercalate (verbatim_literal rfl) (List.forall_mem_map.mpr fun label _ =>
        verbatim_stringLiteral label)
    exact laid_top (unbroken_exportType h.1 hLabels)
  | synonym doc name type =>
    obtain ⟨hName, hType, hLength, hDoc⟩ := h
    have hLine := laid_top (unbroken_exportType hName hType.verbatim)
    -- there is at most one line of comment
    match doc, hLength, hDoc with
    | [], _, _ => exact Laid.cons ⟨lays_doc_nil, List.not_mem_nil⟩ hLine
    | [text], _, hDoc => exact (laid_doc (hDoc text (List.mem_singleton_self text))).cons hLine

end Declaration

end AbiBindings.TypeScript
