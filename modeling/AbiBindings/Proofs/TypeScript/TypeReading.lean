import AbiBindings.Proofs.Success
import AbiBindings.Proofs.TypeScript.Readers

/-!
# TypeScript — reading types back

A written type is read back as a `Shape`: the words and literals in it, and how they are put together.
A shape does not say what a word means, since a declaration may have the name of a built-in type.

* `readType` — types as TypeScript groups them: `[]` belongs to what is before it, `| null` to the
  whole member or parameter;
* `TypeExpr.shape` — the shape that a type is written for;
* `Spells` — a text that is read as a shape, whatever is behind it; a lemma for each kind of type;
* `TypeExpr.Worded.spells` — a written type is read as its shape.
-/

namespace AbiBindings.TypeScript

/-! ## Shapes -/

mutual

/-- What a type looks like. -/
inductive Shape where
  | word (text : String)
  | literal (value : String)
  | array (items : Shape)
  | dictionary (key value : Shape)
  | object (members : List Slot)

/-- A named place for values: a member of an object type, or a parameter. -/
structure Slot where
  name : String
  shape : Shape
  nullable : Bool

end

mutual

/-- The shape that a type is written for. -/
def TypeExpr.shape : TypeExpr → Shape
  | .builtin type => .word type.text
  | .reference ref => .word ref.text
  | .array items => .array items.shape
  | .dictionary key value => .dictionary key.shape value.shape
  | .object members => .object (memberSlots members)

/-- The slot that a member is written for. -/
def Member.slot : Member → Slot
  | ⟨key, type, nullable⟩ => ⟨key, type.shape, nullable⟩

/-- The slot of each of several members. -/
def memberSlots : List Member → List Slot
  | [] => []
  | member :: rest => member.slot :: memberSlots rest

end

/-! ## Reading -/

/-- Characters of words in types: those of identifiers, and the dot behind a namespace. -/
def isTypeChar (c : Char) : Bool := isIdentPart c || c == '.'

/-- Brackets behind a type make arrays of it. -/
def closeArrays (shape : Shape) : Reader Shape
  | '[' :: ']' :: rest => closeArrays (.array shape) rest
  | rest => some (shape, rest)

/-- A type, and whether `null` stands beside it. -/
structure Annotated where
  shape : Shape
  nullable : Bool

/-- Read a type and the `null` beside it, if there is one. -/
def readAnnotated (type : Reader Shape) : Reader Annotated := do
  let shape ← type
  let nullable ← accept " | null"
  return ⟨shape, nullable⟩

/-- Read a named place: its name and what it may hold. -/
def readSlot (name : Reader String) (type : Reader Shape) : Reader Slot := do
  let name ← name
  expect ": "
  let annotated ← readAnnotated type
  return ⟨name, annotated.shape, annotated.nullable⟩

/-- Read an object type. -/
def readObject (type : Reader Shape) : Reader Shape := do
  if ← accept "\x7b\x7d" then return .object []
  else
    expect "\x7b "
    let members ← readList "; " (readSlot readKey type)
    expect " \x7d"
    return .object members

/-- Read a type that is not an array, with the reader for types inside of it. -/
def readPrimary (type : Reader Shape) : Reader Shape := fun text =>
  if text.head? = some '{' then readObject type text
  else if text.head? = some '"' then (do return .literal (← readLiteral) : Reader Shape) text
  else (do
    if ← accept "Record<" then
      let key ← type
      expect ", "
      let value ← type
      expect ">"
      return .dictionary key value
    else
      let word ← takeWord isTypeChar
      if word.isEmpty then failure else return .word word : Reader Shape) text

/-- Read a type in which types are nested at most as deep as given. -/
def readTypeWithin : Nat → Reader Shape
  | 0 => failure
  | depth + 1 => do closeArrays (← readPrimary (readTypeWithin depth))

/-- Read a type. It cannot be nested deeper than its text is long. -/
def readType : Reader Shape := fun text => readTypeWithin text.length text

/-! ## What is written is what is read -/

/-- The words in a type that are not built in. -/
def Reference.IsWord (ref : Reference) : Prop :=
  ref.text ≠ "" ∧ ∀ c ∈ ref.text.toList, isTypeChar c = true

mutual

/-- The references in a type. -/
def TypeExpr.references : TypeExpr → List Reference
  | .builtin _ => []
  | .reference ref => [ref]
  | .array items => items.references
  | .dictionary key value => key.references ++ value.references
  | .object members => memberReferences members

/-- The references in the type of a member. -/
def Member.references : Member → List Reference
  | ⟨_, type, _⟩ => type.references

/-- The references in the types of several members. -/
def memberReferences : List Member → List Reference
  | [] => []
  | member :: rest => member.references ++ memberReferences rest

end

/-- A type whose references are words. -/
def TypeExpr.Worded (expr : TypeExpr) : Prop := ∀ ref ∈ expr.references, ref.IsWord

/-- What is behind a type does not continue its last word. -/
def goesOn (c : Char) : Bool := isTypeChar c || c == '<'

/-- What is behind the type of a parameter or a member does not belong to it. -/
structure EndsType (rest : List Char) : Prop where
  stops : Stops (fun c => goesOn c || c == '[') rest
  notNull : ¬ " | null".toList <+: rest

section Ends

variable {rest : List Char}

/-- What stops one kind of characters stops any that are among them. -/
theorem Stops.mono {holds other : Char → Bool} (h : Stops holds rest)
    (hImp : ∀ c, other c = true → holds c = true) : Stops other rest := by
  intro c hc
  rw [Bool.eq_false_iff]
  intro hOther
  exact absurd (hImp c hOther) (Bool.eq_false_iff.mp (h c hc))

theorem EndsType.goesOn (h : EndsType rest) : Stops goesOn rest :=
  h.stops.mono fun c hc => by rw [hc, Bool.true_or]

/-- A fixed text behind a type. -/
theorem endsType_text {fixed : String} {first second : Char} {others : List Char}
    (hFixed : fixed.toList = first :: second :: others)
    (hFirst : (TypeScript.goesOn first || first == '[') = false) (hSecond : second ≠ '|')
    (rest : List Char) : EndsType (fixed.toList ++ rest) := by
  refine ⟨stops_text hFixed hFirst rest, fun hNull => ?_⟩
  have hText : " | null".toList = ' ' :: '|' :: " null".toList := rfl
  obtain ⟨behind, hBehind⟩ := hNull
  rw [hFixed, hText] at hBehind
  exact hSecond (List.cons.inj (List.cons.inj hBehind).2).1.symm

/-- Without a bracket behind it, a type is no array. -/
theorem closeArrays_eq {shape : Shape} (h : ∀ c ∈ rest.head?, c ≠ '[') :
    closeArrays shape rest = some (shape, rest) := by
  unfold closeArrays
  split
  next => exact absurd rfl (h '[' rfl)
  next => rfl

/-- What ends a type is no bracket. -/
theorem Stops.closeArrays_eq (h : Stops (fun c => goesOn c || c == '[') rest) (shape : Shape) :
    closeArrays shape rest = some (shape, rest) := by
  refine TypeScript.closeArrays_eq fun c hc hEq => ?_
  have hStops := h c hc
  subst hEq
  exact absurd hStops (by decide)

end Ends

/-! ### Words -/

section Words

variable {word : String} {rest : List Char}

theorem Stops.typeChar (h : Stops goesOn rest) : Stops isTypeChar rest :=
  h.mono fun c hc => by rw [goesOn, hc, Bool.true_or]

/-- A dictionary begins with a word, but that is followed by a bracket. -/
theorem not_dictionary_of_word (hWord : ∀ c ∈ word.toList, isTypeChar c = true)
    (hRest : Stops goesOn rest) : ¬ "Record<".toList <+: word.toList ++ rest := by
  intro hPrefix
  obtain ⟨behind, hBehind⟩ := hPrefix
  have hRecord : ∀ c ∈ "Record".toList, isTypeChar c = true := List.all_eq_true.mp rfl
  have hText : word.toList ++ rest = "Record".toList ++ ("<".toList ++ behind) := hBehind.symm
  -- the first word of the text is either of the two
  have hFirst := takeWord_append hWord hRest.typeChar
  have hSecond := @takeWord_append isTypeChar ("<".toList ++ behind) _ hRecord (stops_text rfl rfl _)
  rw [hText, hSecond] at hFirst
  obtain ⟨-, rfl⟩ := Prod.mk.inj (Option.some.inj hFirst)
  exact absurd (hRest '<' rfl) (by decide)

/-- A word is read as itself, where it is no dictionary. -/
theorem readPrimary_word (hSome : word ≠ "") (hWord : ∀ c ∈ word.toList, isTypeChar c = true)
    (hRest : Stops goesOn rest) (type : Reader Shape) :
    readPrimary type (word.toList ++ rest) = some (.word word, rest) := by
  -- a word begins neither with a brace nor with a quote
  have hHead : ∀ c, isTypeChar c = false → (word.toList ++ rest).head? ≠ some c := by
    intro c hc hEq
    cases hChars : word.toList with
    | nil => exact hSome (String.toList_eq_nil_iff.mp hChars)
    | cons first others =>
      rw [hChars] at hEq hWord
      obtain rfl := Option.some.inj hEq
      exact absurd (hWord first List.mem_cons_self) (Bool.eq_false_iff.mp hc)
  have hEmpty : ¬ word.isEmpty = true := fun h => hSome (String.isEmpty_iff.mp h)
  -- so only the last of the ways to read a type is left
  rw [readPrimary, if_neg (hHead '{' (by decide)), if_neg (hHead '"' (by decide)),
    Reader.bind_eq (accept_eq_false (not_dictionary_of_word hWord hRest)), if_neg Bool.false_ne_true,
    Reader.bind_eq (takeWord_append hWord hRest.typeChar), if_neg hEmpty]
  rfl

theorem builtin_word (type : Builtin) :
    type.text ≠ "" ∧ ∀ c ∈ type.text.toList, isTypeChar c = true := by
  cases type <;> exact ⟨by decide, List.all_eq_true.mp rfl⟩

end Words

/-! ### Members -/

/-- Beside `null` or alone, a type is read as it was written. -/
theorem readAnnotated_append {type : Reader Shape} {text : String} {shape : Shape} (nullable : Bool)
    (hType : ∀ more, Stops goesOn more → type (text.toList ++ more) = closeArrays shape more) :
    ReadAs (readAnnotated type) EndsType (orNull text nullable) ⟨shape, nullable⟩ := by
  intro rest hRest
  -- alone: what is behind the type is no mark for `null`
  cases nullable with
  | false =>
    have hShape : type (text.toList ++ rest) = some (shape, rest) := by
      rw [hType rest hRest.goesOn, hRest.stops.closeArrays_eq]
    rw [orNull, if_neg Bool.false_ne_true, readAnnotated, Reader.bind_eq hShape,
      Reader.bind_eq (accept_eq_false hRest.notNull)]
    rfl
  -- beside `null`: the blank before the bar ends the type
  | true =>
    have hShape : type (text.toList ++ (" | null".toList ++ rest)) = some (shape, " | null".toList ++ rest) := by
      rw [hType _ (stops_text rfl rfl _)]
      exact closeArrays_eq fun c hc hEq => absurd (Option.some.inj hc) (by rw [hEq]; decide)
    rw [orNull, if_pos rfl, String.toList_append, List.append_assoc, readAnnotated,
      Reader.bind_eq hShape, Reader.bind_eq (accept_append " | null" rest)]
    rfl

/-- A named place is read as it was written, if its name and its type are. -/
theorem readSlot_append {nameReader : Reader String} {type : Reader Shape} {nameText name text : String}
    {shape : Shape} (nullable : Bool)
    (hName : ∀ more, nameReader (nameText.toList ++ (": ".toList ++ more))
      = some (name, ": ".toList ++ more))
    (hType : ∀ more, Stops goesOn more → type (text.toList ++ more) = closeArrays shape more) :
    ReadAs (readSlot nameReader type) EndsType (nameText ++ ": " ++ orNull text nullable)
      ⟨name, shape, nullable⟩ := by
  intro rest hRest
  have hAnnotated := readAnnotated_append nullable hType rest hRest
  rw [String.toList_append, String.toList_append, List.append_assoc, List.append_assoc, readSlot,
    Reader.bind_eq (hName _), Reader.bind_eq (expect_append ": " _), Reader.bind_eq hAnnotated]
  rfl

/-- A part is no longer than the whole. -/
theorem length_le_of_mem_intercalate {separator text : String} {texts : List String}
    (h : text ∈ texts) : text.length ≤ (separator.intercalate texts).length := by
  induction texts with
  | nil => simp at h
  | cons first texts ih =>
    cases texts with
    | nil =>
      obtain rfl := List.mem_singleton.mp h
      exact Nat.le_of_eq (congrArg String.length String.intercalate_singleton.symm)
    | cons other texts =>
      rw [String.intercalate_cons_cons, String.length_append, String.length_append]
      -- it is the first part, or one behind the separator
      rcases List.mem_cons.mp h with rfl | h
      · omega
      · have := ih h
        omega

/-! ### Types -/

/-- An object type is read as its members are. -/
theorem readPrimary_object {type : Reader Shape} {texts : List String} {members : List Slot}
    (hMembers : List.Forall₂ (ReadAs (readSlot readKey type) EndsType) texts members)
    (rest : List Char) :
    readPrimary type ((objectText texts).toList ++ rest) = some (.object members, rest) := by
  rw [objectText]
  cases hMembers with
  | nil =>
    have hText : (if ([] : List String).isEmpty then "\x7b\x7d" else "\x7b " ++ "; ".intercalate []
        ++ " \x7d") = "\x7b\x7d" := rfl
    rw [hText, readPrimary, if_pos (head?_text rfl _), readObject,
      Reader.bind_eq (accept_append "\x7b\x7d" rest), if_pos rfl]
    rfl
  | @cons text member texts members hFirst hOthers =>
    have hClose : EndsType (" \x7d".toList ++ rest) := endsType_text rfl rfl (by decide) rest
    have hBetween : ∀ more, EndsType ("; ".toList ++ more) :=
      fun more => endsType_text rfl rfl (by decide) more
    have hEnd : ¬ "; ".toList <+: " \x7d".toList ++ rest :=
      @not_prefix_of_stops (· == ';') _ _ _ _ rfl rfl (stops_text rfl rfl rest)
    have hList := readList_append (.cons hFirst hOthers) (by simp) (by decide) hBetween hClose hEnd
    -- the blank behind the brace tells that there are members
    have hSome : ∀ more, ¬ "\x7b\x7d".toList <+: "\x7b ".toList ++ more := by
      intro more hPrefix
      obtain ⟨behind, hBehind⟩ := hPrefix
      exact absurd (List.cons.inj (List.cons.inj hBehind).2).1 (by decide)
    rw [if_neg (by simp)]
    simp only [String.toList_append, List.append_assoc]
    rw [readPrimary, if_pos (head?_text rfl _), readObject, Reader.bind_eq (accept_eq_false (hSome _)),
      if_neg Bool.false_ne_true, Reader.bind_eq (expect_append "\x7b " _), Reader.bind_eq hList,
      Reader.bind_eq (expect_append " \x7d" rest)]
    rfl

/-- A dictionary is read as its keys and its values are. -/
theorem readPrimary_dictionary {type : Reader Shape} {keyText valueText : String} {key value : Shape}
    {rest : List Char}
    (hKey : ∀ more, type (keyText.toList ++ (", ".toList ++ more)) = some (key, ", ".toList ++ more))
    (hValue : type (valueText.toList ++ (">".toList ++ rest)) = some (value, ">".toList ++ rest)) :
    readPrimary type (("Record<" ++ keyText ++ ", " ++ valueText ++ ">").toList ++ rest)
      = some (.dictionary key value, rest) := by
  -- a dictionary begins with a letter, so neither a brace nor a quote is there
  have hOpen : ∀ c more, c ≠ 'R' → ("Record<".toList ++ more).head? ≠ some c := by
    intro c more hc hEq
    rw [head?_text rfl] at hEq
    exact hc (Option.some.inj hEq).symm
  simp only [String.toList_append, List.append_assoc]
  rw [readPrimary, if_neg (hOpen '{' _ (by decide)), if_neg (hOpen '"' _ (by decide)),
    Reader.bind_eq (accept_append "Record<" _), if_pos rfl, Reader.bind_eq (hKey _),
    Reader.bind_eq (expect_append ", " _), Reader.bind_eq hValue, Reader.bind_eq (expect_append ">" rest)]
  rfl

/-! ### Spelling -/

/-- A text that is read as a shape by any reader that goes deep enough. Brackets behind it make arrays
of it. -/
structure Spells (text : String) (shape : Shape) : Prop where
  readWithin : ∀ {depth : Nat}, text.length ≤ depth → ∀ {rest : List Char}, Stops goesOn rest →
    readTypeWithin depth (text.toList ++ rest) = closeArrays shape rest

/-- A text that is read as a member by any reader that goes deep enough. -/
structure SpellsSlot (text : String) (slot : Slot) : Prop where
  readWithin : ∀ {depth : Nat}, text.length ≤ depth →
    ReadAs (readSlot readKey (readTypeWithin depth)) EndsType text slot

section Spelling

variable {text keyText valueText : String} {shape key value : Shape}

/-- A text that is not empty needs a reader that goes at least one step. -/
theorem exists_depth_eq {depth : Nat} (hSome : text ≠ "") (hDepth : text.length ≤ depth) :
    ∃ less, depth = less + 1 := by
  have hLength : text.length ≠ 0 := fun h => hSome (String.length_eq_zero_iff.mp h)
  exact ⟨depth - 1, by omega⟩

/-- A word is read as itself by any reader that goes one step. -/
theorem spells_word {word : String} (hSome : word ≠ "") (hWord : ∀ c ∈ word.toList, isTypeChar c = true) :
    Spells word (.word word) := by
  constructor
  intro depth hDepth rest hRest
  obtain ⟨less, rfl⟩ := exists_depth_eq hSome hDepth
  rw [readTypeWithin, Reader.bind_eq (readPrimary_word hSome hWord hRest _)]

/-- So is a literal, whatever it stands for. -/
theorem spells_literal (value : String) : Spells (stringLiteral value) (.literal value) := by
  constructor
  intro depth hDepth rest hRest
  have hHead : ((stringLiteral value).toList ++ rest).head? = some '"' := by
    rw [stringLiteral, Json.literal, String.toList_ofList]
    rfl
  -- otherwise nothing could be read back from it
  have hSome : stringLiteral value ≠ "" := by
    intro hEmpty
    have hRead := readLiteral_append value []
    rw [hEmpty] at hRead
    cases hRead
  obtain ⟨less, rfl⟩ := exists_depth_eq hSome hDepth
  have hPrimary : readPrimary (readTypeWithin less) ((stringLiteral value).toList ++ rest)
      = some (.literal value, rest) := by
    rw [readPrimary, hHead, if_neg (by decide), if_pos rfl, Reader.bind_eq (readLiteral_append value rest)]
    rfl
  rw [readTypeWithin, Reader.bind_eq hPrimary]

/-- Brackets are read with what is before them, so they take no depth of their own. -/
theorem Spells.array (h : Spells text shape) : Spells (text ++ "[]") (.array shape) := by
  constructor
  intro depth hDepth rest hRest
  rw [String.length_append] at hDepth
  rw [String.toList_append, List.append_assoc]
  exact h.readWithin (by omega) (stops_text rfl rfl rest)

/-- A dictionary is read one step deeper than its parts. -/
theorem Spells.dictionary (hKey : Spells keyText key) (hValue : Spells valueText value) :
    Spells ("Record<" ++ keyText ++ ", " ++ valueText ++ ">") (.dictionary key value) := by
  constructor
  intro depth hDepth rest hRest
  -- key and value are shorter than the whole, by the name of the dictionary at least
  have hFixed : "Record<".length = 7 := rfl
  simp only [String.length_append, hFixed] at hDepth
  obtain ⟨less, rfl⟩ : ∃ less, depth = less + 1 := ⟨depth - 1, by omega⟩
  have hKeyShape : ∀ more, readTypeWithin less (keyText.toList ++ (", ".toList ++ more))
      = some (key, ", ".toList ++ more) := by
    intro more
    have hEnds : EndsType (", ".toList ++ more) := endsType_text rfl rfl (by decide) more
    rw [hKey.readWithin (by omega) hEnds.goesOn, hEnds.stops.closeArrays_eq]
  have hValueShape : readTypeWithin less (valueText.toList ++ (">".toList ++ rest))
      = some (value, ">".toList ++ rest) := by
    rw [hValue.readWithin (by omega) (stops_text rfl rfl rest)]
    exact closeArrays_eq fun c hc hEq => absurd (Option.some.inj hc) (by rw [hEq]; decide)
  rw [readTypeWithin, Reader.bind_eq (readPrimary_dictionary hKeyShape hValueShape)]

/-- A member is read where its type is. -/
theorem Spells.slot (h : Spells text shape) (name : String) (nullable : Bool) :
    SpellsSlot (propertyKey name ++ ": " ++ orNull text nullable) ⟨name, shape, nullable⟩ := by
  constructor
  intro depth hDepth
  -- the type is a part of the text, so a reader that goes deep enough for that does for the type
  have hLength : text.length ≤ (orNull text nullable).length := by
    rw [orNull]
    split
    · rw [String.length_append]
      omega
    · exact Nat.le_refl _
  rw [String.length_append] at hDepth
  exact readSlot_append nullable (fun more => readKey_append name (stops_text rfl rfl more))
    fun more hMore => h.readWithin (by omega) hMore

/-- An object is read one step deeper than its members. -/
theorem spells_object {texts : List String} {slots : List Slot}
    (h : List.Forall₂ SpellsSlot texts slots) : Spells (objectText texts) (.object slots) := by
  constructor
  intro depth hDepth rest hRest
  have hSome : objectText texts ≠ "" := by
    rw [objectText]
    split <;> simp
  obtain ⟨less, rfl⟩ := exists_depth_eq hSome hDepth
  -- the braces make each member shorter than the whole
  have hTexts : ∀ text ∈ texts, text.length ≤ less := by
    intro text hText
    have hLength := @length_le_of_mem_intercalate "; " _ _ hText
    have hFixed : "\x7b ".length = 2 := rfl
    rw [objectText, if_neg (by simp [List.ne_nil_of_mem hText]), String.length_append,
      String.length_append, hFixed] at hDepth
    omega
  have hMembers : List.Forall₂ (ReadAs (readSlot readKey (readTypeWithin less)) EndsType) texts slots :=
    forall₂_imp_of_mem h fun text hText _ hSlot => hSlot.readWithin (hTexts text hText)
  rw [readTypeWithin, Reader.bind_eq (readPrimary_object hMembers rest)]

end Spelling

mutual

/-- **Types.** A written type is read as its shape. -/
theorem TypeExpr.Worded.spells : ∀ {expr : TypeExpr}, expr.Worded → Spells expr.text expr.shape
  | .builtin type, _ => by
    obtain ⟨hSome, hWord⟩ := builtin_word type
    rw [TypeExpr.text, TypeExpr.shape]
    exact spells_word hSome hWord
  | .reference ref, h => by
    obtain ⟨hSome, hWord⟩ := h ref (List.mem_singleton_self ref)
    rw [TypeExpr.text, TypeExpr.shape]
    exact spells_word hSome hWord
  | .array items, h => by
    have hItems : items.Worded := h
    rw [TypeExpr.text, TypeExpr.shape]
    exact hItems.spells.array
  | .dictionary key value, h => by
    obtain ⟨hKey, hValue⟩ : key.Worded ∧ value.Worded := List.forall_mem_append.mp h
    rw [TypeExpr.text, TypeExpr.shape]
    exact hKey.spells.dictionary hValue.spells
  | .object members, h => by
    rw [TypeExpr.text, TypeExpr.shape]
    exact spells_object (spells_members h)

theorem Member.spells : ∀ {member : Member}, (∀ ref ∈ member.references, ref.IsWord) →
    SpellsSlot member.text member.slot
  | ⟨key, type, nullable⟩, h => by
    have hType : type.Worded := h
    rw [Member.text, Member.slot]
    exact hType.spells.slot key nullable

theorem spells_members : ∀ {members : List Member}, (∀ ref ∈ memberReferences members, ref.IsWord) →
    List.Forall₂ SpellsSlot (memberTexts members) (memberSlots members)
  | [], _ => .nil
  | member :: members, h => by
    obtain ⟨hFirst, hOthers⟩ := List.forall_mem_append.mp h
    exact .cons (Member.spells hFirst) (spells_members hOthers)

end

/-- A text that spells a shape is read as it, unless brackets behind it make arrays of it. -/
theorem Spells.readType {text : String} {shape : Shape} (h : Spells text shape) {rest : List Char}
    (hRest : Stops goesOn rest) : readType (text.toList ++ rest) = closeArrays shape rest := by
  refine h.readWithin ?_ hRest
  rw [List.length_append, String.length_toList]
  omega

/-- Where neither the word nor brackets go on, it is read as just this shape. -/
theorem Spells.readAs {text : String} {shape : Shape} (h : Spells text shape) :
    ReadAs TypeScript.readType (Stops fun c => goesOn c || c == '[') text shape := by
  intro rest hRest
  rw [h.readType (hRest.mono fun c hc => by rw [hc, Bool.true_or]), hRest.closeArrays_eq]

end AbiBindings.TypeScript
