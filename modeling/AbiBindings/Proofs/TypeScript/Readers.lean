import AbiBindings.Proofs.TypeScript.LexedText
import AbiBindings.TypeScript.Client
import Mathlib.Data.List.Basic

/-!
# TypeScript — reading names back

What has been written is read back here from the text alone. A `Reader` takes something from the
front of a text and leaves the rest; it knows the rules of TypeScript for identifiers, for string
literals with their escapes, for keys of members and for access to properties, and nothing of how the
text came about.

* `readLiteral_append` — a literal is read as the text that it stands for;
* `readKey_append` — a key, bare or quoted, is read as the name of the property;
* `readArgument_append` — an expression is read as the parameter or the property that it denotes;
* `readList_append`, `readListBefore_append` — items with a separator between them.

A word can be told from what is behind it only if that does not go on like a word, so the lemmas say
what the rest begins with: `Stops`.
-/

namespace AbiBindings.TypeScript

/-! ## Readers -/

/-- Takes something from the front of a text and leaves the rest. -/
abbrev Reader := StateT (List Char) Option

section Readers

variable {α β : Type} {text rest : List Char}

/-- A reader that has taken something leaves the rest to the next one. -/
theorem Reader.bind_eq {reader : Reader α} {next : α → Reader β} {a : α}
    (h : reader text = some (a, rest)) : (reader >>= next) text = next a rest := by
  show StateT.bind reader next text = next a rest
  rw [StateT.bind, h]
  rfl

/-- Take a fixed text. -/
def expect (fixed : String) : Reader Unit := fun text =>
  (text.dropPrefix? fixed.toList).map fun rest => ((), rest)

/-- Take a fixed text if it is there. -/
def accept (fixed : String) : Reader Bool := fun text =>
  match text.dropPrefix? fixed.toList with
  | some rest => some (true, rest)
  | none => some (false, text)

theorem dropPrefix?_append (fixed : String) (rest : List Char) :
    (fixed.toList ++ rest).dropPrefix? fixed.toList = some rest :=
  List.dropPrefix?_append_of_beq rest (beq_iff_eq.mpr rfl)

/-- A fixed text is not there where the text does not begin with it. -/
theorem dropPrefix?_eq_none {fixed : String} (h : ¬ fixed.toList <+: text) :
    text.dropPrefix? fixed.toList = none := by
  rw [Option.eq_none_iff_forall_ne_some]
  intro rest hRest
  obtain ⟨front, rfl, hFront⟩ := List.dropPrefix?_eq_some_iff.mp hRest
  obtain rfl := beq_iff_eq.mp hFront
  exact h (List.prefix_append _ _)

theorem expect_append (fixed : String) (rest : List Char) :
    expect fixed (fixed.toList ++ rest) = some ((), rest) := by
  rw [expect, dropPrefix?_append]
  rfl

/-- What is accepted in front is taken away too, which is noted. -/
theorem accept_append (fixed : String) (rest : List Char) :
    accept fixed (fixed.toList ++ rest) = some (true, rest) := by
  rw [accept, dropPrefix?_append]

theorem accept_eq_false {fixed : String} (h : ¬ fixed.toList <+: text) :
    accept fixed text = some (false, text) := by
  rw [accept, dropPrefix?_eq_none h]

/-- Read a whole text. -/
def readWhole (reader : Reader α) (text : String) : Option α :=
  match reader text.toList with
  | some (a, []) => some a
  | _ => none

/-- A text of which nothing is left has been read as a whole. -/
theorem readWhole_eq {reader : Reader α} {text : String} {a : α}
    (h : reader text.toList = some (a, [])) : readWhole reader text = some a := by
  rw [readWhole, h]

end Readers

/-! ## Words -/

section Words

variable {holds : Char → Bool} {rest : List Char}

/-- The text does not go on with a character of a word. -/
def Stops (holds : Char → Bool) (rest : List Char) : Prop := ∀ c ∈ rest.head?, holds c = false

/-- What follows a fixed text does not change how it begins. -/
theorem head?_text {fixed : String} {first : Char} {others : List Char}
    (hFixed : fixed.toList = first :: others) (rest : List Char) :
    (fixed.toList ++ rest).head? = some first := by
  rw [hFixed]
  rfl

/-- A fixed text that begins with another character. -/
theorem stops_text {fixed : String} {first : Char} {others : List Char}
    (hFixed : fixed.toList = first :: others) (h : holds first = false) (rest : List Char) :
    Stops holds (fixed.toList ++ rest) := by
  intro c hc
  rw [head?_text hFixed] at hc
  obtain rfl := Option.some.inj hc
  exact h

/-- The same for a fixed text at the end. -/
theorem stops_fixed {fixed : String} {first : Char} {others : List Char}
    (hFixed : fixed.toList = first :: others) (h : holds first = false) : Stops holds fixed.toList := by
  have hText := stops_text hFixed h []
  rw [List.append_nil] at hText
  exact hText

/-- What begins with such a character is not there. -/
theorem not_prefix_of_stops {fixed : String} {first : Char} {others : List Char}
    (hFixed : fixed.toList = first :: others) (h : holds first = true) (hRest : Stops holds rest) :
    ¬ fixed.toList <+: rest := by
  intro hPrefix
  obtain ⟨behind, rfl⟩ := hPrefix
  rw [hFixed] at hRest
  exact absurd h (Bool.eq_false_iff.mp (hRest first rfl))

/-- Take characters as long as they are those of a word. -/
def takeWord (holds : Char → Bool) : Reader String := fun text =>
  some (String.ofList (text.takeWhile holds), text.dropWhile holds)

/-- A word is taken up to where the text stops. -/
theorem takeWord_append {word : String} (hWord : ∀ c ∈ word.toList, holds c = true)
    (hRest : Stops holds rest) : takeWord holds (word.toList ++ rest) = some (word, rest) := by
  -- nothing of the rest belongs to the word
  have hNothing : rest.takeWhile holds = [] ∧ rest.dropWhile holds = rest := by
    cases rest with
    | nil => exact ⟨rfl, rfl⟩
    | cons c rest =>
      have hFirst : holds c = false := hRest c rfl
      exact ⟨List.takeWhile_cons_of_neg (by simp [hFirst]),
        List.dropWhile_cons_of_neg (by simp [hFirst])⟩
  rw [takeWord, List.takeWhile_append_of_pos hWord, List.dropWhile_append_of_pos hWord, hNothing.1,
    hNothing.2, List.append_nil, String.ofList_toList]

/-- Read an identifier. -/
def readIdentifier : Reader String := do
  let name ← takeWord isIdentPart
  if isIdentifier name then return name else failure

/-- An identifier is read where no word goes on behind it. -/
theorem readIdentifier_append {name : String} (hName : isIdentifier name = true)
    (hRest : Stops isIdentPart rest) :
    readIdentifier (name.toList ++ rest) = some (name, rest) := by
  rw [readIdentifier, Reader.bind_eq (takeWord_append (isIdentPart_of_isIdentifier hName) hRest),
    if_pos hName]
  rfl

end Words

/-! ## String literals -/

/-- The value of a hexadecimal digit. -/
def hexDigit? (c : Char) : Option Nat :=
  if '0' ≤ c ∧ c ≤ '9' then some (c.toNat - 48)
  else if 'a' ≤ c ∧ c ≤ 'f' then some (c.toNat - 87)
  else if 'A' ≤ c ∧ c ≤ 'F' then some (c.toNat - 55)
  else none

/-- The character with a number of four hexadecimal digits. Half of a pair is no character. -/
def unicodeEscape? (a b c d : Char) : Option Char := do
  let code := (← hexDigit? a) * 4096 + (← hexDigit? b) * 256 + (← hexDigit? c) * 16 + (← hexDigit? d)
  if code.isValidChar then some (Char.ofNat code) else none

/-- The character that a letter stands for behind a backslash. -/
def shortEscape? (c : Char) : Option Char :=
  match c with
  | '"' | '\\' | '/' | '\x27' => some c
  | 'b' => some '\x08'
  | 't' => some '\t'
  | 'n' => some '\n'
  | 'v' => some '\x0b'
  | 'f' => some '\x0c'
  | 'r' => some '\r'
  | _ => none

/-- The rest of a literal behind its first quote: what it stands for, and what is behind it. A literal
does not go over the end of a line. -/
def literalTail : List Char → Option (List Char × List Char)
  | [] => none
  | '"' :: rest => some ([], rest)
  -- a pair of escapes for one character is not put together; the writer makes none
  | '\\' :: 'u' :: a :: b :: c :: d :: rest => do
    let escaped ← unicodeEscape? a b c d
    let (value, rest) ← literalTail rest
    return (escaped :: value, rest)
  | '\\' :: c :: rest => do
    let escaped ← shortEscape? c
    let (value, rest) ← literalTail rest
    return (escaped :: value, rest)
  | c :: rest =>
    if c = '\\' ∨ c = '\n' ∨ c = '\r' then none
    else do
      let (value, rest) ← literalTail rest
      return (c :: value, rest)

/-- Read a string literal as the text that it stands for. -/
def readLiteral : Reader String := do
  expect "\""
  fun text => (literalTail text).map fun (value, rest) => (String.ofList value, rest)

/-- The digits that are written are read as the numbers that they stand for. -/
theorem hexDigit?_digitChar : ∀ n < 16, hexDigit? (Nat.digitChar n) = some n := by
  decide

/-- A control is written with two digits behind two zeros. -/
theorem unicodeEscape?_control {c : Char} (h : c.toNat < 0x20) :
    unicodeEscape? '0' '0' (Nat.digitChar (c.toNat / 16)) (Nat.digitChar (c.toNat % 16)) = some c := by
  have hZero : hexDigit? '0' = some 0 := by decide
  have hHigh := hexDigit?_digitChar (c.toNat / 16) (by omega)
  have hLow := hexDigit?_digitChar (c.toNat % 16) (Nat.mod_lt _ (by decide))
  have hCode : 0 * 4096 + 0 * 256 + c.toNat / 16 * 16 + c.toNat % 16 = c.toNat := by omega
  have hValid : c.toNat.isValidChar := Or.inl (by omega)
  simp only [unicodeEscape?, hZero, hHigh, hLow, Option.bind_eq_bind, Option.bind_some, hCode,
    if_pos hValid, Char.ofNat_toNat]

/-- What a character is written as is read as the character. -/
theorem literalTail_literalChar (c : Char) (more : List Char) :
    literalTail (Json.literalChar c ++ more)
      = (literalTail more).map fun (value, rest) => (c :: value, rest) := by
  have hBind : ∀ result : Option (List Char × List Char),
      (do let (value, rest) ← result; return (c :: value, rest))
        = result.map fun (value, rest) => (c :: value, rest) := by
    intro result
    cases result <;> rfl
  unfold Json.literalChar
  split
  -- the first seven cases are the short escapes
  case h_8 hQuote hBackslash _ _ hNewline _ hReturn =>
    split
    next hControl =>
      have hEscape := unicodeEscape?_control hControl
      simp only [List.cons_append, List.nil_append, literalTail, hEscape]
      exact hBind (literalTail more)
    next =>
      have hPlain : ¬ (c = '\\' ∨ c = '\n' ∨ c = '\r') :=
        not_or.mpr ⟨hBackslash, not_or.mpr ⟨hNewline, hReturn⟩⟩
      rw [List.cons_append, List.nil_append, literalTail, if_neg hPlain]
      · exact hBind (literalTail more)
      all_goals simp_all
  all_goals exact hBind (literalTail more)

/-- Characters that are written one by one are read one by one, up to the quote. -/
theorem literalTail_append (text rest : List Char) :
    literalTail (text.flatMap Json.literalChar ++ '"' :: rest) = some (text, rest) := by
  induction text with
  | nil => rfl
  | cons c text ih =>
    rw [List.flatMap_cons, List.append_assoc, literalTail_literalChar, ih]
    rfl

/-- **Literals.** A literal is read as the text that it stands for, whatever is behind it. -/
theorem readLiteral_append (value : String) (rest : List Char) :
    readLiteral ((stringLiteral value).toList ++ rest) = some (value, rest) := by
  have hText : (stringLiteral value).toList ++ rest
      = "\"".toList ++ (value.toList.flatMap Json.literalChar ++ '"' :: rest) := by
    rw [stringLiteral, Json.literal, String.toList_ofList, List.append_assoc]
    rfl
  rw [hText, readLiteral, Reader.bind_eq (expect_append _ _), literalTail_append]
  simp only [Option.map_some, String.ofList_toList]

/-! ## Keys and access -/

/-- Read the key of a member as the name of a property. -/
def readKey : Reader String := fun text =>
  if text.head? = some '"' then readLiteral text else readIdentifier text

/-- An identifier begins with a letter, an underscore or a dollar sign. -/
theorem head?_of_isIdentifier {name : String} (h : isIdentifier name = true) (rest : List Char) :
    ∃ c, (name.toList ++ rest).head? = some c ∧ isIdentStart c = true := by
  unfold isIdentifier at h
  split at h
  next => simp at h
  next first others hName =>
    rw [Bool.and_eq_true] at h
    exact ⟨first, by rw [hName]; rfl, h.1⟩

/-- **Keys.** Bare or quoted, the key of a member is read as the name that it was written for. -/
theorem readKey_append (name : String) {rest : List Char} (hRest : Stops isIdentPart rest) :
    readKey ((propertyKey name).toList ++ rest) = some (name, rest) := by
  rw [propertyKey]
  split
  next hName =>
    -- no identifier begins with a quote
    obtain ⟨first, hHead, hStart⟩ := head?_of_isIdentifier hName rest
    have hQuote : (name.toList ++ rest).head? ≠ some '"' := by
      intro hEq
      rw [hHead] at hEq
      obtain rfl := Option.some.inj hEq
      exact absurd hStart (by decide)
    rw [readKey, if_neg hQuote]
    exact readIdentifier_append hName hRest
  next =>
    have hQuote : ((stringLiteral name).toList ++ rest).head? = some '"' := by
      rw [stringLiteral, Json.literal, String.toList_ofList]
      rfl
    rw [readKey, if_pos hQuote]
    exact readLiteral_append name rest

/-- What follows the name of a parameter: access to a property, or nothing. -/
def readSelector (target : String) : Reader Argument := do
  if ← accept "." then return .property target (← readIdentifier)
  else if ← accept "[" then
    let name ← readLiteral
    expect "]"
    return .property target name
  else return .parameter target

/-- Read an expression that denotes a parameter, or a property of one. -/
def readArgument : Reader Argument := do readSelector (← readIdentifier)

/-- The name with which an expression begins is an identifier. -/
def Argument.Named : Argument → Prop
  | .parameter name => isIdentifier name = true
  | .property target _ => isIdentifier target = true

/-- The text does not go on like an expression. -/
def stopsArgument (c : Char) : Bool := isIdentPart c || c == '.' || c == '['

/-- What does not go on like an expression does not go on like a word. -/
theorem Stops.identifier {rest : List Char} (h : Stops stopsArgument rest) :
    Stops isIdentPart rest := by
  intro c hc
  have hStops := h c hc
  rw [stopsArgument, Bool.or_eq_false_iff, Bool.or_eq_false_iff] at hStops
  exact hStops.1.1

/-- Access to a property is its target and then a selector, which is read as the name of the property. -/
theorem exists_selector (target name : String) {rest : List Char} (hRest : Stops isIdentPart rest) :
    ∃ selector : String, propertyAccess target name = target ++ selector
      ∧ Stops isIdentPart (selector.toList ++ rest)
      ∧ readSelector target (selector.toList ++ rest) = some (.property target name, rest) := by
  rw [propertyAccess]
  -- the name of the property is bare or quoted
  split
  next hName =>
    refine ⟨"." ++ name, String.append_assoc, ?_⟩
    rw [String.toList_append, List.append_assoc]
    refine ⟨stops_text rfl rfl _, ?_⟩
    rw [readSelector, Reader.bind_eq (accept_append "." _), if_pos rfl,
      Reader.bind_eq (readIdentifier_append hName hRest)]
    rfl
  next =>
    refine ⟨"[" ++ stringLiteral name ++ "]", by simp only [String.append_assoc], ?_⟩
    simp only [String.toList_append, List.append_assoc]
    have hDot : ¬ ".".toList <+: "[".toList ++ ((stringLiteral name).toList ++ ("]".toList ++ rest)) :=
      @not_prefix_of_stops (· == '.') _ _ _ _ rfl rfl (stops_text rfl rfl _)
    refine ⟨stops_text rfl rfl _, ?_⟩
    rw [readSelector, Reader.bind_eq (accept_eq_false hDot), if_neg Bool.false_ne_true,
      Reader.bind_eq (accept_append "[" _), if_pos rfl, Reader.bind_eq (readLiteral_append name _),
      Reader.bind_eq (expect_append "]" rest)]
    rfl

/-- **Access.** An expression is read as the parameter or the property that it was written for. -/
theorem readArgument_append {argument : Argument} (hNamed : argument.Named) {rest : List Char}
    (hRest : Stops stopsArgument rest) :
    readArgument (argument.text.toList ++ rest) = some (argument, rest) := by
  cases argument with
  | parameter name =>
    -- neither a dot nor a bracket follows, so there is no property
    have hDot : ¬ ".".toList <+: rest := not_prefix_of_stops rfl rfl hRest
    have hBracket : ¬ "[".toList <+: rest := not_prefix_of_stops rfl rfl hRest
    rw [Argument.text, readArgument, Reader.bind_eq (readIdentifier_append hNamed hRest.identifier),
      readSelector, Reader.bind_eq (accept_eq_false hDot), if_neg Bool.false_ne_true,
      Reader.bind_eq (accept_eq_false hBracket), if_neg Bool.false_ne_true]
    rfl
  | property target name =>
    obtain ⟨selector, hText, hStops, hRead⟩ := exists_selector target name hRest.identifier
    rw [Argument.text, hText, String.toList_append, List.append_assoc, readArgument,
      Reader.bind_eq (readIdentifier_append hNamed hStops)]
    exact hRead

/-! ## Lists -/

section Lists

variable {α : Type}

/-- Read at most as many items as given, with a separator between them. -/
def readItems (separator : String) (item : Reader α) : Nat → Reader (List α)
  | 0 => failure
  | most + 1 => do
    let first ← item
    if ← accept separator then return first :: (← readItems separator item most) else return [first]

/-- Read items with a separator between them. Each separator takes a character of the text, so there
are no more items than the text has characters, or one. -/
def readList (separator : String) (item : Reader α) : Reader (List α) := fun text =>
  readItems separator item (text.length + 1) text

/-- Read items up to a closing text, behind which there may be none. -/
def readListBefore (closing separator : String) (item : Reader α) : Reader (List α) := fun text =>
  if closing.toList.isPrefixOf text then some ([], text) else readList separator item text

/-- A text is read as an item wherever what is behind it `fits`. -/
def ReadAs (item : Reader α) (fits : List Char → Prop) (text : String) (a : α) : Prop :=
  ∀ rest, fits rest → item (text.toList ++ rest) = some (a, rest)

variable {separator : String} {item : Reader α} {fits : List Char → Prop} {texts : List String}
  {items : List α} {rest : List Char}

/-- Items are read as long as there is a separator behind them, if so many may be read. -/
theorem readItems_append {most : Nat} (hItems : List.Forall₂ (ReadAs item fits) texts items)
    (hSome : texts ≠ []) (hBetween : ∀ more, fits (separator.toList ++ more)) (hRest : fits rest)
    (hEnd : ¬ separator.toList <+: rest) (hMost : texts.length ≤ most) :
    readItems separator item most ((separator.intercalate texts).toList ++ rest)
      = some (items, rest) := by
  -- on the items; the number that may still be read goes down with each
  induction hItems generalizing most with
  | nil => exact absurd rfl hSome
  | @cons text a texts items hFirst hOthers ih =>
    -- the first item takes one of those that may be read
    obtain ⟨most, rfl⟩ : ∃ less, most = less + 1 := ⟨most - 1, by simp at hMost; omega⟩
    -- no separator is behind the last item; behind any other there is one
    cases hOthers with
    | nil =>
      rw [String.intercalate_singleton, readItems, Reader.bind_eq (hFirst rest hRest),
        Reader.bind_eq (accept_eq_false hEnd), if_neg Bool.false_ne_true]
      rfl
    | cons hSecond hOthers =>
      have hMore := @ih most (by simp) (by simpa using hMost)
      rw [String.intercalate_cons_cons, String.toList_append, String.toList_append, List.append_assoc,
        List.append_assoc, readItems, Reader.bind_eq (hFirst _ (hBetween _)),
        Reader.bind_eq (accept_append separator _), if_pos rfl, Reader.bind_eq hMore]
      rfl

/-- There is a separator before every text but the first. -/
theorem length_le_length_intercalate (hSeparator : 0 < separator.length) (texts : List String) :
    texts.length ≤ (separator.intercalate texts).length + 1 := by
  induction texts with
  | nil => simp
  | cons text texts ih =>
    cases texts with
    | nil => simp
    | cons other texts =>
      rw [String.intercalate_cons_cons, String.length_append, String.length_append]
      simp only [List.length_cons] at ih ⊢
      omega

/-- **Lists.** Items with a separator between them are read one after the other. -/
theorem readList_append (hItems : List.Forall₂ (ReadAs item fits) texts items) (hSome : texts ≠ [])
    (hSeparator : 0 < separator.length) (hBetween : ∀ more, fits (separator.toList ++ more))
    (hRest : fits rest) (hEnd : ¬ separator.toList <+: rest) :
    readList separator item ((separator.intercalate texts).toList ++ rest) = some (items, rest) := by
  have hMost : texts.length ≤ ((separator.intercalate texts).toList ++ rest).length + 1 := by
    have hLength := length_le_length_intercalate hSeparator texts
    rw [List.length_append, String.length_toList]
    omega
  exact readItems_append hItems hSome hBetween hRest hEnd hMost

/-- Up to a closing text there may be no items at all, but none of them begins like it. -/
theorem readListBefore_append {closing : String}
    (hItems : List.Forall₂ (ReadAs item fits) texts items)
    (hSeparator : 0 < separator.length) (hBetween : ∀ more, fits (separator.toList ++ more))
    (hRest : fits (closing.toList ++ rest)) (hEnd : ¬ separator.toList <+: closing.toList ++ rest)
    (hOpen : ∀ text ∈ texts, ∀ more, ¬ closing.toList <+: text.toList ++ more) :
    readListBefore closing separator item
        ((separator.intercalate texts).toList ++ (closing.toList ++ rest))
      = some (items, closing.toList ++ rest) := by
  cases hItems with
  | nil =>
    have hPrefix : closing.toList.isPrefixOf (closing.toList ++ rest) = true :=
      List.isPrefixOf_iff_prefix.mpr (List.prefix_append _ _)
    rw [String.intercalate_nil, readListBefore]
    exact if_pos hPrefix
  | @cons text a texts items hFirst hOthers =>
    -- the text begins with the first item, and so not with what closes the list
    have hFront : ∃ more, (separator.intercalate (text :: texts)).toList ++ (closing.toList ++ rest)
        = text.toList ++ more := by
      cases texts with
      | nil => exact ⟨_, by rw [String.intercalate_singleton]⟩
      | cons other texts =>
        rw [String.intercalate_cons_cons, String.toList_append, String.toList_append]
        exact ⟨_, by rw [List.append_assoc, List.append_assoc]⟩
    obtain ⟨more, hMore⟩ := hFront
    have hPrefix : ¬ closing.toList.isPrefixOf (text.toList ++ more) = true := by
      rw [List.isPrefixOf_iff_prefix]
      exact hOpen text List.mem_cons_self more
    rw [readListBefore, hMore, if_neg hPrefix, ← hMore]
    exact readList_append (.cons hFirst hOthers) (by simp) hSeparator hBetween hRest hEnd

end Lists

end AbiBindings.TypeScript
