import AbiBindings.Proofs.TypeScript.Readers

/-!
# TypeScript — names that are quoted

A name that the other side of a call knows may be any text. It is written as a string literal unless it is
an identifier, and what a literal is written with does not depend on what it stands for: whatever could end
it early has a backslash in front of it, and what is below a blank is spelled with characters that are not.

* `Plain`, `LiteralBody` — what may stand between the quotes of a literal;
* `escapes` — whether the next character is escaped; `LiteralBody.escapes_eq_false_iff` — the one quote that
  is not;
* `OneLiteral`, `oneLiteral_stringLiteral` — a text that is one literal;
* `readAccess_append`, `propertyKey_inj` — the property that is accessed, and the names of keys;
* `stringLiteral_quotes` — literals, keys and access, for every name.
-/

namespace AbiBindings.TypeScript

/-! ## Between the quotes -/

/-- A character that stands in a literal as it is. -/
def Plain (c : Char) : Prop := c ≠ '"' ∧ c ≠ '\\' ∧ 0x20 ≤ c.toNat

/-- What stands between the quotes of a literal: plain characters, and backslashes each of which escapes the
character behind it. -/
inductive LiteralBody : List Char → Prop where
  | nil : LiteralBody []
  | plain {c : Char} {rest : List Char} : Plain c → LiteralBody rest → LiteralBody (c :: rest)
  | escape {c : Char} {rest : List Char} : 0x20 ≤ c.toNat → LiteralBody rest → LiteralBody ('\\' :: c :: rest)

theorem LiteralBody.append {text rest : List Char} (hText : LiteralBody text) (hRest : LiteralBody rest) :
    LiteralBody (text ++ rest) := by
  induction hText with
  | nil => exact hRest
  | plain hPlain _ ih => exact .plain hPlain ih
  | escape hVisible _ ih => exact .escape hVisible ih

/-- Plain characters need no backslash. -/
theorem literalBody_of_plain {text : List Char} (h : ∀ c ∈ text, Plain c) : LiteralBody text := by
  induction text with
  | nil => exact .nil
  | cons c rest ih =>
    obtain ⟨hFirst, hRest⟩ := List.forall_mem_cons.mp h
    exact .plain hFirst (ih hRest)

/-! ### How characters are written -/

/-- A plain character is written as it is. -/
theorem literalChar_of_plain {c : Char} (h : Plain c) : Json.literalChar c = [c] := by
  obtain ⟨hQuote, hBackslash, hVisible⟩ := h
  unfold Json.literalChar
  split
  case h_1 => exact absurd rfl hQuote
  case h_2 => exact absurd rfl hBackslash
  case h_8 => exact if_neg (Nat.not_lt.mpr hVisible)
  -- what is left are the controls with a short form
  all_goals exact absurd hVisible (by decide)

theorem plain_digitChar : ∀ n < 16, Plain (Nat.digitChar n) := by
  unfold Plain
  decide

/-- Any other character is written as a backslash, a letter or sign, and the digits of its number if need
be. -/
theorem exists_literalChar_of_not_plain {c : Char} (h : ¬ Plain c) : ∃ letter digits,
    Json.literalChar c = '\\' :: letter :: digits ∧ 0x20 ≤ letter.toNat ∧ ∀ d ∈ digits, Plain d := by
  unfold Json.literalChar
  split
  -- a control without a short form has a number of four digits, the first two of which are zeros
  case h_8 hQuote hBackslash _ _ _ _ _ =>
    have hControl : c.toNat < 0x20 :=
      Nat.lt_of_not_le fun hVisible => h ⟨hQuote, hBackslash, hVisible⟩
    rw [if_pos hControl]
    refine ⟨'u', _, rfl, by decide, ?_⟩
    simp only [List.forall_mem_cons]
    exact ⟨plain_digitChar 0 (by decide), plain_digitChar 0 (by decide),
      plain_digitChar (c.toNat / 16) (by omega), plain_digitChar (c.toNat % 16) (by omega), nofun⟩
  all_goals exact ⟨_, [], rfl, by decide, nofun⟩

/-- Whatever a literal stands for, the characters between its quotes are those of a literal. -/
theorem literalBody_literalChars (text : List Char) : LiteralBody (text.flatMap Json.literalChar) := by
  -- on the text; a character is one plain character, or a backslash, what it escapes and plain digits
  induction text with
  | nil => exact .nil
  | cons c text ih =>
    rw [List.flatMap_cons]
    by_cases hPlain : Plain c
    · rw [literalChar_of_plain hPlain]
      exact .plain hPlain ih
    · obtain ⟨letter, digits, hChar, hVisible, hDigits⟩ := exists_literalChar_of_not_plain hPlain
      rw [hChar]
      exact .escape hVisible ((literalBody_of_plain hDigits).append ih)

/-! ## The end of a literal -/

/-- Whether the character behind a text is escaped, if the one that it begins with is, or is not. A backslash
escapes the character behind it, unless it is escaped itself. -/
def escapes (escaped : Bool) (text : List Char) : Bool :=
  text.foldl (fun escaped c => c == '\\' && !escaped) escaped

/-- Any character but a backslash leaves nothing escaped behind it. -/
theorem escapes_cons_of_ne {c : Char} (h : c ≠ '\\') (escaped : Bool) (rest : List Char) :
    escapes escaped (c :: rest) = escapes false rest := by
  rw [escapes, List.foldl_cons, beq_false_of_ne h, Bool.false_and]
  rfl

/-- Nor is anything escaped behind a backslash and what it escapes. -/
theorem escapes_escape (c : Char) (rest : List Char) :
    escapes false ('\\' :: c :: rest) = escapes false rest := by
  rw [escapes, List.foldl_cons, List.foldl_cons, beq_self_eq_true, Bool.true_and, Bool.not_false,
    Bool.not_true, Bool.and_false]
  rfl

/-- Behind what stands between the quotes comes the one quote that is not escaped. -/
theorem LiteralBody.escapes_eq_false_iff {text before behind : List Char} (h : LiteralBody text)
    (hText : text ++ ['"'] = before ++ '"' :: behind) : escapes false before = false ↔ behind = [] := by
  -- on what stands between the quotes; nothing is escaped where one of its parts begins
  induction h generalizing before with
  | nil =>
    obtain ⟨rfl, hBehind⟩ : before = [] ∧ behind = [] := by
      have hLength := congrArg List.length hText
      simp only [List.nil_append, List.length_append, List.length_cons, List.length_nil] at hLength
      exact ⟨List.eq_nil_of_length_eq_zero (by omega), List.eq_nil_of_length_eq_zero (by omega)⟩
    exact iff_of_true rfl hBehind
  | @plain c rest hPlain _ ih =>
    match before with
    -- a plain character is no quote
    | [] => exact absurd (List.cons.inj hText).1 hPlain.1
    | d :: before =>
      rw [List.cons_append, List.cons_append, List.cons.injEq] at hText
      obtain ⟨rfl, hRest⟩ := hText
      rw [escapes_cons_of_ne hPlain.2.1]
      exact ih hRest
  | @escape c rest _ _ ih =>
    match before with
    | [] => exact absurd (List.cons.inj hText).1 (by decide)
    | [d] =>
      -- a quote behind the backslash is escaped, and the last one is still to come
      simp only [List.cons_append, List.nil_append, List.cons.injEq] at hText
      obtain ⟨rfl, -, rfl⟩ := hText
      exact iff_of_false (by decide) (by simp)
    | d :: e :: before =>
      simp only [List.cons_append, List.cons.injEq] at hText
      obtain ⟨rfl, rfl, hRest⟩ := hText
      rw [escapes_escape]
      exact ih hRest

/-- No character between the quotes is below a blank, escaped or not. -/
theorem LiteralBody.visible {text : List Char} (h : LiteralBody text) : ∀ c ∈ text, 0x20 ≤ c.toNat := by
  induction h with
  | nil => nofun
  | plain hPlain _ ih => exact List.forall_mem_cons.mpr ⟨hPlain.2.2, ih⟩
  | escape hVisible _ ih => exact List.forall_mem_cons.mpr ⟨by decide, List.forall_mem_cons.mpr ⟨hVisible, ih⟩⟩

/-- A text that is one string literal and no more. -/
structure OneLiteral (text : String) : Prop where
  /-- It has a quote at the beginning and another one at the end. -/
  quoted : ∃ body, text.toList = '"' :: (body ++ ['"'])
  /-- Of the quotes behind the first one, the last one and no other is not escaped. -/
  ends : ∀ before behind, text.toList = '"' :: (before ++ '"' :: behind) →
    (escapes false before = false ↔ behind = [])
  /-- No character in it is below a blank. -/
  visible : ∀ c ∈ text.toList, 0x20 ≤ c.toNat

/-- **Quotes.** Whatever a string literal stands for, it is one literal. -/
theorem oneLiteral_stringLiteral (value : String) : OneLiteral (stringLiteral value) := by
  have hBody := literalBody_literalChars value.toList
  have hText : (stringLiteral value).toList = '"' :: (value.toList.flatMap Json.literalChar ++ ['"']) := by
    rw [stringLiteral, Json.literal, String.toList_ofList, List.cons_append]
  constructor
  · exact ⟨_, hText⟩
  · intro before behind hSplit
    rw [hText] at hSplit
    exact hBody.escapes_eq_false_iff (List.cons.inj hSplit).2
  · rw [hText]
    have hQuote : 0x20 ≤ '"'.toNat := by decide
    exact List.forall_mem_cons.mpr ⟨hQuote, List.forall_mem_append.mpr
      ⟨hBody.visible, List.forall_mem_singleton.mpr hQuote⟩⟩

/-- A backslash and a quote, which look like an escape, are escaped one by one. -/
example : stringLiteral "\\\"" = "\"\\\\\\\"\"" := by decide

/-! ## Keys and access -/

/-- Read access to a property of an expression that is written like this. -/
def readAccess (target : String) : Reader Argument := do
  expect target
  readSelector target

/-- Access to a property of any expression is read as access to the property that it was written for. -/
theorem readAccess_append (target name : String) {rest : List Char} (hRest : Stops isIdentPart rest) :
    readAccess target ((propertyAccess target name).toList ++ rest) = some (.property target name, rest) := by
  obtain ⟨selector, hText, -, hRead⟩ := exists_selector target name hRest
  rw [hText, String.toList_append, List.append_assoc, readAccess, Reader.bind_eq (expect_append target _)]
  exact hRead

/-- Different properties have different keys. -/
theorem propertyKey_inj {name other : String} : propertyKey name = propertyKey other ↔ name = other := by
  have hEnd : Stops isIdentPart [] := nofun
  constructor
  · intro h
    have hName := readKey_append name hEnd
    rw [h, readKey_append other hEnd] at hName
    exact (Prod.mk.inj (Option.some.inj hName)).1.symm
  · exact congrArg propertyKey

/-- A bare key is no quoted one. -/
theorem ne_stringLiteral {name : String} (hName : isIdentifier name = true) (value : String) :
    name ≠ stringLiteral value := by
  obtain ⟨body, hBody⟩ := (oneLiteral_stringLiteral value).quoted
  obtain ⟨first, hHead, hStart⟩ := head?_of_isIdentifier hName []
  rintro rfl
  rw [hBody] at hHead
  obtain rfl := Option.some.inj hHead
  exact absurd hStart (by decide)

/-- **Names behind quotes.** The quote, the backslash and what is below a blank are escaped in a literal, and
nothing else is. The literal for a text is one literal, and is read as the text. Therefore the key of a
member and the access to a property, bare or quoted, are read as the property of exactly this name, and
different names have different keys. -/
theorem stringLiteral_quotes (name target : String) :
    (∀ c, (Plain c → Json.literalChar c = [c]) ∧ (¬ Plain c → (Json.literalChar c).head? = some '\\'))
      ∧ OneLiteral (stringLiteral name)
      ∧ (∀ rest, readLiteral ((stringLiteral name).toList ++ rest) = some (name, rest))
      ∧ (∀ rest, Stops isIdentPart rest → readKey ((propertyKey name).toList ++ rest) = some (name, rest)
        ∧ readAccess target ((propertyAccess target name).toList ++ rest)
          = some (.property target name, rest))
      ∧ ∀ other, (propertyKey name = propertyKey other ↔ name = other)
        ∧ (isIdentifier name = true → name ≠ stringLiteral other) := by
  refine ⟨fun c => ⟨literalChar_of_plain, fun hPlain => ?_⟩, oneLiteral_stringLiteral name,
    readLiteral_append name, fun rest hRest => ⟨readKey_append name hRest, readAccess_append target name hRest⟩,
    fun other => ⟨propertyKey_inj, fun hName => ne_stringLiteral hName other⟩⟩
  obtain ⟨letter, digits, hChar, -⟩ := exists_literalChar_of_not_plain hPlain
  rw [hChar]
  rfl

end AbiBindings.TypeScript
