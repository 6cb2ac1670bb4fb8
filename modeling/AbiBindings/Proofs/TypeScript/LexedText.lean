import AbiBindings.Proofs.TypeScript.Lexing
import AbiBindings.TypeScript.TypeExpr

/-!
# TypeScript — names in code

The texts from outside that get into code get there as words or as string literals. A word has nothing
in it that a lexer would stop at. A literal is one string for a lexer, whatever it stands for, because
everything that could end it is escaped.

* `closed_of_word` — words; `isIdentPart_of_mem_safeIdent` — identifiers are words;
* `closed_stringLiteral` — string literals;
* `closed_propertyKey`, `closed_propertyAccess` — names of properties, bare or quoted;
* `closed_orNull`, `closed_objectText` — what types are put together with.
-/

namespace AbiBindings.TypeScript

/-! ## Words -/

/-- Whether `c` is a character of code that is no bracket. -/
def isWordChar (c : Char) : Bool := isCodeChar c && (closing? c).isNone && !isClosing c

/-- Plain characters stay in the code, all of them. -/
theorem lex_of_code {text : List Char} (h : ∀ c ∈ text, isCodeChar c = true) :
    lex .code text = ⟨.code, text, false⟩ := by
  induction text with
  | nil => rfl
  | cons c rest ih =>
    obtain ⟨hHead, hRest⟩ := List.forall_mem_cons.mp h
    -- only a quote or a slash leads out of code, and neither is a plain character
    have hQuote : c ≠ '"' := by
      intro hEq
      subst hEq
      exact absurd hHead (by decide)
    have hSlash : c ≠ '/' := by
      intro hEq
      subst hEq
      exact absurd hHead (by decide)
    have hNext : Mode.code.next c = .code := by
      rw [Mode.next, if_neg hQuote, if_neg hSlash]
    have hShown : Mode.code.shown c = [c] := by
      rw [Mode.shown, if_neg (not_or.mpr ⟨hQuote, hSlash⟩)]
    rw [lex, hNext, hShown, ih hRest]
    rfl

/-- A word opens no bracket and closes none. -/
theorem nest_of_word {text : List Char} (stack : List Char) (h : ∀ c ∈ text, isWordChar c = true) :
    nest stack text = some stack := by
  induction text with
  | nil => rfl
  | cons c rest ih =>
    obtain ⟨hHead, hRest⟩ := List.forall_mem_cons.mp h
    rw [isWordChar, Bool.and_eq_true, Bool.and_eq_true, Option.isNone_iff_eq_none,
      Bool.not_eq_true'] at hHead
    -- no bracket of its own, so the stack stays
    have hBracket : bracket stack c = some stack := by
      rw [bracket, hHead.1.2]
      exact if_neg (by rw [hHead.2]; exact Bool.false_ne_true)
    rw [nest, List.foldlM_cons, hBracket]
    exact ih hRest

/-- A word is closed. -/
theorem closed_of_word {text : String} (h : ∀ c ∈ text.toList, isWordChar c = true) :
    Closed text := by
  have hCode : ∀ c ∈ text.toList, isCodeChar c = true := by
    intro c hc
    have hWord := h c hc
    rw [isWordChar, Bool.and_eq_true, Bool.and_eq_true] at hWord
    exact hWord.1.1
  exact lexes_of_lex (lex_of_code hCode) hCode (nest_of_word [] h)

/-- Characters of identifiers are ASCII. -/
theorem toNat_of_isIdentPart {c : Char} (h : isIdentPart c = true) : c.toNat < 128 := by
  have hBelow : ∀ high : Char, c.val ≤ high.val → high.toNat < 128 → c.toNat < 128 :=
    fun high hLe hHigh => Nat.lt_of_le_of_lt (UInt32.le_iff_toNat_le.mp hLe) hHigh
  -- every range of characters ends below 128
  rw [isIdentPart, Bool.or_eq_true, Bool.or_eq_true, beq_iff_eq, beq_iff_eq] at h
  rcases h with (hAlphanum | hUnderscore) | hDollar
  · rcases (Bool.or_eq_true _ _).mp hAlphanum with hAlpha | hDigit
    · rcases (Bool.or_eq_true _ _).mp hAlpha with hUpper | hLower
      · exact hBelow 'Z' (of_decide_eq_true hUpper).2 (by decide)
      · exact hBelow 'z' (of_decide_eq_true ((Bool.and_eq_true _ _).mp hLower).2) (by decide)
    · exact hBelow '9' (of_decide_eq_true ((Bool.and_eq_true _ _).mp hDigit).2) (by decide)
  · subst hUnderscore
    decide
  · subst hDollar
    decide

/-- Identifiers are words. There are so few characters to look at that all of them can be. -/
theorem isWordChar_of_isIdentPart {c : Char} (h : isIdentPart c = true) : isWordChar c = true := by
  have hAll : ∀ n < 128, isIdentPart (Char.ofNat n) = true → isWordChar (Char.ofNat n) = true := by
    decide
  have hChar := hAll c.toNat (toNat_of_isIdentPart h)
  rw [Char.ofNat_toNat] at hChar
  exact hChar h

/-! ## Identifiers -/

/-- Whatever is no character of identifiers is replaced by an underscore. -/
theorem isIdentPart_identChar (c : Char) : isIdentPart (identChar c) = true := by
  rw [identChar]
  split
  · assumption
  · decide

/-- Every character of the identifier that stands for a name is one of identifiers. -/
theorem isIdentPart_of_mem_safeIdent {name : String} :
    ∀ c ∈ (safeIdent name).toList, isIdentPart c = true := by
  have hChars : ∀ c ∈ name.toList.map identChar, isIdentPart c = true := by
    intro c hc
    obtain ⟨original, -, rfl⟩ := List.mem_map.mp hc
    exact isIdentPart_identChar original
  have hStart : ∀ c ∈ guardStart (name.toList.map identChar), isIdentPart c = true := by
    generalize name.toList.map identChar = chars at hChars
    cases chars with
    | nil => exact List.all_eq_true.mp (rfl : ['_'].all isIdentPart = true)
    -- a digit at the start is kept behind an underscore
    | cons first rest =>
      rw [guardStart]
      split
      · exact List.forall_mem_cons.mpr ⟨by decide, hChars⟩
      · exact hChars
  -- a reserved word gets an underscore at its end
  rw [safeIdent, guardReserved]
  split
  · rw [String.toList_append, String.toList_ofList]
    exact List.forall_mem_append.mpr ⟨hStart, List.all_eq_true.mp rfl⟩
  · rw [String.toList_ofList]
    exact hStart

theorem closed_safeIdent (name : String) : Closed (safeIdent name) :=
  closed_of_word fun c hc => isWordChar_of_isIdentPart (isIdentPart_of_mem_safeIdent c hc)

/-- What an identifier may begin with may also stand further on in it. -/
theorem isIdentPart_of_isIdentStart {c : Char} (h : isIdentStart c = true) :
    isIdentPart c = true := by
  simp only [isIdentStart, Bool.or_eq_true] at h
  simp only [isIdentPart, Char.isAlphanum, Bool.or_eq_true]
  rcases h with (hAlpha | hUnderscore) | hDollar
  · exact Or.inl (Or.inl (Or.inl hAlpha))
  · exact Or.inl (Or.inr hUnderscore)
  · exact Or.inr hDollar

/-- A name that is an identifier already has only characters of identifiers. -/
theorem isIdentPart_of_isIdentifier {name : String} (h : isIdentifier name = true) :
    ∀ c ∈ name.toList, isIdentPart c = true := by
  intro c hc
  unfold isIdentifier at h
  split at h
  next => simp at h
  next first rest hName =>
    rw [Bool.and_eq_true, List.all_eq_true] at h
    rw [hName] at hc
    rcases List.mem_cons.mp hc with rfl | hRest
    · exact isIdentPart_of_isIdentStart h.1
    · exact h.2 c hRest

theorem closed_of_isIdentifier {name : String} (h : isIdentifier name = true) : Closed name :=
  closed_of_word fun c hc => isWordChar_of_isIdentPart (isIdentPart_of_isIdentifier h c hc)

/-! ## String literals -/

/-- A character that neither ends a string nor escapes anything nor breaks the line. -/
theorem lex_string_cons {c : Char} {rest : List Char} (hNext : Mode.string.next c = .string)
    (hBreaks : Mode.string.breaks c = false) : lex .string (c :: rest) = lex .string rest := by
  rw [lex, hNext, hBreaks]
  rfl

/-- The digits of an escape are read as part of the string. -/
theorem digitChar_in_string : ∀ n < 16, Mode.string.next (Nat.digitChar n) = .string ∧
    Mode.string.breaks (Nat.digitChar n) = false := by
  decide

/-- What a character is written as inside a literal stays inside the literal, on its line. -/
theorem lex_literalChar (c : Char) : lex .string (Json.literalChar c) = ⟨.string, [], false⟩ := by
  unfold Json.literalChar
  split
  -- the first seven cases are the short escapes
  case h_8 hQuote hBackslash _ _ hNewline _ hReturn =>
    split
    next hControl =>
      obtain ⟨hHigh, hHighBreaks⟩ := digitChar_in_string (c.toNat / 16) (by omega)
      -- a control character: two hexadecimal digits behind a fixed beginning
      obtain ⟨hLow, hLowBreaks⟩ := digitChar_in_string (c.toNat % 16) (Nat.mod_lt _ (by decide))
      show lex .string [Nat.digitChar (c.toNat / 16), Nat.digitChar (c.toNat % 16)] = _
      rw [lex_string_cons hHigh hHighBreaks, lex_string_cons hLow hLowBreaks]
      rfl
    next =>
      -- any other character stands for itself, and it is neither a quote nor a backslash nor a line break
      have hNext : Mode.string.next c = .string := by
        rw [Mode.next, if_neg hQuote, if_neg hBackslash]
      have hBreaks : Mode.string.breaks c = false := by
        simp only [Mode.breaks, Bool.or_eq_false_iff, beq_eq_false_iff_ne]
        exact ⟨hNewline, hReturn⟩
      rw [lex_string_cons hNext hBreaks]
      rfl
  all_goals rfl

/-- The characters of a literal are written one by one, and behind each the string is still open. -/
theorem lex_literalChars (text : List Char) :
    lex .string (text.flatMap Json.literalChar) = ⟨.string, [], false⟩ := by
  induction text with
  | nil => rfl
  | cons c rest ih =>
    rw [List.flatMap_cons, lex_append, lex_literalChar]
    simp only [ih, List.append_nil, Bool.or_false]

/-- **Literals.** Whatever a string literal stands for, it is one string for a lexer. -/
theorem closed_stringLiteral (value : String) : Closed (stringLiteral value) := by
  have hLex : lex .code (stringLiteral value).toList = ⟨.code, [], false⟩ := by
    -- the quote opens a string, which ends with the quote behind the characters
    rw [stringLiteral, Json.literal, String.toList_ofList, List.cons_append, lex, lex_append]
    have hOpen : Mode.code.next '"' = .string := rfl
    rw [hOpen, lex_literalChars]
    rfl
  exact lexes_of_lex hLex (List.forall_mem_nil _) rfl

/-! ## Properties and types -/

/-- As a key a name is written bare if it is an identifier, and as a literal otherwise; both are closed. -/
theorem closed_propertyKey (name : String) : Closed (propertyKey name) := by
  rw [propertyKey]
  split
  next hIdentifier => exact closed_of_isIdentifier hIdentifier
  next => exact closed_stringLiteral name

/-- Behind a closed text the same two ways are open: a dot and the bare name, or brackets around the
literal. -/
theorem closed_propertyAccess {target : String} (hTarget : Closed target) (name : String) :
    Closed (propertyAccess target name) := by
  rw [propertyAccess]
  split
  next hIdentifier =>
    exact (hTarget.append (lexes_literal rfl)).append (closed_of_isIdentifier hIdentifier)
  next =>
    -- the bracket before the name is closed behind it
    have hOpen : Lexes [] (target ++ "[") [']'] := Lexes.append hTarget (lexes_literal rfl)
    exact (closed_stringLiteral name).between hOpen (lexes_literal rfl)

/-- The part for `null` is fixed and closed, whether it is written or not. -/
theorem closed_orNull {text : String} (h : Closed text) (nullable : Bool) :
    Closed (orNull text nullable) := by
  rw [orNull]
  split
  · exact h.append (lexes_literal rfl)
  · exact h

/-- Members in braces: the pair of braces and the separators are fixed, and the members are closed. -/
theorem closed_objectText {members : List String} (h : ∀ member ∈ members, Closed member) :
    Closed (objectText members) := by
  rw [objectText]
  split
  · exact lexes_literal rfl
  · have hOpen : Lexes [] "\x7b " ['}'] := lexes_literal rfl
    have hMembers : Closed ("; ".intercalate members) := closed_intercalate (lexes_literal rfl) h
    exact hMembers.between hOpen (lexes_literal rfl)

end AbiBindings.TypeScript
