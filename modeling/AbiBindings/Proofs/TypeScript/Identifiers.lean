import AbiBindings.Proofs.TypeScript.LexedText

/-!
# TypeScript — identifiers stand for names

Whatever a name is, what stands for it can name a declaration: it is an identifier and not a reserved
word. This stays so when a suffix is put behind it, as long as no reserved word ends in the suffix.

* `Bindable` — identifiers that are not reserved;
* `bindable_safeIdent`, `Bindable.append`;
* `Bindable.safeIdent_eq`, `eq_of_safeIdent_eq` — a name that can be declared stands for itself, and without
  underscores for no other name.
-/

namespace AbiBindings.TypeScript

/-- An identifier has a first character, which is no digit, and then any that identifiers are made of. -/
theorem isIdentifier_iff {name : String} :
    isIdentifier name = true ↔
      ∃ first rest, name.toList = first :: rest ∧ isIdentStart first = true ∧
        ∀ c ∈ rest, isIdentPart c = true := by
  rw [isIdentifier]
  cases hName : name.toList with
  | nil => simp
  | cons first rest => simp

/-- It stays an identifier whatever of these is put behind it. -/
theorem isIdentifier_append {name suffix : String} (hName : isIdentifier name = true)
    (hSuffix : ∀ c ∈ suffix.toList, isIdentPart c = true) : isIdentifier (name ++ suffix) = true := by
  obtain ⟨first, rest, hChars, hFirst, hRest⟩ := isIdentifier_iff.mp hName
  refine isIdentifier_iff.mpr ⟨first, rest ++ suffix.toList, ?_, hFirst, ?_⟩
  · rw [String.toList_append, hChars, List.cons_append]
  · exact List.forall_mem_append.mpr ⟨hRest, hSuffix⟩

/-- An identifier begins with any of its characters but digits. -/
theorem isIdentStart_of_isIdentPart {c : Char} (h : isIdentPart c = true) (hDigit : ¬ c.isDigit = true) :
    isIdentStart c = true := by
  simp only [isIdentPart, Char.isAlphanum, Bool.or_eq_true] at h
  simp only [isIdentStart, Bool.or_eq_true]
  rcases h with ((hAlpha | hIsDigit) | hUnderscore) | hDollar
  · exact Or.inl (Or.inl hAlpha)
  · exact absurd hIsDigit hDigit
  · exact Or.inl (Or.inr hUnderscore)
  · exact Or.inr hDollar

/-- With the guard in front, any text of these characters is an identifier, even the empty one. -/
theorem isIdentifier_guardStart {chars : List Char} (h : ∀ c ∈ chars, isIdentPart c = true) :
    isIdentifier (String.ofList (guardStart chars)) = true := by
  rw [isIdentifier_iff, String.toList_ofList]
  cases chars with
  | nil => exact ⟨'_', [], rfl, rfl, by simp⟩
  | cons first rest =>
    obtain ⟨hFirst, hRest⟩ := List.forall_mem_cons.mp h
    rw [guardStart]
    split
    next => exact ⟨'_', first :: rest, rfl, rfl, h⟩
    next hDigit => exact ⟨first, rest, rfl, isIdentStart_of_isIdentPart hFirst hDigit, hRest⟩

/-- A name that a declaration can have. -/
structure Bindable (name : String) : Prop where
  identifier : isIdentifier name = true
  unreserved : isReserved name = false

/-- Reserved words are in lower case. -/
theorem all_isLower_reservedWords : reservedWords.all (·.toList.all Char.isLower) = true := by
  decide +kernel

/-- Behind an identifier, a suffix that is not in lower case does no harm. -/
theorem Bindable.append {name suffix : String} (h : isIdentifier name = true)
    (hSuffix : ∀ c ∈ suffix.toList, isIdentPart c = true)
    (hCase : suffix.toList.all Char.isLower = false) : Bindable (name ++ suffix) := by
  refine ⟨isIdentifier_append h hSuffix, Bool.eq_false_iff.mpr fun hReserved => ?_⟩
  have hLower := List.all_eq_true.mp all_isLower_reservedWords _ (List.contains_iff_mem.mp hReserved)
  rw [String.toList_append, List.all_append, hCase, Bool.and_false] at hLower
  exact absurd hLower Bool.false_ne_true

/-- **Identifiers.** What stands for a name can name a declaration. -/
theorem bindable_safeIdent (name : String) : Bindable (safeIdent name) := by
  have hChars : ∀ c ∈ name.toList.map identChar, isIdentPart c = true := by
    intro c hc
    obtain ⟨original, -, rfl⟩ := List.mem_map.mp hc
    exact isIdentPart_identChar original
  have hIdent := isIdentifier_guardStart hChars
  rw [safeIdent, guardReserved]
  split
  next => exact Bindable.append hIdent (List.all_eq_true.mp rfl) rfl
  next hUnreserved => exact ⟨hIdent, Bool.eq_false_iff.mpr hUnreserved⟩

/-! ## Names that stand for themselves -/

/-- What an identifier begins with is no digit. -/
theorem isDigit_eq_false_of_isIdentStart {c : Char} (h : isIdentStart c = true) : c.isDigit = false := by
  change (decide ('A'.val ≤ c.val ∧ c.val ≤ 'Z'.val) || (decide ('a'.val ≤ c.val) && decide (c.val ≤ 'z'.val))
    || c == '_' || c == '$') = true at h
  simp only [Bool.or_eq_true, Bool.and_eq_true, decide_eq_true_eq, beq_iff_eq] at h
  rw [Char.isDigit, Bool.and_eq_false_iff, decide_eq_false_iff_not, decide_eq_false_iff_not]
  rcases h with ((hUpper | hLower) | rfl) | rfl
  · exact Or.inr fun hLe => absurd (UInt32.le_trans hUpper.1 hLe) (by decide)
  · exact Or.inr fun hLe => absurd (UInt32.le_trans hLower.1 hLe) (by decide)
  · exact Or.inr (by decide)
  · exact Or.inl (by decide)

/-- A name that can be declared stands for itself. -/
theorem Bindable.safeIdent_eq {name : String} (h : Bindable name) : safeIdent name = name := by
  obtain ⟨first, rest, hChars, hFirst, -⟩ := isIdentifier_iff.mp h.identifier
  -- no character is replaced, no underscore is put before the first, and none behind the word
  have hKept : name.toList.map identChar = name.toList := by
    refine (List.map_congr_left fun c hc => ?_).trans (List.map_id _)
    rw [identChar, if_pos (isIdentPart_of_isIdentifier h.identifier c hc)]
    rfl
  have hStart : guardStart name.toList = name.toList := by
    rw [hChars, guardStart, if_neg]
    rw [isDigit_eq_false_of_isIdentStart hFirst]
    exact Bool.false_ne_true
  rw [safeIdent, hKept, hStart, String.ofList_toList, guardReserved, h.unreserved]
  rfl

/-- An identifier without underscores stands for no name but itself. -/
theorem eq_of_safeIdent_eq {name ident : String} (hPlain : '_' ∉ ident.toList) (h : safeIdent name = ident) :
    name = ident := by
  -- a reserved word would have been given an underscore
  have hStart : String.ofList (guardStart (name.toList.map identChar)) = ident := by
    rw [safeIdent, guardReserved] at h
    split at h
    next =>
      refine absurd ?_ hPlain
      rw [← h, String.toList_append]
      exact List.mem_append_right _ (List.mem_singleton_self _)
    next => exact h
  rw [← hStart, String.toList_ofList] at hPlain
  -- and so would a name that begins with a digit
  have hChars : guardStart (name.toList.map identChar) = name.toList.map identChar := by
    revert hPlain
    cases name.toList.map identChar with
    | nil => exact fun hPlain => absurd (List.mem_singleton_self _) hPlain
    | cons first rest =>
      rw [guardStart]
      split
      next => exact fun hPlain => absurd List.mem_cons_self hPlain
      next => exact fun _ => rfl
  rw [hChars] at hStart hPlain
  -- and a character that is not allowed would have been replaced by one
  have hKept : name.toList.map identChar = name.toList := by
    refine (List.map_congr_left fun c hc => ?_).trans (List.map_id _)
    have hNe : identChar c ≠ '_' := fun hEq => hPlain (hEq ▸ List.mem_map_of_mem hc)
    rw [identChar] at hNe ⊢
    split
    next => rfl
    next hOther => exact absurd (if_neg hOther) hNe
  rw [← hStart, hKept, String.ofList_toList]

end AbiBindings.TypeScript
