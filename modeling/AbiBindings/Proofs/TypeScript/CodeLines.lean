import AbiBindings.Proofs.Layout.TextLines
import AbiBindings.Proofs.TypeScript.LexedLayout

/-!
# TypeScript — the lines of code of a text

What a module does stands in its code, and comments do not count, even if they look like code. The
lines of code of a text are its lines without comments and margins, as far as anything is left of
them. String literals stay as they are.

* `uncomment`, `codeLines` — a text without its comments, and its lines of code;
* `Verbatim` — a text on one line that has no comment in it, so that it is a line of code as it is;
* `Shows` — which lines of code steps come to, in whatever layout; a lemma for each kind of step.
-/

namespace AbiBindings.TypeScript

open Layout

/-! ## Texts without comments -/

/-- What is known to be outside of comments with this character. A slash may begin a comment. -/
def Mode.kept (mode : Mode) (c : Char) : List Char :=
  match mode with
  | .code => if c = '/' then [] else [c]
  | .slash => if c = '/' ∨ c = '*' then [] else ['/', c]
  | .lineComment => if endsLine c then [c] else []
  | .blockComment | .star => []
  | .string | .escape => [c]

/-- A text without its comments. -/
def uncomment (mode : Mode) : List Char → List Char
  | [] => if mode = .slash then ['/'] else []
  | c :: rest => mode.kept c ++ uncomment (mode.next c) rest

/-- A line without its margin. -/
def withoutMargin (line : List Char) : String := String.ofList (line.dropWhile (· == ' '))

/-- The lines of a text without their margins, as far as anything is left of them. -/
def filledLines (text : List Char) : List String :=
  ((text.splitOn '\n').map withoutMargin).filter (· ≠ "")

/-- The lines of code of a text. -/
def codeLines (text : String) : List String := filledLines (uncomment .code text.toList)

/-- The lines of a text are its first line and those behind it. -/
theorem filledLines_line {line : List Char} (hLine : '\n' ∉ line) (rest : List Char) :
    filledLines (line ++ '\n' :: rest)
      = [withoutMargin line].filter (· ≠ "") ++ filledLines rest := by
  rw [filledLines, List.splitOn_append_cons_self_of_not_mem hLine, List.map_cons, ← List.singleton_append,
    List.filter_append, filledLines]

/-! ## Verbatim texts -/

/-- Modes in which nothing is left out. -/
def Mode.visible : Mode → Bool
  | .code | .string | .escape => true
  | _ => false

/-- Whether a text stays on its line, has no comment in it and ends in code. -/
def verbatim (mode : Mode) : List Char → Bool
  | [] => mode == .code
  | c :: rest => c != '\n' && (mode.next c).visible && verbatim (mode.next c) rest

/-- A text on one line of code, without a comment. -/
def Verbatim (text : String) : Prop := verbatim .code text.toList = true

/-- In a verbatim text nothing is left out, and no line ends: what is behind it is read from code on. -/
theorem verbatim_append {mode : Mode} {a b : List Char} (hMode : mode.visible = true)
    (ha : verbatim mode a = true) :
    verbatim mode (a ++ b) = verbatim .code b ∧
      uncomment mode (a ++ b) = a ++ uncomment .code b ∧ '\n' ∉ a := by
  induction a generalizing mode with
  -- nothing is left, so the mode is that of code
  | nil =>
    obtain rfl := beq_iff_eq.mp ha
    exact ⟨rfl, rfl, by simp⟩
  | cons c a ih =>
    rw [verbatim, Bool.and_eq_true, Bool.and_eq_true, bne_iff_ne] at ha
    obtain ⟨⟨hLine, hNext⟩, ha⟩ := ha
    obtain ⟨hVerbatim, hUncomment, hNewline⟩ := ih hNext ha
    -- a character is kept unless a comment may begin with it
    have hKept : mode.kept c = [c] := by
      cases mode with
      | code =>
        have hSlash : c ≠ '/' := by
          rintro rfl
          exact absurd hNext (by decide)
        exact if_neg hSlash
      | string => rfl
      | escape => rfl
      | slash | lineComment | blockComment | star => exact absurd hMode (by decide)
    refine ⟨?_, ?_, ?_⟩
    · rw [List.cons_append, verbatim, hVerbatim, hNext, bne_iff_ne.mpr hLine]
      rfl
    · rw [List.cons_append, uncomment, hKept, hUncomment]
      rfl
    · exact List.not_mem_cons_of_ne_of_not_mem hLine.symm hNewline

section Verbatim

variable {a b : String}

theorem Verbatim.append (ha : Verbatim a) (hb : Verbatim b) : Verbatim (a ++ b) := by
  rw [Verbatim, String.toList_append, (verbatim_append rfl ha).1]
  exact hb

/-- Leaving comments out leaves a verbatim text as it is. -/
theorem Verbatim.uncomment (h : Verbatim a) (rest : List Char) :
    uncomment .code (a.toList ++ rest) = a.toList ++ uncomment .code rest :=
  (verbatim_append rfl h).2.1

theorem Verbatim.oneLine (h : Verbatim a) : '\n' ∉ a.toList :=
  (@verbatim_append .code a.toList [] rfl h).2.2

/-- A fixed text. -/
theorem verbatim_literal {chars : List Char} (h : verbatim .code chars = true) :
    Verbatim (String.ofList chars) := by
  rw [Verbatim, String.toList_ofList]
  exact h

/-- A character at which neither a string nor a comment nor a line begins or ends. -/
def isQuiet (c : Char) : Bool := c != '"' && c != '/' && c != '\n'

/-- A text of quiet characters is verbatim: the lexer never leaves code. -/
theorem verbatim_of_quiet {text : String} (h : ∀ c ∈ text.toList, isQuiet c = true) :
    Verbatim text := by
  rw [Verbatim]
  generalize text.toList = chars at h
  -- on the characters, none of which leads out of code
  induction chars with
  | nil => rfl
  | cons c chars ih =>
    obtain ⟨hFirst, hRest⟩ := List.forall_mem_cons.mp h
    rw [isQuiet, Bool.and_eq_true, Bool.and_eq_true, bne_iff_ne, bne_iff_ne] at hFirst
    have hNext : Mode.code.next c = .code := by
      rw [Mode.next, if_neg hFirst.1.1, if_neg hFirst.1.2]
    rw [verbatim, hNext, ih hRest, hFirst.2]
    rfl

theorem isQuiet_of_isIdentPart {c : Char} (h : isIdentPart c = true) : isQuiet c = true := by
  rw [isQuiet, Bool.and_eq_true, Bool.and_eq_true, bne_iff_ne, bne_iff_ne, bne_iff_ne]
  refine ⟨⟨?_, ?_⟩, ?_⟩
  all_goals
    rintro rfl
    exact absurd h (by decide)

theorem verbatim_of_isIdentifier {name : String} (h : isIdentifier name = true) : Verbatim name :=
  verbatim_of_quiet fun c hc => isQuiet_of_isIdentPart (isIdentPart_of_isIdentifier h c hc)

/-- Verbatim texts with verbatim separators between them are verbatim. -/
theorem verbatim_intercalate {separator : String} {texts : List String} (hSeparator : Verbatim separator)
    (h : ∀ text ∈ texts, Verbatim text) : Verbatim (separator.intercalate texts) := by
  induction texts with
  | nil => exact verbatim_literal rfl
  | cons text texts ih =>
    obtain ⟨hText, hOthers⟩ := List.forall_mem_cons.mp h
    -- a separator stands between two texts, so not behind the last
    cases texts with
    | nil =>
      rw [String.intercalate_singleton]
      exact hText
    | cons other texts =>
      rw [String.intercalate_cons_cons]
      exact (hText.append hSeparator).append (ih hOthers)

/-- What a character is written as inside a literal stays inside the literal. -/
theorem verbatim_literalChar (c : Char) (more : List Char) :
    verbatim .string (Json.literalChar c ++ more) = verbatim .string more := by
  -- the digits of an escape are no quotes and no backslashes
  have hDigit : ∀ n < 16, ∀ rest, verbatim .string (Nat.digitChar n :: rest) = verbatim .string rest := by
    intro n hn rest
    have hChar : Nat.digitChar n ≠ '\n' := by
      revert n
      decide
    rw [verbatim, (digitChar_in_string n hn).1, bne_iff_ne.mpr hChar]
    rfl
  unfold Json.literalChar
  split
  -- the first seven cases are the short escapes
  case h_8 hQuote hBackslash _ _ hNewline _ _ =>
    split
    next hControl =>
      show verbatim .string (Nat.digitChar (c.toNat / 16) :: Nat.digitChar (c.toNat % 16) :: more) = _
      rw [hDigit _ (by omega), hDigit _ (Nat.mod_lt _ (by decide))]
    next =>
      have hNext : Mode.string.next c = .string := by
        rw [Mode.next, if_neg hQuote, if_neg hBackslash]
      rw [List.singleton_append, verbatim, hNext, bne_iff_ne.mpr hNewline]
      rfl
  all_goals rfl

/-- A literal is verbatim, whatever it stands for. -/
theorem verbatim_stringLiteral (value : String) : Verbatim (stringLiteral value) := by
  have hTail : ∀ text : List Char, verbatim .string (text.flatMap Json.literalChar ++ ['"']) = true := by
    intro text
    induction text with
    | nil => rfl
    | cons c text ih => rw [List.flatMap_cons, List.append_assoc, verbatim_literalChar, ih]
  rw [Verbatim, stringLiteral, Json.literal, String.toList_ofList]
  exact hTail value.toList

/-- A key is verbatim, be it an identifier or a literal. -/
theorem verbatim_propertyKey (name : String) : Verbatim (propertyKey name) := by
  rw [propertyKey]
  split
  next hName => exact verbatim_of_isIdentifier hName
  next => exact verbatim_stringLiteral name

/-- So is an access to a property, by a dot or by brackets. -/
theorem verbatim_propertyAccess {target : String} (hTarget : Verbatim target) (name : String) :
    Verbatim (propertyAccess target name) := by
  rw [propertyAccess]
  split
  next hName => exact (hTarget.append (verbatim_literal rfl)).append (verbatim_of_isIdentifier hName)
  next =>
    have hOpen : Verbatim (target ++ "[") := hTarget.append (verbatim_literal rfl)
    exact (hOpen.append (verbatim_stringLiteral name)).append (verbatim_literal rfl)

end Verbatim

/-! ## Comments -/

/-- Nothing is left of a text inside a block comment. -/
theorem uncomment_of_insideMode {mode last : Mode} {text : List Char} (hMode : mode.Commented)
    (h : insideMode? mode text = some last) (rest : List Char) :
    uncomment mode (text ++ rest) = uncomment last rest := by
  induction text generalizing mode with
  | nil =>
    obtain rfl := Option.some.inj h
    rfl
  | cons c text ih =>
    rw [insideMode?] at h
    split at h
    -- the text ends the comment here, against the assumption
    next => simp at h
    -- nothing of the character is kept, since the mode is that of a comment
    next hNext =>
      rw [List.cons_append, uncomment, ih (hMode.next hNext) h]
      rcases hMode with rfl | rfl <;> rfl

/-- A comment leaves nothing. -/
def Comment (text : String) : Prop :=
  ∀ rest, uncomment .code (text.toList ++ rest) = uncomment .code rest

/-- A text between the signs of a comment is a comment, if it does not end it. -/
theorem comment_block {inner : String} (h : Inside inner) : Comment ("/*" ++ inner ++ "*/") := by
  intro rest
  rw [String.toList_append, String.toList_append, List.append_assoc, List.append_assoc]
  show uncomment .blockComment (inner.toList ++ ("*/".toList ++ rest)) = _
  rw [uncomment_of_insideMode (Or.inl rfl) h]
  rfl

/-- Whether a comment ends exactly at the end of a text. -/
def endsComment (mode : Mode) : List Char → Bool
  | [] => false
  | c :: rest => if mode.next c = .code then rest.isEmpty else endsComment (mode.next c) rest

/-- A fixed comment. -/
theorem comment_literal {inner : List Char} (h : endsComment .blockComment inner = true) :
    Comment (String.ofList ('/' :: '*' :: inner)) := by
  have hInner : ∀ {mode : Mode} {text : List Char}, mode.Commented → endsComment mode text = true →
      ∀ rest, uncomment mode (text ++ rest) = uncomment .code rest := by
    intro mode text hMode hText rest
    induction text generalizing mode with
    | nil => simp [endsComment] at hText
    | cons c text ih =>
      -- in a comment nothing is kept
      have hKept : mode.kept c = [] := by
        rcases hMode with rfl | rfl <;> rfl
      rw [endsComment] at hText
      rw [List.cons_append, uncomment, hKept, List.nil_append]
      split at hText
      -- the comment ends here, and the text with it
      next hNext =>
        obtain rfl := List.isEmpty_iff.mp hText
        rw [hNext, List.nil_append]
      next hNext => exact ih (hMode.next hNext) hText
  intro rest
  rw [String.toList_ofList]
  exact hInner (Or.inl rfl) h rest

/-- A comment up to the end of the line leaves the end of the line. -/
theorem uncomment_lineComment {text : String} (h : OneLine text) (rest : List Char) :
    uncomment .code (("//" ++ text).toList ++ '\n' :: rest) = '\n' :: uncomment .code rest := by
  rw [String.toList_append, List.append_assoc]
  show uncomment .lineComment (text.toList ++ '\n' :: rest) = _
  rw [OneLine] at h
  generalize text.toList = chars at h
  induction chars with
  | nil => rfl
  -- no character of the text ends the line, so the mode stays that of the comment
  | cons c chars ih =>
    obtain ⟨hFirst, hRest⟩ := List.forall_mem_cons.mp h
    have hNext : Mode.lineComment.next c = .lineComment := by
      rw [Mode.next, hFirst]
      rfl
    have hKept : Mode.lineComment.kept c = [] := by
      rw [Mode.kept, hFirst]
      rfl
    rw [List.cons_append, uncomment, hNext, hKept, ih hRest]
    rfl

/-! ## Lines of code of steps -/

/-- A line of code as it is, without a margin. -/
structure CodeLine (text : String) : Prop where
  verbatim : Verbatim text
  filled : ∃ c, text.toList.head? = some c ∧ c ≠ ' '

/-- A line of code goes on with any verbatim text. -/
theorem CodeLine.append {a b : String} (ha : CodeLine a) (hb : Verbatim b) : CodeLine (a ++ b) := by
  obtain ⟨c, hHead, hBlank⟩ := ha.filled
  refine ⟨ha.verbatim.append hb, c, ?_, hBlank⟩
  rw [String.toList_append, List.head?_append, hHead]
  rfl

/-- A fixed line. -/
theorem codeLine_literal {first : Char} {chars : List Char} (hFirst : first ≠ ' ')
    (h : verbatim .code (first :: chars) = true) : CodeLine (String.ofList (first :: chars)) := by
  refine ⟨verbatim_literal h, first, ?_, hFirst⟩
  rw [String.toList_ofList]
  rfl

/-- The lines of code that a step comes to, in whatever layout and whatever is behind it. -/
def ShowsStep (step : Step) (lines : List String) : Prop :=
  ∀ width level rest, codeLines (step.text width level ++ rest) = lines ++ codeLines rest

/-- The lines of code that steps come to. -/
def Shows (steps : List Step) (lines : List String) : Prop :=
  ∀ width level rest, codeLines (stepsText width level steps ++ rest) = lines ++ codeLines rest

section Shows

variable {step : Step} {steps others : List Step} {lines more : List String} {text : String}

theorem shows_nil : Shows [] [] := by
  intro width level rest
  rw [stepsText, String.empty_append]
  rfl

theorem Shows.cons (h : ShowsStep step lines) (hOthers : Shows others more) :
    Shows (step :: others) (lines ++ more) := by
  intro width level rest
  rw [stepsText, String.append_assoc, h, hOthers, List.append_assoc]

theorem Shows.append (h : Shows steps lines) (hOthers : Shows others more) :
    Shows (steps ++ others) (lines ++ more) := by
  intro width level rest
  rw [stepsText_append, String.append_assoc, h, hOthers, List.append_assoc]

theorem shows_singleton (h : ShowsStep step lines) : Shows [step] lines := by
  have hCons := Shows.cons h shows_nil
  rw [List.append_nil] at hCons
  exact hCons

/-- Steps for each element come to the lines for each element. -/
theorem shows_flatMap {α : Type} {as : List α} {f : α → List Step} {g : α → List String}
    (h : ∀ a ∈ as, Shows (f a) (g a)) : Shows (as.flatMap f) (as.flatMap g) := by
  induction as with
  | nil => exact shows_nil
  | cons a as ih =>
    obtain ⟨hFirst, hOthers⟩ := List.forall_mem_cons.mp h
    rw [List.flatMap_cons, List.flatMap_cons]
    exact hFirst.append (ih hOthers)

/-- Behind its margin, a text is on its line what is left of it without comments. -/
theorem codeLines_margin {left : List Char} (width level : Nat) (text rest : String)
    (hLeft : '\n' ∉ left)
    (hText : uncomment .code (text.toList ++ '\n' :: rest.toList)
      = left ++ '\n' :: uncomment .code rest.toList) :
    codeLines (marginText width level ++ text ++ "\n" ++ rest)
      = [withoutMargin left].filter (· ≠ "") ++ codeLines rest := by
  have hMargin : ∀ c ∈ (marginText width level).toList, c = ' ' := by
    intro c hc
    rw [marginText, String.toList_ofList] at hc
    exact List.eq_of_mem_replicate hc
  have hVerbatim : Verbatim (marginText width level) :=
    verbatim_of_quiet fun c hc => by rw [hMargin c hc]; decide
  have hLine : (marginText width level ++ text ++ "\n" ++ rest).toList
      = (marginText width level).toList ++ (text.toList ++ '\n' :: rest.toList) := by
    have hEnd : "\n".toList = ['\n'] := rfl
    simp only [String.toList_append, List.append_assoc, hEnd, List.singleton_append]
  have hWithout : withoutMargin ((marginText width level).toList ++ left) = withoutMargin left := by
    rw [withoutMargin, List.dropWhile_append_of_pos fun c hc => beq_iff_eq.mpr (hMargin c hc),
      withoutMargin]
  -- neither the margin nor what is left of the text ends the line
  have hNewline : '\n' ∉ (marginText width level).toList ++ left := by
    rw [List.mem_append]
    rintro (h | h)
    · exact absurd (hMargin _ h) (by decide)
    · exact hLeft h
  rw [codeLines, hLine, hVerbatim.uncomment, hText, ← List.append_assoc, filledLines_line hNewline,
    hWithout]
  rfl

/-- A line of code comes to itself. -/
theorem showsStep_line (h : CodeLine text) : ShowsStep (.line text) [text] := by
  intro width level rest
  obtain ⟨c, hHead, hBlank⟩ := h.filled
  obtain ⟨others, hChars⟩ := List.head?_eq_some_iff.mp hHead
  have hSome : ¬ text.isEmpty = true := by
    intro hEmpty
    rw [String.isEmpty_iff.mp hEmpty] at hHead
    exact absurd hHead (by simp)
  -- it begins with no blank, so nothing is taken from it
  have hWithout : withoutMargin text.toList = text := by
    rw [withoutMargin, hChars, List.dropWhile_cons_of_neg (by simpa using hBlank), ← hChars,
      String.ofList_toList]
  have hFilled : [text].filter (· ≠ "") = [text] :=
    List.filter_cons_of_pos (by simpa [String.isEmpty_iff] using hSome)
  rw [Step.text, lineText, if_neg hSome,
    codeLines_margin width level text rest h.verbatim.oneLine (h.verbatim.uncomment _), hWithout, hFilled]

theorem shows_lines (h : ∀ line ∈ lines, CodeLine line) : Shows (lines.map .line) lines := by
  induction lines with
  | nil => exact shows_nil
  | cons line lines ih =>
    obtain ⟨hFirst, hOthers⟩ := List.forall_mem_cons.mp h
    exact Shows.cons (showsStep_line hFirst) (ih hOthers)

theorem showsStep_blank : ShowsStep .blank [] := by
  intro width level rest
  have hEmpty := codeLines_margin 0 0 "" rest List.not_mem_nil rfl
  exact hEmpty

/-- A line that is all comment. -/
theorem showsStep_lineComment (h : OneLine text) : ShowsStep (.line ("//" ++ text)) [] := by
  intro width level rest
  have hSome : ¬ ("//" ++ text).isEmpty = true := by simp [String.isEmpty_iff]
  rw [Step.text, lineText, if_neg hSome]
  exact codeLines_margin width level _ rest List.not_mem_nil (uncomment_lineComment h rest.toList)

/-- A line that is all comment, behind its margin, comes to nothing. -/
theorem codeLines_comment (h : Comment text) (width level : Nat) (rest : String) :
    codeLines (marginText width level ++ text ++ "\n" ++ rest) = codeLines rest :=
  codeLines_margin width level text rest List.not_mem_nil (h _)

theorem showsStep_comment (h : Comment text) (hSome : text ≠ "") : ShowsStep (.line text) [] := by
  intro width level rest
  rw [Step.text, lineText, if_neg fun hEmpty => hSome (String.isEmpty_iff.mp hEmpty)]
  exact codeLines_comment h width level rest

/-- **Comments for tools** leave no line of code, whatever they say. -/
theorem showsStep_doc (lines : List String) : ShowsStep (.doc lines) [] := by
  intro width level rest
  rw [Step.text]
  -- an empty comment is not written at all
  by_cases hSome : lines = []
  · rw [hSome]
    exact congrArg codeLines String.empty_append
  -- any other comment is one comment in the text, over however many lines
  · obtain ⟨said, hInside, hText⟩ := exists_docText_eq width level hSome
    rw [hText]
    exact codeLines_comment (comment_block hInside) width level rest

theorem showsStep_nested (h : Shows steps lines) : ShowsStep (.nested steps) lines :=
  fun width level rest => h width (level + 1) rest

/-- A block comes to its first line, the lines of its body and the brace. -/
theorem showsStep_block {header : String} (hHeader : CodeLine header) (h : Shows steps lines) :
    ShowsStep (.block header steps) ((header ++ " \x7b") :: (lines ++ ["\x7d"])) := by
  intro width level rest
  have hBrace : Verbatim " \x7b" := verbatim_literal rfl
  have hOpen := showsStep_line (hHeader.append hBrace) width level
  have hClose : ShowsStep (.line "\x7d") ["\x7d"] := showsStep_line (codeLine_literal (by decide) rfl)
  have hLast := hClose width level rest
  -- the lines of the block are those of three steps one behind the other
  rw [Step.text] at hOpen hLast
  rw [Step.text, String.append_assoc, String.append_assoc, hOpen, h, hLast]
  show _ = (header ++ " \x7b") :: (lines ++ ["\x7d"] ++ codeLines rest)
  rw [List.append_assoc]
  rfl

/-- The lines of code of steps with nothing behind them. -/
theorem Shows.codeLines_eq (h : Shows steps lines) (width level : Nat) :
    codeLines (stepsText width level steps) = lines := by
  have hText := h width level ""
  have hNothing : codeLines "" = [] := rfl
  rw [String.append_empty, hNothing, List.append_nil] at hText
  exact hText

/-- The lines of code of a rendering. -/
theorem codeLines_render {width : Nat} (hLinewise : linewiseSteps steps = true)
    (h : Shows steps lines) : codeLines (render width steps) = lines := by
  rw [render_eq hLinewise, h.codeLines_eq]

end Shows

end AbiBindings.TypeScript
