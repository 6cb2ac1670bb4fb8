import Mathlib.Tactic.Common

/-!
# TypeScript — what a lexer sees of a text

A text is read one character after the other. Whether a character belongs to the code, to a comment
or to a string is a matter of the `Mode` in which it is met. Of a text that stands in code one wants
to know that it ends in code, that no string literal in it goes over the end of a line, and that the
code that is left without comments and strings is harmless: plain characters, and brackets that
match.

* `lex` — a text without its comments and strings, and the mode in which it ends;
* `nest` — the brackets that are open after some code;
* `Lexes` — all that one wants to know of a text; `Closed` if it leaves no bracket open;
* `Lexes.append`, `Lexes.frame` — such texts one behind the other, and inside of brackets;
* `lexes_literal`, `lexes_of_lex` — fixed texts, by following them once; any other, by what a lexer leaves of it.

The signs of code are those that TypeScript gives to `//`, `/* */` and double quotes. There are other
kinds of strings, and regular expressions, but none of them can begin in plain characters.
-/

namespace AbiBindings.TypeScript

/-! ## Modes -/

/-- What a character belongs to, as far as the characters before it tell. -/
inductive Mode where
  | code
  /-- Behind a slash in code, which may begin a comment. -/
  | slash
  | lineComment
  | blockComment
  /-- Behind a star in a block comment, which may end it. -/
  | star
  | string
  /-- Behind a backslash in a string. -/
  | escape
  deriving DecidableEq, Repr

/-- Whether a line ends with `c`, and with it a line comment. -/
def endsLine (c : Char) : Bool := c == '\n' || c == '\r' || c == '\u2028' || c == '\u2029'

/-- The mode behind a character. -/
def Mode.next (mode : Mode) (c : Char) : Mode :=
  match mode with
  | .code => if c = '"' then .string else if c = '/' then .slash else .code
  | .slash =>
    if c = '/' then .lineComment
    else if c = '*' then .blockComment
    else if c = '"' then .string
    else .code
  | .lineComment => if endsLine c then .code else .lineComment
  | .blockComment => if c = '*' then .star else .blockComment
  | .star => if c = '/' then .code else if c = '*' then .star else .blockComment
  | .string => if c = '"' then .code else if c = '\\' then .escape else .string
  | .escape => .string

/-- The code that is known to be code with this character: the character, unless a comment or a
string begins with it, and a slash before it that has begun no comment. -/
def Mode.shown (mode : Mode) (c : Char) : List Char :=
  match mode with
  | .code => if c = '"' ∨ c = '/' then [] else [c]
  | .slash => if c = '/' ∨ c = '*' then [] else if c = '"' then ['/'] else ['/', c]
  | .lineComment => if endsLine c then [c] else []
  | .blockComment | .star | .string | .escape => []

/-- Whether the character breaks a string literal over two lines. -/
def Mode.breaks (mode : Mode) (c : Char) : Bool :=
  match mode with
  | .string | .escape => c == '\n' || c == '\r'
  | _ => false

/-! ## Texts -/

/-- What a lexer has seen of a text. -/
structure Lexed where
  /-- The mode behind the text. -/
  mode : Mode
  /-- The text without its comments and strings. -/
  code : List Char
  /-- Whether a string literal goes over the end of a line. -/
  broken : Bool

/-- Go through a text. -/
def lex (mode : Mode) : List Char → Lexed
  | [] => ⟨mode, [], false⟩
  | c :: rest =>
    let lexed := lex (mode.next c) rest
    ⟨lexed.mode, mode.shown c ++ lexed.code, mode.breaks c || lexed.broken⟩

/-- The second text is met in the mode in which the first has ended. -/
theorem lex_append (mode : Mode) (a b : List Char) :
    lex mode (a ++ b) =
      ⟨(lex (lex mode a).mode b).mode, (lex mode a).code ++ (lex (lex mode a).mode b).code,
        (lex mode a).broken || (lex (lex mode a).mode b).broken⟩ := by
  induction a generalizing mode with
  -- on the first text, from any mode
  | nil => rfl
  | cons c rest ih =>
    rw [List.cons_append, lex, lex, ih]
    simp only [List.append_assoc, Bool.or_assoc]

/-! ## Brackets -/

/-- The bracket that closes what `c` opens. -/
def closing? (c : Char) : Option Char :=
  if c = '(' then some ')' else if c = '[' then some ']' else if c = '{' then some '}' else none

/-- Whether `c` closes a bracket. -/
def isClosing (c : Char) : Bool := c == ')' || c == ']' || c == '}'

/-- Close the innermost bracket, if it is closed by `c`. -/
def closeBracket (c : Char) : List Char → Option (List Char)
  | [] => none
  | top :: below => if c = top then some below else none

/-- The brackets that are open behind `c`, the innermost first, each as the bracket that closes it;
nothing if `c` closes another one than the innermost. -/
def bracket (stack : List Char) (c : Char) : Option (List Char) :=
  match closing? c with
  | some close => some (close :: stack)
  | none => if isClosing c then closeBracket c stack else some stack

/-- The brackets that are open behind some code. -/
def nest (stack code : List Char) : Option (List Char) := code.foldlM bracket stack

/-- Some code behind other code starts from the brackets that the first leaves open. -/
theorem nest_append {stack between a : List Char} (b : List Char)
    (h : nest stack a = some between) : nest stack (a ++ b) = nest between b := by
  rw [nest, List.foldlM_append]
  rw [nest] at h
  rw [h]
  rfl

/-- Only the innermost bracket is looked at. -/
theorem closeBracket_frame {stack after : List Char} {c : Char} (outer : List Char)
    (h : closeBracket c stack = some after) :
    closeBracket c (stack ++ outer) = some (after ++ outer) := by
  cases stack with
  | nil => simp [closeBracket] at h
  | cons top below =>
    rw [closeBracket] at h
    split at h
    next hTop =>
      obtain rfl := Option.some.inj h
      rw [List.cons_append, closeBracket, if_pos hTop]
    next => simp at h

/-- Brackets further out stay as they are. -/
theorem bracket_frame {stack after : List Char} {c : Char} (outer : List Char)
    (h : bracket stack c = some after) : bracket (stack ++ outer) c = some (after ++ outer) := by
  unfold bracket at h ⊢
  -- a bracket opens, closes the innermost one, or there is none
  cases hClosing : closing? c with
  | some close =>
    rw [hClosing] at h
    obtain rfl := Option.some.inj h
    rfl
  | none =>
    rw [hClosing] at h
    dsimp only at h ⊢
    split at h
    next hIsClosing =>
      rw [if_pos hIsClosing]
      exact closeBracket_frame outer h
    next hIsClosing =>
      obtain rfl := Option.some.inj h
      rw [if_neg hIsClosing]

/-- The same for a whole piece of code: what it does to the brackets does not depend on those outside of it. -/
theorem nest_frame {stack after code : List Char} (outer : List Char)
    (h : nest stack code = some after) : nest (stack ++ outer) code = some (after ++ outer) := by
  induction code generalizing stack with
  | nil =>
    obtain rfl := Option.some.inj h
    rfl
  | cons c rest ih =>
    rw [nest, List.foldlM_cons, Option.bind_eq_bind, Option.bind_eq_some_iff] at h
    obtain ⟨between, hFirst, hRest⟩ := h
    rw [nest, List.foldlM_cons, bracket_frame outer hFirst]
    exact ih hRest

/-! ## Texts in code -/

/-- Whether `c` may stand in code: it is ASCII, and neither a quote nor a backtick nor a slash. -/
def isCodeChar (c : Char) : Bool :=
  decide (c.toNat < 128) && c != '"' && c != '\x27' && c != '\x60' && c != '/'

/-- A text that stands in code where the brackets `before` are open, and behind which the brackets
`after` are open. -/
structure Lexes (before : List Char) (text : String) (after : List Char) : Prop where
  /-- It ends outside of comments and strings. -/
  inCode : (lex .code text.toList).mode = .code
  /-- Its string literals stay on their lines. -/
  unbroken : (lex .code text.toList).broken = false
  /-- What is left without comments and strings may stand in code. -/
  plain : ∀ c ∈ (lex .code text.toList).code, isCodeChar c = true
  /-- The brackets that are left match. -/
  nested : nest before (lex .code text.toList).code = some after

/-- A text in code that leaves no bracket open and closes none that it has not opened. -/
def Closed (text : String) : Prop := Lexes [] text []

/-- Of a text that ends in code and breaks no string, only what is left without comments and strings is
still to be looked at. -/
theorem lexes_of_lex {before after code : List Char} {text : String}
    (hLex : lex .code text.toList = ⟨.code, code, false⟩) (hPlain : ∀ c ∈ code, isCodeChar c = true)
    (hNested : nest before code = some after) : Lexes before text after := by
  constructor
  · rw [hLex]
  · rw [hLex]
  · rw [hLex]
    exact hPlain
  · rw [hLex]
    exact hNested

/-- Two texts one behind the other, if the second goes on with the brackets that the first leaves open. -/
theorem Lexes.append {before between after : List Char} {a b : String} (ha : Lexes before a between)
    (hb : Lexes between b after) : Lexes before (a ++ b) after := by
  constructor
  · rw [String.toList_append, lex_append, ha.inCode]
    exact hb.inCode
  · rw [String.toList_append, lex_append, ha.inCode]
    exact Bool.or_eq_false_iff.mpr ⟨ha.unbroken, hb.unbroken⟩
  · rw [String.toList_append, lex_append, ha.inCode]
    exact List.forall_mem_append.mpr ⟨ha.plain, hb.plain⟩
  · rw [String.toList_append, lex_append, ha.inCode, nest_append _ ha.nested]
    exact hb.nested

/-- A text can be put inside of further brackets, which it leaves open. -/
theorem Lexes.frame {before after : List Char} {text : String} (outer : List Char)
    (h : Lexes before text after) : Lexes (before ++ outer) text (after ++ outer) :=
  ⟨h.inCode, h.unbroken, h.plain, nest_frame outer h.nested⟩

/-- A closed text may stand anywhere in code. -/
theorem Closed.lexes {text : String} (h : Closed text) (stack : List Char) :
    Lexes stack text stack := h.frame stack

theorem Closed.append {a b : String} (ha : Closed a) (hb : Closed b) : Closed (a ++ b) :=
  Lexes.append ha hb

/-! ## Fixed texts -/

/-- Mode and open brackets behind a text, in one pass; nothing if the text is wrong on the way. -/
def follow (mode : Mode) (stack : List Char) : List Char → Option (Mode × List Char)
  | [] => some (mode, stack)
  | c :: rest =>
    if mode.breaks c || !(mode.shown c).all isCodeChar then none
    else (nest stack (mode.shown c)).bind fun stack => follow (mode.next c) stack rest

/-- One pass finds out all that there is to know of a text: where it ends, that no string is broken, that
the code is plain, and how its brackets match. -/
theorem lex_of_follow {mode last : Mode} {stack after text : List Char}
    (h : follow mode stack text = some (last, after)) :
    (lex mode text).mode = last ∧ (lex mode text).broken = false ∧
      (∀ c ∈ (lex mode text).code, isCodeChar c = true) ∧ nest stack (lex mode text).code = some after := by
  induction text generalizing mode stack with
  | nil =>
    obtain ⟨rfl, rfl⟩ := Prod.mk.inj (Option.some.inj h)
    exact ⟨rfl, rfl, by simp [lex], rfl⟩
  | cons c rest ih =>
    rw [follow] at h
    split at h
    next => simp at h
    -- nothing is wrong with the first character, so it shows plain code and breaks no string
    next hFine =>
      rw [Bool.not_eq_true, Bool.or_eq_false_iff, Bool.not_eq_false', List.all_eq_true] at hFine
      obtain ⟨between, hNest, hRest⟩ := Option.bind_eq_some_iff.mp h
      obtain ⟨hMode, hBroken, hPlain, hNested⟩ := ih hRest
      refine ⟨hMode, Bool.or_eq_false_iff.mpr ⟨hFine.1, hBroken⟩,
        List.forall_mem_append.mpr ⟨hFine.2, hPlain⟩, ?_⟩
      rw [lex, nest_append _ hNest]
      exact hNested

/-- A fixed text, followed character by character. -/
theorem lexes_literal {before after chars : List Char}
    (h : follow .code before chars = some (.code, after)) :
    Lexes before (String.ofList chars) after := by
  obtain ⟨hMode, hBroken, hPlain, hNested⟩ := lex_of_follow h
  rw [← String.toList_ofList (l := chars)] at hMode hBroken hPlain hNested
  exact ⟨hMode, hBroken, hPlain, hNested⟩

example : Closed "call(\"it's a // \\\"name\\\" (\", [x, y]); /* ] */\n" := lexes_literal rfl

/-! ## Texts put together -/

/-- A closed text between an opening and a closing one. -/
theorem Closed.between {opening text closing : String} {stack : List Char}
    (hOpening : Lexes [] opening stack) (h : Closed text) (hClosing : Lexes stack closing []) :
    Closed (opening ++ text ++ closing) :=
  (hOpening.append (h.lexes stack)).append hClosing

theorem closed_empty : Closed "" := lexes_literal rfl

/-- A row of closed texts with a closed separator between them. -/
theorem closed_intercalate {separator : String} {texts : List String} (hSeparator : Closed separator)
    (h : ∀ text ∈ texts, Closed text) : Closed (separator.intercalate texts) := by
  induction texts with
  | nil =>
    rw [String.intercalate_nil]
    exact closed_empty
  | cons text rest ih =>
    obtain ⟨hText, hRest⟩ := List.forall_mem_cons.mp h
    -- the separator is written only if another text follows
    cases rest with
    | nil =>
      rw [String.intercalate_singleton]
      exact hText
    | cons other rest =>
      rw [String.intercalate_cons_cons]
      exact (hText.append hSeparator).append (ih hRest)

end AbiBindings.TypeScript
