import AbiBindings.Proofs.Layout.Lines
import AbiBindings.Proofs.TypeScript.LexedText

/-!
# TypeScript — laid out code

Code is laid out in lines, and margins are blanks, so that lines of closed text are closed wherever
they stand. A comment is another matter: what it says is arbitrary text over several lines, and only
its own end may end it. A guarded text never has a slash behind a star.

* `closed_lineComment` — a comment that ends with its line;
* `exists_insideMode_guardComment` — a guarded text does not end the comment it stands in;
* `exists_docText_eq`, `closed_docText` — a comment for tools is one block comment, whatever it says;
* `ClosedStep` — steps of closed code, line by line and block by block;
* `closed_render` — what such steps render to.
-/

namespace AbiBindings.TypeScript

open Layout

/-! ## Lines -/

/-- A margin is made of blanks, which are plain characters. -/
theorem isWordChar_of_mem_marginText {width level : Nat} :
    ∀ c ∈ (marginText width level).toList, isWordChar c = true := by
  intro c hc
  rw [marginText, String.toList_ofList] at hc
  rw [List.eq_of_mem_replicate hc]
  decide

theorem closed_marginText (width level : Nat) : Closed (marginText width level) :=
  closed_of_word isWordChar_of_mem_marginText

/-- A line leaves open what its text leaves open, on whatever level it stands. -/
theorem lexes_lineText {before after : List Char} {text : String} (width level : Nat)
    (h : Lexes before text after) : Lexes before (lineText width level text) after := by
  have hEnd : Closed "\n" := lexes_literal rfl
  rw [lineText]
  -- an empty line has no margin
  split
  next hEmpty =>
    obtain rfl := String.isEmpty_iff.mp hEmpty
    exact Lexes.append h (hEnd.lexes after)
  next =>
    exact (((closed_marginText width level).lexes before).append h).append (hEnd.lexes after)

theorem closed_lineText {text : String} (width level : Nat) (h : Closed text) :
    Closed (lineText width level text) :=
  lexes_lineText width level h

/-! ## Comments to the end of the line -/

/-- A text in which no line ends. -/
def OneLine (text : String) : Prop := ∀ c ∈ text.toList, endsLine c = false

theorem OneLine.append {a b : String} (ha : OneLine a) (hb : OneLine b) : OneLine (a ++ b) := by
  rw [OneLine, String.toList_append]
  exact List.forall_mem_append.mpr ⟨ha, hb⟩

/-- A fixed text. -/
theorem oneLine_literal {chars : List Char} (h : chars.any endsLine = false) :
    OneLine (String.ofList chars) := by
  intro c hc
  rw [String.toList_ofList] at hc
  exact Bool.eq_false_iff.mpr (List.any_eq_false.mp h c hc)

/-- A comment of this kind goes on until the line ends, and nothing of it is seen. -/
theorem lex_lineComment {text : List Char} (h : ∀ c ∈ text, endsLine c = false) :
    lex .lineComment text = ⟨.lineComment, [], false⟩ := by
  -- on the characters, each of which keeps the mode and shows nothing
  induction text with
  | nil => rfl
  | cons c rest ih =>
    obtain ⟨hHead, hRest⟩ := List.forall_mem_cons.mp h
    have hNext : Mode.lineComment.next c = .lineComment := by
      rw [Mode.next, hHead]
      rfl
    have hShown : Mode.lineComment.shown c = [] := by
      rw [Mode.shown, hHead]
      rfl
    rw [lex, hNext, hShown, ih hRest]
    rfl

/-- A comment that ends with its line. -/
theorem closed_lineComment {text : String} (h : OneLine text) : Closed ("//" ++ text ++ "\n") := by
  -- the comment is opened by the slashes and ended by the end of the line
  have hLex : lex .code ("//" ++ text ++ "\n").toList = ⟨.code, ['\n'], false⟩ := by
    rw [String.toList_append, String.toList_append, List.append_assoc, lex_append]
    have hOpen : lex .code "//".toList = ⟨.lineComment, [], false⟩ := rfl
    rw [hOpen, lex_append, lex_lineComment h]
    rfl
  exact lexes_of_lex hLex (List.all_eq_true.mp rfl) rfl

/-! ## Block comments -/

/-- A text inside a block comment that goes on behind it. -/
def InComment (text : String) : Prop := lex .blockComment text.toList = ⟨.blockComment, [], false⟩

/-- The mode behind a text that begins in a block comment, unless the comment ends in it. -/
def insideMode? (mode : Mode) : List Char → Option Mode
  | [] => some mode
  | c :: rest => if mode.next c = .code then none else insideMode? (mode.next c) rest

/-- A text inside a block comment in which the comment does not end. -/
def Inside (text : String) : Prop := insideMode? .blockComment text.toList = some .blockComment

/-- The two modes inside a block comment. -/
def Mode.Commented (mode : Mode) : Prop := mode = .blockComment ∨ mode = .star

/-- Inside a block comment, every character leads to one of the two modes or out of the comment. -/
theorem Mode.Commented.next {mode : Mode} (h : mode.Commented) {c : Char}
    (hNext : mode.next c ≠ .code) : (mode.next c).Commented := by
  -- behind anything but a star, no single character ends the comment; behind a star, a slash does
  rcases h with rfl | rfl
  · rw [Mode.next]
    split
    · exact Or.inr rfl
    · exact Or.inl rfl
  · rw [Mode.next] at hNext ⊢
    split at hNext
    next => exact absurd rfl hNext
    next hSlash =>
      rw [if_neg hSlash]
      split
      · exact Or.inr rfl
      · exact Or.inl rfl

/-- Where the comment goes on through the first text, it goes on into the second in the mode that the first
has led to. -/
theorem insideMode?_append {mode between : Mode} {a : List Char} (b : List Char)
    (h : insideMode? mode a = some between) : insideMode? mode (a ++ b) = insideMode? between b := by
  induction a generalizing mode with
  | nil =>
    obtain rfl := Option.some.inj h
    rfl
  | cons c a ih =>
    rw [insideMode?] at h
    split at h
    next => simp at h
    next hNext =>
      rw [List.cons_append, insideMode?, if_neg hNext]
      exact ih h

/-- Nothing of such a text is seen. -/
theorem lex_of_insideMode {mode last : Mode} {text : List Char} (hMode : mode.Commented)
    (h : insideMode? mode text = some last) : lex mode text = ⟨last, [], false⟩ := by
  -- on the characters; a comment that goes on shows nothing
  induction text generalizing mode with
  | nil =>
    obtain rfl := Option.some.inj h
    rfl
  | cons c text ih =>
    rw [insideMode?] at h
    split at h
    next => simp at h
    next hNext =>
      rw [lex, ih (hMode.next hNext) h]
      rcases hMode with rfl | rfl <;> rfl

/-- Where the comment goes on, nothing is seen. -/
theorem Inside.inComment {text : String} (h : Inside text) : InComment text :=
  lex_of_insideMode (Or.inl rfl) h

theorem Inside.append {a b : String} (ha : Inside a) (hb : Inside b) : Inside (a ++ b) := by
  rw [Inside, String.toList_append, insideMode?_append b.toList ha]
  exact hb

/-- A block comment is closed. -/
theorem closed_blockComment {inner : String} (h : InComment inner) :
    Closed ("/*" ++ inner ++ "*/") := by
  have hLex : lex .code ("/*" ++ inner ++ "*/").toList = ⟨.code, [], false⟩ := by
    rw [String.toList_append, String.toList_append, List.append_assoc, lex_append]
    have hOpen : lex .code "/*".toList = ⟨.blockComment, [], false⟩ := rfl
    rw [hOpen, lex_append, h]
    rfl
  exact lexes_of_lex hLex (List.forall_mem_nil _) rfl

/-- A star does not matter unless a slash is behind it. -/
theorem insideMode?_star_cons {c : Char} {rest : List Char} (h : c ≠ '/') :
    insideMode? .star (c :: rest) = insideMode? .blockComment (c :: rest) := by
  have hNext : Mode.star.next c = Mode.blockComment.next c := by
    rw [Mode.next, Mode.next]
    exact if_neg h
  rw [insideMode?, insideMode?, hNext]

/-- Guarding keeps the first character, so it cannot bring a slash behind a star. -/
theorem head?_guardComment (text : List Char) : (guardComment text).head? = text.head? := by
  unfold guardComment
  split <;> rfl

/-- **Comments.** A guarded text does not end the comment it stands in. It may end in a star. -/
theorem exists_insideMode_guardComment (text : List Char) :
    ∃ mode : Mode, mode.Commented ∧ insideMode? .blockComment (guardComment text) = some mode := by
  -- the cases are those of the guard: a star with a slash, another character, the end
  induction text using guardComment.induct with
  | case1 rest ih =>
    obtain ⟨mode, hMode, hInside⟩ := ih
    refine ⟨mode, hMode, ?_⟩
    rw [guardComment]
    -- behind the backslash the star no longer counts
    show insideMode? .blockComment (guardComment rest) = _
    exact hInside
  | case2 c rest hGuard ih =>
    obtain ⟨mode, hMode, hInside⟩ := ih
    rw [guardComment]
    · by_cases hStar : c = '*'
      · subst hStar
        show ∃ mode, _ ∧ insideMode? .star (guardComment rest) = _
        -- behind the star stands no slash, or the text would have been guarded there
        have hHead := head?_guardComment rest
        cases hRest : guardComment rest with
        | nil => exact ⟨.star, Or.inr rfl, rfl⟩
        | cons next others =>
          have hSlash : next ≠ '/' := by
            intro hEq
            subst hEq
            rw [hRest, List.head?_cons] at hHead
            obtain ⟨others', hText⟩ := List.head?_eq_some_iff.mp hHead.symm
            exact hGuard others' rfl hText
          rw [hRest] at hInside
          exact ⟨mode, hMode, by rw [insideMode?_star_cons hSlash, hInside]⟩
      · have hNext : Mode.blockComment.next c = .blockComment := by
          rw [Mode.next, if_neg hStar]
        refine ⟨mode, hMode, ?_⟩
        rw [insideMode?, hNext]
        exact hInside
    · exact hGuard
  | case3 => exact ⟨.blockComment, Or.inl rfl, rfl⟩

/-- A margin has neither a star nor a slash in it. -/
theorem inside_marginText (width level : Nat) : Inside (marginText width level) := by
  rw [Inside, marginText, String.toList_ofList]
  -- blanks, one after the other
  induction level * width with
  | zero => rfl
  | succ count ih =>
    rw [List.replicate_succ]
    exact ih

/-- Behind a guarded text, a blank or the end of the line makes up for a star at its end. -/
theorem inside_commentText (line : String) {close : String} (hClose : close = " " ∨ close = "\n") :
    Inside (commentText line ++ close) := by
  obtain ⟨mode, hMode, hInside⟩ := exists_insideMode_guardComment line.toList
  rw [Inside, String.toList_append, commentText, String.toList_ofList, insideMode?_append _ hInside]
  rcases hMode with rfl | rfl <;> rcases hClose with rfl | rfl <;> rfl

/-- A line inside a comment, whose margin and end are inside of it as well. -/
theorem inside_lineText {text : String} (width level : Nat) (h : Inside (text ++ "\n")) :
    Inside (lineText width level text) := by
  rw [lineText]
  split
  · exact (rfl : Inside "\n")
  · rw [String.append_assoc]
    exact (inside_marginText width level).append h

/-- An inner line says its text behind a star of its own, with a blank between them. -/
theorem inside_starredLine (line : String) : Inside (starredLine line ++ "\n") := by
  have hStar : Inside " * " := rfl
  rw [starredLine]
  split
  · rfl
  · rw [String.append_assoc]
    exact hStar.append (inside_commentText line (Or.inr rfl))

/-- All inner lines, each with its margin. -/
theorem inside_starredLines (width level : Nat) (lines : List String) :
    Inside (linesText width level (lines.map starredLine)) := by
  induction lines with
  | nil => rfl
  | cons line rest ih =>
    rw [List.map_cons, linesText]
    exact (inside_lineText width level (inside_starredLine line)).append ih

/-- Between its margin and the end of its last line, a comment for tools is one block comment, with what it
says inside of it. -/
theorem exists_docText_eq (width level : Nat) {lines : List String} (hSome : lines ≠ []) :
    ∃ said, Inside ("*" ++ said) ∧
      docText width level lines = marginText width level ++ ("/*" ++ ("*" ++ said) ++ "*/") ++ "\n" := by
  have hClose : " */" = " " ++ "*/" := rfl
  match lines with
  -- without lines there is no comment, one line is written beside the stars, and several below each other
  | [] => exact absurd rfl hSome
  | [line] =>
    have hOpen : "/** " = "/*" ++ ("*" ++ " ") := rfl
    have hFull : ¬ ("/** " ++ commentText line ++ " */").isEmpty = true := by simp [String.isEmpty_iff]
    have hStar : Inside ("*" ++ " ") := rfl
    refine ⟨" " ++ (commentText line ++ " "), ?_, ?_⟩
    · rw [← String.append_assoc]
      exact hStar.append (inside_commentText line (Or.inl rfl))
    · rw [docText, lineText, if_neg hFull, hOpen, hClose]
      simp only [String.append_assoc]
  | line :: other :: rest =>
    -- the first line and the last one have nothing on them but the comment's own stars
    have hFirst : lineText width level "/**" = marginText width level ++ ("/*" ++ "*") ++ "\n" := rfl
    have hLast : lineText width level " */" = marginText width level ++ " */" ++ "\n" := rfl
    have hStar : Inside ("*" ++ "\n") := rfl
    have hEnd : Inside (marginText width level ++ " ") := (inside_marginText width level).append rfl
    refine ⟨"\n" ++ (linesText width level ((line :: other :: rest).map starredLine)
      ++ (marginText width level ++ " ")), ?_, ?_⟩
    · rw [← String.append_assoc]
      exact hStar.append ((inside_starredLines width level _).append hEnd)
    · rw [docText, hFirst, hLast, hClose]
      · simp only [String.append_assoc]
      all_goals simp

/-- **Comments for tools** are closed, whatever they say. -/
theorem closed_docText (width level : Nat) (lines : List String) :
    Closed (docText width level lines) := by
  by_cases hSome : lines = []
  · rw [hSome]
    exact closed_empty
  · obtain ⟨said, hInside, hText⟩ := exists_docText_eq width level hSome
    rw [hText]
    exact ((closed_marginText width level).append (closed_blockComment hInside.inComment)).append
      (lexes_literal rfl)

/-! ## Steps -/

/-- Steps that are closed each are closed in a row. -/
theorem closed_stepsText {width level : Nat} {steps : List Step}
    (h : ∀ step ∈ steps, Closed (step.text width level)) : Closed (stepsText width level steps) := by
  induction steps with
  | nil => exact closed_empty
  | cons step rest ih =>
    obtain ⟨hStep, hRest⟩ := List.forall_mem_cons.mp h
    rw [stepsText]
    exact hStep.append (ih hRest)

/-- A step that writes whole lines, and closed code, in whatever layout. -/
structure ClosedStep (step : Step) : Prop where
  linewise : step.linewise = true
  closed : ∀ width level, Closed (step.text width level)

theorem closedStep_line {text : String} (h : Closed text) : ClosedStep (.line text) :=
  ⟨rfl, fun width level => closed_lineText width level h⟩

/-- A fixed line. -/
theorem closedStep_literal {chars : List Char} (h : follow .code [] chars = some (.code, [])) :
    ClosedStep (.line (String.ofList chars)) :=
  closedStep_line (lexes_literal h)

/-- A line that is all comment. -/
theorem closedStep_lineComment {text : String} (h : OneLine text) :
    ClosedStep (.line ("//" ++ text)) := by
  refine ⟨rfl, fun width level => ?_⟩
  have hNonempty : ¬ ("//" ++ text).isEmpty := by simp [String.isEmpty_iff]
  rw [Step.text, lineText, if_neg hNonempty, String.append_assoc]
  exact (closed_marginText width level).append (closed_lineComment h)

theorem closedStep_blank : ClosedStep .blank :=
  ⟨rfl, fun _ _ => (lexes_literal rfl : Closed "\n")⟩

theorem closedStep_doc (lines : List String) : ClosedStep (.doc lines) :=
  ⟨rfl, fun width level => closed_docText width level lines⟩

/-- Steps on a deeper level, where other margins make no difference. -/
theorem closedStep_nested {body : List Step} (h : ∀ step ∈ body, ClosedStep step) :
    ClosedStep (.nested body) := by
  constructor
  · exact linewiseSteps_iff.mpr fun step hStep => (h step hStep).linewise
  · intro width level
    exact closed_stepsText fun step hStep => (h step hStep).closed width (level + 1)

/-- A block closes the brace that its header opens. -/
theorem closed_block {width level : Nat} {header : String} {body : List Step} (hHeader : Closed header)
    (hBody : Closed (stepsText width (level + 1) body)) :
    Closed ((Step.block header body).text width level) := by
  have hOpen : Lexes [] (header ++ " \x7b") ['}'] := Lexes.append hHeader (lexes_literal rfl)
  have hClose : Lexes ['}'] "\x7d" [] := lexes_literal rfl
  rw [Step.text]
  exact (lexes_lineText width level hOpen).append
    ((hBody.lexes ['}']).append (lexes_lineText width level hClose))

/-- A block, from a closed header and steps that are closed. -/
theorem closedStep_block {header : String} {body : List Step} (hHeader : Closed header)
    (h : ∀ step ∈ body, ClosedStep step) : ClosedStep (.block header body) := by
  constructor
  · exact linewiseSteps_iff.mpr fun step hStep => (h step hStep).linewise
  · intro width level
    exact closed_block hHeader
      (closed_stepsText fun step hStep => (h step hStep).closed width (level + 1))

/-- What closed steps render to is closed. -/
theorem closed_render {width : Nat} {steps : List Step} (h : ∀ step ∈ steps, ClosedStep step) :
    Closed (render width steps) := by
  rw [render_eq (linewiseSteps_iff.mpr fun step hStep => (h step hStep).linewise)]
  exact closed_stepsText fun step hStep => (h step hStep).closed width 0

end AbiBindings.TypeScript
