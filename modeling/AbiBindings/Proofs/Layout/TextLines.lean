import AbiBindings.Proofs.Layout.Lines
import Mathlib.Data.List.Basic

/-!
# Layout — the lines of a laid out text

A laid out text is read as a list of lines, and the lines as parts with an empty line between them. Of
steps one wants to know which lines they come to; margins are part of a line here.

* `textLines`, `sections` — the lines of a text, and its parts between empty lines;
* `Lays` — the lines that steps come to, with a lemma for each kind of step;
* `textLines_render` — the lines of a rendering;
* `sections_flatMap` — parts with an empty line before each are told apart again.
-/

namespace AbiBindings.Layout

/-! ## Reading -/

/-- The lines of a text in which every line is ended. -/
def textLines (text : String) : List String := (text.toList.splitOn '\n').dropLast.map String.ofList

/-- Lines between empty lines. -/
def sectionsOf (lines : List String) : List (List String) := lines.splitOn ""

/-- The parts of a text between its empty lines. -/
def sections (text : String) : List (List String) := sectionsOf (textLines text)

/-- **Parts.** Parts of lines with an empty line before each are told apart again. -/
theorem sections_flatMap {first : List String} {parts : List (List String)} (hFirst : "" ∉ first)
    (hParts : ∀ part ∈ parts, "" ∉ part) :
    sectionsOf (first ++ parts.flatMap ("" :: ·)) = first :: parts := by
  induction parts generalizing first with
  | nil =>
    rw [List.flatMap_nil, List.append_nil]
    exact List.splitOn_eq_singleton hFirst
  | cons part parts ih =>
    obtain ⟨hPart, hOthers⟩ := List.forall_mem_cons.mp hParts
    -- the first part ends at the empty line that the next one brings along
    have hRest := ih hPart hOthers
    rw [sectionsOf] at hRest ⊢
    rw [List.flatMap_cons, List.cons_append, List.splitOn_append_cons_self_of_not_mem hFirst, hRest]

/-! ## Lines of steps -/

/-- The lines that steps come to with this width and level, whatever is behind them. -/
def Lays (width level : Nat) (steps : List Step) (lines : List String) : Prop :=
  ∀ rest : String, (stepsText width level steps ++ rest).toList.splitOn '\n'
    = lines.map String.toList ++ rest.toList.splitOn '\n'

/-- A line that is not empty and not broken. -/
structure Unbroken (text : String) : Prop where
  nonempty : text ≠ ""
  oneLine : '\n' ∉ text.toList

section Lays

variable {width level : Nat} {step : Step} {steps others : List Step} {lines more : List String}
  {text : String}

theorem lays_nil : Lays width level [] [] := by
  intro rest
  rw [stepsText, String.empty_append]
  rfl

theorem Lays.append (h : Lays width level steps lines) (hOthers : Lays width level others more) :
    Lays width level (steps ++ others) (lines ++ more) := by
  intro rest
  rw [stepsText_append, String.append_assoc, h, hOthers, List.map_append, List.append_assoc]

theorem Lays.cons (h : Lays width level [step] lines) (hOthers : Lays width level others more) :
    Lays width level (step :: others) (lines ++ more) := by
  rw [← List.singleton_append]
  exact h.append hOthers

/-- Steps for each of several things come to lines for each of them. -/
theorem lays_flatMap {α : Type} {as : List α} {f : α → List Step} {g : α → List String}
    (h : ∀ a ∈ as, Lays width level (f a) (g a)) : Lays width level (as.flatMap f) (as.flatMap g) := by
  induction as with
  | nil => exact lays_nil
  | cons a as ih =>
    obtain ⟨hFirst, hOthers⟩ := List.forall_mem_cons.mp h
    rw [List.flatMap_cons, List.flatMap_cons]
    exact hFirst.append (ih hOthers)

/-- One line that is ended. -/
theorem splitOn_line {line : String} (h : '\n' ∉ line.toList) (rest : String) :
    (line ++ "\n" ++ rest).toList.splitOn '\n' = [line].map String.toList ++ rest.toList.splitOn '\n' := by
  have hEnd : "\n".toList = ['\n'] := rfl
  have hText : (line ++ "\n" ++ rest).toList = line.toList ++ '\n' :: rest.toList := by
    rw [String.toList_append, String.toList_append, hEnd, List.append_assoc]
    rfl
  -- the first line break is the one behind the line, since there is none in it
  rw [hText, List.splitOn_append_cons_self_of_not_mem h]
  rfl

/-- A margin is made of blanks, so it breaks no line. -/
theorem newline_not_mem_margin (h : '\n' ∉ text.toList) (width level : Nat) :
    '\n' ∉ (marginText width level ++ text).toList := by
  rw [String.toList_append, marginText, String.toList_ofList, List.mem_append]
  rintro (hMargin | hText)
  · exact absurd (List.eq_of_mem_replicate hMargin) (by decide)
  · exact h hText

theorem lays_line (h : Unbroken text) :
    Lays width level [.line text] [marginText width level ++ text] := by
  intro rest
  have hSome : ¬ text.isEmpty = true := fun hEmpty => h.nonempty (String.isEmpty_iff.mp hEmpty)
  rw [stepsText, stepsText, String.append_empty, Step.text, lineText, if_neg hSome]
  exact splitOn_line (newline_not_mem_margin h.oneLine width level) rest

theorem lays_blank : Lays width level [.blank] [""] := by
  intro rest
  have hEmpty := @splitOn_line "" List.not_mem_nil rest
  exact hEmpty

/-- What is nested comes to the lines that it has one level deeper. -/
theorem Lays.nested (h : Lays width (level + 1) steps lines) : Lays width level [.nested steps] lines := by
  intro rest
  rw [stepsText, stepsText, String.append_empty, Step.text]
  exact h rest

/-- A block comes to its header with a brace, the lines of its body one level deeper, and a brace. -/
theorem Lays.block {header : String} (hHeader : '\n' ∉ header.toList)
    (h : Lays width (level + 1) steps lines) :
    Lays width level [.block header steps]
      ((marginText width level ++ (header ++ " \x7b")) :: (lines ++ [marginText width level ++ "\x7d"])) := by
  have hOpen : Unbroken (header ++ " \x7b") := by
    have hBrace : '\n' ∉ " \x7b".toList := by decide
    refine ⟨fun hEmpty => absurd (String.append_eq_empty_iff.mp hEmpty).2 (by decide), ?_⟩
    rw [String.toList_append, List.mem_append]
    exact fun hLine => hLine.elim hHeader hBrace
  have hClose : Unbroken "\x7d" := ⟨by decide, by decide⟩
  -- a block is its first line, its body one level deeper, and its last line
  have hLines := Lays.cons (lays_line hOpen) (h.nested.append (lays_line hClose))
  intro rest
  have hText := hLines rest
  simp only [stepsText, Step.text, String.append_empty, List.cons_append, List.nil_append] at hText ⊢
  exact hText

/-- A comment without lines is no comment. -/
theorem lays_doc_nil : Lays width level [.doc []] [] := by
  intro rest
  rw [stepsText, stepsText, Step.text, docText, String.empty_append, String.empty_append]
  rfl

/-- Guarding a comment adds nothing but backslashes. -/
theorem mem_guardComment {c : Char} {chars : List Char} (h : c ∈ guardComment chars) :
    c = '\\' ∨ c ∈ chars := by
  -- a star before a slash, which is guarded; any other character; the end
  fun_induction guardComment chars with
  | case1 rest ih =>
    rcases List.mem_cons.mp h with rfl | h
    · exact Or.inr List.mem_cons_self
    rcases List.mem_cons.mp h with rfl | h
    · exact Or.inl rfl
    rcases List.mem_cons.mp h with rfl | h
    · exact Or.inr (List.mem_cons_of_mem _ List.mem_cons_self)
    exact (ih h).imp_right fun hRest => List.mem_cons_of_mem _ (List.mem_cons_of_mem _ hRest)
  | case2 first rest _ ih =>
    rcases List.mem_cons.mp h with rfl | h
    · exact Or.inr List.mem_cons_self
    exact (ih h).imp_right (List.mem_cons_of_mem _)
  | case3 => exact absurd h List.not_mem_nil

/-- A text that is not broken is not broken by guarding it either. -/
theorem newline_not_mem_commentText (h : '\n' ∉ text.toList) : '\n' ∉ (commentText text).toList := by
  rw [commentText, String.toList_ofList]
  exact fun hMem => (mem_guardComment hMem).elim (by decide) h

/-- A text with another behind it, which breaks no line but may be empty. -/
theorem Unbroken.append {a b : String} (ha : Unbroken a) (hb : '\n' ∉ b.toList) : Unbroken (a ++ b) := by
  refine ⟨fun hEmpty => ha.nonempty (String.append_eq_empty_iff.mp hEmpty).1, ?_⟩
  rw [String.toList_append, List.mem_append]
  exact fun hMem => hMem.elim ha.oneLine hb

/-- An inner line of a comment is never empty: there is always a star in it. -/
theorem unbroken_starredLine (h : '\n' ∉ text.toList) : Unbroken (starredLine text) := by
  have hStar : Unbroken " * " := ⟨by decide, by decide⟩
  rw [starredLine]
  split
  · exact ⟨by decide, by decide⟩
  · exact hStar.append (newline_not_mem_commentText h)

/-- A comment is written on lines that are not empty, and not broken if what it says is not. -/
theorem unbroken_docLines {said : List String} (h : ∀ line ∈ said, '\n' ∉ line.toList) :
    ∀ line ∈ docLines said, Unbroken line := by
  intro line hLine
  match said with
  | [] => exact absurd hLine List.not_mem_nil
  | [only] =>
    have hOpen : Unbroken "/** " := ⟨by decide, by decide⟩
    rw [List.mem_singleton.mp hLine]
    exact (hOpen.append (newline_not_mem_commentText (h only List.mem_cons_self))).append (by decide)
  | first :: second :: rest =>
    -- the first line and the last are the same in all comments
    rcases List.mem_cons.mp hLine with rfl | hLine
    · exact ⟨by decide, by decide⟩
    rcases List.mem_append.mp hLine with hLine | hLine
    · obtain ⟨inner, hInner, rfl⟩ := List.mem_map.mp hLine
      exact unbroken_starredLine (h inner hInner)
    · rw [List.mem_singleton.mp hLine]
      exact ⟨by decide, by decide⟩

/-- A comment for tools on one line. -/
theorem lays_doc (hLine : '\n' ∉ text.toList) :
    Lays width level [.doc [text]] [marginText width level ++ ("/** " ++ commentText text ++ " */")] :=
  lays_line (unbroken_docLines (List.forall_mem_singleton.mpr hLine) _ List.mem_cons_self)

/-- **Lines.** The lines of a rendering. -/
theorem textLines_render (hLinewise : linewiseSteps steps = true) (h : Lays width 0 steps lines) :
    textLines (render width steps) = lines := by
  -- what is behind the last line break is no line
  have hText := h ""
  have hNothing : "".toList.splitOn '\n' = [[]] := rfl
  rw [String.append_empty, hNothing] at hText
  rw [textLines, render_eq hLinewise, hText, List.dropLast_concat, List.map_map]
  exact (List.map_congr_left fun line _ => String.ofList_toList).trans (List.map_id _)

/-- The lines of lines that are written one after the other. -/
theorem textLines_linesText (h : ∀ line ∈ lines, Unbroken line) :
    textLines (linesText width level lines) = lines.map (marginText width level ++ ·) := by
  induction lines with
  | nil => rfl
  -- on the lines; each of them is split off at its end
  | cons line rest ih =>
    obtain ⟨hLine, hRest⟩ := List.forall_mem_cons.mp h
    have hSome : ¬ line.isEmpty = true := fun hEmpty => hLine.nonempty (String.isEmpty_iff.mp hEmpty)
    have hFirst := splitOn_line (newline_not_mem_margin hLine.oneLine width level)
      (linesText width level rest)
    rw [List.map_cons, ← ih hRest, linesText, lineText, if_neg hSome, textLines, hFirst, textLines]
    rw [List.map_singleton, List.singleton_append, List.dropLast_cons_of_ne_nil (List.splitOn_ne_nil _ _),
      List.map_cons, String.ofList_toList]

end Lays

end AbiBindings.Layout
