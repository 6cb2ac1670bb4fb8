import AbiBindings.Proofs.Layout.TextLines
import AbiBindings.Proofs.Success
import AbiBindings.Proofs.TypeScript.LexedLayout
import AbiBindings.Proofs.TypeScript.Readers

/-!
# TypeScript — comments for tools, read back

A comment begins with a slash and a star and goes on to the first star behind them with a slash. What a
comment for tools says may be any text, ends of comments and of lines included, and still the comment ends
where it has been ended on purpose. Where what it says is lines, they are read back from it, each with a
backslash in the ends of comments.

* `insideMode?_close`, `Inside.eq_empty_of_close` — what is inside of a comment does not end it;
* `Guarded`, `guarded_commentText` — a line with another text for each end of a comment in it;
* `readDoc` — margin, first and last line and stars removed;
* `docComment_comment` — a comment for tools is one comment, and says what it was given.
-/

namespace AbiBindings.TypeScript

open Layout

/-! ## The end of a comment -/

/-- A comment ends behind a star with a slash, whatever stands before and behind. -/
theorem insideMode?_close {mode : Mode} (h : mode.Commented) (before behind : List Char) :
    insideMode? mode (before ++ '*' :: '/' :: behind) = none := by
  -- on what stands before; the comment may also end in it, which is as well
  induction before generalizing mode with
  | nil => rcases h with rfl | rfl <;> rfl
  | cons c before ih =>
    rw [List.cons_append, insideMode?]
    split
    next => rfl
    next hNext => exact ih (h.next hNext)

/-- If the end of a comment is put behind a text inside of it, the comment ends there and not before. -/
theorem Inside.eq_empty_of_close {inner before behind : String} (h : Inside inner)
    (hText : inner ++ "*/" = before ++ "*/" ++ behind) : behind = "" := by
  have hEnd : "*/".toList = ['*', '/'] := rfl
  have hNone : ∀ more : List Char, inner.toList ≠ before.toList ++ '*' :: '/' :: more := by
    intro more hInner
    have hClose := insideMode?_close (Or.inl rfl) before.toList more
    rw [← hInner, h] at hClose
    exact absurd hClose (by simp)
  have hChars := congrArg String.toList hText
  rw [String.toList_append, String.toList_append, String.toList_append, hEnd,
    List.append_eq_append_iff] at hChars
  rcases hChars with ⟨shared, hBefore, hShared⟩ | ⟨more, hInner, -⟩
  -- the two ends share no character, one of them, or both
  · match shared with
    | [] =>
      rw [List.append_nil] at hBefore
      exact absurd hBefore.symm (hNone [])
    | [c] =>
      obtain ⟨rfl, -⟩ := List.cons.inj hShared
      have hLast := congrArg List.getLast? hBefore
      rw [List.getLast?_append, List.getLast?_concat] at hLast
      exact absurd hLast (by simp)
    | c :: d :: others =>
      obtain ⟨-, hTail⟩ := List.cons.inj hShared
      obtain ⟨-, hNil⟩ := List.cons.inj hTail
      exact String.toList_eq_nil_iff.mp (List.append_eq_nil_iff.mp hNil.symm).2
  · rw [List.append_assoc] at hInner
    exact absurd hInner (hNone more)

/-! ## Guarded lines -/

/-- A line with another text for each end of a comment in it. The parts are what stands between these
ends. -/
def Guarded (line guarded : String) : Prop :=
  ∃ parts : List String, (∀ part ∈ parts, ¬ "*/".toList <:+: part.toList)
    ∧ line = "*/".intercalate parts ∧ guarded = "*\\/".intercalate parts

/-- A character in front of the first item stands in front of the whole text. -/
theorem intercalate_cons {α : Type} (separator : List α) (c : α) (first : List α) (others : List (List α)) :
    separator.intercalate ((c :: first) :: others) = c :: separator.intercalate (first :: others) := by
  cases others with
  | nil => rw [List.intercalate_singleton, List.intercalate_singleton]
  | cons other others =>
    rw [List.intercalate_cons_cons, List.intercalate_cons_cons, List.append_assoc, List.append_assoc,
      List.cons_append]

/-- A text is cut at each end of a comment, and guarded it is cut at the same places. -/
theorem exists_parts (text : List Char) : ∃ (first : List Char) (others : List (List Char)),
    (∀ part ∈ first :: others, ¬ ['*', '/'] <:+: part)
      ∧ text = ['*', '/'].intercalate (first :: others)
      ∧ guardComment text = ['*', '\\', '/'].intercalate (first :: others) := by
  -- the cases are those of the guard: a star with a slash, another character, the end
  induction text using guardComment.induct with
  | case1 rest ih =>
    obtain ⟨first, others, hParts, hRest, hGuard⟩ := ih
    -- an empty part before the end of a comment that the text begins with
    refine ⟨[], first :: others, List.forall_mem_cons.mpr ⟨by decide, hParts⟩, ?_, ?_⟩
    · rw [List.intercalate_cons_cons, ← hRest]
      rfl
    · rw [List.intercalate_cons_cons, ← hGuard, guardComment]
      rfl
  | case2 c rest hNot ih =>
    obtain ⟨first, others, hParts, hRest, hGuard⟩ := ih
    obtain ⟨hFirst, hOthers⟩ := List.forall_mem_cons.mp hParts
    refine ⟨c :: first, others, List.forall_mem_cons.mpr ⟨fun hInfix => ?_, hOthers⟩, ?_, ?_⟩
    · rcases List.infix_cons_iff.mp hInfix with hPrefix | hInfix
      · obtain ⟨more, hMore⟩ := hPrefix
        obtain ⟨rfl, rfl⟩ := List.cons.inj hMore
        -- an end of a comment at the beginning would not have been passed over
        refine hNot (['*', '/'].intercalate (more :: others)) rfl ?_
        rw [hRest, ← intercalate_cons]
        rfl
      · exact hFirst hInfix
    · rw [intercalate_cons, ← hRest]
    · rw [intercalate_cons, ← hGuard, guardComment]
      exact hNot
  | case3 => exact ⟨[], [], by decide, rfl, rfl⟩

/-- **Guards.** A line in a comment has a backslash in every end of a comment, and is the same elsewhere. -/
theorem guarded_commentText (line : String) : Guarded line (commentText line) := by
  obtain ⟨first, others, hParts, hLine, hGuard⟩ := exists_parts line.toList
  -- strings are joined as lists of characters are
  have hChars : ∀ separator : String,
      separator.intercalate ((first :: others).map String.ofList)
        = String.ofList (separator.toList.intercalate (first :: others)) := by
    intro separator
    rw [← String.toList_inj, String.toList_intercalate, String.toList_ofList, List.map_map]
    exact congrArg _ ((List.map_congr_left fun _ _ => String.toList_ofList).trans (List.map_id _))
  refine ⟨(first :: others).map String.ofList, fun part hPart => ?_, ?_, ?_⟩
  · obtain ⟨chars, hChars, rfl⟩ := List.mem_map.mp hPart
    show ¬ ['*', '/'] <:+: (String.ofList chars).toList
    rw [String.toList_ofList]
    exact hParts chars hChars
  · rw [hChars]
    exact String.ofList_toList.symm.trans (congrArg String.ofList hLine)
  · rw [hChars, commentText, hGuard]
    rfl

/-! ## Reading -/

/-- What stands between a fixed beginning and a fixed end. -/
def between? (opening closing text : String) : Option String := do
  let rest ← text.toList.dropPrefix? opening.toList
  let said ← rest.dropSuffix? closing.toList
  pure (String.ofList said)

/-- What a line between the first one and the last one says. -/
def readStarred (line : String) : Option String :=
  if line = " *" then some "" else between? " * " "" line

/-- What the lines of a comment say: one line that begins and ends the comment, or starred lines between
its beginning and its end. -/
def readComment : List String → Option (List String)
  | [line] => (between? "/** " " */" line).map fun said => [said]
  | lines =>
    if lines.head? = some "/**" ∧ lines.getLast? = some " */" then lines.tail.dropLast.mapM readStarred
    else none

/-- What a comment for tools says at this margin. -/
def readDoc (width level : Nat) (text : String) : Option (List String) := do
  let lines ← (textLines text).mapM (between? (marginText width level) "")
  readComment lines

section Reading

variable {lines : List String}

/-- What stands between the two is found again, even if it looks like one of them. -/
theorem between?_eq (opening said closing : String) :
    between? opening closing (opening ++ said ++ closing) = some said := by
  have hSuffix : (said.toList ++ closing.toList).dropSuffix? closing.toList = some said.toList :=
    List.dropSuffix?_eq_some_iff.mpr ⟨closing.toList, rfl, beq_self_eq_true _⟩
  rw [between?, String.toList_append, String.toList_append, List.append_assoc, dropPrefix?_append]
  simp only [Option.bind_eq_bind, Option.bind_some, hSuffix, Option.pure_def, String.ofList_toList]

theorem between?_append (opening said : String) : between? opening "" (opening ++ said) = some said := by
  have hRead := between?_eq opening said ""
  rw [String.append_empty] at hRead
  exact hRead

/-- An inner line is read back, guarded, whether it is empty or not. -/
theorem readStarred_starredLine (line : String) :
    readStarred (starredLine line) = some (commentText line) := by
  rw [starredLine]
  by_cases hLine : line.isEmpty = true
  · obtain rfl := String.isEmpty_iff.mp hLine
    rfl
  · -- a third character tells the line from that of an empty one
    have hLong : " * " ++ commentText line ≠ " *" := by
      intro hText
      have hChars := congrArg String.toList hText
      rw [String.toList_append] at hChars
      exact absurd (congrArg List.length hChars) (by simp)
    rw [if_neg hLine, readStarred, if_neg hLong, between?_append]

/-- The lines of a comment say what they were written for. -/
theorem readComment_docLines (hSome : lines ≠ []) :
    readComment (docLines lines) = some (lines.map commentText) := by
  match lines with
  | [] => exact absurd rfl hSome
  | [line] =>
    rw [docLines, readComment, between?_eq]
    rfl
  -- with a line for the beginning and one for the end, the lines between are read one by one
  | line :: other :: rest =>
    have hInner : ((line :: other :: rest).map starredLine).mapM readStarred
        = some ((line :: other :: rest).map commentText) := by
      rw [List.mapM_map, mapM_eq_some_iff, List.forall₂_map_right_iff, List.forall₂_same]
      exact fun said _ => readStarred_starredLine said
    rw [docLines, readComment, if_pos, List.tail_cons, List.dropLast_concat, hInner]
    · exact ⟨rfl, by rw [← List.cons_append, List.getLast?_concat]⟩
    all_goals simp

/-- What a comment for tools says is read back from its text. -/
theorem readDoc_docText {width level : Nat} (hSome : lines ≠ []) (h : ∀ line ∈ lines, '\n' ∉ line.toList) :
    readDoc width level (docText width level lines) = some (lines.map commentText) := by
  have hMargins : ((docLines lines).map (marginText width level ++ ·)).mapM
      (between? (marginText width level) "") = some (docLines lines) := by
    rw [List.mapM_map, mapM_eq_some_iff, List.forall₂_same]
    exact fun line _ => between?_append (marginText width level) line
  rw [readDoc, docText_eq, textLines_linesText (unbroken_docLines h), hMargins]
  exact readComment_docLines hSome

end Reading

/-! ## Comments for tools -/

/-- **Comments.** Whatever lines a writer is given for a comment, and wherever it stands, it adds its margin,
one comment for tools that ends where no earlier end of a comment is, and the end of the line. Lines that are
lines are read back from the comment, in order, with a backslash in every end of a comment and otherwise
unchanged. -/
theorem docComment_comment {w : Writer} {lines : List String} (hReady : w.Ready) (hSome : lines ≠ []) :
    ∃ said : String,
      docComment lines w
          = .ok () (w.add (marginText w.width w.level ++ ("/**" ++ said ++ "*/") ++ "\n"))
        ∧ (∀ before behind : String, "*" ++ said ++ "*/" = before ++ "*/" ++ behind → behind = "")
        ∧ ((∀ line ∈ lines, '\n' ∉ line.toList) →
          readDoc w.width w.level (marginText w.width w.level ++ ("/**" ++ said ++ "*/") ++ "\n")
            = some (lines.map commentText))
        ∧ ∀ line ∈ lines, Guarded line (commentText line) := by
  obtain ⟨said, hInside, hText⟩ := exists_docText_eq w.width w.level hSome
  have hOpen : "/*" ++ ("*" ++ said) = "/**" ++ said := String.append_assoc.symm
  rw [hOpen] at hText
  refine ⟨said, ?_, fun _ _ => hInside.eq_empty_of_close, fun hLines => ?_,
    fun line _ => guarded_commentText line⟩
  · rw [← hText]
    exact docComment_eq hReady lines
  · rw [← hText]
    exact readDoc_docText hSome hLines

/-- A comment over three lines, one of them empty and one with the end of a comment, two levels in. -/
theorem docComment_comment_three :
    Writer.Ready { width := 2, level := 2 } ∧ ["Ends */ early.", "", "**//"] ≠ []
      ∧ ∃ said : String,
        docComment ["Ends */ early.", "", "**//"] { width := 2, level := 2 }
            = .ok () (Writer.add { width := 2, level := 2 }
              (marginText 2 2 ++ ("/**" ++ said ++ "*/") ++ "\n"))
          ∧ readDoc 2 2 (marginText 2 2 ++ ("/**" ++ said ++ "*/") ++ "\n")
            = some ["Ends *\\/ early.", "", "**\\//"] := by
  have hReady : Writer.Ready { width := 2, level := 2 } := ⟨rfl, rfl⟩
  have hSome : ["Ends */ early.", "", "**//"] ≠ [] := by decide
  obtain ⟨said, hRun, -, hRead, -⟩ := docComment_comment hReady hSome
  exact ⟨hReady, hSome, said, hRun, hRead (by decide)⟩

end AbiBindings.TypeScript
