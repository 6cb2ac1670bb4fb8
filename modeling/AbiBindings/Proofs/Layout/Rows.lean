import AbiBindings.Proofs.Layout.Levels
import AbiBindings.Proofs.Layout.TextLines
import Mathlib.Data.List.ReduceOption

/-!
# Layout — lines and the guards that are alive

What any steps lay out, texts inside of lines and guards taken and returned in any order included, is seen
as a list of marks: a text that is written, with the number of guards that are alive then, or the end of a
line. The ends of lines cut the list into rows. A row comes to the margin for its first text that is not
empty, followed by all of its texts, and a row without such a text comes to nothing.

* `Written`, `rows`, `rowText` — marks, the rows that they make, and what a row comes to;
* `Step.held`, `Step.marks` — the guards that a step leaves held, and the marks that it makes;
* `marksText`, `marksText_eq_rows` — the text of marks in one pass, and row by row;
* `Makes`, `Step.makes_run` — on a sink without bound, a step makes its marks;
* `runSteps_rows` — steps lay out their rows, and the level is right all along.
-/

namespace AbiBindings.Layout

/-! ## Rows -/

/-- A text, with the number of guards that are alive while it is written. -/
structure Written where
  alive : Nat
  text : String
  deriving DecidableEq

/-- The rows that marks make: what is written between the ends of lines. -/
def rows (marks : List (Option Written)) : List (List Written) :=
  (marks.splitOn none).map List.reduceOption

/-- The margin of a row, for the guards alive when the first text is written that is not empty. -/
def rowMargin (width : Nat) (row : List Written) : String :=
  (row.find? (·.text ≠ "")).elim "" fun first => marginText width first.alive

/-- The text of a row. -/
def rowText (width : Nat) (row : List Written) : String :=
  rowMargin width row ++ String.join (row.map Written.text)

/-! ## Steps -/

/-- The guards that are held behind the return of one of them; there is nothing to return at a position
where none is held. -/
def heldWithout (held position : Nat) : Nat := if position < held then held - 1 else held

/-- A line that is written as a whole. -/
def lineMarks (alive : Nat) (text : String) : List (Option Written) := [some ⟨alive, text⟩, none]

mutual

/-- The guards that are held behind a step. A block returns its own guard and no other. -/
def Step.held (held : Nat) : Step → Nat
  | .write _ | .line _ | .blank | .doc _ => held
  | .indent => held + 1
  | .drop guard => heldWithout held guard
  | .nested body | .block _ body => stepsHeld held body

/-- The guards that are held behind several steps. -/
def stepsHeld (held : Nat) : List Step → Nat
  | [] => held
  | step :: rest => stepsHeld (step.held held) rest

end

mutual

/-- The marks that a step makes where this many blocks are open and this many guards are held. The guard
of a block is alive in its body, and not any more when the brace is written that closes it. -/
def Step.marks (blocks held : Nat) : Step → List (Option Written)
  | .write text => [some ⟨blocks + held, text⟩]
  | .line text => lineMarks (blocks + held) text
  | .blank => [none]
  | .doc lines => (docLines lines).flatMap (lineMarks (blocks + held))
  | .indent | .drop _ => []
  | .nested body => stepsMarks (blocks + 1) held body
  | .block header body =>
    lineMarks (blocks + held) (header ++ " \x7b")
      ++ (stepsMarks (blocks + 1) held body ++ lineMarks (blocks + stepsHeld held body) "\x7d")

/-- The marks that several steps make. -/
def stepsMarks (blocks held : Nat) : List Step → List (Option Written)
  | [] => []
  | step :: rest => step.marks blocks held ++ stepsMarks blocks (step.held held) rest

end

mutual

/-- The texts in a step. -/
def Step.texts : Step → List String
  | .write text | .line text => [text]
  | .blank | .indent | .drop _ => []
  | .doc lines => lines
  | .nested body => stepsTexts body
  | .block header body => header :: stepsTexts body

/-- The texts in several steps. -/
def stepsTexts : List Step → List String
  | [] => []
  | step :: rest => step.texts ++ stepsTexts rest

end

/-! ## The text of marks -/

/-- The text of marks where a line has been begun or has not. -/
def marksText (width : Nat) (fresh : Bool) : List (Option Written) → String
  | [] => ""
  | none :: rest => "\n" ++ marksText width true rest
  | some written :: rest =>
    if written.text = "" then marksText width fresh rest
    else (if fresh then marginText width written.alive else "") ++ written.text ++ marksText width false rest

/-- Whether nothing stands on the line behind marks. -/
def freshAfter (fresh : Bool) : List (Option Written) → Bool
  | [] => fresh
  | none :: rest => freshAfter true rest
  | some written :: rest => freshAfter (if written.text = "" then fresh else false) rest

section Text

variable {width : Nat} {fresh : Bool} {written : Written} {row : List Written}
  {others : List (List Written)} {marks : List (Option Written)}

/-- Behind more marks, the line is where those behind have left it. -/
theorem freshAfter_append (fresh : Bool) (marks more : List (Option Written)) :
    freshAfter fresh (marks ++ more) = freshAfter (freshAfter fresh marks) more := by
  induction marks generalizing fresh with
  | nil => rfl
  | cons mark marks ih => cases mark <;> exact ih _

/-- The text of marks is put together from its parts, the second of which goes on with the line of the
first. -/
theorem marksText_append (width : Nat) (fresh : Bool) (marks more : List (Option Written)) :
    marksText width fresh (marks ++ more)
      = marksText width fresh marks ++ marksText width (freshAfter fresh marks) more := by
  induction marks generalizing fresh with
  | nil => exact String.empty_append.symm
  | cons mark marks ih =>
    cases mark with
    | none => rw [List.cons_append, marksText, marksText, freshAfter, ih, String.append_assoc]
    | some written =>
      -- an empty text leaves the line as it was, any other begins it
      rw [List.cons_append, marksText, marksText, freshAfter]
      split
      · exact ih fresh
      · rw [ih]
        simp only [String.append_assoc]

/-- The end of a line ends the first row, which is empty if nothing is before it. -/
theorem rows_none (marks : List (Option Written)) : rows (none :: marks) = [] :: rows marks := by
  rw [rows, List.splitOn_eq_splitOnP, List.splitOnP_cons_eq_if_modifyHead, if_pos (beq_self_eq_true _),
    List.map_cons, ← List.splitOn_eq_splitOnP]
  rfl

/-- A text stands in the first row. -/
theorem rows_some (hRows : rows marks = row :: others) (written : Written) :
    rows (some written :: marks) = (written :: row) :: others := by
  have hNot : ¬ (some written == (none : Option Written)) = true := by simp
  rw [rows, List.splitOn_eq_splitOnP] at hRows ⊢
  -- a text is no end of a line, so it goes to the row that is there
  rw [List.splitOnP_cons_eq_if_modifyHead, if_neg hNot]
  generalize marks.splitOnP (· == none) = parts at hRows
  cases parts with
  | nil => exact absurd hRows (by simp)
  | cons first rest =>
    obtain ⟨rfl, rfl⟩ := List.cons.inj hRows
    rfl

/-- There is always a first row. -/
theorem exists_rows_eq (marks : List (Option Written)) : ∃ row others, rows marks = row :: others := by
  cases hRows : rows marks with
  | nil => exact absurd (List.map_eq_nil_iff.mp hRows) (List.splitOn_ne_nil _ _)
  | cons row others => exact ⟨row, others, rfl⟩

/-- An empty text changes nothing about a row. -/
theorem rowText_cons_empty (h : written.text = "") : rowText width (written :: row) = rowText width row := by
  rw [rowText, rowText, rowMargin, rowMargin, List.map_cons, String.join_cons, h, String.empty_append,
    List.find?_cons_of_neg (by simp [h])]

/-- The first text that is not empty fixes the margin. -/
theorem rowText_cons (h : written.text ≠ "") :
    rowText width (written :: row)
      = marginText width written.alive ++ (written.text ++ String.join (row.map Written.text)) := by
  rw [rowText, rowMargin, List.map_cons, String.join_cons, List.find?_cons_of_pos (by simp [h])]
  rfl

/-- A text before the first of several parts stands before all of them. -/
theorem intercalate_append_cons (separator text first : String) (others : List String) :
    separator.intercalate ((text ++ first) :: others) = text ++ separator.intercalate (first :: others) := by
  cases others with
  | nil => rw [String.intercalate_singleton, String.intercalate_singleton]
  | cons other others =>
    rw [String.intercalate_cons_cons, String.intercalate_cons_cons, String.append_assoc, String.append_assoc,
      String.append_assoc]

/-- The text of marks, row by row. Where a line has been begun, the first row goes on with it and has no
margin of its own. -/
theorem marksText_eq (hRows : rows marks = row :: others) :
    marksText width fresh marks = "\n".intercalate
      ((if fresh then rowText width row else String.join (row.map Written.text))
        :: others.map (rowText width)) := by
  -- on the marks, for a line that has been begun and for one that has not
  induction marks generalizing fresh row others with
  | nil =>
    obtain ⟨rfl, rfl⟩ := List.cons.inj hRows
    cases fresh <;> rfl
  | cons mark marks ih =>
    obtain ⟨first, rest, hFirst⟩ := exists_rows_eq marks
    cases mark with
    | none =>
      rw [rows_none] at hRows
      obtain ⟨rfl, rfl⟩ := List.cons.inj hRows
      -- nothing is written on the line that ends here
      have hEmpty : (if fresh then rowText width [] else String.join ([].map Written.text)) = "" := by
        cases fresh <;> rfl
      rw [marksText, ih hFirst, if_pos rfl, hEmpty, hFirst, List.map_cons, String.intercalate_cons_cons,
        String.empty_append]
    | some written =>
      rw [rows_some hFirst] at hRows
      obtain ⟨rfl, rfl⟩ := List.cons.inj hRows
      rw [marksText]
      by_cases hEmpty : written.text = ""
      -- an empty text leaves the line as it is
      · rw [if_pos hEmpty, ih hFirst, rowText_cons_empty hEmpty, List.map_cons, String.join_cons, hEmpty,
          String.empty_append]
      -- any other begins it, so that no margin comes behind
      · rw [if_neg hEmpty, ih hFirst, if_neg Bool.false_ne_true, ← intercalate_append_cons,
          rowText_cons hEmpty, List.map_cons, String.join_cons]
        cases fresh
        · rw [if_neg Bool.false_ne_true, if_neg Bool.false_ne_true, String.empty_append]
        · rw [if_pos rfl, if_pos rfl, String.append_assoc]

/-- **Rows.** The text of marks on a page that is still empty is that of their rows. -/
theorem marksText_eq_rows (width : Nat) (marks : List (Option Written)) :
    marksText width true marks = "\n".intercalate ((rows marks).map (rowText width)) := by
  obtain ⟨row, others, hRows⟩ := exists_rows_eq marks
  rw [marksText_eq hRows, hRows, List.map_cons, if_pos rfl]

end Text

/-! ## Making marks -/

/-- A writer on a sink without bound, with a right level: this many open blocks and this many held guards. -/
def page (width blocks held : Nat) (fresh : Bool) (text : String) : Writer :=
  { width, level := blocks + held, guards := held, atLineStart := fresh, sink := ⟨text, none⟩ }

/-- An action that makes these marks where this many blocks are open and this many guards are held, and
leaves `later` guards held. -/
def Makes (x : Writing Unit) (blocks held later : Nat) (marks : List (Option Written)) : Prop :=
  ∀ (width : Nat) (fresh : Bool) (text : String),
    x (page width blocks held fresh text)
      = .ok () (page width blocks later (freshAfter fresh marks) (text ++ marksText width fresh marks))

/-- The margin that is still to be written on a line. -/
def Writer.lineMargin (w : Writer) : String := if w.atLineStart then marginText w.width w.level else ""

/-- A text that is not empty is written behind the margin, as far as the margin is not yet there. -/
theorem write_of_ne {w : Writer} {text : String} (hSink : w.sink.capacity? = none) (hText : text ≠ "") :
    write text w = .ok () ((w.add (w.lineMargin ++ text)).start false) := by
  have hFull : ¬ text.isEmpty = true := fun h => hText (String.isEmpty_iff.mp h)
  by_cases hStart : w.atLineStart = true
  -- at the start of a line
  · rw [write_eq ⟨hStart, hSink⟩ hFull, Writer.lineMargin, if_pos hStart]
  -- inside of a line
  · have hGet : (get : Writing Writer) w = .ok w w := rfl
    have hMargin : margin w = .ok () w := by
      rw [margin, run_bind hGet, if_neg hStart]
      rfl
    -- inside of a line the writer stays inside of it
    have hInside : w.start false = w := by
      rw [Writer.start, ← Bool.eq_false_iff.mpr hStart]
    rw [write, if_neg hFull, run_bind hMargin, put_eq hSink, Writer.lineMargin, if_neg hStart,
      String.empty_append]
    exact congrArg (fun v : Writer => EStateM.Result.ok () (v.add text)) hInside.symm

section Makes

variable {x y : Writing Unit} {blocks held middle later : Nat} {marks more : List (Option Written)}

theorem makes_pure : Makes (pure ()) blocks held held [] := by
  intro width fresh text
  rw [marksText, String.append_empty]
  rfl

/-- Actions one after the other make their marks one after the other. -/
theorem Makes.seq (hx : Makes x blocks held middle marks) (hy : Makes y blocks middle later more) :
    Makes (do x; y) blocks held later (marks ++ more) := by
  intro width fresh text
  rw [run_bind (hx width fresh text), hy, freshAfter_append, marksText_append, String.append_assoc]

/-- Writing a text makes one mark, be the text empty or not. -/
theorem makes_write (text : String) : Makes (write text) blocks held held [some ⟨blocks + held, text⟩] := by
  intro width fresh before
  by_cases hText : text = ""
  -- an empty text leaves the writer as it is
  · rw [write, if_pos (String.isEmpty_iff.mpr hText), marksText, if_pos hText, marksText, String.append_empty,
      freshAfter, if_pos hText]
    rfl
  · rw [marksText, if_neg hText, marksText, String.append_empty, freshAfter, if_neg hText]
    exact write_of_ne rfl hText

theorem makes_endLine : Makes endLine blocks held held [none] :=
  fun _ _ _ => endLine_eq rfl

theorem makes_writeLine (text : String) :
    Makes (writeLine text) blocks held held (lineMarks (blocks + held) text) :=
  (makes_write text).seq makes_endLine

theorem makes_writeLines (lines : List String) :
    Makes (writeLines lines) blocks held held (lines.flatMap (lineMarks (blocks + held))) := by
  induction lines with
  | nil => exact makes_pure
  | cons line rest ih => exact (makes_writeLine line).seq ih

theorem makes_docComment (lines : List String) :
    Makes (docComment lines) blocks held held ((docLines lines).flatMap (lineMarks (blocks + held))) := by
  rw [docComment_eq_writeLines]
  exact makes_writeLines (docLines lines)

/-- Taking a guard makes no mark: it is seen in what is written later. -/
theorem makes_takeGuard : Makes takeGuard blocks held (held + 1) [] := by
  intro width fresh text
  rw [marksText, String.append_empty]
  rfl

/-- Returning a guard makes no mark either, whether or not there is one to return. -/
theorem makes_returnGuard (position : Nat) :
    Makes (returnGuard position) blocks held (heldWithout held position) [] := by
  intro width fresh text
  rw [marksText, String.append_empty, heldWithout]
  show EStateM.Result.ok () (if position < held then _ else _) = _
  split
  next hHeld =>
    -- a guard is held, so the level is above the open blocks
    have hLevel : blocks + held - 1 = blocks + (held - 1) := by omega
    simp only [page, hLevel, freshAfter]
  next => rfl

/-- A body is laid out with one block more, and the level behind it counts the guards that it has left. -/
theorem Makes.indented (h : Makes x (blocks + 1) held later marks) :
    Makes (indented x) blocks held later marks := by
  intro width fresh text
  have hIn : { page width blocks held fresh text with level := (page width blocks held fresh text).level + 1 }
      = page width (blocks + 1) held fresh text := by
    -- one block more on the way in, and one less on the way out
    simp only [page, Nat.add_right_comm blocks held 1]
  have hOut : blocks + 1 + later - 1 = blocks + later := by omega
  rw [Layout.indented, hIn, h]
  simp only [page, hOut]

/-- The brace that closes a block stands at the guards that its body has left. -/
theorem Makes.block (header : String) (h : Makes x (blocks + 1) held later marks) :
    Makes (block header x) blocks held later
      (lineMarks (blocks + held) (header ++ " \x7b") ++ (marks ++ lineMarks (blocks + later) "\x7d")) :=
  (makes_writeLine _).seq (h.indented.seq (makes_writeLine _))

end Makes

mutual

/-- On a sink without bound a step makes its marks and leaves its guards. -/
theorem Step.makes_run : ∀ (step : Step) (blocks held : Nat),
    Makes step.run blocks held (step.held held) (step.marks blocks held)
  | .write text, _, _ => makes_write text
  | .line text, _, _ => makes_writeLine text
  | .blank, _, _ => makes_endLine
  | .doc lines, _, _ => makes_docComment lines
  | .indent, _, _ => makes_takeGuard
  | .drop guard, _, _ => makes_returnGuard guard
  | .nested body, blocks, held => (makes_runSteps body (blocks + 1) held).indented
  | .block header body, blocks, held => (makes_runSteps body (blocks + 1) held).block header

theorem makes_runSteps : ∀ (steps : List Step) (blocks held : Nat),
    Makes (runSteps steps) blocks held (stepsHeld held steps) (stepsMarks blocks held steps)
  | [], _, _ => makes_pure
  | step :: rest, blocks, held =>
    (step.makes_run blocks held).seq (makes_runSteps rest blocks (step.held held))

end

/-! ## Texts inside of lines -/

/-- Marks with no end of a line in a text. -/
def InLines (marks : List (Option Written)) : Prop :=
  ∀ written : Written, some written ∈ marks → '\n' ∉ written.text.toList

section InLines

variable {width blocks held : Nat} {written : Written} {row : List Written} {marks more : List (Option Written)}

theorem InLines.append (h : InLines marks) (hMore : InLines more) : InLines (marks ++ more) :=
  fun written hWritten => (List.mem_append.mp hWritten).elim (h written) (hMore written)

theorem inLines_nil : InLines [] := fun _ h => absurd h List.not_mem_nil

/-- A line is inside of lines if its text is. -/
theorem inLines_lineMarks {alive : Nat} {text : String} (h : '\n' ∉ text.toList) :
    InLines (lineMarks alive text) := by
  intro written hWritten
  rcases List.mem_cons.mp hWritten with hText | hEnd
  · rw [Option.some.inj hText]
    exact h
  · exact absurd (List.mem_singleton.mp hEnd) (by simp)

mutual

/-- Where all texts are inside of lines, all marks are. -/
theorem Step.inLines_marks : ∀ (step : Step) (blocks held : Nat),
    (∀ text ∈ step.texts, '\n' ∉ text.toList) → InLines (step.marks blocks held)
  | .write text, _, _, h => fun written hWritten => by
    rw [Option.some.inj (List.mem_singleton.mp hWritten)]
    exact h text List.mem_cons_self
  | .line text, _, _, h => inLines_lineMarks (h text List.mem_cons_self)
  | .blank, _, _, _ => fun _ hWritten => absurd (List.mem_singleton.mp hWritten) (by simp)
  | .doc lines, _, _, h => fun written hWritten => by
    obtain ⟨line, hLine, hMark⟩ := List.mem_flatMap.mp hWritten
    exact inLines_lineMarks (unbroken_docLines h line hLine).oneLine written hMark
  | .indent, _, _, _ | .drop _, _, _, _ => inLines_nil
  | .nested body, blocks, held, h => inLines_stepsMarks body (blocks + 1) held h
  | .block header body, blocks, held, h => by
    obtain ⟨hHeader, hBody⟩ := List.forall_mem_cons.mp h
    -- a brace and a blank behind the header end no line
    have hBrace : '\n' ∉ " \x7b".toList := by decide
    have hOpen : '\n' ∉ (header ++ " \x7b").toList := by
      rw [String.toList_append, List.mem_append]
      exact fun hMem => hMem.elim hHeader hBrace
    exact (inLines_lineMarks hOpen).append
      ((inLines_stepsMarks body (blocks + 1) held hBody).append (inLines_lineMarks (by decide)))

/-- Where all texts of steps are inside of lines, all of their marks are. -/
theorem inLines_stepsMarks : ∀ (steps : List Step) (blocks held : Nat),
    (∀ text ∈ stepsTexts steps, '\n' ∉ text.toList) → InLines (stepsMarks blocks held steps)
  | [], _, _, _ => inLines_nil
  -- the marks of the rest are made for the guards that the first step has left
  | step :: rest, blocks, held, h => by
    obtain ⟨hStep, hRest⟩ := List.forall_mem_append.mp h
    exact (step.inLines_marks blocks held hStep).append
      (inLines_stepsMarks rest blocks (step.held held) hRest)

end

/-- What stands in a row was written by one of the marks. -/
theorem mem_of_mem_rows (hRow : row ∈ rows marks) (hWritten : written ∈ row) : some written ∈ marks := by
  induction marks generalizing row with
  | nil =>
    rw [List.mem_singleton.mp hRow] at hWritten
    exact absurd hWritten List.not_mem_nil
  | cons mark marks ih =>
    cases mark with
    | none =>
      -- the end of a line begins an empty row
      rw [rows_none] at hRow
      rcases List.mem_cons.mp hRow with rfl | hRow
      · exact absurd hWritten List.not_mem_nil
      · exact List.mem_cons_of_mem _ (ih hRow hWritten)
    | some text =>
      -- a text goes to the first row, so the other rows are those of the other marks
      obtain ⟨first, others, hRows⟩ := exists_rows_eq marks
      rw [hRows] at ih
      rw [rows_some hRows] at hRow
      rcases List.mem_cons.mp hRow with rfl | hRow
      · rcases List.mem_cons.mp hWritten with rfl | hWritten
        · exact List.mem_cons_self
        · exact List.mem_cons_of_mem _ (ih List.mem_cons_self hWritten)
      · exact List.mem_cons_of_mem _ (ih (List.mem_cons_of_mem _ hRow) hWritten)

/-- A row is inside of its line if its texts are. -/
theorem newline_not_mem_rowText (h : ∀ written ∈ row, '\n' ∉ written.text.toList) :
    '\n' ∉ (rowText width row).toList := by
  -- no text has an end of a line in it, and a margin has none either
  have hTexts : '\n' ∉ (String.join (row.map Written.text)).toList := by
    rw [String.toList_join, List.mem_flatMap]
    rintro ⟨text, hText, hMem⟩
    obtain ⟨written, hWritten, rfl⟩ := List.mem_map.mp hText
    exact h written hWritten hMem
  rw [rowText, rowMargin]
  cases row.find? (·.text ≠ "") with
  | none =>
    rw [Option.elim_none, String.empty_append]
    exact hTexts
  | some first => exact newline_not_mem_margin hTexts width first.alive

/-- The lines of a text of rows are the texts of the rows. -/
theorem splitOn_rows (h : InLines marks) :
    ("\n".intercalate ((rows marks).map (rowText width))).toList.splitOn '\n'
      = (rows marks).map fun row => (rowText width row).toList := by
  have hEnd : "\n".toList = ['\n'] := rfl
  -- there is at least one row, so joining rows and splitting lines are inverse
  have hRows : (rows marks).map (String.toList ∘ rowText width) ≠ [] := by
    obtain ⟨row, others, hRows⟩ := exists_rows_eq marks
    rw [hRows]
    exact List.cons_ne_nil _ _
  rw [String.toList_intercalate, hEnd, List.map_map]
  refine List.splitOn_intercalate '\n' (fun line hLine => ?_) hRows
  obtain ⟨row, hRow, rfl⟩ := List.mem_map.mp hLine
  exact newline_not_mem_rowText fun written hWritten => h written (mem_of_mem_rows hRow hWritten)

end InLines

/-! ## Laid out rows -/

/-- On a sink without bound, a text may be written in two parts. -/
theorem write_write {w : Writer} (hSink : w.sink.capacity? = none) (a b : String) :
    (write a >>= fun _ => write b) w = write (a ++ b) w := by
  have hEmpty : ∀ v : Writer, write "" v = .ok () v := fun _ => rfl
  by_cases hA : a = ""
  -- of an empty text nothing is written, so there is one part or the other
  · rw [hA, run_bind (hEmpty w), String.empty_append]
  by_cases hB : b = ""
  · rw [hB, run_bind (write_of_ne hSink hA), String.append_empty, write_of_ne hSink hA]
    rfl
  · have hBoth : a ++ b ≠ "" := fun h => hA (String.append_eq_empty_iff.mp h).1
    have hBehind : ((w.add (w.lineMargin ++ a)).start false).sink.capacity? = none := hSink
    -- behind the first part there is no margin left to write
    have hMargin : ((w.add (w.lineMargin ++ a)).start false).lineMargin ++ b = b := String.empty_append
    have hAdd : w.add (w.lineMargin ++ (a ++ b)) = (w.add (w.lineMargin ++ a)).add b := by
      rw [Writer.add_add, String.append_assoc]
    rw [run_bind (write_of_ne hSink hA), write_of_ne hBehind hB, hMargin, write_of_ne hSink hBoth, hAdd]
    rfl

/-- **Parts.** Steps cannot tell whether a text was written in two parts. -/
theorem run_write_write {w : Writer} (hSink : w.sink.capacity? = none) (a b : String) (rest : List Step) :
    runSteps (.write a :: .write b :: rest) w = runSteps (.write (a ++ b) :: rest) w := by
  have hParts : runSteps (.write a :: .write b :: rest)
      = (write a >>= fun _ => write b) >>= fun _ => runSteps rest := (bind_assoc _ _ _).symm
  rw [hParts]
  show EStateM.bind _ _ w = EStateM.bind _ _ w
  rw [EStateM.bind, EStateM.bind, write_write hSink]
  rfl

/-- What steps have come to in a writer that they have been carried out on. -/
structure LaidOut (width : Nat) (steps : List Step) (w : Writer) : Prop where
  /-- The rows, with the end of a line between them. -/
  text : w.sink.text = "\n".intercalate ((rows (stepsMarks 0 0 steps)).map (rowText width))
  /-- The rows are the lines of the text, if no line ends inside of a text. -/
  lines : (∀ text ∈ stepsTexts steps, '\n' ∉ text.toList) →
    w.sink.text.toList.splitOn '\n'
      = (rows (stepsMarks 0 0 steps)).map fun row => (rowText width row).toList
  /-- The guards that have been left behind. -/
  guards : w.guards = stepsHeld 0 steps

/-- **Layout.** With any width, steps lay out their rows, each at the margin for the blocks and guards that
are alive when the first text that is not empty is written. In all states on the way the level counts the
open blocks and the held guards, and a text may be split in any way. -/
theorem runSteps_rows (width : Nat) (steps : List Step) :
    (∃ w, runSteps steps { width } = .ok () w ∧ LaidOut width steps w)
      ∧ (∀ blocks met, Meets 0 { width } steps blocks met → met.level = blocks + met.guards)
      ∧ ∀ (a b : String) (rest : List Step) (w : Writer), w.sink.capacity? = none →
        runSteps (.write a :: .write b :: rest) w = runSteps (.write (a ++ b) :: rest) w := by
  -- from an empty page on, with no block open and no guard held
  have hRun := makes_runSteps steps 0 0 width true ""
  rw [String.empty_append, marksText_eq_rows] at hRun
  have hCounted : Writer.Counted { width } 0 := rfl
  refine ⟨⟨_, hRun, rfl, fun hTexts => ?_, rfl⟩, fun _ _ hMet => hMet.counted hCounted,
    fun a b rest _ hSink => run_write_write hSink a b rest⟩
  exact splitOn_rows (inLines_stepsMarks steps 0 0 hTexts)

/-- A guard that a body leaves behind is alive where the body is closed, until it is returned. -/
example : (rows (stepsMarks 0 0 [.block "a" [.indent, .line "b"], .drop 0, .write "c"])).map (rowText 2)
    = ["a \x7b", "    b", "  \x7d", "c"] := by decide

end AbiBindings.Layout
