import AbiBindings.Layout.Step
import Mathlib.Tactic.Common

/-!
# Layout — laid out text as a function of its steps

Steps that write whole lines leave a writer at the start of a line with the level it had. In a sink
without bound nothing fails, so all that such steps do is add text, and which text they add depends
on the width, the level and the steps alone.

* `lineText`, `docText`, `Step.text`, `stepsText` — the text that is added;
* `Step.linewise` — the steps that write whole lines;
* `runSteps_eq` — carrying out steps adds their text and changes nothing else;
* `render_eq` — so a rendering is that text.
-/

namespace AbiBindings.Layout

/-! ## Text by line -/

/-- The margin of a line. -/
def marginText (width level : Nat) : String := String.ofList (List.replicate (level * width) ' ')

/-- A line. An empty line has no margin. -/
def lineText (width level : Nat) (text : String) : String :=
  (if text.isEmpty then "" else marginText width level ++ text) ++ "\n"

/-- Several lines of the same level. -/
def linesText (width level : Nat) : List String → String
  | [] => ""
  | line :: rest => lineText width level line ++ linesText width level rest

/-- The lines that a comment for tools is written on. -/
def docLines : List String → List String
  | [] => []
  | [line] => ["/** " ++ commentText line ++ " */"]
  | lines => "/**" :: (lines.map starredLine ++ [" */"])

/-- A comment for tools. -/
def docText (width level : Nat) : List String → String
  | [] => ""
  | [line] => lineText width level ("/** " ++ commentText line ++ " */")
  | lines =>
    lineText width level "/**"
      ++ (linesText width level (lines.map starredLine) ++ lineText width level " */")

theorem linesText_append (width level : Nat) (lines others : List String) :
    linesText width level (lines ++ others)
      = linesText width level lines ++ linesText width level others := by
  induction lines with
  | nil => exact String.empty_append.symm
  | cons line rest ih => rw [List.cons_append, linesText, linesText, ih, String.append_assoc]

/-- The text of a comment is that of its lines. -/
theorem docText_eq (width level : Nat) (lines : List String) :
    docText width level lines = linesText width level (docLines lines) := by
  have hLast : ∀ line, linesText width level [line] = lineText width level line := fun _ =>
    String.append_empty
  match lines with
  | [] => rfl
  | [line] => exact (hLast _).symm
  -- with two lines or more, the comment has a line of its own for its beginning and its end
  | line :: other :: rest =>
    rw [docText, docLines, linesText, linesText_append, hLast]
    all_goals simp

mutual

/-- The text of a step that writes whole lines. -/
def Step.text (width level : Nat) : Step → String
  | .line text => lineText width level text
  | .blank => "\n"
  | .doc lines => docText width level lines
  | .nested body => stepsText width (level + 1) body
  | .block header body =>
    lineText width level (header ++ " \x7b")
      ++ (stepsText width (level + 1) body ++ lineText width level "\x7d")
  | .write _ | .indent | .drop _ => ""

/-- The text of several steps. -/
def stepsText (width level : Nat) : List Step → String
  | [] => ""
  | step :: rest => step.text width level ++ stepsText width level rest

end

theorem stepsText_append (width level : Nat) (steps others : List Step) :
    stepsText width level (steps ++ others)
      = stepsText width level steps ++ stepsText width level others := by
  induction steps with
  | nil => exact String.empty_append.symm
  | cons step rest ih => rw [List.cons_append, stepsText, stepsText, ih, String.append_assoc]

mutual

/-- Whether a step writes whole lines, and leaves the level to the steps around it. -/
def Step.linewise : Step → Bool
  | .line _ | .blank | .doc _ => true
  | .nested body | .block _ body => linewiseSteps body
  | .write _ | .indent | .drop _ => false

/-- Whether each of several steps does. -/
def linewiseSteps : List Step → Bool
  | [] => true
  | step :: rest => step.linewise && linewiseSteps rest

end

theorem linewiseSteps_iff {steps : List Step} :
    linewiseSteps steps = true ↔ ∀ step ∈ steps, step.linewise = true := by
  induction steps with
  | nil => simp [linewiseSteps]
  | cons step rest ih => rw [linewiseSteps, Bool.and_eq_true, List.forall_mem_cons, ih]

/-! ## Writers at the start of a line -/

/-- A writer at the start of a line, on a sink without bound. -/
structure Writer.Ready (w : Writer) : Prop where
  atLineStart : w.atLineStart = true
  unbounded : w.sink.capacity? = none

/-- The writer with more text in its sink. -/
def Writer.add (w : Writer) (text : String) : Writer :=
  { w with sink := { w.sink with text := w.sink.text ++ text } }

/-- The writer at the start of a line, or inside a line. -/
def Writer.start (w : Writer) (atLineStart : Bool) : Writer := { w with atLineStart }

/-- The writer one level deeper. -/
def Writer.deeper (w : Writer) : Writer := { w with level := w.level + 1 }

section Add

variable {w : Writer} {a b : String}

theorem Writer.add_empty : w.add "" = w := by
  rw [Writer.add, String.append_empty]

theorem Writer.add_add : (w.add a).add b = w.add (a ++ b) := by
  simp only [Writer.add, String.append_assoc]

theorem Writer.start_of_ready (h : w.Ready) : w.start true = w := by
  rw [Writer.start, ← h.atLineStart]

theorem Writer.Ready.deeper (h : w.Ready) : w.deeper.Ready :=
  ⟨h.atLineStart, h.unbounded⟩

/-- A writer stays ready when text is added, as far as it is put at the start of a line again. -/
theorem Writer.Ready.add (h : w.Ready) (text : String) : (w.add text).Ready :=
  ⟨h.atLineStart, h.unbounded⟩

end Add

section Writing

variable {w : Writer}

/-- Without bound there is room for everything. -/
theorem put_eq (hSink : w.sink.capacity? = none) (chunk : String) :
    put chunk w = .ok () (w.add chunk) := by
  have hRoom : w.sink.hasRoom chunk = true := by
    rw [Sink.hasRoom, hSink]
  rw [put, if_pos hRoom]
  rfl

/-- A margin is put together from one indentation for each level. -/
theorem indentation_append (width count : Nat) :
    indentation width ++ marginText width count = marginText width (count + 1) := by
  rw [indentation, marginText, marginText, ← String.ofList_append, List.replicate_append_replicate,
    Nat.succ_mul, Nat.add_comm]

/-- Behind a step that succeeds, the run goes on from the writer that it has left. -/
theorem run_bind {α β : Type} {x : Writing α} {f : α → Writing β} {a : α} {w' : Writer}
    (h : x w = .ok a w') : (x >>= f) w = f a w' := by
  show EStateM.bind x f w = f a w'
  rw [EStateM.bind, h]

/-- As many indentations as there are levels come to the margin. -/
theorem putTimes_eq (hSink : w.sink.capacity? = none) (width count : Nat) :
    putTimes (indentation width) count w = .ok () (w.add (marginText width count)) := by
  induction count generalizing w with
  | zero =>
    rw [marginText, Nat.zero_mul]
    exact congrArg (EStateM.Result.ok ()) Writer.add_empty.symm
  | succ count ih =>
    rw [putTimes, run_bind (put_eq hSink (indentation width)), ← indentation_append,
      ← Writer.add_add]
    exact ih hSink

/-- At the start of a line the margin is written, and the line has begun. -/
theorem margin_eq (h : w.Ready) :
    margin w = .ok () ((w.add (marginText w.width w.level)).start false) := by
  have hGet : (get : Writing Writer) w = .ok w w := rfl
  rw [margin, run_bind hGet, if_pos h.atLineStart, run_bind (putTimes_eq h.unbounded _ _)]
  rfl

theorem endLine_eq (hSink : w.sink.capacity? = none) :
    endLine w = .ok () ((w.add "\n").start true) := by
  rw [endLine, run_bind (put_eq hSink "\n")]
  rfl

/-- At the start of a line, text is written behind the margin. -/
theorem write_eq (h : w.Ready) {text : String} (hText : ¬ text.isEmpty = true) :
    write text w = .ok () ((w.add (marginText w.width w.level ++ text)).start false) := by
  have hSink : ((w.add (marginText w.width w.level)).start false).sink.capacity? = none :=
    h.unbounded
  rw [write, if_neg hText, run_bind (margin_eq h), put_eq hSink, ← Writer.add_add]
  rfl

/-- A whole line leads from the start of a line to the start of the next. -/
theorem writeLine_eq (h : w.Ready) (text : String) :
    writeLine text w = .ok () (w.add (lineText w.width w.level text)) := by
  -- an empty text writes no margin
  by_cases hText : text.isEmpty = true
  · have hWrite : write text w = .ok () w := by
      rw [write, if_pos hText]
      rfl
    rw [writeLine, run_bind hWrite, endLine_eq h.unbounded, lineText, if_pos hText,
      -- the line has begun in between, so the end of the line is written by a writer that is not ready
      String.empty_append, Writer.start_of_ready (h.add _)]
  · have hSink : ((w.add (marginText w.width w.level ++ text)).start false).sink.capacity? = none :=
      h.unbounded
    have hLine : w.add (lineText w.width w.level text)
        = (w.add (marginText w.width w.level ++ text)).add "\n" := by
      rw [lineText, if_neg hText, Writer.add_add]
    rw [writeLine, run_bind (write_eq h hText), endLine_eq hSink, hLine]
    exact congrArg (EStateM.Result.ok ()) (Writer.start_of_ready ((h.add _).add _))

theorem writeLines_eq (h : w.Ready) (lines : List String) :
    writeLines lines w = .ok () (w.add (linesText w.width w.level lines)) := by
  induction lines generalizing w with
  | nil => exact congrArg (EStateM.Result.ok ()) Writer.add_empty.symm
  | cons line rest ih =>
    rw [writeLines, run_bind (writeLine_eq h line), ih (h.add _), linesText, ← Writer.add_add]
    rfl

theorem writeLines_append (lines others : List String) :
    writeLines (lines ++ others) = (do writeLines lines; writeLines others) := by
  induction lines with
  | nil => rw [List.nil_append, writeLines, pure_bind]
  | cons line rest ih => rw [List.cons_append, writeLines, writeLines, ih, bind_assoc]

/-- A comment for tools is written line by line. -/
theorem docComment_eq_writeLines (lines : List String) :
    docComment lines = writeLines (docLines lines) := by
  -- the last of several lines is written without a step behind it
  have hLast : ∀ line, writeLines [line] = writeLine line := fun line => bind_pure_unit
  match lines with
  | [] => rfl
  | [line] => exact (hLast _).symm
  | line :: other :: rest =>
    rw [docComment, docLines, writeLines, writeLines_append, hLast]
    all_goals simp

theorem docComment_eq (h : w.Ready) (lines : List String) :
    docComment lines w = .ok () (w.add (docText w.width w.level lines)) := by
  rw [docComment_eq_writeLines, docText_eq, writeLines_eq h]

/-! ## Steps -/

/-- A body one level deeper. -/
theorem indented_eq {body : Writing Unit} {text : String}
    (hBody : body w.deeper = .ok () (w.deeper.add text)) : indented body w = .ok () (w.add text) := by
  -- the level is raised for the body and then lowered again
  have hDeeper : { w with level := w.level + 1 } = w.deeper := rfl
  rw [indented, hDeeper, hBody]
  rfl

end Writing

mutual

/-- Carrying out a step that writes whole lines adds its text. -/
theorem Step.run_eq : ∀ {step : Step} {w : Writer}, w.Ready → step.linewise = true →
    step.run w = .ok () (w.add (step.text w.width w.level))
  | .line text, w, h, _ => writeLine_eq h text
  | .blank, w, h, _ => by
    -- an empty line has no margin
    rw [Step.run, endLine_eq h.unbounded, Step.text, Writer.start_of_ready (h.add _)]
  | .doc lines, w, h, _ => docComment_eq h lines
  | .nested body, w, h, hLinewise => by
    rw [Step.run, Step.text]
    exact indented_eq (runSteps_eq h.deeper hLinewise)
  | .block header body, w, h, hLinewise => by
    -- behind its header a block is where it was before, one level further in
    have hHeader := h.add (lineText w.width w.level (header ++ " \x7b"))
    rw [Step.run, block, run_bind (writeLine_eq h _),
      run_bind (indented_eq (runSteps_eq hHeader.deeper hLinewise)), writeLine_eq (hHeader.add _),
      Step.text, ← Writer.add_add, ← Writer.add_add]
    rfl

/-- Carrying out such steps adds their text. -/
theorem runSteps_eq : ∀ {steps : List Step} {w : Writer}, w.Ready → linewiseSteps steps = true →
    runSteps steps w = .ok () (w.add (stepsText w.width w.level steps))
  | [], w, _, _ => congrArg (EStateM.Result.ok ()) Writer.add_empty.symm
  | step :: rest, w, h, hLinewise => by
    rw [linewiseSteps, Bool.and_eq_true] at hLinewise
    -- the rest starts where the first step has ended, at the start of a line
    rw [runSteps, run_bind (Step.run_eq h hLinewise.1), runSteps_eq (h.add _) hLinewise.2, stepsText,
      ← Writer.add_add]
    rfl

end

/-- **Rendering.** The text of steps that write whole lines is theirs alone. -/
theorem render_eq {width : Nat} {steps : List Step} (h : linewiseSteps steps = true) :
    render width steps = stepsText width 0 steps := by
  have hReady : Writer.Ready { width } := ⟨rfl, rfl⟩
  rw [render, runSteps_eq hReady h]
  exact String.empty_append

end AbiBindings.Layout
