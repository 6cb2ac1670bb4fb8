import AbiBindings.Layout.Writer

/-!
# Layout — steps

A `Step` is a piece of laid out text as data: what a program prints is a list of steps, and
`render` runs such a list on a fresh writer. A single step can also be carried out on a writer that
is kept, which tells whether it succeeded.
-/

namespace AbiBindings.Layout

/-- One thing a writer can be told to do. -/
inductive Step where
  | write (text : String)
  | line (text : String)
  | blank
  | doc (lines : List String)
  | indent
  | drop (guard : Nat)
  | nested (body : List Step)
  | block (header : String) (body : List Step)

mutual

/-- Carry out a step. -/
def Step.run : Step → Writing Unit
  | .write text => Layout.write text
  | .line text => writeLine text
  | .blank => endLine
  | .doc lines => docComment lines
  | .indent => takeGuard
  | .drop guard => returnGuard guard
  | .nested body => indented (runSteps body)
  | .block header body => Layout.block header (runSteps body)

/-- Carry out steps in order, up to the first that fails. -/
def runSteps : List Step → Writing Unit
  | [] => pure ()
  | step :: rest => do
    step.run
    runSteps rest

end

/-- Carry out a step on `w`: whether it succeeded, and the writer afterwards. -/
def Writer.perform (w : Writer) (step : Step) : Bool × Writer :=
  match step.run w with
  | .ok _ w => (true, w)
  | .error _ w => (false, w)

/-- The text of `steps` with `width` blanks per level, in a sink without bound. -/
def render (width : Nat) (steps : List Step) : String :=
  match runSteps steps { width } with
  | .ok _ w | .error _ w => w.sink.text

end AbiBindings.Layout
