/-!
# Layout — a writer that indents

A `Writer` puts text into a `Sink`, chunk by chunk. It knows how deep the current line is indented
and whether anything stands on that line yet: the first text on a line is preceded by the margin,
and a line without text stays empty, margin included.

A sink may have a capacity. A chunk that does not fit is refused as a whole, the operation that put
it fails, and what was put before stays.

* `write`, `writeLine`, `endLine` — text, text that ends its line, the end of a line;
* `docComment` — a comment for tools, on one line or starred;
* `takeGuard`, `returnGuard` — one level of indentation for as long as a guard is held;
* `indented`, `block` — a body one level deeper, and such a body between braces.
-/

namespace AbiBindings.Layout

/-! ## Sinks and writers -/

/-- Text under construction and the number of bytes it may hold, if there is a bound. -/
structure Sink where
  text : String := ""
  capacity? : Option Nat := none

/-- Whether `chunk` still fits. -/
def Sink.hasRoom (sink : Sink) (chunk : String) : Bool :=
  match sink.capacity? with
  | none => true
  | some capacity => sink.text.utf8ByteSize + chunk.utf8ByteSize ≤ capacity

/-- A sink with its layout state. -/
structure Writer where
  /-- Blanks per level of indentation. -/
  width : Nat
  /-- Levels of indentation in force. -/
  level : Nat := 0
  /-- Guards that have been taken and not returned. -/
  guards : Nat := 0
  /-- Whether nothing stands on the current line. -/
  atLineStart : Bool := true
  sink : Sink := {}

/-- The one way in which writing fails. -/
inductive WriteError where
  | sinkFull

/-- An action on a writer. An action that fails keeps what it did up to there. -/
abbrev Writing := EStateM WriteError Writer

/-! ## Text and lines -/

/-- Put one chunk into the sink. -/
def put (chunk : String) : Writing Unit := fun w =>
  if w.sink.hasRoom chunk then
    .ok () { w with sink := { w.sink with text := w.sink.text ++ chunk } }
  else .error .sinkFull w

/-- Put the same chunk several times. -/
def putTimes (chunk : String) : Nat → Writing Unit
  | 0 => pure ()
  | n + 1 => do
    put chunk
    putTimes chunk n

/-- The blanks of one level of indentation. -/
def indentation (width : Nat) : String := String.ofList (List.replicate width ' ')

/-- Put the margin of the current line, unless something stands on it already. -/
def margin : Writing Unit := do
  let w ← get
  if w.atLineStart then
    putTimes (indentation w.width) w.level
    modify fun w => { w with atLineStart := false }

/-- Write text inside a line. Empty text leaves an empty line empty. -/
def write (text : String) : Writing Unit := do
  unless text.isEmpty do
    margin
    put text

/-- End the current line. -/
def endLine : Writing Unit := do
  put "\n"
  modify fun w => { w with atLineStart := true }

/-- Write text and end its line. -/
def writeLine (text : String) : Writing Unit := do
  write text
  endLine

/-! ## Indentation -/

/-- Indent one level deeper until the guard is returned. -/
def takeGuard : Writing Unit :=
  modify fun w => { w with level := w.level + 1, guards := w.guards + 1 }

/-- Return the guard at `position` among those held; without such a guard nothing happens. -/
def returnGuard (position : Nat) : Writing Unit :=
  modify fun w =>
    if position < w.guards then { w with level := w.level - 1, guards := w.guards - 1 } else w

/-- Run `body` one level deeper. The level is given back even if `body` fails. -/
def indented (body : Writing Unit) : Writing Unit := fun w =>
  match body { w with level := w.level + 1 } with
  | .ok _ w => .ok () { w with level := w.level - 1 }
  | .error e w => .error e { w with level := w.level - 1 }

/-- A header with an opening brace, `body` one level deeper, and the closing brace. -/
def block (header : String) (body : Writing Unit) : Writing Unit := do
  writeLine (header ++ " \x7b")
  indented body
  writeLine "\x7d"

/-! ## Comments -/

/-- A comment's text with a backslash inside every `*/`, so that it cannot end the comment. -/
def guardComment : List Char → List Char
  | '*' :: '/' :: rest => '*' :: '\\' :: '/' :: guardComment rest
  | c :: rest => c :: guardComment rest
  | [] => []

/-- A line of text as it stands inside a comment. -/
def commentText (line : String) : String := String.ofList (guardComment line.toList)

/-- The lines of a starred comment, its opening and closing apart. -/
def starredLine (line : String) : String := if line.isEmpty then " *" else " * " ++ commentText line

/-- Write several lines, one after the other. -/
def writeLines : List String → Writing Unit
  | [] => pure ()
  | line :: rest => do
    writeLine line
    writeLines rest

/-- A comment for tools: on one line if it has one, starred if it has more. -/
def docComment : List String → Writing Unit
  | [] => pure ()
  | [line] => writeLine ("/** " ++ commentText line ++ " */")
  | lines => do
    writeLine "/**"
    writeLines (lines.map starredLine)
    writeLine " */"

end AbiBindings.Layout
