import AbiBindings.Json.SyntaxError

/-!
# Json — a cursor in a text

Reading goes through the bytes of a text from left to right. A `Reading` sees the bytes, moves the
offset forward and may stop. It can stop at the offset itself, behind the bytes it has taken, or one
byte further, behind the byte that it only looked at.
-/

namespace AbiBindings.Json

/-- Why and at which offset reading stopped. -/
structure Stop where
  cause : SyntaxCause
  offset : Nat

/-- A step of reading: bytes and offset in, a result and the new offset out. -/
abbrev Reading := ReaderT ByteArray (StateT Nat (Except Stop))

/-- The next byte, which stays where it is. -/
def peek? : Reading (Option UInt8) := do
  return (← read)[(← get)]?

/-- Move behind the next byte. -/
def advance : Reading Unit := modify (· + 1)

/-- Take the next byte. -/
def take? : Reading (Option UInt8) := do
  let byte? ← peek?
  if byte?.isSome then advance
  return byte?

/-- How many bytes are left. -/
def remaining : Reading Nat := do
  return (← read).size - (← get)

/-- Stop behind what has been taken. -/
def stop {α : Type} (cause : SyntaxCause) : Reading α := do
  throw ⟨cause, ← get⟩

/-- Stop behind the byte that was looked at, if there is one. -/
def stopAtPeek {α : Type} (cause : SyntaxCause) : Reading α := do
  throw ⟨cause, min (← read).size ((← get) + 1)⟩

/-- Whether `byte` is a blank, a line feed, a tab or a carriage return. -/
def isBlank (byte : UInt8) : Bool := byte == 32 || byte == 10 || byte == 9 || byte == 13

/-- Whether `byte` is a decimal digit. -/
def isDigit (byte : UInt8) : Bool := 48 ≤ byte && byte ≤ 57

/-- Where the bytes for which `holds` is true end, from `offset` on, of at most `fuel` bytes. -/
def runEnd (holds : UInt8 → Bool) (bytes : ByteArray) (offset : Nat) : Nat → Nat
  | 0 => offset
  | fuel + 1 =>
    match bytes[offset]? with
    | some byte => if holds byte then runEnd holds bytes (offset + 1) fuel else offset
    | none => offset

/-- Pass over bytes for which `skips` is true; how many there are. -/
def skipWhile (skips : UInt8 → Bool) : Reading Nat := do
  let bytes ← read
  let start ← get
  set (runEnd skips bytes start (bytes.size - start))
  return (← get) - start

/-- The next byte that is not blank. -/
def peekPastBlanks? : Reading (Option UInt8) := do
  let _ ← skipWhile isBlank
  peek?

end AbiBindings.Json
