import AbiBindings.Json.NumberReader
import AbiBindings.Json.StringReader

/-!
# Json — reading documents

`Json.parse` reads a whole text. A repeated key keeps its first place and takes the last value, and
arrays and objects nest no deeper than a limit.
-/

namespace AbiBindings.Json

/-- Take the bytes of a literal from behind its first one. -/
def readLiteral : List UInt8 → Reading Unit
  | [] => return
  | expected :: rest => do
    match ← take? with
    | none => stop .eofInValue
    | some byte => if byte == expected then readLiteral rest else stop .expectedLiteral

/-- Read the key of a member, the colon behind it included. -/
def readKey : Reading String := do
  let key ← readString
  match ← peekPastBlanks? with
  -- the colon
  | some 58 =>
    advance
    return key
  | some _ => stopAtPeek .expectedColon
  | none => stopAtPeek .eofInObject

/-- Whether another item follows; the bracket that ends the array is taken. -/
def moreItems (first : Bool) : Reading Bool := do
  match ← peekPastBlanks? with
  -- the closing bracket
  | some 93 =>
    advance
    return false
  -- a comma
  | some 44 =>
    if first then return true
    advance
    match ← peekPastBlanks? with
    -- the closing bracket
    | some 93 => stopAtPeek .trailingComma
    | some _ => return true
    | none => stopAtPeek .eofInValue
  | some _ => if first then return true else stopAtPeek .expectedArrayCommaOrEnd
  | none => stopAtPeek .eofInArray

/-- Whether another member follows; the brace that ends the object is taken. -/
def moreMembers (first : Bool) : Reading Bool := do
  match ← peekPastBlanks? with
  -- the closing brace
  | some 125 =>
    advance
    return false
  -- a quote
  | some 34 => if first then return true else stopAtPeek .expectedObjectCommaOrEnd
  -- a comma
  | some 44 =>
    if first then stopAtPeek .keyMustBeString
    advance
    match ← peekPastBlanks? with
    -- a quote
    | some 34 => return true
    -- the closing brace
    | some 125 => stopAtPeek .trailingComma
    | some _ => stopAtPeek .keyMustBeString
    | none => stopAtPeek .eofInValue
  | some _ => stopAtPeek (if first then .keyMustBeString else .expectedObjectCommaOrEnd)
  | none => stopAtPeek .eofInObject

mutual

/-- Read a value in which at most `depth` arrays and objects may be open. Each call takes a byte or
is followed by one that does, so `fuel` does not run out before the text does. -/
def readValue (depth : Nat) : Nat → Reading Json
  | 0 => stopAtPeek .eofInValue
  | fuel + 1 => do
    match ← peekPastBlanks? with
    | none => stopAtPeek .eofInValue
    -- `null`
    | some 110 =>
      advance
      readLiteral [117, 108, 108]
      return .null
    -- `true`
    | some 116 =>
      advance
      readLiteral [114, 117, 101]
      return .bool true
    -- `false`
    | some 102 =>
      advance
      readLiteral [97, 108, 115, 101]
      return .bool false
    -- a quote
    | some 34 => return .string (← readString)
    -- an opening bracket
    | some 91 =>
      if depth = 0 then stopAtPeek .tooDeep
      advance
      return .array (← readItems (depth - 1) true [] fuel)
    -- an opening brace
    | some 123 =>
      if depth = 0 then stopAtPeek .tooDeep
      advance
      return .object (← readMembers (depth - 1) true [] fuel)
    | some byte =>
      -- a minus sign or a digit
      if byte == 45 || isDigit byte then return .number (← readNumber)
      else stopAtPeek .expectedValue

/-- Read the items of an array behind `done`, the last item first. -/
def readItems (depth : Nat) (first : Bool) (done : List Json) : Nat → Reading (List Json)
  | 0 => stopAtPeek .eofInArray
  | fuel + 1 => do
    if ← moreItems first then
      let item ← readValue depth fuel
      readItems depth false (item :: done) fuel
    else return done.reverse

/-- Read the members of an object behind `done`. -/
def readMembers (depth : Nat) (first : Bool) (done : List (String × Json)) :
    Nat → Reading (List (String × Json))
  | 0 => stopAtPeek .eofInObject
  | fuel + 1 => do
    if ← moreMembers first then
      let key ← readKey
      let value ← readValue depth fuel
      readMembers depth false (insertMember done key value) fuel
    else return done

end

/-- Read a value with nothing but blanks behind it. -/
def readDocument (depth : Nat) : Reading Json := do
  let value ← readValue depth (2 * (← remaining) + 2)
  match ← peekPastBlanks? with
  | some _ => stopAtPeek .trailingCharacters
  | none => return value

/-- How many arrays and objects may be open in a document. -/
def defaultDepth : Nat := 127

/-- The value that the bytes of a text spell, if at most `depth` arrays and objects are open in it. -/
def parseWithin (depth : Nat) (bytes : ByteArray) : Except SyntaxError Json :=
  match (readDocument depth).run bytes |>.run 0 with
  | .ok (value, _) => .ok value
  | .error ⟨cause, offset⟩ =>
    let (line, column) := positionOf bytes offset
    .error ⟨cause, line, column⟩

/-- The value that the bytes of a text spell. -/
def parse (bytes : ByteArray) : Except SyntaxError Json := parseWithin defaultDepth bytes

end AbiBindings.Json
