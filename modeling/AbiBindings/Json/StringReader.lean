import AbiBindings.Json.Cursor

/-!
# Json — reading strings

A string is read in stretches that stand for themselves, with the escapes between them decoded. Once
the string is closed, the bytes that come of this must be UTF-8. A character outside the basic plane is escaped as two surrogates, which must
come as a pair.
-/

namespace AbiBindings.Json

/-- The value of a hexadecimal digit. -/
def hexValue? (byte : UInt8) : Option Nat :=
  if 48 ≤ byte && byte ≤ 57 then some (byte.toNat - 48)
  else if 65 ≤ byte && byte ≤ 70 then some (byte.toNat - 55)
  else if 97 ≤ byte && byte ≤ 102 then some (byte.toNat - 87)
  else none

/-- Read four hexadecimal digits. -/
def readHex4 : Reading Nat := do
  let bytes ← read
  let start ← get
  if start + 4 ≤ bytes.size then
    set (start + 4)
    match [0, 1, 2, 3].mapM fun i => bytes[start + i]?.bind hexValue? with
    | some values => return values.foldl (fun n v => n * 16 + v) 0
    | none => stop .invalidEscape
  else
    set bytes.size
    stop .eofInString

/-- Take the next byte of a string, which must be there. -/
def takeInString : Reading UInt8 := do
  match ← take? with
  | some byte => return byte
  | none => stop .eofInString

/-- Read the code point of an escape from behind its `u`. -/
def readUnicode : Reading Char := do
  let first ← readHex4
  if 0xDC00 ≤ first && first ≤ 0xDFFF then stop .loneSurrogate
  if first < 0xD800 || 0xDBFF < first then return Char.ofNat first
  -- the second half is an escape of its own: a backslash, `u`, four digits
  unless (← takeInString) == 92 do stop .unfinishedSurrogate
  unless (← takeInString) == 117 do stop .unfinishedSurrogate
  let second ← readHex4
  unless 0xDC00 ≤ second && second ≤ 0xDFFF do stop .loneSurrogate
  return Char.ofNat (0x10000 + (first - 0xD800) * 0x400 + (second - 0xDC00))

/-- Read an escape from behind its backslash. -/
def readEscape : Reading Char := do
  match ← takeInString with
  | 34 => return '"'
  | 92 => return '\\'
  | 47 => return '/'
  | 98 => return '\x08'
  | 102 => return '\x0c'
  | 110 => return '\n'
  | 114 => return '\r'
  | 116 => return '\t'
  | 117 => readUnicode
  | _ => stop .invalidEscape

/-- Whether `byte` stands for itself in a string: no quote, backslash or control. -/
def isPlain (byte : UInt8) : Bool := 32 ≤ byte && byte != 34 && byte != 92

/-- Where the UTF-8 that starts at `offset` breaks off. Every character takes at least one byte. -/
def utf8End (bytes : ByteArray) (offset : Nat) : Nat → Nat
  | 0 => offset
  | fuel + 1 =>
    match bytes.utf8DecodeChar? offset with
    | some c => utf8End bytes (offset + c.utf8Size) fuel
    | none => offset

/-- The text of a string that has been read, closing quote included, from its bytes with the escapes
decoded. If they are no UTF-8, the position is found by counting back from the end of the string:
past the bytes from the first bad one on. -/
def textOfDecoded (decoded : ByteArray) : Reading String := do
  match String.fromUTF8? decoded with
  | some text => return text
  | none =>
    -- an escape is longer than its character, so escapes behind the bad byte move the position on
    let rest := decoded.size - utf8End decoded 0 decoded.size
    throw ⟨.invalidCodePoint, (← get) - rest⟩

/-- Read the rest of a string, of which `decoded` are the bytes so far. Each round reads up to an
escape or the closing quote and takes at least one byte, so `fuel` does not run out before the text
does. -/
def readStretches (decoded : ByteArray) : Nat → Reading String
  | 0 => stop .eofInString
  | fuel + 1 => do
    let bytes ← read
    let start ← get
    let _ ← skipWhile isPlain
    match ← peek? with
    | none => stop .eofInString
    | some byte =>
      if byte < 32 then
        advance
        stop .controlCharacter
      -- the stretch is over: what stands next is a quote or a backslash
      let decoded := decoded ++ bytes.extract start (← get)
      advance
      if byte == 34 then textOfDecoded decoded
      else
        let c ← readEscape
        readStretches (decoded ++ c.toString.toUTF8) fuel

/-- Read a string from its opening quote on. -/
def readString : Reading String := do
  advance
  readStretches ByteArray.empty ((← remaining) + 1)

end AbiBindings.Json
